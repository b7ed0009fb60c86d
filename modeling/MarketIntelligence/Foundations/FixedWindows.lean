import Mathlib.Algebra.Order.BigOperators.Group.List
import Mathlib.Algebra.Order.Ring.Int
import Mathlib.Algebra.Order.Ring.Nat
import Mathlib.Data.List.Pairwise

namespace MarketIntelligence
namespace Foundations
namespace FixedWindows

/-!
# Counting in fixed windows

A counter opens a window at an event, counts in it until it closes, and opens the next one
at the first event from then on.  The windows of a counter are apart from each other, so an
interval of the length of a window meets at most two of them.

The closing instants of all windows are kept beside the counter.  What has been counted lies
in the windows, and each of them holds at most the limit.
-/

structure Window where
  used : Nat
  closes : Int
  deriving DecidableEq, Repr

section Windows

variable (span : Int)

/-- The window that closes at this instant. -/
def Inside (closes time : Int) : Prop := closes - span ≤ time ∧ time < closes

instance (closes time : Int) : Decidable (Inside span closes time) :=
  inferInstanceAs (Decidable (_ ∧ _))

/-- What was counted, against the windows it was counted in: windows do not overlap, each time
lies in one of them, and none holds more than the limit. -/
structure Ledger (limit : Nat) (closings times : List Int) : Prop where
  apart : closings.Pairwise fun closes other => closes + span ≤ other
  covered : forall time, time ∈ times -> exists closes, closes ∈ closings ∧
    Inside span closes time
  bounded : forall closes, closes ∈ closings ->
    times.countP (fun time => Inside span closes time) ≤ limit

variable {span} {limit : Nat} {closings times : List Int}

/-- A selection that is covered by several others counts no more than they do together. -/
theorem countP_le_sum {α β : Type*} {values : List α} {selected : α -> Bool} {covers : List β}
    {inside : β -> α -> Bool}
    (covered : forall value, value ∈ values -> selected value = true ->
      exists cover, cover ∈ covers ∧ inside cover value = true) :
    values.countP selected ≤ (covers.map fun cover => values.countP (inside cover)).sum := by
  induction values with
  | nil => exact Nat.zero_le _
  | cons value rest ih =>
      have others := ih fun next member =>
        covered next (List.mem_cons_of_mem _ member)
      have first : (if selected value then 1 else 0) ≤
          (covers.map fun cover => if inside cover value then 1 else 0).sum := by
        split
        · rename_i chosen
          rcases covered value List.mem_cons_self chosen with ⟨cover, member, holds⟩
          have one : (if inside cover value then 1 else 0) = 1 := if_pos holds
          have listed : 1 ∈ covers.map fun cover => if inside cover value then 1 else 0 :=
            List.mem_map.mpr ⟨cover, member, one⟩
          exact List.single_le_sum (fun _ _ => Nat.zero_le _) 1 listed
        · exact Nat.zero_le _
      have parts : (covers.map fun cover => (value :: rest).countP (inside cover)).sum =
          (covers.map fun cover => rest.countP (inside cover)).sum +
            (covers.map fun cover => if inside cover value then 1 else 0).sum := by
        rw [← List.sum_map_add]
        congr 1
        apply List.map_congr_left
        intro cover _
        exact List.countP_cons
      rw [List.countP_cons, parts]
      exact Nat.add_le_add others first

/-- Windows that are apart and meet an interval of their length are at most two. -/
theorem length_le_two (apart : closings.Pairwise fun closes other => closes + span ≤ other)
    {start : Int}
    (meets : forall closes, closes ∈ closings -> start < closes ∧ closes - span ≤ start + span) :
    closings.length ≤ 2 := by
  match closings with
  | [] => exact Nat.zero_le 2
  | [_] => exact Nat.le_succ 1
  | [_, _] => exact Nat.le_refl 2
  | first :: second :: third :: rest =>
      exfalso
      rcases List.pairwise_cons.mp apart with ⟨before, later⟩
      have one := before second List.mem_cons_self
      have two := (List.pairwise_cons.mp later).1 third List.mem_cons_self
      have begins := (meets first List.mem_cons_self).1
      have ends := (meets third (by simp)).2
      omega

/-- An instant lies in one window only. -/
theorem Ledger.unique {closes other time : Int} (ledger : Ledger span limit closings times)
    (first : closes ∈ closings) (second : other ∈ closings) (inside : Inside span closes time)
    (within : Inside span other time) : closes = other := by
  by_contra different
  have either : closings.Pairwise fun one next => one + span ≤ next ∨ next + span ≤ one :=
    ledger.apart.imp Or.inl
  have symmetric : Std.Symm fun one next : Int => one + span ≤ next ∨ next + span ≤ one :=
    ⟨fun _ _ => Or.symm⟩
  rcases either.forall first second different with before | after
  · have begins := within.1
    have ends := inside.2
    omega
  · have begins := inside.1
    have ends := within.2
    omega

/-- In an interval of the length of a window at most twice the limit is counted. -/
theorem Ledger.twice (ledger : Ledger span limit closings times) (start : Int) :
    times.countP (fun time => start ≤ time ∧ time ≤ start + span) ≤ 2 * limit := by
  let meeting := closings.filter fun closes => start < closes ∧ closes - span ≤ start + span
  have met : forall closes, closes ∈ meeting ->
      closes ∈ closings ∧ start < closes ∧ closes - span ≤ start + span := by
    intro closes member
    rcases List.mem_filter.mp member with ⟨known, holds⟩
    exact ⟨known, of_decide_eq_true holds⟩
  have few : meeting.length ≤ 2 :=
    length_le_two (ledger.apart.sublist List.filter_sublist) fun closes member =>
      (met closes member).2
  have total : times.countP (fun time => start ≤ time ∧ time ≤ start + span) ≤
      (meeting.map fun closes => times.countP fun time => Inside span closes time).sum := by
    apply countP_le_sum
    intro time member selected
    rcases ledger.covered time member with ⟨closes, known, inside⟩
    have within := of_decide_eq_true selected
    refine ⟨closes, List.mem_filter.mpr ⟨known, decide_eq_true ?_⟩, decide_eq_true inside⟩
    exact ⟨lt_of_le_of_lt within.1 inside.2, inside.1.trans within.2⟩
  have each : (meeting.map fun closes => times.countP fun time => Inside span closes time).sum ≤
      (meeting.map fun closes => times.countP fun time => Inside span closes time).length •
        limit := by
    apply List.sum_le_card_nsmul
    intro count member
    rcases List.mem_map.mp member with ⟨closes, listed, same⟩
    exact same ▸ ledger.bounded closes (met closes listed).1
  rw [List.length_map, nsmul_eq_mul, Nat.cast_id] at each
  exact total.trans (each.trans (Nat.mul_le_mul_right limit few))

end Windows

/-! ## The counter -/

section Counters

/-- The window that is still open. -/
def live (now : Int) (counter : Option Window) : Option Window :=
  counter.filter fun window => now < window.closes

/-- The open window, or a new one. -/
def current (span now : Int) (counter : Option Window) : Window :=
  (live now counter).getD ⟨0, now + span⟩

theorem current_open (span : Int) (positive : 0 < span) (now : Int) (counter : Option Window) :
    now < (current span now counter).closes := by
  unfold current
  cases still : live now counter with
  | none =>
      change now < now + span
      omega
  | some window => exact of_decide_eq_true (Option.filter_eq_some_iff.mp still).2

/-- A counter and all that it has counted, up to an instant. -/
structure Tracks (span : Int) (limit : Nat) (closings times : List Int) (latest : Int)
    (counter : Option Window) : Prop extends Ledger span limit closings times where
  opened : forall closes, closes ∈ closings -> closes - span ≤ latest
  closed : forall closes, closes ∈ closings ->
    closes ≤ latest ∨ exists window, counter = some window ∧ window.closes = closes
  counted : forall window, counter = some window -> window.closes ∈ closings ∧
    window.used = times.countP fun time => Inside span window.closes time

variable {span : Int} {limit : Nat} {closings times : List Int} {latest now : Int}
  {counter : Option Window}

theorem tracks_empty (span : Int) (limit : Nat) (latest : Int) :
    Tracks span limit [] [] latest none where
  apart := List.Pairwise.nil
  covered := fun _ member => by cases member
  bounded := fun _ member => by cases member
  opened := fun _ member => by cases member
  closed := fun _ member => by cases member
  counted := fun _ same => by cases same

theorem Tracks.mono (tracks : Tracks span limit closings times latest counter)
    (order : latest ≤ now) : Tracks span limit closings times now counter where
  toLedger := tracks.toLedger
  opened := fun closes member => (tracks.opened closes member).trans order
  closed := fun closes member => (tracks.closed closes member).imp_left fun early =>
    early.trans order
  counted := tracks.counted

/-- A window that has closed may be forgotten. -/
theorem Tracks.expire (tracks : Tracks span limit closings times latest counter)
    (order : latest ≤ now) : Tracks span limit closings times now (live now counter) where
  toLedger := tracks.toLedger
  opened := fun closes member => (tracks.opened closes member).trans order
  closed := by
    intro closes member
    rcases tracks.closed closes member with early | ⟨window, same, ends⟩
    · exact Or.inl (early.trans order)
    · by_cases still : now < closes
      · refine Or.inr ⟨window, ?_, ends⟩
        rw [live, same]
        exact Option.filter_some_pos (decide_eq_true (ends ▸ still))
      · exact Or.inl (not_lt.mp still)
  counted := by
    intro window same
    exact tracks.counted window (Option.filter_eq_some_iff.mp same).1

/-- An event meets the open window, or opens one. -/
theorem Tracks.renew (tracks : Tracks span limit closings times latest counter)
    (order : latest ≤ now) :
    exists more, Tracks span limit (closings ++ more) times now
      (some (current span now counter)) := by
  have forgets := tracks.expire order
  rw [current]
  cases still : live now counter with
  | some window =>
      rw [still] at forgets
      exact ⟨[], (List.append_nil closings).symm ▸ forgets⟩
  | none =>
      rw [still] at forgets
      have shut : forall closes, closes ∈ closings -> closes ≤ now := by
        intro closes member
        rcases forgets.closed closes member with early | ⟨window, same, _⟩
        · exact early
        · cases same
      have none_ : times.countP (fun time => Inside span (now + span) time) = 0 := by
        refine List.countP_eq_zero.mpr fun time member inside => ?_
        rcases forgets.covered time member with ⟨closes, known, before⟩
        have late := (of_decide_eq_true inside).1
        have early := shut closes known
        have less := before.2
        omega
      refine ⟨[now + span], ⟨?_, ?_, ?_⟩, ?_, ?_, ?_⟩
      · rw [List.pairwise_append]
        refine ⟨forgets.apart, List.pairwise_singleton _ _, ?_⟩
        intro closes member other last
        rw [List.mem_singleton.mp last]
        exact add_le_add_left (shut closes member) span
      · intro time member
        rcases forgets.covered time member with ⟨closes, known, inside⟩
        exact ⟨closes, List.mem_append_left _ known, inside⟩
      · intro closes member
        rcases List.mem_append.mp member with old | new
        · exact forgets.bounded closes old
        · rw [List.mem_singleton.mp new, none_]
          exact Nat.zero_le limit
      · intro closes member
        rcases List.mem_append.mp member with old | new
        · exact forgets.opened closes old
        · rw [List.mem_singleton.mp new]
          omega
      · intro closes member
        rcases List.mem_append.mp member with old | new
        · exact Or.inl (shut closes old)
        · exact Or.inr ⟨_, rfl, (List.mem_singleton.mp new).symm⟩
      · intro window same
        cases same
        exact ⟨List.mem_append_right _ (List.mem_singleton.mpr rfl), none_.symm⟩

/-- One more is counted in the open window. -/
theorem Tracks.count {window : Window}
    (tracks : Tracks span limit closings times now (some window)) (still : now < window.closes)
    (room : window.used < limit) :
    Tracks span limit closings (times ++ [now]) now
      (some { window with used := window.used + 1 }) := by
  rcases tracks.counted window rfl with ⟨known, used⟩
  have inside : Inside span window.closes now := ⟨tracks.opened _ known, still⟩
  have counts : forall closes, (times ++ [now]).countP (fun time => Inside span closes time) =
      times.countP (fun time => Inside span closes time) +
        if Inside span closes now then 1 else 0 := by
    intro closes
    rw [List.countP_append, List.countP_singleton]
    simp only [decide_eq_true_eq]
  refine ⟨⟨tracks.apart, ?_, ?_⟩, tracks.opened, ?_, ?_⟩
  · intro time member
    rcases List.mem_append.mp member with old | new
    · exact tracks.covered time old
    · rw [List.mem_singleton.mp new]
      exact ⟨window.closes, known, inside⟩
  · intro closes member
    rw [counts]
    by_cases same : closes = window.closes
    · rw [same, if_pos inside, ← used]
      exact room
    · rw [if_neg fun within => same (tracks.unique member known within inside)]
      exact tracks.bounded closes member
  · intro closes member
    rcases tracks.closed closes member with early | ⟨open_, same, ends⟩
    · exact Or.inl early
    · cases same
      exact Or.inr ⟨_, rfl, ends⟩
  · intro next same
    cases same
    refine ⟨known, ?_⟩
    rw [counts, if_pos inside, used]

end Counters

end FixedWindows
end Foundations
end MarketIntelligence
