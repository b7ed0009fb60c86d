import MarketIntelligence.Foundations.Tables
import Mathlib.Order.Lattice

namespace MarketIntelligence
namespace Foundations
namespace AsOf

/-!
# Answers as of an instant

A row has a period, a revision, and the instant from which it is shown.  An
answer as of an instant holds, for each period, one row that is shown by then
and has the greatest revision.  It is read off a listing that is ordered by
period, the latest revision first.

A store that keeps the first row of each key gives the same answers as the log
of all rows, where the rows of one key are shown in the order in which they come.
-/

universe u v w x

variable {α : Type u} {κ : Type v} {π : Type w} {τ : Type x}

section Listings

variable [LinearOrder π] [LinearOrder τ] (period : α -> π) (revision : α -> τ)

/-- Periods go up, and within a period revisions go down. -/
def Ordered (listing : List α) : Prop :=
  listing.Pairwise fun first second => period first < period second ∨
    (period first = period second ∧ revision second ≤ revision first)

/-- The step of a pass that keeps what it has found for a period. -/
def setDefault (found : List α) (row : α) : List α :=
  if period row ∈ found.map period then found else found ++ [row]

def latest (listing : List α) : List α :=
  listing.foldl (setDefault period) []

variable {period revision}

theorem foldl_setDefault (listing found : List α) :
    listing.foldl (setDefault period) found =
      found ++ Tables.firsts period (found.map period) listing := by
  induction listing generalizing found with
  | nil => exact (List.append_nil found).symm
  | cons head tail ih =>
      rw [List.foldl_cons, ih, Tables.firsts_cons_append]
      unfold setDefault
      by_cases known : period head ∈ found.map period
      · rw [if_pos known, if_pos known]
      · rw [if_neg known, if_neg known, List.append_assoc, List.singleton_append, List.map_append,
          List.map_singleton]

theorem latest_eq (listing : List α) : latest period listing = Tables.firsts period [] listing :=
  foldl_setDefault listing []

/-- A row of the answer is listed, and has the greatest revision of its period. -/
theorem mem_latest {listing : List α} (ordered : Ordered period revision listing) {row : α}
    (member : row ∈ latest period listing) :
    row ∈ listing ∧ forall other, other ∈ listing -> period other = period row ->
      revision other ≤ revision row := by
  rw [latest_eq] at member
  rcases Tables.mem_firsts_iff.mp member with ⟨before, after, split, _, first⟩
  subst split
  refine ⟨List.mem_append_right _ List.mem_cons_self, ?_⟩
  intro other listed same
  rcases List.mem_append.mp listed with earlier | here
  · exact absurd same (first other earlier)
  rcases List.mem_cons.mp here with own | later
  · exact own ▸ le_refl _
  · have below := (List.pairwise_cons.mp (List.pairwise_append.mp ordered).2.1).1 other later
    rcases below with less | ⟨_, less⟩
    · exact absurd same.symm (ne_of_lt less)
    · exact less

/-- Every period that is listed has its row. -/
theorem latest_covers {listing : List α} {row : α} (member : row ∈ listing) :
    exists chosen, chosen ∈ latest period listing ∧ period chosen = period row := by
  rw [latest_eq]
  have known : period row ∈ ([] : List π) ∨
      period row ∈ (Tables.firsts period [] listing).map period :=
    Tables.mem_firsts_or_seen [] member
  rcases known with impossible | seen
  · cases impossible
  · exact List.mem_map.mp seen

theorem latest_sublist (listing : List α) : (latest period listing).Sublist listing := by
  have kept : forall (rows : List α) (seen : List π),
      (Tables.firsts period seen rows).Sublist rows := by
    intro rows
    induction rows with
    | nil => exact fun seen => List.Sublist.refl _
    | cons head tail ih =>
        intro seen
        rw [Tables.firsts_cons]
        split
        · exact (ih seen).cons head
        · exact (ih _).cons_cons head
  rw [latest_eq]
  exact kept listing []

/-- The answer has one row for each period, in their order. -/
theorem latest_increasing {listing : List α} (ordered : Ordered period revision listing) :
    ((latest period listing).map period).Pairwise (· < ·) := by
  have distinct : ((latest period listing).map period).Nodup := by
    rw [latest_eq]
    exact Tables.firsts_nodup [] listing
  have apart := List.pairwise_map.mp distinct
  have inside : (latest period listing).Sublist listing := latest_sublist listing
  have kept := List.Pairwise.sublist inside ordered
  refine List.pairwise_map.mpr ((kept.and apart).imp ?_)
  rintro first second ⟨less | ⟨same, _⟩, different⟩
  · exact less
  · exact absurd same different

/-- Where each period has one row of a revision, there is one listing in the order. -/
theorem ordered_unique {listing other : List α} (perm : listing.Perm other)
    (ordered : Ordered period revision listing) (orderedOther : Ordered period revision other)
    (single : forall first second, first ∈ listing -> second ∈ listing ->
      period first = period second -> revision first = revision second -> first = second) :
    listing = other := by
  refine perm.eq_of_pairwise ?_ ordered orderedOther
  rintro first second member memberOther (less | ⟨same, below⟩) (greater | ⟨back, above⟩)
  · exact absurd greater (lt_asymm less)
  · exact absurd back.symm (ne_of_lt less)
  · exact absurd same.symm (ne_of_lt greater)
  · exact single first second member (perm.mem_iff.mpr memberOther) same (le_antisymm above below)

end Listings

section Greatest

variable [LinearOrder τ] (revision : α -> τ)

/-- The step of a pass that keeps the first of the greatest. -/
def keepGreater (best : Option α) (row : α) : Option α :=
  match best with
  | none => some row
  | some kept => if revision kept < revision row then some row else some kept

def greatest (rows : List α) : Option α :=
  rows.foldl (keepGreater revision) none

theorem foldl_keepGreater (rows : List α) (kept : α) :
    exists best, rows.foldl (keepGreater revision) (some kept) = some best ∧
      best ∈ kept :: rows ∧ forall row, row ∈ kept :: rows -> revision row ≤ revision best := by
  induction rows generalizing kept with
  | nil =>
      refine ⟨kept, rfl, List.mem_singleton.mpr rfl, ?_⟩
      intro row member
      exact le_of_eq (congrArg revision (List.mem_singleton.mp member))
  | cons head tail ih =>
      rw [List.foldl_cons]
      by_cases greater : revision kept < revision head
      · have step : keepGreater revision (some kept) head = some head := if_pos greater
        rcases ih head with ⟨best, found, member, bound⟩
        rw [step]
        refine ⟨best, found, List.mem_cons_of_mem kept member, ?_⟩
        intro row listed
        rcases List.mem_cons.mp listed with first | later
        · rw [first]
          exact le_trans (le_of_lt greater) (bound head List.mem_cons_self)
        · exact bound row later
      · have step : keepGreater revision (some kept) head = some kept := if_neg greater
        rcases ih kept with ⟨best, found, member, bound⟩
        rw [step]
        have first := bound kept List.mem_cons_self
        refine ⟨best, found, ?_, ?_⟩
        · rcases List.mem_cons.mp member with same | later
          · exact same ▸ List.mem_cons_self
          · exact List.mem_cons_of_mem _ (List.mem_cons_of_mem _ later)
        · intro row listed
          rcases List.mem_cons.mp listed with same | later
          · exact same ▸ first
          rcases List.mem_cons.mp later with same | rest
          · exact same ▸ le_trans (not_lt.mp greater) first
          · exact bound row (List.mem_cons_of_mem _ rest)

variable {revision}

theorem greatest_none_iff {rows : List α} : greatest revision rows = none <-> rows = [] := by
  cases rows with
  | nil => exact iff_of_true rfl rfl
  | cons head tail =>
      rcases foldl_keepGreater revision tail head with ⟨best, found, _, _⟩
      have answered : greatest revision (head :: tail) = some best := found
      rw [answered]
      exact iff_of_false (fun impossible => nomatch impossible) (fun impossible => nomatch impossible)

theorem greatest_some {rows : List α} {best : α} (found : greatest revision rows = some best) :
    best ∈ rows ∧ forall row, row ∈ rows -> revision row ≤ revision best := by
  cases rows with
  | nil => cases found
  | cons head tail =>
      rcases foldl_keepGreater revision tail head with ⟨other, same, member, bound⟩
      cases Option.some.inj (found.symm.trans same)
      exact ⟨member, bound⟩

end Greatest

section Stores

variable [DecidableEq κ] [LinearOrder τ] {key : α -> κ} {shown : α -> τ}

/-- What the log shows of a key by an instant, the store shows. -/
theorem firsts_shown {log : List α}
    (inOrder : log.Pairwise fun earlier later =>
      key earlier = key later -> shown earlier ≤ shown later)
    {row : α} (member : row ∈ log) :
    exists kept, kept ∈ Tables.firsts key [] log ∧ key kept = key row ∧ shown kept ≤ shown row := by
  have known : key row ∈ ([] : List κ) ∨ key row ∈ (Tables.firsts key [] log).map key :=
    Tables.mem_firsts_or_seen [] member
  rcases known with impossible | seen
  · cases impossible
  rcases List.mem_map.mp seen with ⟨kept, chosen, same⟩
  refine ⟨kept, chosen, same, ?_⟩
  rcases Tables.mem_firsts_iff.mp chosen with ⟨before, after, split, _, first⟩
  subst split
  rcases List.mem_append.mp member with earlier | here
  · exact absurd same.symm (first row earlier)
  rcases List.mem_cons.mp here with own | later
  · exact own ▸ le_refl _
  · exact (List.pairwise_cons.mp (List.pairwise_append.mp inOrder).2.1).1 row later same

end Stores

end AsOf
end Foundations
end MarketIntelligence
