import Mathlib.Algebra.Order.Field.Basic
import Mathlib.Order.Bounds.Basic
import Mathlib.Tactic.Ring
import Mathlib.Tactic.Linarith

namespace MarketIntelligence
namespace Foundations
namespace RunningMaxima

/-!
# Declines from the running maximum

One pass over a series keeps the largest value so far and gives each value's decline from it.  The
least of these declines is the least change from any value of the series to a later one: the peak
of the pass stands for every earlier value at once.
-/

/-! ## The largest value so far -/

section Maxima

variable {K : Type*} [LinearOrder K] {highest value : K} {values : List K}

theorem foldl_max_mem (highest : K) (values : List K) :
    values.foldl max highest ∈ highest :: values := by
  induction values generalizing highest with
  | nil => exact List.mem_cons_self
  | cons head tail ih =>
      rcases List.mem_cons.mp (ih (max highest head)) with same | inside
      · rw [List.foldl_cons, same]
        rcases max_choice highest head with first | second
        · rw [first]
          exact List.mem_cons_self
        · rw [second]
          exact List.mem_cons_of_mem _ List.mem_cons_self
      · exact List.mem_cons_of_mem _ (List.mem_cons_of_mem _ inside)

theorem le_foldl_max (member : value ∈ highest :: values) : value ≤ values.foldl max highest := by
  induction values generalizing highest value with
  | nil => exact (List.mem_singleton.mp member).le
  | cons head tail ih =>
      rcases List.mem_cons.mp member with same | later
      · rw [same]
        exact (le_max_left highest head).trans (ih List.mem_cons_self)
      · rcases List.mem_cons.mp later with here | inside
        · rw [here]
          exact (le_max_right highest head).trans (ih List.mem_cons_self)
        · exact ih (List.mem_cons_of_mem _ inside)

end Maxima

/-! ## Declines -/

variable {K : Type*} [Field K] [LinearOrder K] {highest value worst : K} {values : List K}

/-- The declines of the values, the largest value before them given. -/
def declines : K -> List K -> List K
  | _, [] => []
  | highest, value :: rest =>
      (value / max highest value - 1) :: declines (max highest value) rest

/-- The relative change from a positive value of the series to itself or to a later one: what the
holder makes who enters at the first and leaves at the second. -/
def Change (values : List K) (change : K) : Prop :=
  exists front later back earlier, values = front ++ later :: back ∧ earlier ∈ front ++ [later] ∧
    0 < earlier ∧ change = later / earlier - 1

/-- The decline of a value of the series from the highest one so far, itself and the initial
height included.  It is zero at a new maximum. -/
def Decline (highest : K) (values : List K) (decline : K) : Prop :=
  exists front later back, values = front ++ later :: back ∧
    decline = later / (front ++ [later]).foldl max highest - 1

/-- A decline stands at the place of its value. -/
theorem mem_declines {decline : K} :
    decline ∈ declines highest values <-> Decline highest values decline := by
  unfold Decline
  induction values generalizing highest with
  | nil =>
      refine ⟨fun none => absurd none List.not_mem_nil, ?_⟩
      rintro ⟨front, later, back, split, _⟩
      cases front <;> cases split
  | cons head tail ih =>
      rw [declines, List.mem_cons, ih]
      constructor
      · rintro (here | ⟨front, later, back, split, same⟩)
        · exact ⟨[], head, tail, rfl, here⟩
        · exact ⟨head :: front, later, back, congrArg (head :: ·) split, same⟩
      · rintro ⟨front, later, back, split, same⟩
        cases front with
        | nil =>
            cases split
            exact Or.inl same
        | cons first front =>
            cases split
            exact Or.inr ⟨front, later, back, rfl, same⟩

/-- One more value: its decline is from the maximum of all. -/
theorem declines_concat (highest : K) (values : List K) (value : K) :
    declines highest (values ++ [value]) =
      declines highest values ++ [value / max (values.foldl max highest) value - 1] := by
  induction values generalizing highest with
  | nil => rfl
  | cons head tail ih =>
      rw [List.cons_append, declines, ih, declines, List.cons_append,
        List.foldl_cons]

theorem foldl_max_pos (positive : 0 < highest) (values : List K) :
    0 < values.foldl max highest :=
  positive.trans_le (le_foldl_max List.mem_cons_self)

section Worst

variable [IsStrictOrderedRing K]

theorem decline_nonpos (positive : 0 < highest) {change : K}
    (member : change ∈ declines highest values) : change ≤ 0 := by
  rcases mem_declines.mp member with ⟨front, later, back, _, same⟩
  have below : later ≤ (front ++ [later]).foldl max highest :=
    le_foldl_max (List.mem_cons_of_mem _ (List.mem_append_right _ (List.mem_singleton.mpr rfl)))
  have ratio := div_le_one_of_le₀ below (foldl_max_pos positive _).le
  rw [same]
  linarith

/-- The worst decline of the pass is the worst change between any two places of the series. -/
theorem worst_isLeast (positive : 0 < highest) (nonneg : forall value, value ∈ values -> 0 ≤ value)
    (member : worst ∈ declines highest values)
    (least : forall change, change ∈ declines highest values -> worst ≤ change) :
    IsLeast {change | Change (highest :: values) change} worst := by
  constructor
  · rcases mem_declines.mp member with ⟨front, later, back, split, same⟩
    refine ⟨highest :: front, later, back, _, congrArg (highest :: ·) split, ?_,
      foldl_max_pos positive _, same⟩
    exact foldl_max_mem highest (front ++ [later])
  · rintro change ⟨front, later, back, earlier, split, before, some, rfl⟩
    cases front with
    | nil =>
        cases split
        have same : earlier = highest := List.mem_singleton.mp before
        rw [same, div_self positive.ne', sub_self]
        exact decline_nonpos positive member
    | cons first front =>
        cases split
        have below : earlier ≤ (front ++ [later]).foldl max highest := le_foldl_max before
        have sold : 0 ≤ later := nonneg later (List.mem_append_right _ List.mem_cons_self)
        have here := least _ (mem_declines.mpr ⟨front, later, back, rfl, rfl⟩)
        have smaller := div_le_div_of_nonneg_left sold some below
        linarith

end Worst

end RunningMaxima
end Foundations
end MarketIntelligence
