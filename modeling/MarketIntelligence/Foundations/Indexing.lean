import MarketIntelligence.Foundations.Causality

namespace MarketIntelligence
namespace Foundations
namespace Indexing

/-!
# Indices from the end

A negative index counts from the end of a list.  The bounds of a slice are brought into the
list, and an assignment outside of it fails.
-/

universe u

variable {α : Type u}

/-- Where a bound of a slice falls. -/
def bound (length : Nat) (index : Int) : Nat :=
  if index < 0 then (index + length).toNat else min index.toNat length

/-- `values[start:stop]` -/
def slice (start stop : Int) (values : List α) : List α :=
  (values.take (bound values.length stop)).drop (bound values.length start)

/-- The place of an index, when it has one. -/
def place (length : Nat) (index : Int) : Option Nat :=
  if 0 ≤ index ∧ index < length then some index.toNat
  else if index < 0 ∧ -length ≤ index then some (index + length).toNat
  else none

/-- `values[index] = value` -/
def assign (index : Int) (value : α) (values : List α) : Option (List α) :=
  (place values.length index).map fun found => values.set found value

/-- `range(start, stop)` -/
def indices (start stop : Int) : List Int :=
  (List.range (stop - start).toNat).map fun step : Nat => start + step

theorem slice_eq {start stop : Nat} {values : List α} (inside : stop ≤ values.length)
    (order : start ≤ stop) :
    slice start stop values = Causality.slice start stop values := by
  have first : bound values.length start = start := by
    rw [bound, if_neg (by omega), Int.toNat_natCast, min_eq_left (by omega)]
  have last : bound values.length stop = stop := by
    rw [bound, if_neg (by omega), Int.toNat_natCast, min_eq_left inside]
  rw [slice, Causality.slice, first, last]

theorem slice_zero (start : Int) (values : List α) : slice start 0 values = [] := by
  have last : bound values.length 0 = 0 := Nat.zero_min values.length
  rw [slice, last, List.take_zero, List.drop_nil]

theorem assign_nat {index : Nat} {values : List α} (inside : index < values.length) (value : α) :
    assign index value values = some (values.set index value) := by
  rw [assign, place, if_pos ⟨Int.natCast_nonneg index, Int.ofNat_lt.mpr inside⟩,
    Int.toNat_natCast]
  rfl

theorem assign_some {index : Int} {values : List α} (value : α) (low : -values.length ≤ index)
    (high : index < values.length) :
    exists next, assign index value values = some next ∧ next.length = values.length := by
  rw [assign, place]
  by_cases negative : index < 0
  · rw [if_neg (by omega), if_pos ⟨negative, low⟩]
    exact ⟨_, rfl, List.length_set⟩
  · rw [if_pos ⟨by omega, high⟩]
    exact ⟨_, rfl, List.length_set⟩

theorem assign_none {index : Int} {values : List α} (value : α) (low : index < -values.length) :
    assign index value values = none := by
  rw [assign, place, if_neg (by omega), if_neg (by omega)]
  rfl

theorem mem_indices {start stop index : Int} :
    index ∈ indices start stop <-> start ≤ index ∧ index < stop := by
  rw [indices, List.mem_map]
  constructor
  · rintro ⟨step, member, same⟩
    have before := List.mem_range.mp member
    omega
  · rintro ⟨low, high⟩
    exact ⟨(index - start).toNat, List.mem_range.mpr (by omega), by omega⟩

theorem indices_cons {start stop : Int} (order : start < stop) :
    indices start stop = start :: indices (start + 1) stop := by
  have steps : (stop - start).toNat = (stop - (start + 1)).toNat + 1 := by omega
  rw [indices, indices, steps, List.range_succ_eq_map, List.map_cons, List.map_map]
  refine congrArg₂ List.cons (by simp) (List.map_congr_left fun step _ => ?_)
  simp only [Function.comp_apply]
  omega

end Indexing
end Foundations
end MarketIntelligence
