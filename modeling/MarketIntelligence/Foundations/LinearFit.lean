import Mathlib.Algebra.BigOperators.Ring.List
import Mathlib.Algebra.Order.BigOperators.Group.List
import Mathlib.Algebra.Order.Field.Basic
import Mathlib.Tactic.Ring

namespace MarketIntelligence
namespace Foundations
namespace LinearFit

/-!
# Fitting a line to points

The residuals of a line through the means have the total zero.  They are orthogonal to the
first coordinates exactly when the slope takes the squared deviations of the first
coordinates to the products with those of the second.  When the first coordinates do not
vary, every slope does.
-/

universe u v

/-! ## Totals over lists -/

section Totals

variable {α : Type u} {K : Type v} [CommRing K]

theorem sum_map_sub (first second : α -> K) (items : List α) :
    (items.map fun item => first item - second item).sum =
      (items.map first).sum - (items.map second).sum := by
  induction items with
  | nil => simp
  | cons head tail ih =>
      rw [List.map_cons, List.sum_cons, ih, List.map_cons, List.sum_cons,
        List.map_cons, List.sum_cons]
      ring

theorem sum_map_const (value : K) (items : List α) :
    (items.map fun _ => value).sum = items.length * value := by
  rw [List.map_const', List.sum_replicate, nsmul_eq_mul]

end Totals

section Lines

variable {K : Type u} [Field K]

def mean (values : List K) : K := values.sum / values.length

variable (points : List (K × K))

/-- The squared deviations of the first coordinates. -/
def variation : K :=
  (points.map fun point => (point.1 - mean (points.map Prod.fst)) ^ 2).sum

def covariation : K :=
  (points.map fun point =>
    (point.1 - mean (points.map Prod.fst)) * (point.2 - mean (points.map Prod.snd))).sum

/-- The intercept of the line of this slope through the means. -/
def intercept (slope : K) : K :=
  mean (points.map Prod.snd) - slope * mean (points.map Prod.fst)

def residual (slope : K) (point : K × K) : K :=
  point.2 - (intercept points slope + slope * point.1)

variable {points}

theorem residual_eq (slope : K) (point : K × K) :
    residual points slope point =
      point.2 - mean (points.map Prod.snd) - slope * (point.1 - mean (points.map Prod.fst)) := by
  rw [residual, intercept]
  ring

section Sums

variable [CharZero K]

theorem sum_deviations {α : Type v} (value : α -> K) (items : List α) :
    (items.map fun item => value item - mean (items.map value)).sum = 0 := by
  rw [sum_map_sub, sum_map_const, mean, List.length_map]
  cases items with
  | nil => simp
  | cons head tail =>
      have count : ((head :: tail).length : K) ≠ 0 := Nat.cast_ne_zero.mpr (Nat.succ_ne_zero _)
      rw [mul_div_cancel₀ _ count, sub_self]

theorem sum_residual (slope : K) : (points.map (residual points slope)).sum = 0 := by
  have same : points.map (residual points slope) = points.map fun point =>
      point.2 - mean (points.map Prod.snd) - slope * (point.1 - mean (points.map Prod.fst)) :=
    List.map_congr_left fun point _ => residual_eq slope point
  rw [same, sum_map_sub, List.sum_map_mul_left, sum_deviations Prod.snd, sum_deviations Prod.fst,
    mul_zero, sub_zero]

/-- What the residuals have in common with the first coordinates. -/
theorem sum_mul_residual (slope : K) :
    (points.map fun point => point.1 * residual points slope point).sum =
      covariation points - slope * variation points := by
  have parts : (points.map fun point => point.1 * residual points slope point) =
      points.map fun point =>
        ((point.1 - mean (points.map Prod.fst)) * (point.2 - mean (points.map Prod.snd)) -
          slope * (point.1 - mean (points.map Prod.fst)) ^ 2) -
            -mean (points.map Prod.fst) * residual points slope point := by
    apply List.map_congr_left
    intro point _
    rw [residual_eq]
    ring
  rw [parts, sum_map_sub, sum_map_sub, List.sum_map_mul_left, List.sum_map_mul_left, sum_residual,
    mul_zero, sub_zero, covariation, variation]

end Sums

section Squares

variable [LinearOrder K] [IsStrictOrderedRing K]

/-- First coordinates that do not vary have no deviations. -/
theorem covariation_eq_zero (constant : variation points = 0) : covariation points = 0 := by
  have each : forall point, point ∈ points -> point.1 - mean (points.map Prod.fst) = 0 := by
    intro point member
    have squares : forall square,
        square ∈ points.map (fun point => (point.1 - mean (points.map Prod.fst)) ^ 2) ->
          0 ≤ square := by
      intro square listed
      rcases List.mem_map.mp listed with ⟨other, _, same⟩
      exact same ▸ sq_nonneg _
    have zero := List.all_zero_of_le_zero_le_of_sum_eq_zero squares constant
      (List.mem_map_of_mem member)
    exact pow_eq_zero_iff two_ne_zero |>.mp zero
  have products : points.map (fun point =>
      (point.1 - mean (points.map Prod.fst)) * (point.2 - mean (points.map Prod.snd))) =
      points.map fun _ => 0 := by
    apply List.map_congr_left
    intro point member
    rw [each point member, zero_mul]
  rw [covariation, products, sum_map_const, mul_zero]

/-- The residuals of the fitted slope are orthogonal to the first coordinates. -/
theorem sum_mul_residual_fitted {slope : K}
    (fitted : variation points ≠ 0 -> slope = covariation points / variation points) :
    (points.map fun point => point.1 * residual points slope point).sum = 0 := by
  rw [sum_mul_residual]
  by_cases constant : variation points = 0
  · rw [constant, covariation_eq_zero constant, mul_zero, sub_zero]
  · rw [fitted constant, div_mul_cancel₀ _ constant, sub_self]

end Squares

end Lines

end LinearFit
end Foundations
end MarketIntelligence
