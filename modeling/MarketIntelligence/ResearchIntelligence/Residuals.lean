import MarketIntelligence.Foundations.LinearFit
import Mathlib.Data.Rat.Cast.Order

namespace MarketIntelligence
namespace ResearchIntelligence

open Foundations

/-!
# Residuals against a baseline

The candidate is fitted to the baseline by least squares, in exact arithmetic.  A baseline
that does not vary is given the slope zero, and then its deviations are zero as well.
-/

/-- A `ValueError`. -/
structure SampleError where
  text : String
  deriving DecidableEq, Repr

section Samples

variable (candidate baseline : List Rat)

/-- `sum(values) / len(values)` -/
def sampleMean (values : List Rat) : Rat := values.sum / values.length

def variance : Rat :=
  (baseline.map fun value => (value - sampleMean baseline) ^ 2).sum

/-- The products of the deviations, over the pairs of a strict `zip`. -/
def crossProducts : Rat :=
  (List.zipWith (fun x y => (x - sampleMean baseline) * (y - sampleMean candidate))
    baseline candidate).sum

def slope : Rat :=
  if variance baseline ≠ 0 then crossProducts candidate baseline / variance baseline else 0

def residualize : Except SampleError (List Rat) :=
  if candidate.length ≠ baseline.length ∨ candidate.length < 3 then
    .error ⟨"residualization requires equal samples"⟩
  else
    let intercept := sampleMean candidate - slope candidate baseline * sampleMean baseline
    .ok (List.zipWith (fun x y => y - (intercept + slope candidate baseline * x))
      baseline candidate)

variable {candidate baseline}

theorem zipWith_zip_right (combine : Rat -> Rat × Rat -> Rat) (firsts seconds : List Rat) :
    List.zipWith combine firsts (firsts.zip seconds) =
      (firsts.zip seconds).map fun point => combine point.1 point := by
  induction firsts generalizing seconds with
  | nil => rfl
  | cons first rest ih =>
      cases seconds with
      | nil => rfl
      | cons second others =>
          rw [List.zip_cons_cons, List.zipWith_cons_cons, ih, List.map_cons]

/-- The code fits a line to the pairs of the samples. -/
theorem residualize_fit (paired : candidate.length = baseline.length)
    (enough : 3 ≤ candidate.length) :
    residualize candidate baseline =
      .ok ((baseline.zip candidate).map
        (LinearFit.residual (baseline.zip candidate) (slope candidate baseline))) ∧
      variance baseline = LinearFit.variation (baseline.zip candidate) ∧
      crossProducts candidate baseline = LinearFit.covariation (baseline.zip candidate) := by
  have firsts : (baseline.zip candidate).map Prod.fst = baseline :=
    List.map_fst_zip paired.ge
  have seconds : (baseline.zip candidate).map Prod.snd = candidate :=
    List.map_snd_zip paired.le
  refine ⟨?_, ?_, ?_⟩
  · have admitted : ¬ (candidate.length ≠ baseline.length ∨ candidate.length < 3) := by
      rintro (different | short)
      · exact different paired
      · exact not_lt.mpr enough short
    rw [residualize, if_neg admitted]
    rw [List.map_zip_eq_zipWith]
    unfold LinearFit.residual LinearFit.intercept LinearFit.mean
    rw [firsts, seconds]
    rfl
  · have squares : (baseline.zip candidate).map (fun point => (point.1 - sampleMean baseline) ^ 2) =
        ((baseline.zip candidate).map Prod.fst).map
          fun value => (value - sampleMean baseline) ^ 2 := by
      rw [List.map_map]
      rfl
    rw [firsts] at squares
    rw [variance, ← squares, LinearFit.variation, firsts]
    rfl
  · rw [crossProducts, LinearFit.covariation, firsts, seconds, List.map_zip_eq_zipWith]
    rfl

/-- The residuals have the total zero and are orthogonal to the baseline, for samples of equal
length, also where the baseline does not vary and the slope is zero. -/
theorem residualize_orthogonal (candidate baseline : List Rat)
    (paired : candidate.length = baseline.length) (enough : 3 ≤ candidate.length) :
    exists residuals, residualize candidate baseline = .ok residuals ∧
      residuals.length = candidate.length ∧ residuals.sum = 0 ∧
      (List.zipWith (fun x residual => x * residual) baseline residuals).sum = 0 := by
  rcases residualize_fit paired enough with ⟨done, varies, products⟩
  have fitted : LinearFit.variation (baseline.zip candidate) ≠ 0 ->
      slope candidate baseline =
        LinearFit.covariation (baseline.zip candidate) /
          LinearFit.variation (baseline.zip candidate) := by
    intro nonzero
    rw [slope, varies, products, if_pos nonzero]
  refine ⟨_, done, ?_, LinearFit.sum_residual _, ?_⟩
  · rw [List.length_map, List.length_zip, paired, min_self]
  · rw [List.zipWith_map_right, zipWith_zip_right]
    exact LinearFit.sum_mul_residual_fitted fitted

/-- A baseline that varies has a slope of its own, and one that does not has the slope zero.
Either way the residuals are orthogonal to it. -/
theorem baselines_orthogonal :
    slope [1, 5, 0, 4] [1, 2, 3, 6] = 5 / 14 ∧
    (exists residuals, residualize [1, 5, 0, 4] [1, 2, 3, 6] = .ok residuals ∧
      residuals.length = 4 ∧ residuals.sum = 0 ∧
      (List.zipWith (fun x residual => x * residual) [1, 2, 3, 6] residuals).sum = 0) ∧
    slope [1, 5, 0] [2, 2, 2] = 0 ∧
    exists residuals, residualize [1, 5, 0] [2, 2, 2] = .ok residuals ∧
      residuals.length = 3 ∧ residuals.sum = 0 ∧
      (List.zipWith (fun x residual => x * residual) [2, 2, 2] residuals).sum = 0 :=
  ⟨by decide +kernel, residualize_orthogonal [1, 5, 0, 4] [1, 2, 3, 6] rfl (by decide),
    by decide +kernel, residualize_orthogonal [1, 5, 0] [2, 2, 2] rfl (by decide)⟩

end Samples

end ResearchIntelligence
end MarketIntelligence
