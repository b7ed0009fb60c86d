import MarketIntelligence.Strategies.Indicators
import Mathlib.Algebra.BigOperators.Group.List.Basic
import Mathlib.Tactic.Ring

namespace MarketIntelligence
namespace Strategies

open Foundations
open Causality

/-!
# Running averages and their definitions

The loop of the simple average adds the price that enters the window and takes away the one
that leaves it, so that its state is the difference of two totals from the start.

The signal line averages the defined values of the convergence line by themselves.  At a
defined place stands the last average of the values defined up to there.
-/

/-! ## The simple average -/

section Simple

variable {values : List Rat} {period place : Nat}

theorem sum_slice {start stop : Nat} (order : start ≤ stop) :
    (slice start stop values).sum = (values.take stop).sum - (values.take start).sum := by
  rw [take_eq_append_slice order, List.sum_append, add_sub_cancel_left]

/-- The total of the last `period` prices before a place, or of all when there are fewer. -/
def windowTotal (values : List Rat) (period place : Nat) : Rat :=
  (slice (place - period) place values).sum

/-- The mean of the last `period` prices. -/
def windowMean (period : Nat) (values : List Rat) (place : Nat) : Option Rat :=
  if period - 1 ≤ place then some (windowTotal values period (place + 1) / period) else none

/-- One pass of the loop moves the window on. -/
theorem averageStep_window (positive : 0 < period) {value : Rat}
    (found : values[place]? = some value) :
    averageStep values period (windowTotal values period place) (value, place) =
      (windowTotal values period (place + 1), windowMean period values place) := by
  rcases List.getElem?_eq_some_iff.mp found with ⟨bound, same⟩
  have moved : (if period ≤ place then
      windowTotal values period place + value - values.getD (place - period) 0
      else windowTotal values period place + value) = windowTotal values period (place + 1) := by
    rw [windowTotal, windowTotal, sum_slice (Nat.sub_le _ _), sum_slice (Nat.sub_le _ _),
      List.sum_take_succ _ _ bound, same]
    by_cases full : period ≤ place
    · have inside : place - period < values.length := by omega
      have next : place + 1 - period = place - period + 1 := by omega
      rw [if_pos full, next, List.sum_take_succ _ _ inside, List.getD_eq_getElem?_getD,
        List.getElem?_eq_getElem inside, Option.getD_some]
      ring
    · have still : place - period = place + 1 - period := by omega
      rw [if_neg full, still]
      ring
  rw [averageStep]
  dsimp only
  rw [moved, windowMean]

theorem simpleMovingAverage_eq (values : List Rat) {period : Int} (positive : 0 < period) :
    simpleMovingAverage values period = .ok (byPlace (windowMean period.toNat) values) := by
  rw [simpleMovingAverage, if_neg (not_le.mpr positive)]
  have empty : windowTotal values period.toNat 0 = 0 := by
    rw [windowTotal, slice, List.take_zero, List.drop_nil, List.sum_nil]
  have means : scan (averageStep values period.toNat) (windowTotal values period.toNat 0)
      values.zipIdx = (List.range values.zipIdx.length).map (windowMean period.toNat values) := by
    apply scan_eq_map_range
    rintro place ⟨value, index⟩ found
    rw [List.getElem?_zipIdx, Nat.zero_add] at found
    rcases Option.map_eq_some_iff.mp found with ⟨price, at_, same⟩
    cases same
    exact averageStep_window (by omega) at_
  rw [empty, List.length_zipIdx] at means
  exact congrArg Except.ok means

end Simple

/-! ## The signal line -/

section Signals

variable {values : List Rat} {fast slow signal place : Nat}

theorem startsAt_exponential {period : Nat} (positive : 0 < period) (values : List Rat) :
    StartsAt (period - 1) (exponential period values) :=
  startsAt_smoothed positive _ _ values

theorem length_exponential {period : Nat} (positive : 0 < period) (values : List Rat) :
    (exponential period values).length = values.length :=
  length_smoothed positive

theorem difference_isSome (first second : Option Rat) :
    (difference first second).isSome = true <-> first.isSome = true ∧ second.isSome = true := by
  cases first with
  | none => exact iff_of_false Bool.false_ne_true fun both => Bool.false_ne_true both.1
  | some value =>
      cases second with
      | none => exact iff_of_false Bool.false_ne_true fun both => Bool.false_ne_true both.2
      | some other => exact iff_of_true rfl ⟨rfl, rfl⟩

/-- The convergence is defined where the slow average is. -/
theorem startsAt_macdLine (positive : 0 < fast) (order : fast < slow) :
    StartsAt (slow - 1) (macdLine values fast slow) := by
  intro place value found
  rw [macdLine, List.getElem?_zipWith] at found
  cases first : (exponential fast values)[place]? with
  | none =>
      rw [first] at found
      cases found
  | some quick =>
      cases second : (exponential slow values)[place]? with
      | none =>
          rw [first, second] at found
          cases found
      | some late =>
          rw [first, second] at found
          cases found
          rw [difference_isSome, startsAt_exponential positive values place quick first,
            startsAt_exponential (positive.trans order) values place late second]
          omega

theorem length_macdLine (positive : 0 < fast) (slower : 0 < slow) :
    (macdLine values fast slow).length = values.length := by
  rw [macdLine, List.length_zipWith, length_exponential positive, length_exponential slower,
    min_self]

/-- The values of the convergence line that are defined up to a place. -/
def definedUpTo (series : List (Option Rat)) (place : Nat) : List Rat :=
  (series.take (place + 1)).filterMap id

/-- The last average of a series, where there is one. -/
def lastAverage (period : Nat) (values : List Rat) : Option Rat :=
  (exponential period values).getLast?.join

theorem length_definedUpTo {series : List (Option Rat)} {lead : Nat} (starts : StartsAt lead series)
    (inside : place < series.length) : (definedUpTo series place).length = place + 1 - lead := by
  rw [definedUpTo, (starts.take _).length_filterMap, List.length_take, min_eq_left inside]

/-- The last average is defined when there are as many values as its period. -/
theorem lastAverage_isSome (positive : 0 < signal) (values : List Rat) :
    (lastAverage signal values).isSome = true <-> signal ≤ values.length := by
  rw [lastAverage, List.getLast?_eq_getElem?, length_exponential positive]
  cases found : (exponential signal values)[values.length - 1]? with
  | none =>
      have beyond := List.getElem?_eq_none_iff.mp found
      rw [length_exponential positive] at beyond
      exact iff_of_false Bool.false_ne_true (by omega)
  | some average =>
      have inside := (List.getElem?_eq_some_iff.mp found).1
      rw [length_exponential positive] at inside
      have starts := startsAt_exponential positive values (values.length - 1) average found
      rw [Option.join_some, starts]
      omega

/-- A defined place gets the last average of the values defined up to it. -/
theorem spread_last {series : List (Option Rat)} (signals : 0 < signal) {value : Rat}
    (found : series[place]? = some (some value)) :
    (spread (exponential signal (series.filterMap id)) 0 series)[place]? =
      some (lastAverage signal (definedUpTo series place)) := by
  have next : definedUpTo series place = (series.take place).filterMap id ++ [value] := by
    rw [definedUpTo, List.take_add_one, found, List.filterMap_append]
    rfl
  have count : (definedUpTo series place).length = ((series.take place).filterMap id).length + 1 := by
    rw [next, List.length_append, List.length_singleton]
  have compact : definedUpTo series place <+: series.filterMap id :=
    (List.take_prefix (place + 1) series).filterMap id
  have averages : exponential signal (definedUpTo series place) =
      (exponential signal (series.filterMap id)).take (definedUpTo series place).length := by
    rw [← causal_exponential signals, ← List.prefix_iff_eq_take.mp compact]
  rw [getElem?_spread found, lastAverage, List.getLast?_eq_getElem?, length_exponential signals,
    averages, count, Nat.add_sub_cancel, List.getElem?_take_of_lt (Nat.lt_succ_self _),
    Nat.zero_add, List.getD_eq_getElem?_getD]
  cases (exponential signal (series.filterMap id))[((series.take place).filterMap id).length]? with
  | none => rfl
  | some average => rfl

theorem signalLine_last (positive : 0 < fast) (order : fast < slow) (signals : 0 < signal)
    (inside : place < values.length) :
    (signalLine values fast slow signal)[place]? =
      some (lastAverage signal (definedUpTo (macdLine values fast slow) place)) := by
  have starts : StartsAt (slow - 1) (macdLine values fast slow) := startsAt_macdLine positive order
  have within : place < (macdLine values fast slow).length := by
    rw [length_macdLine positive (positive.trans order)]
    exact inside
  have found : (macdLine values fast slow)[place]? = some (macdLine values fast slow)[place] :=
    List.getElem?_eq_getElem within
  cases defined : (macdLine values fast slow)[place] with
  | some value =>
      rw [defined] at found
      exact spread_last signals found
  | none =>
      rw [defined] at found
      have early : ¬ slow - 1 ≤ place :=
        fun late => Bool.false_ne_true ((starts place none found).mpr late)
      have few : (definedUpTo (macdLine values fast slow) place).length = 0 := by
        rw [length_definedUpTo starts within]
        omega
      have missing : lastAverage signal (definedUpTo (macdLine values fast slow) place) = none := by
        rw [← Option.not_isSome_iff_eq_none, lastAverage_isSome signals, few]
        exact not_le.mpr signals
      rw [missing, signalLine, getElem?_spread found]
      rfl

end Signals

/-! ## Both definitions -/

/-- What the averages of a series are, place by place, and when they raise.  Places before the
first full window are undefined. -/
structure RunningAverages (values : List Rat) : Prop where
  /-- Each place has the mean of the last prices, from the first full window on. -/
  simple : forall period : Int, 0 < period -> exists series,
    simpleMovingAverage values period = .ok series ∧ series.length = values.length ∧
      forall place, place < values.length -> series[place]? = some
        (if period - 1 ≤ place then
          some ((slice (place + 1 - period.toNat) (place + 1) values).sum / period)
        else none)
  /-- Only periods that are not positive raise. -/
  returns : forall fast slow signal : Int, 0 < fast -> fast < slow -> 1 ≤ signal -> exists lines,
    movingAverageConvergenceDivergence values fast slow signal = .ok lines
  /-- Each place has the last average of the values defined up to it. -/
  signal : forall fast slow signal : Int, fast < slow -> 1 ≤ signal -> forall macd series bars,
    movingAverageConvergenceDivergence values fast slow signal = .ok (macd, series, bars) ->
      series.length = values.length ∧ forall place, place < values.length ->
        exists averages average, exponentialMovingAverage (definedUpTo macd place) signal =
            .ok averages ∧ series[place]? = some average ∧ average = averages.getLast?.join ∧
          (average.isSome = true <-> slow + signal - 2 ≤ place)

/-- The averages of a series are the means of their windows, and the signal line of the MACD is
the average of the differences that are defined up to each place. -/
theorem runningAverages (values : List Rat) : RunningAverages values where
  simple := by
    intro period positive
    refine ⟨_, simpleMovingAverage_eq values positive, ?_, ?_⟩
    · rw [byPlace, List.length_map, List.length_range]
    · intro place inside
      have same : (period.toNat : Rat) = period := by
        exact_mod_cast Int.toNat_of_nonneg positive.le
      rw [byPlace, List.getElem?_map, List.getElem?_range inside, Option.map_some, windowMean,
        windowTotal, same]
      congr 1
      exact if_congr (by omega) rfl rfl
  returns := by
    intro fast slow signal positive order signals
    rw [movingAverageConvergenceDivergence, if_neg (not_le.mpr order),
      exponentialMovingAverage_ok positive, exponentialMovingAverage_ok (positive.trans order)]
    dsimp only [bind, Except.bind]
    rw [exponentialMovingAverage_ok (by omega)]
    exact ⟨_, rfl⟩
  signal := by
    intro fast slow signal order signals macd series bars done
    rcases movingAverageConvergenceDivergence_cases fast slow signal with
      ⟨raised, stops⟩ | ⟨positive, slower, _, returns⟩
    · rw [stops] at done
      cases done
    · rw [returns] at done
      cases done
      have quick : 0 < fast.toNat := by omega
      have earlier : fast.toNat < slow.toNat := by omega
      have asks : 0 < signal.toNat := by omega
      have length : (macdLine values fast.toNat slow.toNat).length = values.length :=
        length_macdLine quick (by omega)
      constructor
      · exact (length_scan _ _).trans length
      · intro place inside
        refine ⟨_, _, exponentialMovingAverage_ok (by omega) _,
          signalLine_last quick earlier asks inside, rfl, ?_⟩
        rw [lastAverage_isSome asks, length_definedUpTo (startsAt_macdLine quick earlier)
          (length ▸ inside)]
        omega

end Strategies
end MarketIntelligence
