import MarketIntelligence.Foundations.Causality
import Mathlib.Algebra.Order.Field.Basic
import Mathlib.Data.Rat.Cast.Order

namespace MarketIntelligence
namespace Strategies

open Foundations
open Causality

/-!
# Indicators

The indicators of the strategies, in exact arithmetic, with the square root as a parameter.
A place that an indicator leaves out holds nothing.

A strategy calls an indicator on the prices up to its own place.  Every indicator gives on
a prefix of the prices what it gives there on the whole series, so the call sees no later
price.
-/

inductive IndicatorError where
  | value (message : String)
  | zeroDivision
  deriving DecidableEq, Repr

/-! ## Averages -/

section Averages

/-- One pass of the loop: the window loses the price that leaves it. -/
def averageStep (values : List Rat) (period : Nat) (rolling : Rat) (entry : Rat × Nat) :
    Rat × Option Rat :=
  let entered := rolling + entry.1
  let rolling :=
    if period ≤ entry.2 then entered - values.getD (entry.2 - period) 0 else entered
  (rolling, if period - 1 ≤ entry.2 then some (rolling / period) else none)

def simpleMovingAverage (values : List Rat) (period : Int) :
    Except IndicatorError (List (Option Rat)) :=
  if period ≤ 0 then .error (.value "period must be positive")
  else .ok (scan (averageStep values period.toNat) 0 values.zipIdx)

def mean (values : List Rat) (period : Nat) : Rat := values.sum / period

def exponentialStep (period : Nat) (current value : Rat) : Rat :=
  (value - current) * (2 / (period + 1)) + current

def exponentialMovingAverage (values : List Rat) (period : Int) :
    Except IndicatorError (List (Option Rat)) :=
  if period ≤ 0 then .error (.value "period must be positive")
  else .ok (smoothed period.toNat (mean · period.toNat) (exponentialStep period.toNat) values)

end Averages

/-! ## Relative strength index -/

section RelativeStrengthIndex

/-- `numeric[index] - numeric[index - 1]`, from the second place on. -/
def changes (values : List Rat) : List Rat :=
  (List.range (values.length - 1)).map fun place =>
    values.getD (place + 1) 0 - values.getD place 0

/-- The gains and the losses are not negative, so that no divisor is zero. -/
def rsi (averages : Rat × Rat) : Rat :=
  if averages.2 = 0 then if 0 < averages.1 then 100 else 50
  else 100 - 100 / (1 + averages.1 / averages.2)

def gainsAndLosses (period : Nat) (changes : List Rat) : Rat × Rat :=
  ((changes.map fun change => max change 0).sum / period,
    (changes.map fun change => max (-change) 0).sum / period)

def strengthStep (period : Nat) (averages : Rat × Rat) (change : Rat) : Rat × Rat :=
  ((averages.1 * (period - 1) + max change 0) / period,
    (averages.2 * (period - 1) + max (-change) 0) / period)

def strengths (values : List Rat) (period : Nat) : List (Option Rat) :=
  if values.length ≤ period then List.replicate values.length none
  else
    (warmedUp period (strengthStep period) (gainsAndLosses period ((changes values).take period))
      ((changes values).drop period)).map (Option.map rsi)

def relativeStrengthIndex (values : List Rat) (period : Int := 14) :
    Except IndicatorError (List (Option Rat)) :=
  if period ≤ 0 then .error (.value "period must be positive")
  else .ok (strengths values period.toNat)

end RelativeStrengthIndex

/-! ## Moving average convergence and divergence -/

section Convergence

def difference : Option Rat -> Option Rat -> Option Rat
  | some value, some other => some (value - other)
  | _, _ => none

/-- The defined values are averaged by themselves, and the averages put back in their
places. -/
def movingAverageConvergenceDivergence (values : List Rat) (fast : Int := 12) (slow : Int := 26)
    (signal : Int := 9) :
    Except IndicatorError (List (Option Rat) × List (Option Rat) × List (Option Rat)) :=
  if slow ≤ fast then .error (.value "fast period must be less than slow period")
  else do
    let fastValues ← exponentialMovingAverage values fast
    let slowValues ← exponentialMovingAverage values slow
    let macd := List.zipWith difference fastValues slowValues
    let signalValid ← exponentialMovingAverage (macd.filterMap id) signal
    let signalLine := spread signalValid 0 macd
    return (macd, signalLine, List.zipWith difference macd signalLine)

end Convergence

/-! ## True range -/

section TrueRange

variable (highs lows closes : List Rat)

def trueRange (index : Nat) : Rat :=
  let high := highs.getD index 0
  let low := lows.getD index 0
  if index = 0 then high - low
  else
    let previousClose := closes.getD (index - 1) 0
    max (max (high - low) |high - previousClose|) |low - previousClose|

def trueRanges : List Rat :=
  (List.range highs.length).map (trueRange highs lows closes)

def rangeStep (period : Nat) (current range : Rat) : Rat :=
  (current * (period - 1) + range) / period

def averageTrueRange (period : Int := 14) : Except IndicatorError (List (Option Rat)) :=
  if ¬ (highs.length = lows.length ∧ lows.length = closes.length) then
    .error (.value "high, low, and close series must be the same length")
  else if period ≤ 0 then .error (.value "period must be positive")
  else .ok (smoothed period.toNat (mean · period.toNat) (rangeStep period.toNat)
    (trueRanges highs lows closes))

end TrueRange

/-! ## Returns -/

section Returns

def returnAt (values : List Rat) (index : Nat) : Option Rat :=
  if index = 0 then none
  else
    let previous := values.getD (index - 1) 0
    if previous = 0 then none else some (values.getD index 0 / previous - 1)

def dailyReturn (values : List Rat) : List (Option Rat) :=
  byPlace returnAt values

/-- `sum((value - mean) ** 2 for value in window) / max(period - 1, 1)` -/
def variance (window : List Rat) (period : Int) : Rat :=
  (window.map fun value => (value - window.sum / period) ^ 2).sum / max (period - 1) 1

/-- A negative period has no window of its length. -/
def volatilityAt (sqrt : Rat -> Rat) (period annualization : Int) (returns : List (Option Rat))
    (index : Nat) : Option Rat :=
  if period ≤ index then
    let window := (slice (index - period + 1).toNat (index + 1) returns).filterMap id
    if (window.length : Int) = period then some (sqrt (variance window period) * sqrt annualization)
    else none
  else none

/-- A period of zero divides by it at the first place. -/
def rollingVolatility (sqrt : Rat -> Rat) (values : List Rat) (period : Int := 20)
    (annualization : Int := 252) :
    Except IndicatorError (List (Option Rat)) :=
  if period = 0 ∧ values ≠ [] then .error .zeroDivision
  else .ok (byPlace (volatilityAt sqrt period annualization) (dailyReturn values))

/-- The ratio of the ratios, to the first one. -/
def strengthAgainst (baseRatio value benchmark : Rat) : Option Rat :=
  if benchmark ≠ 0 ∧ baseRatio ≠ 0 then some (value / benchmark / baseRatio - 1) else none

def relativeStrength (values benchmarkValues : List Rat) :
    Except IndicatorError (List (Option Rat)) :=
  if values.length ≠ benchmarkValues.length then
    .error (.value "asset and benchmark series must be the same length")
  else if values = [] then .ok []
  else if benchmarkValues.headD 0 = 0 then .error .zeroDivision
  else .ok (List.zipWith
    (strengthAgainst (values.headD 0 / benchmarkValues.headD 0)) values benchmarkValues)

end Returns

/-! ## Drawdown -/

section Drawdown

/-- `max(values)` -/
def peak : List Rat -> Rat
  | [] => 0
  | first :: rest => rest.foldl max first

/-- `0 if period is None else max(0, index - period + 1)` -/
def windowStart (period : Option Int) (index : Nat) : Nat :=
  match period with
  | none => 0
  | some period => (index - period + 1).toNat

def drawdownAt (period : Option Int) (values : List Rat) (index : Nat) : Option Rat :=
  let highest := peak (slice (windowStart period index) (index + 1) values)
  if highest = 0 then none else some (values.getD index 0 / highest - 1)

/-- Without a positive period the first window is empty. -/
def rollingDrawdown (values : List Rat) (period : Option Int := none) :
    Except IndicatorError (List (Option Rat)) :=
  if (period.any fun length => length ≤ 0) ∧ values ≠ [] then
    .error (.value "max() iterable argument is empty")
  else .ok (byPlace (drawdownAt period) values)

end Drawdown

/-! ## Every indicator on a prefix -/

section Prefixes

variable (values : List Rat) (count : Nat)

theorem simpleMovingAverage_take (period : Int) :
    simpleMovingAverage (values.take count) period =
      (simpleMovingAverage values period).map (List.take count) := by
  rw [simpleMovingAverage, simpleMovingAverage]
  split
  · rfl
  · have average : Causal fun values => scan (averageStep values period.toNat) 0 values.zipIdx := by
      refine causal_scan_zipIdx ?_ 0
      intro values count rolling entry before
      rw [averageStep, averageStep, getD_take (by omega)]
    exact congrArg Except.ok (average values count)

theorem exponentialMovingAverage_ok {period : Int} (positive : 0 < period) (values : List Rat) :
    exponentialMovingAverage values period =
      .ok (smoothed period.toNat (mean · period.toNat) (exponentialStep period.toNat) values) :=
  if_neg (not_le.mpr positive)

theorem exponentialMovingAverage_take (period : Int) :
    exponentialMovingAverage (values.take count) period =
      (exponentialMovingAverage values period).map (List.take count) := by
  rw [exponentialMovingAverage, exponentialMovingAverage]
  split
  · rfl
  · exact congrArg Except.ok (causal_smoothed (by omega) _ _ values count)

theorem changes_take : changes (values.take count) = (changes values).take (count - 1) := by
  have places : min count values.length - 1 = min (count - 1) (values.length - 1) := by omega
  rw [changes, changes, ← List.map_take, List.length_take, List.take_range, places]
  apply List.map_congr_left
  intro place member
  have before := (lt_min_iff.mp (List.mem_range.mp member)).1
  rw [getD_take (by omega), getD_take (by omega)]

theorem strengths_take (period : Nat) :
    strengths (values.take count) period = (strengths values period).take count := by
  rw [strengths, strengths, List.length_take]
  by_cases short : values.length ≤ period
  · rw [if_pos short, if_pos (le_trans (min_le_right _ _) short), List.take_replicate]
  by_cases early : count ≤ period
  · rw [if_neg short, if_pos (le_trans (min_le_left _ _) early), ← List.map_take,
      take_warmedUp_of_le early, List.map_replicate, min_eq_left (by omega)]
    rfl
  · have places : count - 1 - period = count - period - 1 := by omega
    rw [if_neg short, if_neg (by omega), ← List.map_take, take_warmedUp (by omega), changes_take,
      List.take_take, min_eq_left (by omega), List.drop_take, places]

theorem relativeStrengthIndex_take (period : Int) :
    relativeStrengthIndex (values.take count) period =
      (relativeStrengthIndex values period).map (List.take count) := by
  rw [relativeStrengthIndex, relativeStrengthIndex]
  split
  · rfl
  · exact congrArg Except.ok (strengths_take values count period.toNat)

theorem trueRange_take {index : Nat} (before : index < count) (highs lows closes : List Rat) :
    trueRange (highs.take count) (lows.take count) (closes.take count) index =
      trueRange highs lows closes index := by
  rw [trueRange, trueRange, getD_take before, getD_take before,
    getD_take (lt_of_le_of_lt (Nat.sub_le index 1) before)]

theorem trueRanges_take (highs lows closes : List Rat) :
    trueRanges (highs.take count) (lows.take count) (closes.take count) =
      (trueRanges highs lows closes).take count := by
  rw [trueRanges, trueRanges, ← List.map_take, List.length_take, List.take_range]
  apply List.map_congr_left
  intro index member
  exact trueRange_take count (lt_min_iff.mp (List.mem_range.mp member)).1 highs lows closes

theorem averageTrueRange_take {highs lows closes : List Rat}
    (bars : highs.length = lows.length ∧ lows.length = closes.length) (period : Int) :
    averageTrueRange (highs.take count) (lows.take count) (closes.take count) period =
      (averageTrueRange highs lows closes period).map (List.take count) := by
  have shorter : (highs.take count).length = (lows.take count).length ∧
      (lows.take count).length = (closes.take count).length := by
    rw [List.length_take, List.length_take, List.length_take, bars.1, bars.2]
    exact ⟨rfl, rfl⟩
  rw [averageTrueRange, averageTrueRange, if_neg (not_not_intro shorter),
    if_neg (not_not_intro bars)]
  split
  · rfl
  · rw [trueRanges_take]
    exact congrArg Except.ok (causal_smoothed (by omega) _ _ _ count)

theorem causal_dailyReturn : Causal dailyReturn := by
  apply causal_byPlace
  intro values count index before _
  rw [returnAt, returnAt, getD_take before, getD_take (lt_of_le_of_lt (Nat.sub_le index 1) before)]

theorem rollingVolatility_take (sqrt : Rat -> Rat) {period : Int} (positive : 0 < period)
    (annualization : Int) :
    rollingVolatility sqrt (values.take count) period annualization =
      (rollingVolatility sqrt values period annualization).map (List.take count) := by
  have places : Causal (byPlace (volatilityAt sqrt period annualization)) := by
    apply causal_byPlace
    intro returns count index before _
    rw [volatilityAt, volatilityAt, slice_take before]
  rw [rollingVolatility, rollingVolatility, if_neg fun zero => positive.ne' zero.1,
    if_neg fun zero => positive.ne' zero.1]
  exact congrArg Except.ok (places.comp causal_dailyReturn values count)

theorem relativeStrength_take {values benchmarkValues : List Rat}
    (paired : values.length = benchmarkValues.length)
    (nonzero : forall price, price ∈ benchmarkValues -> price ≠ 0) :
    relativeStrength (values.take count) (benchmarkValues.take count) =
      (relativeStrength values benchmarkValues).map (List.take count) := by
  have shorter : (values.take count).length = (benchmarkValues.take count).length := by
    rw [List.length_take, List.length_take, paired]
  rw [relativeStrength, relativeStrength, if_neg (not_not_intro shorter),
    if_neg (not_not_intro paired)]
  cases values with
  | nil =>
      rw [List.take_nil, if_pos rfl, if_pos rfl]
      exact congrArg Except.ok List.take_nil.symm
  | cons value rest =>
      cases benchmarkValues with
      | nil => cases paired
      | cons price others =>
          have divides : ¬ (price :: others).headD 0 = 0 := nonzero price List.mem_cons_self
          rw [if_neg (List.cons_ne_nil value rest), if_neg divides]
          cases count with
          | zero => rfl
          | succ count =>
              have still : ¬ (price :: others.take count).headD 0 = 0 := divides
              rw [List.take_succ_cons, List.take_succ_cons, if_neg (List.cons_ne_nil _ _),
                if_neg still]
              have pairs : (List.zipWith (strengthAgainst (value / price)) (value :: rest)
                  (price :: others)).take (count + 1) =
                  List.zipWith (strengthAgainst (value / price)) ((value :: rest).take (count + 1))
                    ((price :: others).take (count + 1)) := List.take_zipWith
              exact congrArg Except.ok pairs.symm

theorem rollingDrawdown_take {period : Option Int}
    (positive : forall length, period = some length -> 0 < length) :
    rollingDrawdown (values.take count) period =
      (rollingDrawdown values period).map (List.take count) := by
  have places : Causal (byPlace (drawdownAt period)) := by
    apply causal_byPlace
    intro values count index before _
    rw [drawdownAt, drawdownAt, slice_take before, getD_take before]
  have longer : ¬ (period.any fun length => length ≤ 0) = true := by
    cases period with
    | none => exact Bool.false_ne_true
    | some length =>
        intro empty
        exact absurd (positive length rfl) (not_lt.mpr (of_decide_eq_true empty))
  rw [rollingDrawdown, rollingDrawdown, if_neg fun empty => longer empty.1,
    if_neg fun empty => longer empty.1]
  exact congrArg Except.ok (places values count)

/-! ### Convergence and divergence -/

variable (fast slow signal : Nat)

/-- The exponential average of a positive period. -/
def exponential (period : Nat) (values : List Rat) : List (Option Rat) :=
  smoothed period (mean · period) (exponentialStep period) values

def macdLine : List (Option Rat) :=
  List.zipWith difference (exponential fast values) (exponential slow values)

def signalLine : List (Option Rat) :=
  spread (exponential signal ((macdLine values fast slow).filterMap id)) 0
    (macdLine values fast slow)

def histogram : List (Option Rat) :=
  List.zipWith difference (macdLine values fast slow) (signalLine values fast slow signal)

theorem causal_exponential {period : Nat} (positive : 0 < period) : Causal (exponential period) :=
  causal_smoothed positive _ _

variable {fast slow signal}

theorem causal_macdLine (positive : 0 < fast) (slower : 0 < slow) :
    Causal fun values => macdLine values fast slow :=
  (causal_exponential positive).zipWith difference (causal_exponential slower)

theorem causal_signalLine (positive : 0 < fast) (slower : 0 < slow) (signals : 0 < signal) :
    Causal fun values => signalLine values fast slow signal :=
  (causal_spread (causal_exponential signals)).comp (causal_macdLine positive slower)

theorem causal_histogram (positive : 0 < fast) (slower : 0 < slow) (signals : 0 < signal) :
    Causal fun values => histogram values fast slow signal :=
  (causal_macdLine positive slower).zipWith difference (causal_signalLine positive slower signals)

/-- What raises depends on the periods alone. -/
theorem movingAverageConvergenceDivergence_cases (fast slow signal : Int) :
    (exists raised, forall values,
      movingAverageConvergenceDivergence values fast slow signal = .error raised) ∨
      (0 < fast ∧ 0 < slow ∧ 0 < signal ∧ forall values,
        movingAverageConvergenceDivergence values fast slow signal =
          .ok (macdLine values fast.toNat slow.toNat,
            signalLine values fast.toNat slow.toNat signal.toNat,
            histogram values fast.toNat slow.toNat signal.toNat)) := by
  by_cases order : slow ≤ fast
  · exact Or.inl ⟨_, fun values => if_pos order⟩
  by_cases positive : 0 < fast
  · have slower : 0 < slow := by omega
    by_cases signals : 0 < signal
    · refine Or.inr ⟨positive, slower, signals, fun values => ?_⟩
      rw [movingAverageConvergenceDivergence, if_neg order, exponentialMovingAverage_ok positive,
        exponentialMovingAverage_ok slower]
      dsimp only [bind, Except.bind]
      rw [exponentialMovingAverage_ok signals]
      rfl
    · refine Or.inl ⟨.value "period must be positive", fun values => ?_⟩
      rw [movingAverageConvergenceDivergence, if_neg order, exponentialMovingAverage_ok positive,
        exponentialMovingAverage_ok slower]
      dsimp only [bind, Except.bind]
      rw [exponentialMovingAverage, if_pos (not_lt.mp signals)]
  · refine Or.inl ⟨.value "period must be positive", fun values => ?_⟩
    rw [movingAverageConvergenceDivergence, if_neg order, exponentialMovingAverage,
      if_pos (not_lt.mp positive)]
    rfl

/-- The lines up to a place. -/
def linesUpTo (count : Nat) (lines : List (Option Rat) × List (Option Rat) × List (Option Rat)) :
    List (Option Rat) × List (Option Rat) × List (Option Rat) :=
  (lines.1.take count, lines.2.1.take count, lines.2.2.take count)

theorem movingAverageConvergenceDivergence_take (fast slow signal : Int) :
    movingAverageConvergenceDivergence (values.take count) fast slow signal =
      (movingAverageConvergenceDivergence values fast slow signal).map (linesUpTo count) := by
  rcases movingAverageConvergenceDivergence_cases fast slow signal with
    ⟨raised, stops⟩ | ⟨positive, slower, signals, returns⟩
  · rw [stops, stops]
    rfl
  · have macd : macdLine (values.take count) fast.toNat slow.toNat =
        (macdLine values fast.toNat slow.toNat).take count :=
      causal_macdLine (by omega) (by omega) values count
    have line : signalLine (values.take count) fast.toNat slow.toNat signal.toNat =
        (signalLine values fast.toNat slow.toNat signal.toNat).take count :=
      causal_signalLine (by omega) (by omega) (by omega) values count
    have bars : histogram (values.take count) fast.toNat slow.toNat signal.toNat =
        (histogram values fast.toNat slow.toNat signal.toNat).take count :=
      causal_histogram (by omega) (by omega) (by omega) values count
    rw [returns, returns, macd, line, bars]
    rfl

/-- The signals stand where the convergence is defined, and are the averages of the defined
values in their order. -/
def Aligned (signal : Int) (macd signalLine : List (Option Rat)) : Prop :=
  exponentialMovingAverage (macd.filterMap id) signal =
      .ok ((macd.zip signalLine).filterMap fun entry => entry.1.map fun _ => entry.2) ∧
    forall found, (none, found) ∈ macd.zip signalLine -> found = none

theorem movingAverageConvergenceDivergence_aligned {fast slow signal : Int}
    {macd line bars : List (Option Rat)}
    (done : movingAverageConvergenceDivergence values fast slow signal = .ok (macd, line, bars)) :
    Aligned signal macd line := by
  rcases movingAverageConvergenceDivergence_cases fast slow signal with
    ⟨raised, stops⟩ | ⟨_, _, signals, returns⟩
  · rw [stops] at done
    cases done
  · rw [returns] at done
    cases done
    have length : (exponential signal.toNat
        ((macdLine values fast.toNat slow.toNat).filterMap id)).length =
        ((macdLine values fast.toNat slow.toNat).filterMap id).length :=
      length_smoothed (by omega)
    refine ⟨?_, fun found member => spread_undefined member⟩
    rw [signalLine, spread_defined (by omega), List.drop_zero, ← length, List.take_length]
    exact exponentialMovingAverage_ok signals _

end Prefixes

/-! ## All indicators -/

/-- The series that the indicators are called on.  An asset is paired with its benchmark, and
the bars have a high, a low and a close. -/
structure PriceSeries where
  values : List Rat
  benchmarkValues : List Rat
  highs : List Rat
  lows : List Rat
  closes : List Rat
  paired : values.length = benchmarkValues.length
  bars : highs.length = lows.length ∧ lows.length = closes.length
  nonzero : forall price, price ∈ benchmarkValues -> price ≠ 0

/-- What every indicator gives on the prices up to a place is what it gives there on all
prices. -/
structure SeesNoLater (sqrt : Rat -> Rat) (series : PriceSeries) (period annualization : Int)
    (fast slow signal : Int) (window : Option Int) (count : Nat) : Prop where
  simpleMovingAverage : simpleMovingAverage (series.values.take count) period =
    (simpleMovingAverage series.values period).map (List.take count)
  exponentialMovingAverage : exponentialMovingAverage (series.values.take count) period =
    (exponentialMovingAverage series.values period).map (List.take count)
  relativeStrengthIndex : relativeStrengthIndex (series.values.take count) period =
    (relativeStrengthIndex series.values period).map (List.take count)
  convergence :
    movingAverageConvergenceDivergence (series.values.take count) fast slow signal =
      (movingAverageConvergenceDivergence series.values fast slow signal).map (linesUpTo count)
  averageTrueRange : averageTrueRange (series.highs.take count) (series.lows.take count)
      (series.closes.take count) period =
    (averageTrueRange series.highs series.lows series.closes period).map (List.take count)
  dailyReturn : dailyReturn (series.values.take count) = (dailyReturn series.values).take count
  rollingVolatility : rollingVolatility sqrt (series.values.take count) period annualization =
    (rollingVolatility sqrt series.values period annualization).map (List.take count)
  relativeStrength :
    relativeStrength (series.values.take count) (series.benchmarkValues.take count) =
      (relativeStrength series.values series.benchmarkValues).map (List.take count)
  rollingDrawdown : rollingDrawdown (series.values.take count) window =
    (rollingDrawdown series.values window).map (List.take count)
  aligned : forall macd line bars,
    movingAverageConvergenceDivergence series.values fast slow signal = .ok (macd, line, bars) ->
      Aligned signal macd line ∧ Aligned signal (macd.take count) (line.take count)

/-- No indicator sees a later place: on the first places of a series each of the nine gives the
first places of what it gives on the whole, and the lines of the MACD stay aligned. -/
theorem indicators_seeNoLater (sqrt : Rat -> Rat) (series : PriceSeries)
    {period : Int} (positive : 0 < period) (annualization fast slow signal : Int)
    {window : Option Int} (windowed : forall length, window = some length -> 0 < length)
    (count : Nat) :
    SeesNoLater sqrt series period annualization fast slow signal window count where
  simpleMovingAverage := simpleMovingAverage_take series.values count period
  exponentialMovingAverage := exponentialMovingAverage_take series.values count period
  relativeStrengthIndex := relativeStrengthIndex_take series.values count period
  convergence :=
    movingAverageConvergenceDivergence_take series.values count fast slow signal
  averageTrueRange := averageTrueRange_take count series.bars period
  dailyReturn := causal_dailyReturn series.values count
  rollingVolatility := rollingVolatility_take series.values count sqrt positive annualization
  relativeStrength := relativeStrength_take count series.paired series.nonzero
  rollingDrawdown := rollingDrawdown_take series.values count windowed
  aligned := by
    intro macd line bars done
    have shorter := movingAverageConvergenceDivergence_take series.values count fast slow signal
    rw [done] at shorter
    exact ⟨movingAverageConvergenceDivergence_aligned series.values done,
      movingAverageConvergenceDivergence_aligned (series.values.take count) shorter⟩

def quarter : PriceSeries where
  values := [10, 12, 9, 11]
  benchmarkValues := [100, 101, 102, 100]
  highs := [11, 13, 10, 12]
  lows := [9, 11, 8, 10]
  closes := [10, 12, 9, 11]
  paired := rfl
  bars := ⟨rfl, rfl⟩
  nonzero := by decide

theorem quarter_seesNoLater :
    SeesNoLater (fun value => value) quarter 2 252 1 2 2 (some 3) 2 :=
  indicators_seeNoLater _ quarter (by decide) 252 1 2 2 (by
    intro length same
    cases same
    decide) 2

end Strategies
end MarketIntelligence
