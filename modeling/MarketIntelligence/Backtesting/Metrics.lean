import MarketIntelligence.Backtesting.Solvency
import MarketIntelligence.Foundations.RunningMaxima
import MarketIntelligence.Strategies.Indicators

namespace MarketIntelligence
namespace Backtesting

open Foundations
open RunningMaxima

/-!
# The metrics of a backtest

`calculate_metrics` in exact arithmetic, with the square root and the power as parameters.  It is
the last step of a backtest, and the power of the annualized return is what can raise there.

It takes the maximum drawdown from the snapshots, where the engine has put each equity's decline
from the largest one so far.  That single pass is compared with every way to enter the account at
one value and to leave it at a later one, which agree as long as the account is not overdrawn.
-/

/-! ## The calculation -/

/-- The functions of the reals that the metrics use.  A power out of the range of a float raises
`OverflowError`. -/
structure Numerics where
  sqrt : Rat -> Rat
  power : Rat -> Rat -> Option Rat

inductive MetricsError where
  | valueError (text : String)
  | zeroDivisionError
  | overflowError
  deriving DecidableEq, Repr

structure Metrics where
  totalReturn : Rat
  annualizedReturn : Rat
  annualizedVolatility : Rat
  sharpeRatio : Rat
  sortinoRatio : Rat
  maximumDrawdown : Rat
  calmarRatio : Rat
  winRate : Rat
  profitFactor : Rat
  averageGain : Rat
  averageLoss : Rat
  turnover : Rat
  numberOfTrades : Nat
  averageHoldingPeriod : Rat
  benchmarkReturn : Rat
  excessReturn : Rat
  finalEquity : Rat
  cashBalance : Rat
  exposure : Rat
  deriving DecidableEq, Repr

/-- `fmean(values) if values else 0.0` -/
def meanOrZero (values : List Rat) : Rat :=
  if values = [] then 0 else values.sum / values.length

/-- `stdev(values) if len(values) > 1 else 0.0` -/
def deviationOrZero (sqrt : Rat -> Rat) (values : List Rat) : Rat :=
  if 1 < values.length then sqrt (Strategies.variance values values.length) else 0

/-- `value / divisor if divisor else otherwise` -/
def ratioOr (otherwise value divisor : Rat) : Rat :=
  if divisor = 0 then otherwise else value / divisor

/-- The returns over the days that start with some equity. -/
def dailyReturns (equities : List Rat) : List Rat :=
  ((equities.zip equities.tail).filter fun pair => pair.1 ≠ 0).map fun pair => pair.2 / pair.1 - 1

/-- `timedelta.days / 365.25`, at least one trading day. -/
def elapsedYears (first last : DailySnapshot) : Rat :=
  max (((last.eventTime - first.eventTime) / 86400000000 : Int) / (1461 / 4)) (1 / 252)

/-- The annualized return, if its power can be represented. -/
def annualizedReturn (numerics : Numerics) (initialCash : Rat) (first last : DailySnapshot) :
    Option Rat :=
  if 0 < last.equity then
    (numerics.power (last.equity / initialCash) (1 / elapsedYears first last)).map (· - 1)
  else some (-1)

def metricsOf (numerics : Numerics) (snapshots : List DailySnapshot) (trades : List SimulatedTrade)
    (initialCash : Rat) (last : DailySnapshot) (annualizedReturn : Rat) : Metrics :=
  let equities := snapshots.map DailySnapshot.equity
  let returns := dailyReturns equities
  let totalReturn := last.equity / initialCash - 1
  let meanReturn := meanOrZero returns
  let deviation := deviationOrZero numerics.sqrt returns
  let downsideDeviation :=
    if returns = [] then 0
    else numerics.sqrt (meanOrZero (returns.map fun value => min value 0 * min value 0))
  let maximumDrawdown := ((snapshots.map DailySnapshot.drawdown).min?).getD 0
  let sales := trades.filter fun trade => trade.side = .sell
  let realized := sales.map SimulatedTrade.realizedPnl
  let gains := realized.filter fun value => 0 < value
  let losses := realized.filter fun value => value < 0
  let benchmarkReturn := last.benchmarkValue / initialCash - 1
  { totalReturn := totalReturn
    annualizedReturn := annualizedReturn
    annualizedVolatility := deviation * numerics.sqrt 252
    sharpeRatio := ratioOr 0 meanReturn deviation * numerics.sqrt 252
    sortinoRatio := ratioOr 0 meanReturn downsideDeviation * numerics.sqrt 252
    maximumDrawdown := maximumDrawdown
    calmarRatio := ratioOr 0 annualizedReturn |maximumDrawdown|
    winRate := ratioOr 0 gains.length realized.length
    profitFactor := ratioOr gains.sum gains.sum |losses.sum|
    averageGain := meanOrZero gains
    averageLoss := meanOrZero losses
    turnover := ratioOr 0 (trades.map SimulatedTrade.grossValue).sum (meanOrZero equities)
    numberOfTrades := trades.length
    averageHoldingPeriod := meanOrZero (sales.map fun trade => (trade.holdingDays : Rat))
    benchmarkReturn := benchmarkReturn
    excessReturn := totalReturn - benchmarkReturn
    finalEquity := last.equity
    cashBalance := last.cash
    exposure := last.exposure }

def calculateMetrics (numerics : Numerics) (snapshots : List DailySnapshot)
    (trades : List SimulatedTrade) (initialCash : Rat) : Except MetricsError Metrics :=
  match snapshots.head?, snapshots.getLast? with
  | some first, some last =>
      if initialCash = 0 then .error .zeroDivisionError
      else
        match annualizedReturn numerics initialCash first last with
        | none => .error .overflowError
        | some growth => .ok (metricsOf numerics snapshots trades initialCash last growth)
  | _, _ => .error (.valueError "at least one daily snapshot is required")

/-! ## The drawdowns of a run -/

def Simulation.equities (state : Simulation) : List Rat :=
  state.snapshots.map DailySnapshot.equity

/-- Each snapshot carries the decline from the largest equity so far. -/
def Simulation.Declined (config : BacktestConfig) (state : Simulation) : Prop :=
  state.snapshots.map DailySnapshot.drawdown = declines config.initialCash state.equities

structure PeakKept (config : BacktestConfig) (state : Simulation) : Prop where
  peak : state.peakEquity = state.equities.foldl max config.initialCash
  declined : state.Declined config

theorem PeakKept.congr {config : BacktestConfig} {state next : Simulation}
    (kept : PeakKept config state) (peak : next.peakEquity = state.peakEquity)
    (snapshots : next.snapshots = state.snapshots) : PeakKept config next := by
  constructor
  · rw [peak, kept.peak, Simulation.equities, Simulation.equities, snapshots]
  · rw [Simulation.Declined, Simulation.equities, snapshots]
    exact kept.declined

section Stages

variable {config : BacktestConfig} {slice : Slice}

theorem runRebalance_peakKept (cause : Cause) (signalTime : Instant)
    (reasons : String -> Option String) :
    Loops.Preserves (PeakKept config) (runRebalance config slice cause signalTime reasons) := by
  intro state kept
  unfold runRebalance
  dsimp only
  split
  · exact kept
  · exact kept.congr rfl rfl

theorem riskRebalance_peakKept (due : List PendingTargets) :
    Loops.Preserves (PeakKept config) (riskRebalance config slice due) := by
  intro state kept
  unfold riskRebalance
  split
  · exact kept
  · split
    · exact runRebalance_peakKept _ _ _ state kept
    · exact kept

theorem executePending_peakKept (item : PendingTargets) :
    Loops.Preserves (PeakKept config) (executePending config slice item) := by
  intro state kept
  exact runRebalance_peakKept _ _ _ _ (kept.congr rfl rfl)

theorem generateSignal_peakKept (strategy : Strategy) (batch : SignalBatch) (symbol : String) :
    Loops.Preserves (PeakKept config) (generateSignal strategy slice batch symbol) := by
  intro state kept
  unfold generateSignal
  dsimp only
  split
  · exact kept.congr rfl rfl
  · split
    · exact kept.congr rfl rfl
    · exact kept.congr rfl rfl

/-- A snapshot that raises has moved the peak, but not the snapshots. -/
theorem takeSnapshot_peakKept :
    Loops.Meets (PeakKept config) (takeSnapshot config slice) (fun _ => PeakKept config)
      (fun _ => Simulation.Declined config) := by
  intro state kept
  unfold takeSnapshot
  dsimp only
  by_cases start : slice.benchmarkStart = 0
  · rw [if_pos start]
    exact kept.declined
  · rw [if_neg start]
    have positive : 0 < max state.peakEquity
        (money (state.ledger.cash + marketValue config slice state.ledger)) := by
      rw [kept.peak]
      exact lt_max_of_lt_left (foldl_max_pos config.initialCash_pos _)
    constructor
    · rw [Simulation.equities, List.map_append, List.foldl_append, ← Simulation.equities,
        ← kept.peak]
      rfl
    · rw [Simulation.Declined, Simulation.equities, List.map_append, List.map_append,
        kept.declined, List.map_singleton, List.map_singleton, ← Simulation.equities,
        declines_concat, ← kept.peak, if_neg positive.ne']

theorem barBody_peakKept (strategy : Strategy) (due : List PendingTargets) :
    Loops.Meets (PeakKept config) (barBody config strategy slice due) (fun _ => PeakKept config)
      (fun _ => Simulation.Declined config) := by
  have raising : forall {α : Type} {program : SimulationM α},
      Loops.Preserves (PeakKept config) program ->
      Loops.Meets (PeakKept config) program (fun _ => PeakKept config)
        (fun _ => Simulation.Declined config) := fun keeps =>
    keeps.meets.weaken (fun _ => id) (fun _ _ => id) fun _ _ kept => kept.declined
  refine (raising (riskRebalance_peakKept due)).bind fun _ => ?_
  refine (raising (Loops.Preserves.forM fun item _ => executePending_peakKept item)).bind fun _ => ?_
  refine takeSnapshot_peakKept.bind fun _ => raising ?_
  exact Loops.Preserves.foldlM (fun symbol batch _ => generateSignal_peakKept strategy batch symbol) _

end Stages

theorem reached_declined (config : BacktestConfig) (strategy : Strategy)
    (barsBySymbol : String -> List HistoricalBar) (benchmarkBars : List HistoricalBar) :
    (reached config strategy barsBySymbol benchmarkBars).Declined config := by
  exact @run_meets config strategy (fun _ state => PeakKept config state.simulation)
    (fun state => state.simulation.Declined config) barsBySymbol benchmarkBars ⟨rfl, rfl⟩
    (fun _ _ => processBar_meets (barBody_peakKept strategy)) fun _ _ kept => kept.declined

/-! ## Equities that are not negative -/

/-- The equity of a snapshot is not negative where its ledger is solvent. -/
def Simulation.Backed (state : Simulation) : Prop :=
  List.Forall₂ (fun ledger snapshot => Ledger.Solvent ledger -> 0 ≤ snapshot.equity)
    state.snapshotLedgers state.snapshots

section Backing

variable {config : BacktestConfig} {slice : Slice}

theorem marketValue_nonneg {ledger : Ledger} (solvent : ledger.Solvent)
    (positive : forall symbol, symbol ∈ config.symbols -> 0 < (slice.bars symbol).closePrice) :
    0 ≤ marketValue config slice ledger := by
  refine List.sum_nonneg fun value member => ?_
  rcases List.mem_map.mp member with ⟨symbol, known, same⟩
  rw [← same]
  exact mul_nonneg (solvent.2 symbol) (positive symbol known).le

theorem takeSnapshot_backed
    (positive : forall symbol, symbol ∈ config.symbols -> 0 < (slice.bars symbol).closePrice) :
    Loops.Preserves Simulation.Backed (takeSnapshot config slice) := by
  intro state backed
  unfold takeSnapshot
  dsimp only
  split
  · exact backed
  · refine List.rel_append backed (List.Forall₂.cons ?_ List.Forall₂.nil)
    intro solvent
    exact money_nonneg (add_nonneg solvent.1 (marketValue_nonneg solvent positive))

theorem runRebalance_backed (cause : Cause) (signalTime : Instant)
    (reasons : String -> Option String) :
    Loops.Preserves Simulation.Backed (runRebalance config slice cause signalTime reasons) := by
  intro state backed
  unfold runRebalance
  dsimp only
  split
  · exact backed
  · exact backed

theorem barBody_backed (strategy : Strategy)
    (positive : forall symbol, symbol ∈ config.symbols -> 0 < (slice.bars symbol).closePrice)
    (due : List PendingTargets) :
    Loops.Preserves Simulation.Backed (barBody config strategy slice due) := by
  refine barBody_preserves ?_ ?_ (takeSnapshot_backed positive) ?_
  · intro state backed
    unfold riskRebalance
    split
    · exact backed
    · split
      · exact runRebalance_backed _ _ _ state backed
      · exact backed
  · intro item _ state backed
    exact runRebalance_backed _ _ _ _ backed
  · intro batch symbol _ state backed
    unfold generateSignal
    dsimp only
    split
    · exact backed
    · split
      · exact backed
      · exact backed

end Backing

/-- In a run over positive prices that covers its fees, no equity is negative. -/
theorem equities_nonneg {config : BacktestConfig} {strategy : Strategy}
    {barsBySymbol : String -> List HistoricalBar} {benchmarkBars : List HistoricalBar}
    (positive : forall symbol, symbol ∈ config.symbols ->
      forall bar, bar ∈ barsBySymbol symbol -> bar.Positive)
    (covered : (reached config strategy barsBySymbol benchmarkBars).FeesCovered config) :
    forall equity, equity ∈ (reached config strategy barsBySymbol benchmarkBars).equities ->
      0 ≤ equity := by
  have solvent := (reached_accounted config strategy barsBySymbol benchmarkBars
    positive).solvent_iff.mpr covered
  have backed : (reached config strategy barsBySymbol benchmarkBars).Backed := by
    refine run_preserves (motive := fun state => state.simulation.Backed) List.Forall₂.nil
      fun entry member => processBar_preserves ?_
    apply barBody_backed
    intro symbol known
    have time := List.mem_of_getElem? (mem_zipIdx_times member)
    exact (positive symbol known _ (align_bar time known).1).2
  intro equity member
  rcases List.mem_map.mp member with ⟨snapshot, taken, same⟩
  rcases Loops.exists_of_forall₂ backed taken with ⟨ledger, marked, nonneg⟩
  rw [← same]
  exact nonneg (solvent.2 ledger marked)

/-! ## The maximum drawdown -/

/-- The maximum drawdown is the least of the drawdowns in the snapshots. -/
theorem maximumDrawdown_mem {numerics : Numerics} {snapshots : List DailySnapshot}
    {trades : List SimulatedTrade} {initialCash : Rat} {metrics : Metrics}
    (calculated : calculateMetrics numerics snapshots trades initialCash = .ok metrics) :
    metrics.maximumDrawdown ∈ snapshots.map DailySnapshot.drawdown ∧
      forall drawdown, drawdown ∈ snapshots.map DailySnapshot.drawdown ->
        metrics.maximumDrawdown ≤ drawdown := by
  unfold calculateMetrics at calculated
  split at calculated
  · rename_i first last head _
    split at calculated
    · cases calculated
    · split at calculated
      · cases calculated
      · rename_i growth _
        cases calculated
        have listed : snapshots.map DailySnapshot.drawdown ≠ [] := by
          intro empty
          rw [List.map_eq_nil_iff.mp empty] at head
          cases head
        cases least : (snapshots.map DailySnapshot.drawdown).min? with
        | none => exact absurd (List.min?_eq_none_iff.mp least) listed
        | some worst =>
            have same : (metricsOf numerics snapshots trades initialCash last
                growth).maximumDrawdown = worst := by
              change ((snapshots.map DailySnapshot.drawdown).min?).getD 0 = worst
              rw [least, Option.getD_some]
            rw [same]
            exact List.min?_eq_some_iff.mp least
  · cases calculated

/-- The maximum drawdown of a run, completed or stopped, is the least decline of an account value
from the highest one so far.  If the prices are positive and every rebalance covers its fees, it
is also the least change from any account value to itself or to a later one. -/
theorem maximumDrawdown_isLeast (numerics : Numerics) (config : BacktestConfig)
    (strategy : Strategy) (barsBySymbol : String -> List HistoricalBar)
    (benchmarkBars : List HistoricalBar) (trades : List SimulatedTrade) {metrics : Metrics}
    (calculated : calculateMetrics numerics
      (reached config strategy barsBySymbol benchmarkBars).snapshots trades config.initialCash =
        .ok metrics) :
    IsLeast {decline | Decline config.initialCash
        (reached config strategy barsBySymbol benchmarkBars).equities decline}
      metrics.maximumDrawdown ∧
      ((forall symbol, symbol ∈ config.symbols ->
          forall bar, bar ∈ barsBySymbol symbol -> bar.Positive) ->
        (reached config strategy barsBySymbol benchmarkBars).FeesCovered config ->
        IsLeast {change | Change (config.initialCash ::
            (reached config strategy barsBySymbol benchmarkBars).equities) change}
          metrics.maximumDrawdown) := by
  have declined := reached_declined config strategy barsBySymbol benchmarkBars
  rcases maximumDrawdown_mem calculated with ⟨member, least⟩
  rw [declined] at member least
  refine ⟨⟨mem_declines.mp member, fun decline there => least decline (mem_declines.mpr there)⟩, ?_⟩
  intro positive covered
  exact worst_isLeast config.initialCash_pos (equities_nonneg positive covered) member least

theorem oneUnit_range : (0 : Rat) ≤ 1 ∧ (1 : Rat) ≤ 1000 := by norm_num

def cheapConfig : BacktestConfig :=
  { thinConfig with commission := 1, commission_range := oneUnit_range }

/-- The built-in strategy that buys once and then holds. -/
def buyAndHold : Strategy := fun _ index =>
  .ok
    { targetWeight := if index = 0 then some (.finite 1) else none
      direction := if index = 0 then "long" else "hold"
      strength := .finite (if index = 0 then 1 else 0)
      explanation := "Buy once after the first observed bar and hold."
      factors := [("observation_index", .finite index)] }

def cheapRun : Simulation :=
  reached cheapConfig buyAndHold halvingBars (halvingBars "SPY")

def plainNumerics : Numerics := ⟨id, fun base _ => some base⟩

theorem cheapRun_equities : cheapRun.equities = [2000, 1999, 1008] := by decide +kernel

theorem cheapRun_metrics :
    (calculateMetrics plainNumerics cheapRun.snapshots [] cheapConfig.initialCash).toOption.map
      Metrics.maximumDrawdown = some (-62 / 125) := by decide +kernel

theorem cheapRun_covered : cheapRun.FeesCovered cheapConfig := by
  have checked : cheapRun.rebalances.all (fun record =>
      decide (Backtesting.FeesCovered cheapConfig record.call record.before)) = true := by
    decide +kernel
  exact fun record member => of_decide_eq_true (List.all_eq_true.mp checked record member)

/-- The account falls from 2000 to 1999 and then to 1008. -/
theorem maximumDrawdown_isLeast_halving :
    IsLeast {change : Rat | Change [2000, 2000, 1999, 1008] change} (-62 / 125) := by
  have worst := cheapRun_metrics
  cases calculated : calculateMetrics plainNumerics cheapRun.snapshots []
      cheapConfig.initialCash with
  | error failure =>
      rw [calculated] at worst
      cases worst
  | ok metrics =>
      rw [calculated] at worst
      have least := (maximumDrawdown_isLeast plainNumerics cheapConfig buyAndHold
        halvingBars (halvingBars "SPY") [] calculated).2 (fun symbol _ => halvingBars_positive symbol)
        cheapRun_covered
      rw [Option.some.inj worst] at least
      exact cheapRun_equities ▸ least

end Backtesting
end MarketIntelligence
