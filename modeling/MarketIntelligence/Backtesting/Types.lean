import MarketIntelligence.Core.Values

namespace MarketIntelligence
namespace Backtesting

open Foundations

/-!
# Backtest configuration, bars and results

The configuration carries what its field validators establish, so a value of
the type is an accepted configuration.  The remaining types are the frozen
data classes of the engine.  Fields that no modelled function reads are left
out: the other prices and the volume of a bar, and the data-source switches of
the configuration.
-/

/-- `BacktestConfig` after validation: symbols are normalised and distinct, and
every numeric field is inside its declared range. -/
structure BacktestConfig where
  symbols : List String
  benchmarkSymbol : String
  initialCash : Rat
  commission : Rat
  spreadBps : Rat
  slippageBps : Rat
  executionDelay : Nat
  maxPositionPct : Rat
  maxTotalExposure : Rat
  symbols_length : 1 ≤ symbols.length ∧ symbols.length ≤ 25
  symbols_nonblank : "" ∉ symbols
  symbols_nodup : symbols.Nodup
  benchmark_nonblank : benchmarkSymbol ≠ ""
  initialCash_pos : 0 < initialCash
  initialCash_digits : initialCash < 10 ^ 18 ∧ DecimalGrid.OnGrid (1 / 100) initialCash
  commission_range : 0 ≤ commission ∧ commission ≤ 1000
  spreadBps_range : 0 ≤ spreadBps ∧ spreadBps ≤ 500
  slippageBps_range : 0 ≤ slippageBps ∧ slippageBps ≤ 500
  executionDelay_range : 1 ≤ executionDelay ∧ executionDelay ≤ 20
  maxPositionPct_range : 0 < maxPositionPct ∧ maxPositionPct ≤ 1
  maxTotalExposure_range : 0 < maxTotalExposure ∧ maxTotalExposure ≤ 1

structure HistoricalBar where
  id : Identifier
  assetId : Identifier
  symbol : String
  eventTime : Instant
  publicationTime : Instant
  effectiveTime : Instant
  openPrice : Rat
  closePrice : Rat
  deriving DecidableEq, Repr, Inhabited

/-- The time a bar's signal carries, `max(publication_time, effective_time)`. -/
def HistoricalBar.signalTime (bar : HistoricalBar) : Instant :=
  max bar.publicationTime bar.effectiveTime

/-- The open and the close of the bar are positive, as the parsers of bars see to.  The engine
divides by the open and does not look at it again. -/
def HistoricalBar.Positive (bar : HistoricalBar) : Prop :=
  0 < bar.openPrice ∧ 0 < bar.closePrice

structure SimulatedTrade where
  assetId : Identifier
  sourcePriceBarId : Identifier
  symbol : String
  side : Side
  signalTime : Instant
  executionTime : Instant
  quantity : Rat
  price : Rat
  grossValue : Rat
  fees : Rat
  cashAfter : Rat
  reason : String
  realizedPnl : Rat
  holdingDays : Nat
  deriving DecidableEq, Repr

/-- One entry of a snapshot's `positions`. -/
structure PositionSnapshot where
  quantity : Rat
  averageCost : Rat
  close : Rat
  value : Rat
  deriving DecidableEq, Repr

structure DailySnapshot where
  eventTime : Instant
  equity : Rat
  cash : Rat
  positions : List (String × PositionSnapshot)
  cumulativeFees : Rat
  exposure : Rat
  drawdown : Rat
  benchmarkValue : Rat
  deriving DecidableEq, Repr

structure SignalDecision where
  targetWeight : Option FloatValue
  direction : String
  strength : FloatValue
  explanation : String
  factors : List (String × FloatValue)
  deriving DecidableEq, Repr

structure GeneratedSignal where
  assetId : Identifier
  sourcePriceBarId : Identifier
  symbol : String
  generatedAt : Instant
  eligibleAfter : Instant
  direction : String
  strength : FloatValue
  explanation : String
  factors : List (String × FloatValue)
  deriving DecidableEq, Repr

structure BacktestResult where
  trades : List SimulatedTrade
  snapshots : List DailySnapshot
  signals : List GeneratedSignal
  rejections : List String
  deriving DecidableEq, Repr

/-- What can stop a run: the checks of `run` itself, the decimal traps, and
whatever a strategy raises. -/
inductive EngineError where
  | valueError (message : String)
  | divisionByZero
  | invalidOperation
  | strategyFailure (message : String)
  deriving DecidableEq, Repr

/-- A strategy that is a pure function of the close history of one symbol and of
the current index.  The conversion of a close to `float` belongs to it. -/
abbrev Strategy := List Rat -> Nat -> Except EngineError SignalDecision

end Backtesting
end MarketIntelligence
