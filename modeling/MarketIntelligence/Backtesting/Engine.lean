import MarketIntelligence.Backtesting.Types
import Mathlib.Data.List.Sort
import Mathlib.Algebra.BigOperators.Group.List.Basic

namespace MarketIntelligence
namespace Backtesting

open Foundations

/-!
# The bar-based simulator

The functions follow `BacktestEngine` one by one.  A dictionary over the
configured symbols is a function of the symbol, read only at configured
symbols, and the order in which the source iterates over one is the list it was
built from.  A raised exception keeps the state reached so far, because the
objects it was mutating stay as they are.

Three things are recorded that the source does not keep: the ledger before each
trade, one record for each call of `_rebalance`, and the ledger at each
snapshot.  Nothing reads them back.
-/

/-- `RISK_TARGET_BUFFER`. -/
def riskTargetBuffer : Rat := 99 / 100

/-! ## Orders against the shared ledger -/

structure Position where
  quantity : Rat
  averageCost : Rat
  openedIndex : Nat
  deriving DecidableEq, Repr

def Position.empty : Position where
  quantity := 0
  averageCost := 0
  openedIndex := 0

/-- The shared cash and the open positions.  A symbol without a position has the empty one, and
nothing keeps the cash from going below zero. -/
structure Ledger where
  cash : Rat
  positions : String -> Position

/-- Write one position and the cash, and leave every other position alone. -/
def Ledger.post (ledger : Ledger) (symbol : String) (position : Position) (cash : Rat) : Ledger where
  cash := cash
  positions := fun other => if other = symbol then position else ledger.positions other

def friction (config : BacktestConfig) : Rat :=
  (config.spreadBps / 2 + config.slippageBps) / 10000

def executionPrice (base : Rat) (side : Side) (config : BacktestConfig) : Rat :=
  let multiplier := match side with
    | .buy => 1 + friction config
    | .sell => 1 - friction config
  DecimalGrid.roundTo shareUnit (base * multiplier)

/-- The arguments of `_rebalance` that do not change while it runs. -/
structure RebalanceCall where
  index : Nat
  bars : String -> HistoricalBar
  targets : String -> FloatValue
  signalTime : Instant
  reasons : String -> Option String

/-- What one call of `_execute` returns, with the mutated position. -/
structure Execution where
  trade : SimulatedTrade
  cash : Rat
  fee : Rat
  position : Position

def execute (index : Nat) (bar : HistoricalBar) (position : Position) (side : Side)
    (quantity cash : Rat) (signalTime : Instant) (reason : String) (config : BacktestConfig) :
    Except EngineError Execution :=
  let price := executionPrice bar.openPrice side config
  let gross := money (quantity * price)
  let fee := config.commission
  let trade (cash realized : Rat) (holdingDays : Nat) : SimulatedTrade :=
    { assetId := bar.assetId, sourcePriceBarId := bar.id, symbol := bar.symbol, side := side,
      signalTime := signalTime, executionTime := bar.eventTime, quantity := quantity,
      price := price, grossValue := gross, fees := fee, cashAfter := money cash,
      reason := reason, realizedPnl := money realized, holdingDays := holdingDays }
  match side with
  | .buy =>
      let previousCost := position.quantity * position.averageCost
      let cash := cash - (gross + fee)
      let held := position.quantity + quantity
      if held = 0 then .error .divisionByZero
      else .ok
        { trade := trade cash 0 0, cash := cash, fee := fee,
          position :=
            { quantity := held, averageCost := (previousCost + gross + fee) / held,
              openedIndex := if position.quantity = 0 then index else position.openedIndex } }
  | .sell =>
      let cash := cash + (gross - fee)
      let realized := gross - fee - quantity * position.averageCost
      let held := position.quantity - quantity
      .ok
        { trade := trade cash realized (index - position.openedIndex), cash := cash, fee := fee,
          position :=
            -- The residual of a closed position is written off, its age is kept.
            if held ≤ shareUnit then
              { quantity := 0, averageCost := 0, openedIndex := position.openedIndex }
            else
              { quantity := held, averageCost := position.averageCost,
                openedIndex := position.openedIndex } }

/-! ## Rebalancing to target weights -/

def equityAtOpen (config : BacktestConfig) (bars : String -> HistoricalBar) (ledger : Ledger) : Rat :=
  ledger.cash + (config.symbols.map fun symbol =>
    (ledger.positions symbol).quantity * (bars symbol).openPrice).sum

/-- `min(Decimal(str(max(weight, 0.0))), limit)`.  A weight that is not a number
raises before this is reached, see `rebalance`. -/
def cappedWeight (limit : Rat) : FloatValue -> Rat
  | .finite value => min (max value 0) limit
  | .positiveInfinity => limit
  | .negativeInfinity => min 0 limit
  | .notANumber => 0

/-- The capped weights, scaled down together when they exceed the exposure limit. -/
def scaledWeight (config : BacktestConfig) (targets : String -> FloatValue) (symbol : String) : Rat :=
  let positionLimit := config.maxPositionPct * riskTargetBuffer
  let exposureLimit := config.maxTotalExposure * riskTargetBuffer
  let capped := fun symbol => cappedWeight positionLimit (targets symbol)
  let total := (config.symbols.map capped).sum
  if exposureLimit < total then capped symbol * (exposureLimit / total) else capped symbol

def desiredQuantity (config : BacktestConfig) (call : RebalanceCall) (ledger : Ledger)
    (symbol : String) : Rat :=
  let equity := equityAtOpen config call.bars ledger
  DecimalGrid.truncateTo shareUnit
    (equity * scaledWeight config call.targets symbol / (call.bars symbol).openPrice)

/-- One executed order, with the ledger it was executed against. -/
structure Fill where
  symbol : String
  before : Ledger
  trade : SimulatedTrade

/-- The running state of a rebalance.  The sales come first and their proceeds are what the
purchases can spend. -/
structure Rebalancing where
  ledger : Ledger
  fills : List Fill
  totalFees : Rat
  rejections : List String

def Rebalancing.start (ledger : Ledger) : Rebalancing where
  ledger := ledger
  fills := []
  totalFees := 0
  rejections := []

/-- Execute one order and book it. -/
def Rebalancing.order (state : Rebalancing) (config : BacktestConfig) (call : RebalanceCall)
    (symbol : String) (side : Side) (quantity : Rat) : Except EngineError Rebalancing := do
  let reason := (call.reasons symbol).getD "Portfolio rebalance"
  let done ← execute call.index (call.bars symbol) (state.ledger.positions symbol) side quantity
    state.ledger.cash call.signalTime reason config
  return {
    ledger := state.ledger.post symbol done.position done.cash
    fills := state.fills ++ [{ symbol := symbol, before := state.ledger, trade := done.trade }]
    totalFees := state.totalFees + done.fee
    rejections := state.rejections }

def sellPass (config : BacktestConfig) (call : RebalanceCall) (desired : String -> Rat)
    (state : Rebalancing) (symbol : String) : Except EngineError Rebalancing :=
  let current := state.ledger.positions symbol
  if current.quantity ≤ desired symbol then .ok state
  else state.order config call symbol .sell (current.quantity - desired symbol)

/-- The quantity a purchase is cut down to, given the cash that is left. -/
def affordableQuantity (config : BacktestConfig) (price quantity cash : Rat) :
    Except EngineError Rat :=
  if cash < quantity * price + config.commission then
    if price = 0 then .error .invalidOperation
    else .ok (DecimalGrid.truncateTo shareUnit (max (cash - config.commission) 0 / price))
  else .ok quantity

def buyPass (config : BacktestConfig) (call : RebalanceCall) (desired : String -> Rat)
    (state : Rebalancing) (symbol : String) : Except EngineError Rebalancing := do
  let current := state.ledger.positions symbol
  if desired symbol ≤ current.quantity then return state
  else
    let price := executionPrice (call.bars symbol).openPrice .buy config
    let quantity ← affordableQuantity config price (desired symbol - current.quantity)
      state.ledger.cash
    if quantity ≤ 0 then
      return { state with
        rejections := state.rejections ++ [(call.bars symbol).symbol ++ ": insufficient shared cash"] }
    else state.order config call symbol .buy quantity

/-- `sorted(positions)`. -/
def sortedSymbols (config : BacktestConfig) : List String :=
  config.symbols.insertionSort (· ≤ ·)

/-- `_rebalance`: sells first, then buys from the cash that is left, both in
symbol order, against quantities fixed before the first order. -/
def rebalance (config : BacktestConfig) (call : RebalanceCall) (ledger : Ledger) :
    Except EngineError Rebalancing :=
  if config.symbols.any (fun symbol => call.targets symbol = .notANumber) then
    .error .invalidOperation
  else if config.symbols.any (fun symbol => (call.bars symbol).openPrice = 0) then
    .error .divisionByZero
  else do
    let desired := desiredQuantity config call ledger
    let sold ← (sortedSymbols config).foldlM (sellPass config call desired) (.start ledger)
    (sortedSymbols config).foldlM (buyPass config call desired) sold

/-! ## Aligned bars -/

/-- The bars every symbol and the benchmark share, by event time.  Instants that one of them
lacks are dropped before the loop starts. -/
structure Timeline where
  times : List Instant
  bars : Instant -> String -> HistoricalBar
  benchmark : Instant -> HistoricalBar

/-- `sorted(bars, key=event_time)`, for the configured symbols only. -/
def orderedBars (config : BacktestConfig) (barsBySymbol : String -> List HistoricalBar)
    (symbol : String) : List HistoricalBar :=
  if symbol ∈ config.symbols then
    (barsBySymbol symbol).insertionSort fun first second => first.eventTime ≤ second.eventTime
  else []

/-- The dictionary `{bar.event_time: bar for bar in bars}`: the last bar of an
instant wins. -/
def barAt (bars : List HistoricalBar) (time : Instant) : Option HistoricalBar :=
  bars.reverse.find? fun bar => bar.eventTime = time

def isCommonTime (config : BacktestConfig) (barsBySymbol : String -> List HistoricalBar)
    (benchmarkBars : List HistoricalBar) (time : Instant) : Bool :=
  (config.symbols.all fun symbol => (barAt (orderedBars config barsBySymbol symbol) time).isSome) &&
    (barAt benchmarkBars time).isSome

/-- The sorted set of the instants that every selected symbol and the benchmark have. -/
def commonTimes (config : BacktestConfig) (barsBySymbol : String -> List HistoricalBar)
    (benchmarkBars : List HistoricalBar) : List Instant :=
  let every := config.symbols.flatMap fun symbol =>
    (orderedBars config barsBySymbol symbol).map HistoricalBar.eventTime
  ((every.filter (isCommonTime config barsBySymbol benchmarkBars)).dedup).insertionSort (· ≤ ·)

def align (config : BacktestConfig) (barsBySymbol : String -> List HistoricalBar)
    (benchmarkBars : List HistoricalBar) : Timeline where
  times := commonTimes config barsBySymbol benchmarkBars
  bars := fun time symbol => (barAt (orderedBars config barsBySymbol symbol) time).getD default
  benchmark := fun time => (barAt benchmarkBars time).getD default

/-! ## The state of a run -/

/-- A signal waiting for the bar it may execute on.  Two signals can wait for one bar, and the
later of two may execute first. -/
structure PendingTargets where
  executionIndex : Nat
  signalIndex : Nat
  signalTime : Instant
  updates : List (String × FloatValue)
  reasons : List (String × String)
  deriving DecidableEq, Repr

/-- Why `_rebalance` was called. -/
inductive Cause where
  | riskLimit (snapshot : DailySnapshot)
  | signal (item : PendingTargets)
  deriving DecidableEq, Repr

/-- One call of `_rebalance` and what came of it: the ledger it started from and its final state,
whether or not the call has raised. -/
structure RebalanceRecord where
  cause : Cause
  call : RebalanceCall
  eventTime : Instant
  /-- The pending items executed so far, this one included. -/
  executed : List PendingTargets
  before : Ledger
  outcome : Rebalancing

/-- A signal with the time of the bar it was generated on. -/
structure TimedSignal where
  barTime : Instant
  signal : GeneratedSignal
  deriving DecidableEq, Repr

/-- The local variables of `run` other than the pending list.  The records of rebalances and the
ledgers at the snapshots are kept here for the statements about a run. -/
structure Simulation where
  ledger : Ledger
  targets : String -> FloatValue
  executed : List PendingTargets
  cumulativeFees : Rat
  peakEquity : Rat
  closeHistory : String -> List Rat
  rebalances : List RebalanceRecord
  snapshots : List DailySnapshot
  snapshotLedgers : List Ledger
  signals : List TimedSignal
  rejections : List String

def Simulation.initial (config : BacktestConfig) : Simulation where
  ledger := { cash := config.initialCash, positions := fun _ => .empty }
  targets := fun _ => .finite 0
  executed := []
  cumulativeFees := 0
  peakEquity := config.initialCash
  closeHistory := fun _ => []
  rebalances := []
  snapshots := []
  snapshotLedgers := []
  signals := []
  rejections := []

def RebalanceRecord.trades (record : RebalanceRecord) : List SimulatedTrade :=
  record.outcome.fills.map Fill.trade

def Simulation.result (state : Simulation) : BacktestResult where
  trades := state.rebalances.flatMap RebalanceRecord.trades
  snapshots := state.snapshots
  signals := state.signals.map TimedSignal.signal
  rejections := state.rejections

/-- What the loop body reads of one aligned instant: its place, the bars of the symbols, and the
benchmark's close now and at the start. -/
structure Slice where
  index : Nat
  eventTime : Instant
  bars : String -> HistoricalBar
  benchmarkClose : Rat
  benchmarkStart : Rat

abbrev SimulationM := EStateM EngineError Simulation

/-! ## The loop body -/

def riskLimitBreached (snapshot : DailySnapshot) (config : BacktestConfig) : Bool :=
  let exposureLimit := config.maxTotalExposure * riskTargetBuffer
  let positionLimit := config.maxPositionPct * riskTargetBuffer
  if exposureLimit < snapshot.exposure then true
  else if snapshot.equity = 0 then false
  else snapshot.positions.any fun entry => positionLimit < entry.2.value / snapshot.equity

/-- Call `_rebalance` and book its trades, cash, fees and rejections. -/
def runRebalance (config : BacktestConfig) (slice : Slice) (cause : Cause) (signalTime : Instant)
    (reasons : String -> Option String) : SimulationM Unit := fun state =>
  let call : RebalanceCall :=
    { index := slice.index, bars := slice.bars, targets := state.targets,
      signalTime := signalTime, reasons := reasons }
  match rebalance config call state.ledger with
  | .error failure => .error failure state
  | .ok outcome =>
      let record : RebalanceRecord :=
        { cause := cause, call := call, eventTime := slice.eventTime, executed := state.executed,
          before := state.ledger, outcome := outcome }
      .ok () { state with
        ledger := outcome.ledger
        cumulativeFees := state.cumulativeFees + outcome.totalFees
        rebalances := state.rebalances ++ [record]
        rejections := state.rejections ++ outcome.rejections }

/-- The rebalance scheduled by a close that breached a limit on the previous bar. -/
def riskRebalance (config : BacktestConfig) (slice : Slice) (due : List PendingTargets) :
    SimulationM Unit := fun state =>
  match state.snapshots.getLast? with
  | none => .ok () state
  | some snapshot =>
      if due = [] ∧ riskLimitBreached snapshot config = true then
        runRebalance config slice (.riskLimit snapshot) snapshot.eventTime
          (fun symbol => if symbol ∈ config.symbols then some "Risk-limit rebalance" else none) state
      else .ok () state

/-- `targets.update(item.updates)`. -/
def updateTargets (targets : String -> FloatValue) (updates : List (String × FloatValue)) :
    String -> FloatValue :=
  fun symbol => (updates.lookup symbol).getD (targets symbol)

def executePending (config : BacktestConfig) (slice : Slice) (item : PendingTargets) :
    SimulationM Unit := fun state =>
  runRebalance config slice (.signal item) item.signalTime (fun symbol => item.reasons.lookup symbol)
    { state with
      targets := updateTargets state.targets item.updates
      executed := state.executed ++ [item] }

def marketValue (config : BacktestConfig) (slice : Slice) (ledger : Ledger) : Rat :=
  (config.symbols.map fun symbol =>
    (ledger.positions symbol).quantity * (slice.bars symbol).closePrice).sum

def snapshotPositions (config : BacktestConfig) (slice : Slice) (ledger : Ledger) :
    List (String × PositionSnapshot) :=
  (config.symbols.filter fun symbol => 0 < (ledger.positions symbol).quantity).map fun symbol =>
    let position := ledger.positions symbol
    let close := (slice.bars symbol).closePrice
    (symbol,
      { quantity := position.quantity, averageCost := position.averageCost, close := close,
        value := money (position.quantity * close) })

def takeSnapshot (config : BacktestConfig) (slice : Slice) : SimulationM Unit := fun state =>
  let value := marketValue config slice state.ledger
  let equity := money (state.ledger.cash + value)
  let peak := max state.peakEquity equity
  if slice.benchmarkStart = 0 then .error .divisionByZero { state with peakEquity := peak }
  else
    let snapshot : DailySnapshot :=
      { eventTime := slice.eventTime
        equity := equity
        cash := money state.ledger.cash
        positions := snapshotPositions config slice state.ledger
        cumulativeFees := money state.cumulativeFees
        exposure := if equity = 0 then 0 else value / equity
        drawdown := if peak = 0 then 0 else equity / peak - 1
        benchmarkValue := money (config.initialCash * slice.benchmarkClose / slice.benchmarkStart) }
    .ok () { state with
      peakEquity := peak
      snapshots := state.snapshots ++ [snapshot]
      snapshotLedgers := state.snapshotLedgers ++ [state.ledger] }

/-- The updates one bar produces, collected over the symbols.  They become one pending item,
generated when the last of their bars is published. -/
structure SignalBatch where
  updates : List (String × FloatValue)
  reasons : List (String × String)
  signalTimes : List Instant

/-- Ask the strategy about one symbol.  The close joins the history before the strategy is asked,
whether or not the bar has been published. -/
def generateSignal (strategy : Strategy) (slice : Slice) (batch : SignalBatch) (symbol : String) :
    SimulationM SignalBatch := fun state =>
  let bar := slice.bars symbol
  let history := state.closeHistory symbol ++ [bar.closePrice]
  let state := { state with
    closeHistory := fun other => if other = symbol then history else state.closeHistory other }
  match strategy history slice.index with
  | .error failure => .error failure state
  | .ok decision =>
      match decision.targetWeight with
      | none => .ok batch state
      | some weight =>
          let signal : GeneratedSignal :=
            { assetId := bar.assetId, sourcePriceBarId := bar.id, symbol := symbol,
              generatedAt := bar.signalTime, eligibleAfter := bar.signalTime,
              direction := decision.direction, strength := decision.strength,
              explanation := decision.explanation, factors := decision.factors }
          .ok
            { updates := batch.updates ++ [(symbol, weight)]
              reasons := batch.reasons ++ [(symbol, decision.explanation)]
              signalTimes := batch.signalTimes ++ [bar.signalTime] }
            { state with
              signals := state.signals ++ [{ barTime := slice.eventTime, signal := signal }] }

def generateSignals (config : BacktestConfig) (strategy : Strategy) (slice : Slice) :
    SimulationM SignalBatch :=
  config.symbols.foldlM (generateSignal strategy slice)
    { updates := [], reasons := [], signalTimes := [] }

/-- Everything one bar does apart from the pending list. -/
def barBody (config : BacktestConfig) (strategy : Strategy) (slice : Slice)
    (due : List PendingTargets) : SimulationM SignalBatch := do
  riskRebalance config slice due
  due.forM (executePending config slice)
  takeSnapshot config slice
  generateSignals config strategy slice

/-! ## Scheduling and the loop -/

/-- The loop `while candidate < len(times) and times[candidate] <= signal_time`,
run on the times from the candidate on. -/
def firstLater (signalTime : Instant) : List Instant -> Nat -> Option Nat
  | [], _ => none
  | time :: rest, candidate =>
      if time ≤ signalTime then firstLater signalTime rest (candidate + 1) else some candidate

def eligibleExecutionIndex (times : List Instant) (signalIndex : Nat) (signalTime : Instant)
    (delay : Nat) : Option Nat :=
  firstLater signalTime (times.drop (signalIndex + delay)) (signalIndex + delay)

/-- The pending entry of a bar that produced updates, when it can still execute. -/
def schedule (config : BacktestConfig) (times : List Instant) (index : Nat) (batch : SignalBatch) :
    List PendingTargets :=
  match batch.signalTimes.max? with
  | none => []
  | some signalTime =>
      match eligibleExecutionIndex times index signalTime config.executionDelay with
      | none => []
      | some executionIndex =>
          [{ executionIndex := executionIndex, signalIndex := index, signalTime := signalTime,
             updates := batch.updates, reasons := batch.reasons }]

structure EngineState where
  simulation : Simulation
  pending : List PendingTargets

def EngineState.initial (config : BacktestConfig) : EngineState where
  simulation := .initial config
  pending := []

def Timeline.slice (timeline : Timeline) (index : Nat) (time : Instant) : Slice where
  index := index
  eventTime := time
  bars := timeline.bars time
  benchmarkClose := (timeline.benchmark time).closePrice
  benchmarkStart := (timeline.benchmark (timeline.times.headD 0)).closePrice

def processBar (config : BacktestConfig) (strategy : Strategy) (timeline : Timeline)
    (entry : Instant × Nat) : EStateM EngineError EngineState Unit := fun state =>
  let (time, index) := entry
  let due := state.pending.filter fun item => item.executionIndex = index
  let rest := state.pending.filter fun item => item.executionIndex ≠ index
  match barBody config strategy (timeline.slice index time) due state.simulation with
  | .error failure simulation => .error failure { state with simulation := simulation }
  | .ok batch simulation =>
      .ok ()
        { simulation := simulation,
          pending := rest ++ schedule config timeline.times index batch }

def runTimeline (config : BacktestConfig) (strategy : Strategy) (timeline : Timeline) :
    EStateM EngineError EngineState Unit :=
  timeline.times.zipIdx.forM (processBar config strategy timeline)

/-- `BacktestEngine.run`. -/
def run (config : BacktestConfig) (strategy : Strategy)
    (barsBySymbol : String -> List HistoricalBar) (benchmarkBars : List HistoricalBar) :
    EStateM.Result EngineError EngineState Unit :=
  let timeline := align config barsBySymbol benchmarkBars
  if config.symbols.any (fun symbol => (orderedBars config barsBySymbol symbol).isEmpty) then
    .error (.valueError "every selected symbol must have price history") (.initial config)
  else if timeline.times.length < config.executionDelay + 2 then
    .error (.valueError "not enough aligned price bars for the configured delay") (.initial config)
  else runTimeline config strategy timeline (.initial config)

end Backtesting
end MarketIntelligence
