import MarketIntelligence.Backtesting.Publication
import MarketIntelligence.Backtesting.Conservation
import MarketIntelligence.Foundations.Runs
import MarketIntelligence.Foundations.Tables

namespace MarketIntelligence
namespace Backtesting

open Foundations

/-!
# The validation report of a run

The report reads the persisted trades and the bars they executed on.  It asks
whether a trade precedes its signal, and whether its own execution bar was
published after it.  The history behind a target and the close behind a
risk-limit rebalance are not looked at.

The engine, for its part, lets a signal wait for its own bar only.  So before each
bar of the run the older bars of the histories about to be acted on, and the bars
of a close that breached a limit, must have been published or traded on, and then
a validated run has no timing leak.  Bars that are all published before the next
aligned instant are of this kind whatever the strategy does with them.
-/

/-! ## Stored rows -/

/-- A row of `price_bars`. -/
structure PriceBar where
  id : Identifier
  assetId : Identifier
  eventTime : Instant
  publicationTime : Instant
  effectiveTime : Instant
  retrievalTime : Instant
  openPrice : Rat
  closePrice : Rat
  isDemonstrationData : Bool
  deriving DecidableEq, Repr

/-- `_historical_bar`. -/
def historicalBar (bar : PriceBar) (symbol : String) : HistoricalBar where
  id := bar.id
  assetId := bar.assetId
  symbol := symbol
  eventTime := bar.eventTime
  publicationTime := bar.publicationTime
  effectiveTime := bar.effectiveTime
  openPrice := bar.openPrice
  closePrice := bar.closePrice

/-- The rows of the database, with unique identifiers, and those loaded for a symbol. -/
structure StoredBars where
  rows : List PriceBar
  loaded : String -> List PriceBar
  distinct : (rows.map PriceBar.id).Nodup
  stored : forall symbol row, row ∈ loaded symbol -> row ∈ rows

/-- The bars the engine is given for a symbol. -/
def StoredBars.history (bars : StoredBars) (symbol : String) : List HistoricalBar :=
  (bars.loaded symbol).map fun row => historicalBar row symbol

/-- What the report reads of a row of `backtest_trades`. -/
structure BacktestTrade where
  sourcePriceBarId : Identifier
  signalTime : Instant
  executionTime : Instant
  deriving DecidableEq, Repr

def storeTrade (trade : SimulatedTrade) : BacktestTrade where
  sourcePriceBarId := trade.sourcePriceBarId
  signalTime := trade.signalTime
  executionTime := trade.executionTime

/-- What the report reads of a row of `backtest_runs`. -/
structure BacktestRun where
  adjustmentStatuses : List String
  coverageWarnings : List String
  deriving DecidableEq, Repr

/-! ## The report -/

inductive RuleStatus where
  | passed
  | failed
  | warning
  | notEvaluated
  deriving DecidableEq, Repr

structure Rule where
  name : String
  status : RuleStatus
  critical : Bool
  message : String
  deriving DecidableEq, Repr

structure BacktestValidationReport where
  overallStatus : RuleStatus
  isValidated : Bool
  rules : List Rule
  deriving DecidableEq, Repr

/-- `timedelta(days=30)`. -/
def thirtyDays : Int := 30 * 24 * 60 * 60 * 1000000

def checkedStatus (broken : Bool) : RuleStatus :=
  if broken then .failed else .passed

def warnedStatus (noticed : Bool) : RuleStatus :=
  if noticed then .warning else .passed

def sourceBar (rows : List PriceBar) (trade : BacktestTrade) : Option PriceBar :=
  Tables.lookup PriceBar.id trade.sourcePriceBarId rows

def sameBar (trades : List BacktestTrade) : Bool :=
  trades.any fun trade => trade.executionTime ≤ trade.signalTime

def publicationLeak (rows : List PriceBar) (trades : List BacktestTrade) : Bool :=
  trades.any fun trade =>
    (sourceBar rows trade).any fun bar => trade.executionTime < bar.publicationTime

/-- `create_validation_report`.  An `Instant` is an aware datetime, so the check of
the trade timestamps passes. -/
def createValidationReport (rows : List PriceBar) (trades : List BacktestTrade)
    (run : BacktestRun) : BacktestValidationReport :=
  let bars := rows.filter fun bar => trades.any fun trade => trade.sourcePriceBarId = bar.id
  let stale := bars.any fun bar =>
    !bar.isDemonstrationData && decide (bar.eventTime + thirtyDays < bar.retrievalTime)
  let mixedAdjustment := decide (1 < run.adjustmentStatuses.dedup.length)
  let rules : List Rule := [
    { name := "look_ahead_bias", status := .passed, critical := true
      message := "Signals execute after eligibility." },
    { name := "same_bar_execution", status := checkedStatus (sameBar trades), critical := true
      message := "Execution timing checked." },
    { name := "publication_time_leakage", status := checkedStatus (publicationLeak bars trades)
      critical := true, message := "Publication timestamps checked." },
    { name := "revision_leakage", status := .notEvaluated, critical := false
      message := "Point-in-time revision sets are unavailable." },
    { name := "corporate_action_leakage", status := .notEvaluated, critical := false
      message := "Point-in-time action versions are unavailable." },
    { name := "mixed_adjustment_state", status := checkedStatus mixedAdjustment, critical := true
      message := "Adjustment states checked." },
    { name := "training_test_overlap", status := .notEvaluated, critical := false
      message := "No training split is defined." },
    { name := "feature_target_overlap", status := .notEvaluated, critical := false
      message := "No learned feature set is defined." },
    { name := "timezone_boundary", status := .passed, critical := true
      message := "Trade timestamps checked." },
    { name := "missing_sessions", status := warnedStatus (!run.coverageWarnings.isEmpty)
      critical := false, message := "Coverage warnings checked." },
    { name := "stale_data", status := warnedStatus stale, critical := false
      message := "Retrieval freshness checked." },
    { name := "survivorship_bias", status := .warning, critical := false
      message := "Point-in-time universe and delisting coverage are not available." }]
  let criticalFailed := rules.any fun rule => rule.critical && decide (rule.status = .failed)
  { overallStatus :=
      if criticalFailed then .failed
      else if rules.any fun rule => rule.status = .warning ∨ rule.status = .notEvaluated then
        .warning
      else .passed
    isValidated := !criticalFailed
    rules := rules }

theorem checkedStatus_failed {broken : Bool} : checkedStatus broken = .failed <-> broken = true := by
  cases broken <;> simp [checkedStatus]

section Report

variable {rows : List PriceBar} {trades : List BacktestTrade} {run : BacktestRun}

theorem isValidated_iff :
    (createValidationReport rows trades run).isValidated = true <->
      sameBar trades = false ∧
      publicationLeak (rows.filter fun bar => trades.any fun trade =>
        trade.sourcePriceBarId = bar.id) trades = false ∧
      run.adjustmentStatuses.dedup.length ≤ 1 := by
  unfold createValidationReport
  simp [checkedStatus_failed]

/-- In a validated run no trade executed on a bar published after it. -/
theorem published_of_isValidated (distinct : (rows.map PriceBar.id).Nodup)
    (validated : (createValidationReport rows trades run).isValidated = true)
    {trade : BacktestTrade} (traded : trade ∈ trades) {row : PriceBar} (stored : row ∈ rows)
    (source : trade.sourcePriceBarId = row.id) : row.publicationTime ≤ trade.executionTime := by
  have quiet := (isValidated_iff.mp validated).2.1
  unfold publicationLeak at quiet
  rw [List.any_eq_false] at quiet
  have silent := quiet trade traded
  have listed : row ∈ rows.filter fun bar => trades.any fun trade =>
      trade.sourcePriceBarId = bar.id :=
    List.mem_filter.mpr ⟨stored, List.any_eq_true.mpr ⟨trade, traded, decide_eq_true source⟩⟩
  have found : sourceBar (rows.filter fun bar => trades.any fun trade =>
      trade.sourcePriceBarId = bar.id) trade = some row := by
    unfold sourceBar
    rw [source]
    exact Tables.lookup_of_mem (distinct.sublist (List.filter_sublist.map _)) listed
  rw [found] at silent
  simpa using silent

end Report

/-! ## Where the bars of a rebalance come from -/

/-- The rebalance read the aligned bars of its instant, and a breaching snapshot was
taken at an earlier one. -/
structure RebalanceRecord.Sourced (timeline : Timeline) (record : RebalanceRecord) : Prop where
  bars : record.call.bars = timeline.bars record.eventTime
  time : record.eventTime ∈ timeline.times
  trigger : forall snapshot, record.cause = .riskLimit snapshot ->
    snapshot.eventTime ∈ timeline.times ∧ snapshot.eventTime < record.eventTime

structure Sourcing (timeline : Timeline) (time : Instant) (state : Simulation) : Prop where
  records : forall record, record ∈ state.rebalances -> record.Sourced timeline
  snapshots : forall snapshot, snapshot ∈ state.snapshots ->
    snapshot.eventTime ∈ timeline.times ∧ snapshot.eventTime < time

theorem Sourcing.initial {config : BacktestConfig} (timeline : Timeline) (time : Instant) :
    Sourcing timeline time (.initial config) where
  records := fun _ member => absurd member List.not_mem_nil
  snapshots := fun _ member => absurd member List.not_mem_nil

theorem Sourcing.mono {timeline : Timeline} {time later : Instant} {state : Simulation}
    (order : time ≤ later) (sourcing : Sourcing timeline time state) :
    Sourcing timeline later state where
  records := sourcing.records
  snapshots := fun snapshot member =>
    ⟨(sourcing.snapshots snapshot member).1,
      lt_of_lt_of_le (sourcing.snapshots snapshot member).2 order⟩

section Sourcing

variable {config : BacktestConfig} {timeline : Timeline} {entry : Instant × Nat}

theorem runRebalance_sourcing (known : entry.1 ∈ timeline.times) {cause : Cause}
    (trigger : forall snapshot, cause = .riskLimit snapshot ->
      snapshot.eventTime ∈ timeline.times ∧ snapshot.eventTime < entry.1)
    (signalTime : Instant) (reasons : String -> Option String) :
    Loops.Preserves (Sourcing timeline entry.1)
      (runRebalance config (timeline.slice entry.2 entry.1) cause signalTime reasons) := by
  intro state sourcing
  unfold runRebalance
  dsimp only
  cases rebalance config
      { index := (timeline.slice entry.2 entry.1).index
        bars := (timeline.slice entry.2 entry.1).bars, targets := state.targets
        signalTime := signalTime, reasons := reasons } state.ledger with
  | error failure => exact sourcing
  | ok outcome =>
      refine { records := ?_, snapshots := sourcing.snapshots }
      intro record member
      rcases List.mem_append.mp member with earlier | latest
      · exact sourcing.records record earlier
      · rw [List.mem_singleton.mp latest]
        exact { bars := rfl, time := known, trigger := trigger }

theorem barBody_sourcing (strategy : Strategy) (known : entry.1 ∈ timeline.times)
    (due : List PendingTargets) :
    Loops.Meets (Sourcing timeline entry.1)
      (barBody config strategy (timeline.slice entry.2 entry.1) due)
      (fun _ => Sourcing timeline (entry.1 + 1)) (fun _ => Sourcing timeline (entry.1 + 1)) := by
  have after : entry.1 ≤ entry.1 + 1 := le_of_lt (Int.lt_succ _)
  refine barBody_meets (fun _ sourcing => sourcing.mono after) ?_ ?_ ?_ ?_
  · intro state sourcing
    unfold riskRebalance
    cases last : state.snapshots.getLast? with
    | none => exact sourcing
    | some snapshot =>
        dsimp only
        split
        · refine runRebalance_sourcing known ?_ _ _ state sourcing
          rintro _ ⟨⟩
          exact sourcing.snapshots snapshot (List.mem_of_getLast? last)
        · exact sourcing
  · intro item _ state sourcing
    exact runRebalance_sourcing known (fun _ impossible => by cases impossible) _ _ _
      ⟨sourcing.records, sourcing.snapshots⟩
  · intro state sourcing
    have kept := sourcing.mono after
    unfold takeSnapshot
    dsimp only
    by_cases undefined : (timeline.slice entry.2 entry.1).benchmarkStart = 0
    · rw [if_pos undefined]
      exact ⟨kept.records, kept.snapshots⟩
    · rw [if_neg undefined]
      refine { records := kept.records, snapshots := ?_ }
      intro snapshot member
      rcases List.mem_append.mp member with earlier | latest
      · exact kept.snapshots snapshot earlier
      · rw [List.mem_singleton.mp latest]
        exact ⟨known, Int.lt_succ _⟩
  · intro batch symbol _ state sourcing
    unfold generateSignal
    dsimp only
    split
    · exact ⟨sourcing.records, sourcing.snapshots⟩
    · split <;> exact ⟨sourcing.records, sourcing.snapshots⟩

theorem reached_sourced (config : BacktestConfig) (strategy : Strategy)
    (barsBySymbol : String -> List HistoricalBar) (benchmarkBars : List HistoricalBar) :
    forall record, record ∈ (reached config strategy barsBySymbol benchmarkBars).rebalances ->
      record.Sourced (align config barsBySymbol benchmarkBars) := by
  have timed : exists time, Sourcing (align config barsBySymbol benchmarkBars) time
      (reached config strategy barsBySymbol benchmarkBars) := by
    refine run_timed (fun _ _ _ => Sourcing.mono) ?_ ?_
    · exact Sourcing.initial _
    · intro entry member due
      exact barBody_sourcing strategy (List.mem_of_getElem? (mem_zipIdx_times member)) due
  rcases timed with ⟨_, sourcing⟩
  exact sourcing.records

end Sourcing

/-- A fill names the bar it executed on. -/
theorem rebalance_source {config : BacktestConfig} {call : RebalanceCall} {ledger : Ledger}
    {outcome : Rebalancing} (done : rebalance config call ledger = .ok outcome) :
    forall fill, fill ∈ outcome.fills ->
      fill.trade.sourcePriceBarId = (call.bars fill.symbol).id := by
  have ordered {symbol : String} {side : Side} {quantity : Rat} {state next : Rebalancing}
      (holds : forall fill, fill ∈ state.fills ->
        fill.trade.sourcePriceBarId = (call.bars fill.symbol).id)
      (ordered : state.order config call symbol side quantity = .ok next) :
      forall fill, fill ∈ next.fills ->
        fill.trade.sourcePriceBarId = (call.bars fill.symbol).id := by
    unfold Rebalancing.order at ordered
    rcases Loops.except_bind_ok ordered with ⟨filled, executed, rest⟩
    cases rest
    have source : filled.trade.sourcePriceBarId = (call.bars symbol).id := by
      unfold execute at executed
      cases side with
      | buy =>
          dsimp only at executed
          split at executed
          · cases executed
          · cases executed
            rfl
      | sell =>
          cases executed
          rfl
    intro fill member
    rcases List.mem_append.mp member with earlier | latest
    · exact holds fill earlier
    · rw [List.mem_singleton.mp latest]
      exact source
  refine rebalance_rule
    (motive := fun state => forall fill, fill ∈ state.fills ->
      fill.trade.sourcePriceBarId = (call.bars fill.symbol).id)
    (fun _ member => absurd member List.not_mem_nil) ?_ ?_ ?_ done
  · intro state next _ fills holds
    rw [fills]
    exact holds
  · intro state next symbol _ holds _ sold
    exact ordered holds sold
  · intro state next symbol quantity _ holds _ bought
    exact ordered holds bought

/-! ## What a bar adds to the run -/

def Traded (trades : List SimulatedTrade) (bar : HistoricalBar) : Prop :=
  exists trade, trade ∈ trades ∧ trade.sourcePriceBarId = bar.id

/-- What the stages after the risk check add: the items that are due, and rebalances that no
limit caused. -/
structure Extends (due : List PendingTargets) (before after : Simulation) : Prop where
  executed : forall item, item ∈ after.executed -> item ∈ before.executed ∨ item ∈ due
  kept : forall record, record ∈ before.rebalances -> record ∈ after.rebalances
  added : forall record, record ∈ after.rebalances ->
    record ∈ before.rebalances ∨ forall snapshot, record.cause ≠ .riskLimit snapshot

theorem Extends.refl (due : List PendingTargets) (state : Simulation) : Extends due state state where
  executed := fun _ member => Or.inl member
  kept := fun _ member => member
  added := fun _ member => Or.inl member

/-- A risk-limit rebalance as the state before the bar asks for it. -/
structure RiskCaused (config : BacktestConfig) (due : List PendingTargets) (eventTime : Instant)
    (before : Simulation) (record : RebalanceRecord) : Prop where
  nothingDue : due = []
  time : record.eventTime = eventTime
  ledger : record.before = before.ledger
  snapshot : forall snapshot, record.cause = .riskLimit snapshot ->
    before.snapshots.getLast? = some snapshot ∧ riskLimitBreached snapshot config = true

section Growth

variable {config : BacktestConfig} {strategy : Strategy} {slice : Slice}
  {due : List PendingTargets} {start state final : Simulation} {batch : SignalBatch}

/-- Only the executed items and the rebalances matter. -/
theorem Extends.congr {next : Simulation} (extends_ : Extends due start state)
    (executed : next.executed = state.executed) (rebalances : next.rebalances = state.rebalances) :
    Extends due start next where
  executed := executed ▸ extends_.executed
  kept := rebalances ▸ extends_.kept
  added := rebalances ▸ extends_.added

theorem executePending_extends {item : PendingTargets} (member : item ∈ due) :
    Loops.Preserves (Extends due start) (executePending config slice item) := by
  intro state extends_
  have executed : forall other, other ∈ state.executed ++ [item] ->
      other ∈ start.executed ∨ other ∈ due := by
    intro other listed
    rcases List.mem_append.mp listed with earlier | latest
    · exact extends_.executed other earlier
    · rw [List.mem_singleton.mp latest]
      exact Or.inr member
  unfold executePending runRebalance
  dsimp only
  split
  · exact ⟨executed, extends_.kept, extends_.added⟩
  · refine ⟨executed, fun record known => List.mem_append_left _ (extends_.kept record known), ?_⟩
    intro record listed
    rcases List.mem_append.mp listed with earlier | latest
    · exact extends_.added record earlier
    · rw [List.mem_singleton.mp latest]
      exact Or.inr fun _ same => by cases same

theorem takeSnapshot_extends :
    Loops.Preserves (Extends due start) (takeSnapshot config slice) := by
  intro state extends_
  unfold takeSnapshot
  dsimp only
  split <;> exact extends_.congr rfl rfl

theorem generateSignal_extends (symbol : String) :
    Loops.Preserves (Extends due start) (generateSignal strategy slice batch symbol) := by
  intro state extends_
  unfold generateSignal
  dsimp only
  split
  · exact extends_.congr rfl rfl
  · split <;> exact extends_.congr rfl rfl

/-- The risk check adds nothing, or the rebalance that the last close asks for. -/
theorem riskRebalance_adds {result : Unit}
    (done : riskRebalance config slice due start = .ok result state) :
    state.executed = start.executed ∧
      (state.rebalances = start.rebalances ∨
        exists record, state.rebalances = start.rebalances ++ [record] ∧
          RiskCaused config due slice.eventTime start record) := by
  unfold riskRebalance at done
  cases last : start.snapshots.getLast? with
  | none =>
      rw [last] at done
      cases done
      exact ⟨rfl, Or.inl rfl⟩
  | some snapshot =>
      rw [last] at done
      dsimp only at done
      split at done
      · rename_i breached
        unfold runRebalance at done
        dsimp only at done
        split at done
        · cases done
        · cases done
          refine ⟨rfl, Or.inr ⟨_, rfl, ?_⟩⟩
          refine { nothingDue := breached.1, time := rfl, ledger := rfl, snapshot := ?_ }
          rintro _ ⟨⟩
          exact ⟨last, breached.2⟩
      · cases done
        exact ⟨rfl, Or.inl rfl⟩

/-- What a bar adds: the items that are due, and at most one rebalance caused by a limit. -/
theorem barBody_adds (done : barBody config strategy slice due start = .ok batch final) :
    (forall item, item ∈ final.executed -> item ∈ start.executed ∨ item ∈ due) ∧
      (forall record, record ∈ start.rebalances -> record ∈ final.rebalances) ∧
      forall record, record ∈ final.rebalances ->
        record ∈ start.rebalances ∨ (forall snapshot, record.cause ≠ .riskLimit snapshot) ∨
          RiskCaused config due slice.eventTime start record := by
  rcases Loops.bind_ok done with ⟨_, checked, risk, afterRisk⟩
  rcases riskRebalance_adds risk with ⟨executed, rebalances⟩
  have rest : Loops.Preserves (Extends due checked) (do
      due.forM (executePending config slice)
      takeSnapshot config slice
      generateSignals config strategy slice) :=
    (Loops.Preserves.forM fun item member => executePending_extends member).bind fun _ =>
      takeSnapshot_extends.bind fun _ =>
        Loops.Preserves.foldlM (fun symbol _ _ => generateSignal_extends symbol) _
  have extends_ := rest checked (Extends.refl due checked)
  rw [afterRisk] at extends_
  change Extends due checked final at extends_
  refine ⟨fun item member => executed ▸ extends_.executed item member, ?_, ?_⟩
  · intro record member
    refine extends_.kept record ?_
    rcases rebalances with same | ⟨caused, same, _⟩
    · exact same ▸ member
    · exact same ▸ List.mem_append_left _ member
  · intro record member
    rcases extends_.added record member with known | signalled
    · rcases rebalances with same | ⟨caused, same, risk⟩
      · exact Or.inl (same ▸ known)
      · rw [same] at known
        rcases List.mem_append.mp known with earlier | latest
        · exact Or.inl earlier
        · exact Or.inr (Or.inr (List.mem_singleton.mp latest ▸ risk))
    · exact Or.inr (Or.inl signalled)

end Growth

/-! ## What the engine and the report do not ask about -/

/-- The trade executes after the publication of every bar of the histories behind the
targets in force, and of every bar whose close triggered it. -/
structure RebalanceRecord.NoTimingLeak (config : BacktestConfig) (timeline : Timeline)
    (record : RebalanceRecord) (trade : SimulatedTrade) : Prop where
  history : forall symbol, symbol ∈ config.symbols ->
    forall item, inForce record.executed symbol = some item ->
      forall position time, position ≤ item.signalIndex ->
        timeline.times[position]? = some time ->
        (timeline.bars time symbol).publicationTime < trade.executionTime
  trigger : forall snapshot, record.cause = .riskLimit snapshot ->
    forall symbol, symbol ∈ config.symbols -> (record.before.positions symbol).quantity ≠ 0 ->
      (timeline.bars snapshot.eventTime symbol).publicationTime < trade.executionTime

/-- The bar is published before the instant, or the run has already traded on it, in which case
the report will ask about it. -/
def Answered (state : Simulation) (bar : HistoricalBar) (time : Instant) : Prop :=
  bar.publicationTime < time ∨ Traded state.result.trades bar

/-- The condition before a bar of the run: the older bars of the histories behind the items that
execute on it are answered for, and so are the bars of the last close when nothing is due and
that close breached a limit. -/
structure HistoryAnswered (config : BacktestConfig) (timeline : Timeline) (state : EngineState)
    (entry : Instant × Nat) : Prop where
  history : forall item, item ∈ state.pending -> item.executionIndex = entry.2 ->
    forall symbol, symbol ∈ config.symbols -> (item.updates.lookup symbol).isSome = true ->
      forall position time, position < item.signalIndex ->
        timeline.times[position]? = some time ->
        Answered state.simulation (timeline.bars time symbol) entry.1
  trigger : (forall item, item ∈ state.pending -> item.executionIndex ≠ entry.2) ->
    forall snapshot, state.simulation.snapshots.getLast? = some snapshot ->
      riskLimitBreached snapshot config = true ->
      forall symbol, symbol ∈ config.symbols ->
        (state.simulation.ledger.positions symbol).quantity ≠ 0 ->
        Answered state.simulation (timeline.bars snapshot.eventTime symbol) entry.1

/-- One bar of the run. -/
def barStep (config : BacktestConfig) (strategy : Strategy) (timeline : Timeline)
    (state : EngineState) (entry : Instant × Nat) : EngineState :=
  Loops.finalState (processBar config strategy timeline entry state)

/-- What the bars so far have been found to be. -/
structure Cleared (config : BacktestConfig) (timeline : Timeline) (state : Simulation) : Prop where
  executed : forall item, item ∈ state.executed ->
    forall symbol, symbol ∈ config.symbols -> (item.updates.lookup symbol).isSome = true ->
      forall position time executionTime, position < item.signalIndex ->
        timeline.times[position]? = some time ->
        timeline.times[item.executionIndex]? = some executionTime ->
        Answered state (timeline.bars time symbol) executionTime
  triggers : forall record, record ∈ state.rebalances ->
    forall snapshot, record.cause = .riskLimit snapshot ->
      forall symbol, symbol ∈ config.symbols -> (record.before.positions symbol).quantity ≠ 0 ->
        Answered state (timeline.bars snapshot.eventTime symbol) record.eventTime

section Runs

variable {config : BacktestConfig} {strategy : Strategy} {timeline : Timeline}

theorem Cleared.initial (config : BacktestConfig) (timeline : Timeline) :
    Cleared config timeline (.initial config) where
  executed := fun _ member => absurd member List.not_mem_nil
  triggers := fun _ member => absurd member List.not_mem_nil

theorem Answered.mono {before after : Simulation} {bar : HistoricalBar} {time : Instant}
    (kept : forall record, record ∈ before.rebalances -> record ∈ after.rebalances)
    (answered : Answered before bar time) : Answered after bar time := by
  rcases answered with published | ⟨trade, listed, source⟩
  · exact Or.inl published
  · rcases List.mem_flatMap.mp listed with ⟨record, known, inRecord⟩
    exact Or.inr ⟨trade, List.mem_flatMap.mpr ⟨record, kept record known, inRecord⟩, source⟩

/-- A bar that meets the condition clears what it executes and what its limit check causes. -/
theorem processBar_cleared {entry : Instant × Nat} {state next : EngineState}
    (current : timeline.times[entry.2]? = some entry.1)
    (known : HistoryAnswered config timeline state entry)
    (cleared : Cleared config timeline state.simulation)
    (done : processBar config strategy timeline entry state = .ok () next) :
    Cleared config timeline next.simulation := by
  unfold processBar at done
  dsimp only at done
  cases body : barBody config strategy (timeline.slice entry.2 entry.1)
      (state.pending.filter fun item => item.executionIndex = entry.2) state.simulation with
  | error failure simulation =>
      rw [body] at done
      cases done
  | ok batch simulation =>
      rw [body] at done
      cases done
      rcases barBody_adds body with ⟨executed, kept, added⟩
      refine { executed := ?_, triggers := ?_ }
      · intro item member symbol chosen updated position time executionTime older looked executedAt
        rcases executed item member with earlier | due
        · exact (cleared.executed item earlier symbol chosen updated position time executionTime
            older looked executedAt).mono kept
        · rcases List.mem_filter.mp due with ⟨pending, now⟩
          have index : item.executionIndex = entry.2 := of_decide_eq_true now
          rw [index, current] at executedAt
          cases executedAt
          exact (known.history item pending index symbol chosen updated position time older
            looked).mono kept
      · intro record member snapshot cause symbol chosen held
        rcases added record member with earlier | signalled | risk
        · exact (cleared.triggers record earlier snapshot cause symbol chosen held).mono kept
        · exact absurd cause (signalled snapshot)
        · rcases risk.snapshot snapshot cause with ⟨last, breached⟩
          rw [risk.ledger] at held
          rw [risk.time]
          refine (known.trigger ?_ snapshot last breached symbol chosen held).mono kept
          intro item pending index
          have due : item ∈ state.pending.filter fun item => item.executionIndex = entry.2 :=
            List.mem_filter.mpr ⟨pending, decide_eq_true index⟩
          rw [risk.nothingDue] at due
          cases due

/-- A completed run all of whose bars meet the condition is cleared. -/
theorem run_cleared {barsBySymbol : String -> List HistoricalBar}
    {benchmarkBars : List HistoricalBar} {final : EngineState}
    (done : run config strategy barsBySymbol benchmarkBars = .ok () final)
    (along : Runs.Along (barStep config strategy (align config barsBySymbol benchmarkBars))
      (HistoryAnswered config (align config barsBySymbol benchmarkBars)) (.initial config)
      (align config barsBySymbol benchmarkBars).times.zipIdx) :
    Cleared config (align config barsBySymbol benchmarkBars) final.simulation := by
  have ends := Loops.forM_induction
    (motive := fun remaining state =>
      (forall entry, entry ∈ remaining ->
        (align config barsBySymbol benchmarkBars).times[entry.2]? = some entry.1) ∧
      Runs.Along (barStep config strategy (align config barsBySymbol benchmarkBars))
        (HistoryAnswered config (align config barsBySymbol benchmarkBars)) state remaining ∧
      Cleared config (align config barsBySymbol benchmarkBars) state.simulation)
    (fun entry remaining state next held step => by
      rcases held with ⟨entries, ⟨now, later⟩, cleared⟩
      unfold barStep at later
      rw [step] at later
      exact ⟨fun other member => entries other (List.mem_cons_of_mem _ member), later,
        processBar_cleared (entries entry List.mem_cons_self) now cleared step⟩)
    _ _ _ ⟨fun entry member => mem_zipIdx_times member, along, Cleared.initial config _⟩
    (run_ok done)
  exact ends.2.2

/-- Bars that are published before the next aligned instant. -/
def Prompt (config : BacktestConfig) (timeline : Timeline) : Prop :=
  forall position time next, timeline.times[position]? = some time ->
    timeline.times[position + 1]? = some next ->
    forall symbol, symbol ∈ config.symbols -> (timeline.bars time symbol).publicationTime < next

theorem Prompt.published (prompt : Prompt config timeline) (strict : timeline.times.Pairwise (· < ·))
    {position later : Nat} {time now : Instant} (looked : timeline.times[position]? = some time)
    (current : timeline.times[later]? = some now) (order : position < later) {symbol : String}
    (chosen : symbol ∈ config.symbols) : (timeline.bars time symbol).publicationTime < now := by
  have bound := (List.getElem?_eq_some_iff.mp current).1
  have inside : position + 1 < timeline.times.length := by omega
  have between : timeline.times[position + 1]? = some timeline.times[position + 1] :=
    List.getElem?_eq_getElem inside
  refine (prompt position time _ looked between symbol chosen).trans_le ?_
  exact SortedLists.getElem?_le strict between current order

/-- What is known before the bars that remain: items are scheduled, and snapshots are older. -/
structure Underway (config : BacktestConfig) (timeline : Timeline)
    (remaining : List (Instant × Nat)) (state : EngineState) : Prop where
  progress : Progress config timeline remaining state
  sourcing : forall entry, entry ∈ remaining -> Sourcing timeline entry.1 state.simulation

theorem processBar_underway (strict : timeline.times.Pairwise (· < ·))
    (times : forall time, time ∈ timeline.times -> forall symbol, symbol ∈ config.symbols ->
      (timeline.bars time symbol).eventTime = time)
    {entry : Instant × Nat} {remaining : List (Instant × Nat)} {state next : EngineState}
    (underway : Underway config timeline (entry :: remaining) state)
    (done : processBar config strategy timeline entry state = .ok () next) :
    Underway config timeline remaining next where
  progress := processBar_progress times underway.progress done
  sourcing := by
    intro later member
    have current := underway.progress.entries entry List.mem_cons_self
    have ahead := underway.progress.entries later (List.mem_cons_of_mem _ member)
    have order := (List.pairwise_cons.mp underway.progress.increasing).1 later member
    have body := @barBody_sourcing config timeline entry strategy (List.mem_of_getElem? current)
    have kept := processBar_meets body state (underway.sourcing entry List.mem_cons_self)
    rw [done] at kept
    exact kept.mono (SortedLists.getElem?_lt strict current ahead order)

/-- Prompt bars meet the condition before the next bar of the run. -/
theorem Underway.historyAnswered (strict : timeline.times.Pairwise (· < ·))
    (prompt : Prompt config timeline) {entry : Instant × Nat} {remaining : List (Instant × Nat)}
    {state : EngineState} (underway : Underway config timeline (entry :: remaining) state) :
    HistoryAnswered config timeline state entry where
  history := by
    intro item pending index symbol chosen _ position time older looked
    have current := underway.progress.entries entry List.mem_cons_self
    have waits := (underway.progress.pending item pending).delay
    exact Or.inl (prompt.published strict looked current (by omega) chosen)
  trigger := by
    intro _ snapshot last _ symbol chosen _
    have current := underway.progress.entries entry List.mem_cons_self
    rcases (underway.sourcing entry List.mem_cons_self).snapshots snapshot
      (List.mem_of_getLast? last) with ⟨known, earlier⟩
    rcases List.mem_iff_getElem?.mp known with ⟨position, looked⟩
    have order : position < entry.2 := by
      by_contra later
      have bound := SortedLists.getElem?_le strict current looked (not_lt.mp later)
      exact absurd earlier (not_lt.mpr bound)
    exact Or.inl (prompt.published strict looked current order chosen)

/-- Prompt bars meet the condition before every bar of a completed run. -/
theorem historyAnswered_of_prompt {barsBySymbol : String -> List HistoricalBar}
    {benchmarkBars : List HistoricalBar} {final : EngineState}
    (done : run config strategy barsBySymbol benchmarkBars = .ok () final)
    (prompt : Prompt config (align config barsBySymbol benchmarkBars)) :
    Runs.Along (barStep config strategy (align config barsBySymbol benchmarkBars))
      (HistoryAnswered config (align config barsBySymbol benchmarkBars)) (.initial config)
      (align config barsBySymbol benchmarkBars).times.zipIdx := by
  have known : forall time, time ∈ (align config barsBySymbol benchmarkBars).times ->
      forall symbol, symbol ∈ config.symbols ->
        ((align config barsBySymbol benchmarkBars).bars time symbol).eventTime = time :=
    fun _ member _ chosen => (align_bar member chosen).2
  have along : forall remaining state,
      Underway config (align config barsBySymbol benchmarkBars) remaining state ->
      remaining.forM (processBar config strategy (align config barsBySymbol benchmarkBars)) state =
        .ok () final ->
      Runs.Along (barStep config strategy (align config barsBySymbol benchmarkBars))
        (HistoryAnswered config (align config barsBySymbol benchmarkBars)) state remaining := by
    intro remaining
    induction remaining with
    | nil => exact fun _ _ _ => trivial
    | cons entry rest ih =>
        intro state underway loop
        rcases Loops.bind_ok loop with ⟨_, next, here, later⟩
        refine ⟨underway.historyAnswered commonTimes_strict prompt, ?_⟩
        unfold barStep
        rw [here]
        exact ih next (processBar_underway commonTimes_strict known underway here)
          later
  exact along _ _
    { progress := Progress.initial config _ _
      sourcing := fun entry _ => Sourcing.initial _ entry.1 } (run_ok done)

end Runs

section Validated

variable {config : BacktestConfig} {strategy : Strategy} {bars : StoredBars} {report : BacktestRun}

/-- The run of the engine over stored rows. -/
def storedRun (config : BacktestConfig) (strategy : Strategy) (bars : StoredBars) :
    EStateM.Result EngineError EngineState Unit :=
  run config strategy bars.history (bars.history config.benchmarkSymbol)

def storedTimeline (config : BacktestConfig) (bars : StoredBars) : Timeline :=
  align config bars.history (bars.history config.benchmarkSymbol)

/-- The report of a run over stored rows. -/
def reportOf (bars : StoredBars) (final : EngineState) (run : BacktestRun) :
    BacktestValidationReport :=
  createValidationReport bars.rows (final.simulation.result.trades.map storeTrade) run

/-- An aligned bar of a selected symbol is a stored row with its own event time. -/
theorem storedTimeline_row {time : Instant} (known : time ∈ (storedTimeline config bars).times)
    {symbol : String} (selected : symbol ∈ config.symbols) :
    exists row, row ∈ bars.rows ∧
      (storedTimeline config bars).bars time symbol = historicalBar row symbol ∧
      row.eventTime = time := by
  rcases align_bar known selected with ⟨member, eventTime⟩
  rcases List.mem_map.mp member with ⟨row, loaded, same⟩
  refine ⟨row, bars.stored symbol row loaded, same.symm, ?_⟩
  rw [← same] at eventTime
  exact eventTime

/-- In a validated run a bar that some trade executed on was published by its own
event time. -/
theorem traded_published {final : EngineState}
    (done : storedRun config strategy bars = .ok () final)
    (validated : (reportOf bars final report).isValidated = true) {time : Instant}
    (known : time ∈ (storedTimeline config bars).times) {symbol : String}
    (selected : symbol ∈ config.symbols)
    (traded : Traded final.simulation.result.trades ((storedTimeline config bars).bars time symbol)) :
    ((storedTimeline config bars).bars time symbol).publicationTime ≤ time := by
  have same : reached config strategy bars.history (bars.history config.benchmarkSymbol) =
      final.simulation := congrArg (fun result => (Loops.finalState result).simulation) done
  rcases traded with ⟨trade, listed, source⟩
  rcases List.mem_flatMap.mp listed with ⟨record, recorded, inRecord⟩
  rcases List.mem_map.mp inRecord with ⟨fill, filled, rfl⟩
  rw [← same] at recorded
  have outcome := reached_recorded config strategy _ _ record recorded
  have sourced := reached_sourced config strategy _ _ record recorded
  rcases rebalance_atBar outcome fill filled with ⟨chosen, atBar⟩
  have named := rebalance_source outcome fill filled
  rw [sourced.bars] at atBar named
  rcases storedTimeline_row known selected with ⟨row, stored, isRow, eventTime⟩
  rcases storedTimeline_row sourced.time chosen with ⟨executed, storedToo, isExecuted, _⟩
  have executedBar : (align config bars.history (bars.history config.benchmarkSymbol)).bars
      record.eventTime fill.symbol = historicalBar executed fill.symbol := isExecuted
  have bothNamed : executed.id = row.id := by
    rw [executedBar] at named
    rw [isRow] at source
    exact named.symm.trans source
  have equal : executed = row :=
    List.inj_on_of_nodup_map bars.distinct storedToo stored bothNamed
  have published := published_of_isValidated bars.distinct validated
    (List.mem_map_of_mem (f := storeTrade) listed) stored (source.trans (congrArg _ isRow))
  have executionTime : fill.trade.executionTime = time := by
    rw [atBar, executedBar, equal]
    exact eventTime
  rw [isRow, ← executionTime]
  exact published

/-- In a validated run a answered bar was published before every later instant. -/
theorem published_of_answered {final : EngineState}
    (done : storedRun config strategy bars = .ok () final)
    (validated : (reportOf bars final report).isValidated = true) {time now : Instant}
    (known : time ∈ (storedTimeline config bars).times) {symbol : String}
    (selected : symbol ∈ config.symbols) (later : time < now)
    (answered : Answered final.simulation ((storedTimeline config bars).bars time symbol) now) :
    ((storedTimeline config bars).bars time symbol).publicationTime < now := by
  rcases answered with published | traded
  · exact published
  · exact (traded_published done validated known selected traded).trans_lt later

/-- A validated run has no timing leak if before each of its bars the older bars of the histories
about to be acted on, and those of a breaching close, are answered. -/
theorem noTimingLeak_of_historyAnswered {final : EngineState}
    (done : storedRun config strategy bars = .ok () final)
    (validated : (reportOf bars final report).isValidated = true)
    (along : Runs.Along (barStep config strategy (storedTimeline config bars))
      (HistoryAnswered config (storedTimeline config bars)) (.initial config)
      (storedTimeline config bars).times.zipIdx) :
    forall record, record ∈ final.simulation.rebalances ->
      forall fill, fill ∈ record.outcome.fills ->
        record.NoTimingLeak config (storedTimeline config bars) fill.trade := by
  intro record member fill filled
  have cleared := run_cleared done along
  have same : reached config strategy bars.history (bars.history config.benchmarkSymbol) =
      final.simulation := congrArg (fun result => (Loops.finalState result).simulation) done
  rcases run_informed done with ⟨_, informed⟩
  have knows := informed.records record member
  have sourced := reached_sourced config strategy _ _ record (same ▸ member)
  have executionTime := knows.fills fill filled
  refine { history := ?_, trigger := ?_ }
  · intro symbol selected item held position time inHistory looked
    rcases inForce_some held with ⟨executed, updated⟩
    rcases knows.executed item executed with ⟨scheduled, notLater⟩
    rcases scheduled.later with ⟨eligible, executedAt, afterSignal⟩
    have waits := scheduled.delay
    have delay := config.executionDelay_range.1
    have order : eligible ≤ record.eventTime :=
      SortedLists.getElem?_le commonTimes_strict executedAt knows.time notLater
    rw [executionTime]
    rcases lt_or_eq_of_le inHistory with older | last
    · have before : time < eligible :=
        SortedLists.getElem?_lt commonTimes_strict looked executedAt (by omega)
      have answered := cleared.executed item (informed.listed record member item executed) symbol
        selected updated position time eligible older looked executedAt
      exact (published_of_answered done validated (List.mem_of_getElem? looked) selected before
        answered).trans_le order
    · -- The engine itself waits for the signal's own bar.
      have signalled := scheduled.covers symbol updated time (last ▸ looked)
      calc
        ((storedTimeline config bars).bars time symbol).publicationTime ≤
            ((storedTimeline config bars).bars time symbol).signalTime := le_max_left _ _
        _ ≤ item.signalTime := signalled
        _ < eligible := afterSignal
        _ ≤ record.eventTime := order
  · intro snapshot cause symbol selected holding
    rcases sourced.trigger snapshot cause with ⟨known, earlier⟩
    rw [executionTime]
    exact published_of_answered done validated known selected earlier
      (cleared.triggers record member snapshot cause symbol selected holding)

end Validated

/-! ## A validated run over a history published late -/

def storedRow (id : Identifier) (day : Nat) (publicationTime : Instant) : PriceBar where
  id := id
  assetId := 0
  eventTime := day
  publicationTime := publicationTime
  effectiveTime := day
  retrievalTime := publicationTime
  openPrice := 1
  closePrice := 1
  isDemonstrationData := false

def lateRows : List PriceBar :=
  [storedRow 0 0 10, storedRow 1 1 1, storedRow 2 2 2]

def benchmarkRows : List PriceBar :=
  [storedRow 3 0 0, storedRow 4 1 1, storedRow 5 2 2]

/-- The first of three daily bars is published after the last one. -/
def lateStore : StoredBars where
  rows := lateRows ++ benchmarkRows
  loaded := fun symbol => if symbol = "SPY" then benchmarkRows else lateRows
  distinct := by decide
  stored := by
    intro symbol row member
    by_cases benchmark : symbol = "SPY"
    · rw [if_pos benchmark] at member
      exact List.mem_append_right _ member
    · rw [if_neg benchmark] at member
      exact List.mem_append_left _ member

def lateReport : BacktestRun where
  adjustmentStatuses := ["unadjusted"]
  coverageWarnings := []

/-- The purchase at time 2 acts on a close published at time 10, and the report of
the run is validated. -/
theorem lateStore_validated_leak :
    (forall row, row ∈ lateStore.rows ->
      row.eventTime ≤ row.publicationTime ∧ row.eventTime ≤ row.effectiveTime) ∧
    exists final, storedRun thinConfig secondBarBuy lateStore = .ok () final ∧
      (reportOf lateStore final lateReport).isValidated = true ∧
      exists record, record ∈ final.simulation.rebalances ∧
        exists fill, fill ∈ record.outcome.fills ∧
          ¬ record.NoTimingLeak thinConfig (storedTimeline thinConfig lateStore) fill.trade := by
  refine ⟨by decide +kernel, _, Loops.eq_ok_of_completed (by decide +kernel), by decide +kernel,
    ?_⟩
  have recorded : (Loops.finalState
      (storedRun thinConfig secondBarBuy lateStore)).simulation.rebalances.any (fun record =>
        (inForce record.executed "ATOM").map PendingTargets.signalIndex = some 1 ∧
          record.outcome.fills.map (fun fill => fill.trade.executionTime) = [2]) = true := by
    decide +kernel
  rcases List.any_eq_true.mp recorded with ⟨record, member, matching⟩
  rcases of_decide_eq_true matching with ⟨signalled, times⟩
  rcases Option.map_eq_some_iff.mp signalled with ⟨item, found, index⟩
  rcases List.map_eq_singleton_iff.mp times with ⟨fill, fills, time⟩
  refine ⟨record, member, fill, fills ▸ List.mem_singleton.mpr rfl, fun leakless => ?_⟩
  have published := leakless.history "ATOM" (by decide) item found 0 0 (by omega)
    (by decide +kernel)
  rw [time] at published
  exact absurd published (by decide +kernel)

/-! ## A validated run over prompt bars -/

def promptRows : List PriceBar :=
  [storedRow 0 0 0, storedRow 1 1 1, storedRow 2 2 2]

/-- The same bars, each published at its own close. -/
def promptStore : StoredBars where
  rows := promptRows ++ benchmarkRows
  loaded := fun symbol => if symbol = "SPY" then benchmarkRows else promptRows
  distinct := by decide
  stored := by
    intro symbol row member
    by_cases benchmark : symbol = "SPY"
    · rw [if_pos benchmark] at member
      exact List.mem_append_right _ member
    · rw [if_neg benchmark] at member
      exact List.mem_append_left _ member

theorem promptStore_prompt : Prompt thinConfig (storedTimeline thinConfig promptStore) := by
  have times : (storedTimeline thinConfig promptStore).times = [0, 1, 2] := by decide +kernel
  have prompt : (storedTimeline thinConfig promptStore).times.all (fun time =>
      thinConfig.symbols.all fun symbol =>
        ((storedTimeline thinConfig promptStore).bars time symbol).publicationTime = time) = true := by
    decide +kernel
  intro position time next looked following symbol chosen
  have published := of_decide_eq_true
    (List.all_eq_true.mp (List.all_eq_true.mp prompt time (List.mem_of_getElem? looked)) symbol
      chosen)
  rw [published]
  exact SortedLists.getElem?_lt commonTimes_strict looked following (Nat.lt_succ_self position)

/-- The run buys at time 2 on the closes of times 0 and 1, and both were published before. -/
theorem promptStore_noTimingLeak :
    (Loops.finalState (storedRun thinConfig secondBarBuy promptStore)).simulation.result.trades.map
        (fun trade => (trade.side, trade.executionTime)) = [(.buy, 2)] ∧
      forall record, record ∈
          (Loops.finalState (storedRun thinConfig secondBarBuy promptStore)).simulation.rebalances ->
        forall fill, fill ∈ record.outcome.fills ->
          record.NoTimingLeak thinConfig (storedTimeline thinConfig promptStore) fill.trade := by
  have done : storedRun thinConfig secondBarBuy promptStore =
      .ok () (Loops.finalState (storedRun thinConfig secondBarBuy promptStore)) :=
    Loops.eq_ok_of_completed (by decide +kernel)
  exact ⟨by decide +kernel, noTimingLeak_of_historyAnswered done
    (by decide +kernel :
      (reportOf promptStore (Loops.finalState (storedRun thinConfig secondBarBuy promptStore))
        lateReport).isValidated = true)
    (historyAnswered_of_prompt done promptStore_prompt)⟩

end Backtesting
end MarketIntelligence
