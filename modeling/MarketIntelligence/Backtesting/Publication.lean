import MarketIntelligence.Backtesting.Solvency
import MarketIntelligence.Backtesting.Scheduling

namespace MarketIntelligence
namespace Backtesting

open Foundations

/-!
# What a fill knows

A signal waits until its own bars are published.  The older bars of the history
it was computed from are not asked about, and a risk-limit rebalance asks about
no bar at all.

The targets outlive the signal that set them, so the bars behind a fill are
those behind every item that still has a target in force.  When each executed
item finds the older bars of its history published, so does every later fill.
-/

/-! ## Targets in force -/

/-- The item that set the target a symbol has, when a signal ever did. -/
def inForce (executed : List PendingTargets) (symbol : String) : Option PendingTargets :=
  executed.reverse.find? fun item => (item.updates.lookup symbol).isSome

theorem inForce_append (executed : List PendingTargets) (item : PendingTargets) (symbol : String) :
    inForce (executed ++ [item]) symbol =
      if (item.updates.lookup symbol).isSome then some item else inForce executed symbol := by
  unfold inForce
  rw [List.reverse_append, List.reverse_singleton, List.singleton_append, List.find?_cons]
  split <;> rename_i looked
  · rw [looked, if_pos rfl]
  · rw [looked]
    rfl

theorem inForce_some {executed : List PendingTargets} {item : PendingTargets} {symbol : String}
    (found : inForce executed symbol = some item) :
    item ∈ executed ∧ (item.updates.lookup symbol).isSome = true :=
  ⟨List.mem_reverse.mp (List.mem_of_find?_eq_some found),
    List.find?_some (p := fun item : PendingTargets => (item.updates.lookup symbol).isSome) found⟩

/-- The target the executed items leave for a symbol. -/
def targetOf (executed : List PendingTargets) (symbol : String) : FloatValue :=
  ((inForce executed symbol).bind fun item => item.updates.lookup symbol).getD (.finite 0)

theorem targetOf_append (executed : List PendingTargets) (item : PendingTargets) :
    targetOf (executed ++ [item]) = updateTargets (targetOf executed) item.updates := by
  funext symbol
  unfold targetOf updateTargets
  rw [inForce_append]
  cases looked : item.updates.lookup symbol with
  | none => rfl
  | some weight => simp only [Option.isSome_some, if_true, Option.bind_some, looked, Option.getD_some]

/-! ## Published bars -/

def HistoricalBar.PublishedBefore (bar : HistoricalBar) (time : Instant) : Prop :=
  bar.publicationTime < time ∧ bar.effectiveTime < time

theorem publishedBefore_of_signalTime {bar : HistoricalBar} {time : Instant}
    (later : bar.signalTime < time) : bar.PublishedBefore time :=
  max_lt_iff.mp later

theorem HistoricalBar.PublishedBefore.trans {bar : HistoricalBar} {earlier later : Instant}
    (published : bar.PublishedBefore earlier) (order : earlier ≤ later) :
    bar.PublishedBefore later :=
  ⟨lt_of_lt_of_le published.1 order, lt_of_lt_of_le published.2 order⟩

/-- The trade acts on published bars only: those in the history behind every
target in force, and those whose closes triggered it. -/
structure ActsOnPublished (config : BacktestConfig) (timeline : Timeline)
    (record : RebalanceRecord) (trade : SimulatedTrade) : Prop where
  history : forall symbol item, inForce record.executed symbol = some item ->
    forall position time, position ≤ item.signalIndex -> timeline.times[position]? = some time ->
      (timeline.bars time symbol).PublishedBefore trade.executionTime
  trigger : forall snapshot, record.cause = .riskLimit snapshot ->
    forall symbol, symbol ∈ config.symbols -> (record.before.positions symbol).quantity ≠ 0 ->
      (timeline.bars snapshot.eventTime symbol).PublishedBefore trade.executionTime

/-- The item executes on a bar before which every bar of its history was
published.  The last bar of the history, which the engine asks about, is left
out. -/
def PendingTargets.HistoryPublished (timeline : Timeline) (item : PendingTargets) : Prop :=
  forall symbol, (item.updates.lookup symbol).isSome = true ->
    forall position time executionTime, position < item.signalIndex ->
      timeline.times[position]? = some time ->
      timeline.times[item.executionIndex]? = some executionTime ->
      (timeline.bars time symbol).PublishedBefore executionTime

/-- A rebalance for a risk limit runs on a bar before which the close of every held symbol at the
breaching snapshot was published.  The limit has been tested on these closes. -/
def RebalanceRecord.TriggerPublished (config : BacktestConfig) (timeline : Timeline)
    (record : RebalanceRecord) : Prop :=
  forall snapshot, record.cause = .riskLimit snapshot ->
    forall symbol, symbol ∈ config.symbols -> (record.before.positions symbol).quantity ≠ 0 ->
      (timeline.bars snapshot.eventTime symbol).PublishedBefore record.eventTime

/-! ## Scheduled items -/

/-- What holds of every pending entry: the delay has been kept, and the bar it executes on opens
after the bars of the signal were published. -/
structure Scheduled (config : BacktestConfig) (timeline : Timeline) (item : PendingTargets) :
    Prop where
  delay : item.signalIndex + config.executionDelay ≤ item.executionIndex
  later : exists time, timeline.times[item.executionIndex]? = some time ∧ item.signalTime < time
  covers : forall symbol, (item.updates.lookup symbol).isSome = true ->
    forall time, timeline.times[item.signalIndex]? = some time ->
      (timeline.bars time symbol).signalTime ≤ item.signalTime

/-- The batch carries the signal time of every symbol it updates. -/
def SignalBatch.Timed (slice : Slice) (batch : SignalBatch) : Prop :=
  forall symbol, (batch.updates.lookup symbol).isSome = true ->
    (slice.bars symbol).signalTime ∈ batch.signalTimes

theorem generateSignal_timed {strategy : Strategy} {slice : Slice} {batch next : SignalBatch}
    {symbol : String} {state after : Simulation} (timed : batch.Timed slice)
    (done : generateSignal strategy slice batch symbol state = .ok next after) :
    next.Timed slice := by
  unfold generateSignal at done
  dsimp only at done
  split at done
  · cases done
  · split at done
    · cases done
      exact timed
    · cases done
      intro other updated
      dsimp only at updated ⊢
      rw [List.lookup_append, Option.isSome_or, Bool.or_eq_true] at updated
      rcases updated with earlier | latest
      · exact List.mem_append_left _ (timed other earlier)
      · rw [List.lookup_isSome_iff] at latest
        rcases latest with ⟨entry, member, matching⟩
        rw [List.mem_singleton.mp member] at matching
        rw [show other = symbol from eq_of_beq matching]
        exact List.mem_append_right _ (List.mem_singleton.mpr rfl)

theorem generateSignals_timed {config : BacktestConfig} {strategy : Strategy} {slice : Slice}
    {batch : SignalBatch} {state after : Simulation}
    (done : generateSignals config strategy slice state = .ok batch after) : batch.Timed slice :=
  Loops.foldlM_value (motive := SignalBatch.Timed slice)
    (fun _ _ _ _ _ _ timed step => generateSignal_timed timed step) _ _ _ _
    (fun _ updated => by cases updated) done

theorem barBody_timed {config : BacktestConfig} {strategy : Strategy} {slice : Slice}
    {due : List PendingTargets} {batch : SignalBatch} {state after : Simulation}
    (done : barBody config strategy slice due state = .ok batch after) : batch.Timed slice := by
  rcases Loops.bind_ok done with ⟨_, _, _, afterRisk⟩
  rcases Loops.bind_ok afterRisk with ⟨_, _, _, afterPending⟩
  rcases Loops.bind_ok afterPending with ⟨_, _, _, signals⟩
  exact generateSignals_timed signals

theorem schedule_scheduled {config : BacktestConfig} {timeline : Timeline} {index : Nat}
    {time : Instant} {batch : SignalBatch} (current : timeline.times[index]? = some time)
    (timed : batch.Timed (timeline.slice index time)) {item : PendingTargets}
    (member : item ∈ schedule config timeline.times index batch) :
    Scheduled config timeline item := by
  unfold schedule at member
  cases latest : batch.signalTimes.max? with
  | none =>
      rw [latest] at member
      cases member
  | some signalTime =>
      rw [latest] at member
      dsimp only at member
      cases found : eligibleExecutionIndex timeline.times index signalTime
          config.executionDelay with
      | none =>
          rw [found] at member
          cases member
      | some executionIndex =>
          rw [found] at member
          have spec := eligibleExecutionIndex_spec found
          rw [List.mem_singleton.mp member]
          refine { delay := spec.1, later := spec.2, covers := ?_ }
          intro symbol updated bar looked
          rw [current] at looked
          cases looked
          exact (List.max?_eq_some_iff.mp latest).2 _ (timed symbol updated)

/-! ## The invariant of the run -/

/-- What holds of every rebalance of a run. -/
structure RebalanceRecord.Informed (config : BacktestConfig) (timeline : Timeline)
    (record : RebalanceRecord) : Prop where
  time : timeline.times[record.call.index]? = some record.eventTime
  executed : forall item, item ∈ record.executed ->
    Scheduled config timeline item ∧ item.executionIndex ≤ record.call.index
  targets : record.call.targets = targetOf record.executed
  cause : forall item, record.cause = .signal item ->
    Scheduled config timeline item ∧ item.executionIndex = record.call.index
  fills : forall fill, fill ∈ record.outcome.fills -> fill.trade.executionTime = record.eventTime

structure Informed (config : BacktestConfig) (timeline : Timeline) (bound : Nat)
    (state : Simulation) : Prop where
  records : forall record, record ∈ state.rebalances -> record.Informed config timeline
  listed : forall record, record ∈ state.rebalances ->
    forall item, item ∈ record.executed -> item ∈ state.executed
  executed : forall item, item ∈ state.executed ->
    Scheduled config timeline item ∧ item.executionIndex ≤ bound
  targets : state.targets = targetOf state.executed

theorem Informed.initial (config : BacktestConfig) (timeline : Timeline) :
    Informed config timeline 0 (.initial config) where
  records := fun _ member => absurd member List.not_mem_nil
  listed := fun _ member => absurd member List.not_mem_nil
  executed := fun _ member => absurd member List.not_mem_nil
  targets := rfl

theorem Informed.mono {config : BacktestConfig} {timeline : Timeline} {bound larger : Nat}
    {state : Simulation} (informed : Informed config timeline bound state)
    (order : bound ≤ larger) : Informed config timeline larger state where
  records := informed.records
  listed := informed.listed
  executed := fun item member =>
    ⟨(informed.executed item member).1, (informed.executed item member).2.trans order⟩
  targets := informed.targets

/-- Only the targets, the executed items and the rebalances matter. -/
theorem Informed.congr {config : BacktestConfig} {timeline : Timeline} {bound : Nat}
    {state next : Simulation} (informed : Informed config timeline bound state)
    (rebalances : next.rebalances = state.rebalances) (executed : next.executed = state.executed)
    (targets : next.targets = state.targets) : Informed config timeline bound next where
  records := rebalances ▸ informed.records
  listed := by
    rw [rebalances, executed]
    exact informed.listed
  executed := executed ▸ informed.executed
  targets := by
    rw [targets, executed]
    exact informed.targets

section Bar

variable {config : BacktestConfig} {timeline : Timeline} {slice : Slice}

theorem runRebalance_informed (current : timeline.times[slice.index]? = some slice.eventTime)
    (times : forall symbol, symbol ∈ config.symbols ->
      (slice.bars symbol).eventTime = slice.eventTime)
    {cause : Cause}
    (scheduled : forall item, cause = .signal item ->
      Scheduled config timeline item ∧ item.executionIndex = slice.index)
    (signalTime : Instant) (reasons : String -> Option String) :
    Loops.Preserves (Informed config timeline slice.index)
      (runRebalance config slice cause signalTime reasons) := by
  intro state informed
  unfold runRebalance
  dsimp only
  cases done : rebalance config
      { index := slice.index, bars := slice.bars, targets := state.targets,
        signalTime := signalTime, reasons := reasons } state.ledger with
  | error failure => exact informed
  | ok outcome =>
      refine
        { records := ?_, listed := ?_, executed := informed.executed, targets := informed.targets }
      · intro record member
        rcases List.mem_append.mp member with earlier | latest
        · exact informed.records record earlier
        · rw [List.mem_singleton.mp latest]
          refine
            { time := current, executed := informed.executed, targets := informed.targets,
              cause := scheduled, fills := ?_ }
          intro fill filled
          have atBar := rebalance_atBar done fill filled
          rw [atBar.2]
          exact times fill.symbol atBar.1
      · intro record member item listed
        rcases List.mem_append.mp member with earlier | latest
        · exact informed.listed record earlier item listed
        · rw [List.mem_singleton.mp latest] at listed
          exact listed

theorem riskRebalance_informed (current : timeline.times[slice.index]? = some slice.eventTime)
    (times : forall symbol, symbol ∈ config.symbols ->
      (slice.bars symbol).eventTime = slice.eventTime) (due : List PendingTargets) :
    Loops.Preserves (Informed config timeline slice.index) (riskRebalance config slice due) := by
  intro state informed
  unfold riskRebalance
  cases state.snapshots.getLast? with
  | none => exact informed
  | some snapshot =>
      dsimp only
      split
      · exact runRebalance_informed current times (fun _ same => by cases same) _ _ state informed
      · exact informed

theorem executePending_informed (current : timeline.times[slice.index]? = some slice.eventTime)
    (times : forall symbol, symbol ∈ config.symbols ->
      (slice.bars symbol).eventTime = slice.eventTime)
    {item : PendingTargets} (scheduled : Scheduled config timeline item)
    (due : item.executionIndex = slice.index) :
    Loops.Preserves (Informed config timeline slice.index) (executePending config slice item) := by
  intro state informed
  refine runRebalance_informed current times ?_ _ _ _ ?_
  · intro other same
    cases same
    exact ⟨scheduled, due⟩
  · refine
      { records := informed.records, listed := ?_, executed := ?_, targets := ?_ }
    · intro record member other listed
      exact List.mem_append_left _ (informed.listed record member other listed)
    · intro other member
      rcases List.mem_append.mp member with earlier | latest
      · exact informed.executed other earlier
      · rw [List.mem_singleton.mp latest]
        exact ⟨scheduled, le_of_eq due⟩
    · rw [targetOf_append, ← informed.targets]

theorem takeSnapshot_informed {bound : Nat} :
    Loops.Preserves (Informed config timeline bound) (takeSnapshot config slice) := by
  intro state informed
  unfold takeSnapshot
  dsimp only
  split <;> exact informed.congr rfl rfl rfl

theorem generateSignal_informed {bound : Nat} (strategy : Strategy) (batch : SignalBatch)
    (symbol : String) :
    Loops.Preserves (Informed config timeline bound)
      (generateSignal strategy slice batch symbol) := by
  intro state informed
  unfold generateSignal
  dsimp only
  split
  · exact informed.congr rfl rfl rfl
  · split <;> exact informed.congr rfl rfl rfl

theorem barBody_informed (slice : Slice)
    (current : timeline.times[slice.index]? = some slice.eventTime)
    (times : forall symbol, symbol ∈ config.symbols ->
      (slice.bars symbol).eventTime = slice.eventTime)
    (strategy : Strategy) {due : List PendingTargets}
    (scheduled : forall item, item ∈ due ->
      Scheduled config timeline item ∧ item.executionIndex = slice.index) :
    Loops.Preserves (Informed config timeline slice.index)
      (barBody config strategy slice due) :=
  barBody_preserves (riskRebalance_informed current times due)
    (fun item member => executePending_informed current times (scheduled item member).1
      (scheduled item member).2)
    takeSnapshot_informed (fun batch symbol _ => generateSignal_informed strategy batch symbol)

end Bar

/-! ## The whole run -/

/-- The state of the loop with the entries that are still to come. -/
structure Progress (config : BacktestConfig) (timeline : Timeline)
    (remaining : List (Instant × Nat)) (state : EngineState) : Prop where
  entries : forall entry, entry ∈ remaining -> timeline.times[entry.2]? = some entry.1
  increasing : remaining.Pairwise fun earlier later => earlier.2 < later.2
  pending : forall item, item ∈ state.pending -> Scheduled config timeline item
  informed : exists bound, Informed config timeline bound state.simulation ∧
    forall entry, entry ∈ remaining -> bound ≤ entry.2

theorem Progress.initial (config : BacktestConfig) (barsBySymbol : String -> List HistoricalBar)
    (benchmarkBars : List HistoricalBar) :
    Progress config (align config barsBySymbol benchmarkBars)
      (align config barsBySymbol benchmarkBars).times.zipIdx (.initial config) where
  entries := fun _ member => mem_zipIdx_times member
  increasing := by
    have indices := List.pairwise_lt_range' (s := 0)
      (n := (align config barsBySymbol benchmarkBars).times.length)
    rw [← List.zipIdx_map_snd] at indices
    exact List.pairwise_map.mp indices
  pending := fun _ member => absurd member List.not_mem_nil
  informed := ⟨0, Informed.initial config _, fun entry _ => Nat.zero_le entry.2⟩

theorem processBar_progress {config : BacktestConfig} {strategy : Strategy} {timeline : Timeline}
    (times : forall time, time ∈ timeline.times -> forall symbol, symbol ∈ config.symbols ->
      (timeline.bars time symbol).eventTime = time)
    {entry : Instant × Nat} {remaining : List (Instant × Nat)} {state next : EngineState}
    (progress : Progress config timeline (entry :: remaining) state)
    (done : processBar config strategy timeline entry state = .ok () next) :
    Progress config timeline remaining next := by
  have current := progress.entries entry List.mem_cons_self
  have order := List.pairwise_cons.mp progress.increasing
  rcases progress.informed with ⟨bound, informed, before⟩
  have bodyKeeps : Loops.Preserves (Informed config timeline entry.2)
      (barBody config strategy (timeline.slice entry.2 entry.1)
        (state.pending.filter fun item => item.executionIndex = entry.2)) :=
    barBody_informed (timeline.slice entry.2 entry.1) current
      (times entry.1 (List.mem_of_getElem? current)) strategy
      fun item member => ⟨progress.pending item (List.mem_filter.mp member).1,
        of_decide_eq_true (List.mem_filter.mp member).2⟩
  have kept := bodyKeeps state.simulation (informed.mono (before entry List.mem_cons_self))
  unfold processBar at done
  dsimp only at done
  cases body : barBody config strategy (timeline.slice entry.2 entry.1)
      (state.pending.filter fun item => item.executionIndex = entry.2) state.simulation with
  | error failure simulation =>
      rw [body] at done
      cases done
  | ok batch simulation =>
      rw [body] at done kept
      cases done
      refine
        { entries := fun later member => progress.entries later (List.mem_cons_of_mem _ member)
          increasing := order.2, pending := ?_
          informed := ⟨entry.2, kept, fun later member => le_of_lt (order.1 later member)⟩ }
      intro item member
      rcases List.mem_append.mp member with waiting | new
      · exact progress.pending item (List.mem_filter.mp waiting).1
      · exact schedule_scheduled current (barBody_timed body) new

theorem run_informed {config : BacktestConfig} {strategy : Strategy}
    {barsBySymbol : String -> List HistoricalBar} {benchmarkBars : List HistoricalBar}
    {final : EngineState} (done : run config strategy barsBySymbol benchmarkBars = .ok () final) :
    exists bound, Informed config (align config barsBySymbol benchmarkBars) bound
      final.simulation := by
  have loop := run_ok done
  have finished := Loops.forM_induction
    (motive := Progress config (align config barsBySymbol benchmarkBars))
    (fun entry remaining state next progress step =>
      processBar_progress (fun time member symbol known => (align_bar member known).2) progress step)
    _ _ _ (Progress.initial config _ _) loop
  rcases finished.informed with ⟨bound, informed, _⟩
  exact ⟨bound, informed⟩

/-- In a completed run whose executed signals find the older bars of their
histories published, and whose risk-limit rebalances find the breaching close
published, every fill acts on published bars only.  A signal is never executed
before its delay has passed. -/
theorem actsOnPublished_of_historyPublished {config : BacktestConfig} {strategy : Strategy}
    {barsBySymbol : String -> List HistoricalBar} {benchmarkBars : List HistoricalBar}
    {final : EngineState} (done : run config strategy barsBySymbol benchmarkBars = .ok () final)
    (histories : forall item, item ∈ final.simulation.executed ->
      item.HistoryPublished (align config barsBySymbol benchmarkBars))
    (triggers : forall record, record ∈ final.simulation.rebalances ->
      record.TriggerPublished config (align config barsBySymbol benchmarkBars)) :
    forall record, record ∈ final.simulation.rebalances ->
      (forall fill, fill ∈ record.outcome.fills ->
        ActsOnPublished config (align config barsBySymbol benchmarkBars) record fill.trade) ∧
      (forall item, record.cause = .signal item ->
        item.signalIndex + config.executionDelay ≤ record.call.index) := by
  rcases run_informed done with ⟨bound, informed⟩
  intro record member
  have holds := informed.records record member
  refine ⟨fun fill filled => { history := ?_, trigger := ?_ }, fun item cause => ?_⟩
  · intro symbol item inForceItem position time older looked
    rcases inForce_some inForceItem with ⟨executed, updated⟩
    rcases holds.executed item executed with ⟨scheduled, notLater⟩
    rcases scheduled.later with ⟨executionTime, executedAt, afterSignal⟩
    have order : executionTime ≤ record.eventTime :=
      SortedLists.getElem?_le commonTimes_strict executedAt holds.time notLater
    rw [holds.fills fill filled]
    rcases lt_or_eq_of_le older with before | last
    · exact (histories item (informed.listed record member item executed) symbol updated position
        time executionTime before looked executedAt).trans order
    · have signalled := scheduled.covers symbol updated time (last ▸ looked)
      exact (publishedBefore_of_signalTime (lt_of_le_of_lt signalled afterSignal)).trans order
  · intro snapshot cause symbol known held
    rw [holds.fills fill filled]
    exact triggers record member snapshot cause symbol known held
  · rcases holds.cause item cause with ⟨scheduled, due⟩
    exact due ▸ scheduled.delay

/-! ## A history with an unpublished bar -/

/-- The first bar is published after the last one has closed. -/
def lateBars (symbol : String) : List HistoricalBar :=
  [{ dailyBar symbol 0 1 with publicationTime := 10 }, dailyBar symbol 1 1, dailyBar symbol 2 1]

def secondBarBuy : Strategy := fun _ index =>
  .ok
    { targetWeight := if index = 1 then some (.finite 1) else none
      direction := "buy", strength := .finite 1, explanation := "", factors := [] }

def lateRun : EStateM.Result EngineError EngineState Unit :=
  run thinConfig secondBarBuy lateBars (halvingBars "SPY")

/-- The fill at time 2 acts on a close published at time 10. -/
theorem lateRun_acts_unpublished :
    (forall bar, bar ∈ lateBars "ATOM" ++ halvingBars "SPY" ->
      bar.eventTime ≤ bar.publicationTime ∧ bar.eventTime ≤ bar.effectiveTime) ∧
    exists final, lateRun = .ok () final ∧
      exists record, record ∈ final.simulation.rebalances ∧
        exists fill, fill ∈ record.outcome.fills ∧
          ¬ ActsOnPublished thinConfig (align thinConfig lateBars (halvingBars "SPY")) record
            fill.trade := by
  refine ⟨by decide +kernel, _, Loops.eq_ok_of_completed (by decide +kernel), ?_⟩
  have recorded : (Loops.finalState lateRun).simulation.rebalances.any (fun record =>
      (inForce record.executed "ATOM").map PendingTargets.signalIndex = some 1 ∧
        record.outcome.fills.map (fun fill => fill.trade.executionTime) = [2]) = true := by
    decide +kernel
  rcases List.any_eq_true.mp recorded with ⟨record, member, matching⟩
  rcases of_decide_eq_true matching with ⟨signalled, times⟩
  rcases Option.map_eq_some_iff.mp signalled with ⟨item, found, index⟩
  rcases List.map_eq_singleton_iff.mp times with ⟨fill, fills, time⟩
  refine ⟨record, member, fill, fills ▸ List.mem_singleton.mpr rfl, fun acts => ?_⟩
  have published := (acts.history "ATOM" item found 0 0 (by omega) (by decide +kernel)).1
  rw [time] at published
  exact absurd published (by decide +kernel)

def roundTripRun : EStateM.Result EngineError EngineState Unit :=
  run thinConfig roundTrip halvingBars (halvingBars "SPY")

/-- Both signals of the round trip find their histories published. -/
theorem roundTrip_historyPublished :
    forall item, item ∈ (Loops.finalState roundTripRun).simulation.executed ->
      item.HistoryPublished (align thinConfig halvingBars (halvingBars "SPY")) := by
  have shapes : (Loops.finalState roundTripRun).simulation.executed.all (fun item =>
      item.updates.map Prod.fst = ["ATOM"] ∧ item.signalIndex < 2 ∧
        item.executionIndex = item.signalIndex + 1) = true := by
    decide +kernel
  have times : (align thinConfig halvingBars (halvingBars "SPY")).times = [0, 1, 2] := by
    decide +kernel
  intro item member symbol updated position time executionTime before looked executedAt
  rcases of_decide_eq_true (List.all_eq_true.mp shapes item member) with ⟨symbols, bound, next⟩
  rcases List.lookup_isSome_iff.mp updated with ⟨entry, listed, matching⟩
  have known : symbol = "ATOM" := by
    have key := List.mem_map_of_mem (f := Prod.fst) listed
    rw [symbols] at key
    exact (eq_of_beq matching).trans (List.mem_singleton.mp key)
  have first : position = 0 := by omega
  have last : item.executionIndex = 2 := by omega
  rw [times, first] at looked
  rw [times, last] at executedAt
  cases looked
  cases executedAt
  rw [known]
  exact ⟨by decide +kernel, by decide +kernel⟩

def Cause.isSignal : Cause -> Bool
  | .riskLimit _ => false
  | .signal _ => true

theorem roundTrip_acts_published :
    Loops.completed roundTripRun = true ∧
    forall record, record ∈ (Loops.finalState roundTripRun).simulation.rebalances ->
      (forall fill, fill ∈ record.outcome.fills ->
        ActsOnPublished thinConfig (align thinConfig halvingBars (halvingBars "SPY")) record
          fill.trade) ∧
      (forall item, record.cause = .signal item ->
        item.signalIndex + thinConfig.executionDelay ≤ record.call.index) := by
  have completed : Loops.completed roundTripRun = true := by decide +kernel
  have done : run thinConfig roundTrip halvingBars (halvingBars "SPY") =
      .ok () (Loops.finalState roundTripRun) :=
    Loops.eq_ok_of_completed completed
  refine ⟨completed, actsOnPublished_of_historyPublished done roundTrip_historyPublished ?_⟩
  have signalled : (Loops.finalState roundTripRun).simulation.rebalances.all
      (fun record => record.cause.isSignal) = true := by
    decide +kernel
  intro record member snapshot cause
  have contradiction := List.all_eq_true.mp signalled record member
  rw [cause] at contradiction
  cases contradiction

end Backtesting
end MarketIntelligence
