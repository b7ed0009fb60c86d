import MarketIntelligence.Backtesting.Publication
import MarketIntelligence.Foundations.DelayedWrites

namespace MarketIntelligence
namespace Backtesting

open Foundations

/-!
# Which signal is in force

A strategy sees closes and an index, so the signals of a run, and the bars they
are to execute on, are fixed before the first order.  They make up the plan of the
run.  The engine applies the plan bar by bar, and within one bar in the order of
generation.

A target is therefore always the newest signal's exactly when no signal overtakes
another one for the same symbol and no two of them execute on one bar.
-/

/-! ## The plan of a run -/

/-- When a signal is generated, when it executes, and the symbols it updates. -/
def signalTiming : DelayedWrites.Timing PendingTargets String where
  issued := PendingTargets.signalIndex
  applied := PendingTargets.executionIndex
  writes := fun item symbol => (item.updates.lookup symbol).isSome

/-- The closes of a symbol on the first bars. -/
def closesBefore (timeline : Timeline) (index : Nat) (symbol : String) : List Rat :=
  (timeline.times.take index).map fun time => (timeline.bars time symbol).closePrice

/-- The target a strategy decides on at a bar, with its explanation. -/
def decidedTarget (strategy : Strategy) (timeline : Timeline) (index : Nat) (symbol : String) :
    Option (FloatValue × String) :=
  match strategy (closesBefore timeline (index + 1) symbol) index with
  | .error _ => none
  | .ok decision => decision.targetWeight.map fun weight => (weight, decision.explanation)

/-- The decisions on the given symbols, as the engine collects them. -/
def decidedBatch (strategy : Strategy) (timeline : Timeline) (entry : Instant × Nat)
    (symbols : List String) : SignalBatch :=
  let decided := symbols.filterMap fun symbol =>
    (decidedTarget strategy timeline entry.2 symbol).map fun target => (symbol, target)
  { updates := decided.map fun decision => (decision.1, decision.2.1)
    reasons := decided.map fun decision => (decision.1, decision.2.2)
    signalTimes := decided.map fun decision => (timeline.bars entry.1 decision.1).signalTime }

def planOf (config : BacktestConfig) (strategy : Strategy) (timeline : Timeline)
    (entries : List (Instant × Nat)) : List PendingTargets :=
  entries.flatMap fun entry =>
    schedule config timeline.times entry.2 (decidedBatch strategy timeline entry config.symbols)

/-- The signals of a whole run, as the strategy gives them on the bars alone.  No order and no
fill has a part in it. -/
def plan (config : BacktestConfig) (strategy : Strategy) (timeline : Timeline) :
    List PendingTargets :=
  planOf config strategy timeline timeline.times.zipIdx

/-- No signal overtakes another one for the same symbol, and no two execute on one bar.  Both can
be told from the plan, before anything is executed. -/
def InOrder (plan : List PendingTargets) : Prop :=
  signalTiming.NoOvertaking plan ∧ signalTiming.SeparateSlots plan

/-- Every target in force is the one set by the newest signal for its symbol whose
execution index has been reached. -/
def RebalanceRecord.LatestWins (plan : List PendingTargets) (record : RebalanceRecord) : Prop :=
  forall symbol item,
    signalTiming.Newest (signalTiming.arrived plan record.call.index) symbol item ->
      inForce record.executed symbol = some item ∧
        item.updates.lookup symbol = some (record.call.targets symbol)

/-! ## Scheduled items -/

section Plan

variable {config : BacktestConfig} {strategy : Strategy} {timeline : Timeline}

theorem mem_schedule {times : List Instant} {index : Nat} {batch : SignalBatch}
    {item : PendingTargets} (member : item ∈ schedule config times index batch) :
    item.signalIndex = index ∧ index < item.executionIndex ∧ item.executionIndex < times.length ∧
      item.updates = batch.updates ∧ batch.signalTimes ≠ [] := by
  unfold schedule at member
  cases latest : batch.signalTimes.max? with
  | none =>
      rw [latest] at member
      cases member
  | some signalTime =>
      rw [latest] at member
      dsimp only at member
      cases found : eligibleExecutionIndex times index signalTime config.executionDelay with
      | none =>
          rw [found] at member
          cases member
      | some executionIndex =>
          rw [found] at member
          have delay := config.executionDelay_range.1
          rcases eligibleExecutionIndex_spec found with ⟨after, time, looked, _⟩
          have inside := (List.getElem?_eq_some_iff.mp looked).1
          rw [List.mem_singleton.mp member]
          refine ⟨rfl, by dsimp only; omega, inside, rfl, fun empty => ?_⟩
          rw [empty] at latest
          cases latest

theorem schedule_pairwise {times : List Instant} {index : Nat} {batch : SignalBatch}
    {relation : PendingTargets -> PendingTargets -> Prop} :
    (schedule config times index batch).Pairwise relation := by
  unfold schedule
  cases batch.signalTimes.max? with
  | none => exact List.Pairwise.nil
  | some signalTime =>
      dsimp only
      cases eligibleExecutionIndex times index signalTime config.executionDelay with
      | none => exact List.Pairwise.nil
      | some executionIndex => exact List.pairwise_singleton _ _

theorem mem_planOf {entries : List (Instant × Nat)} {item : PendingTargets}
    (member : item ∈ planOf config strategy timeline entries) :
    exists entry, entry ∈ entries ∧ item ∈ schedule config timeline.times entry.2
      (decidedBatch strategy timeline entry config.symbols) :=
  List.mem_flatMap.mp member

theorem planOf_append (front back : List (Instant × Nat)) :
    planOf config strategy timeline (front ++ back) =
      planOf config strategy timeline front ++ planOf config strategy timeline back :=
  List.flatMap_append

/-- The plan is in the order of generation. -/
theorem plan_issued : (plan config strategy timeline).Pairwise fun first second =>
    signalTiming.issued first < signalTiming.issued second := by
  have indices := List.pairwise_lt_range' (s := 0) (n := timeline.times.length)
  rw [← List.zipIdx_map_snd] at indices
  refine List.pairwise_flatMap.mpr ⟨fun _ _ => schedule_pairwise, ?_⟩
  refine (List.pairwise_map.mp indices).imp fun order first inFirst second inSecond => ?_
  have firstIndex := (mem_schedule inFirst).1
  have secondIndex := (mem_schedule inSecond).1
  change first.signalIndex < second.signalIndex
  omega

theorem plan_writes {item : PendingTargets} (member : item ∈ plan config strategy timeline) :
    exists symbol, signalTiming.writes item symbol = true := by
  rcases mem_planOf member with ⟨entry, _, scheduled⟩
  rcases mem_schedule scheduled with ⟨_, _, _, updates, timed⟩
  unfold decidedBatch at updates timed
  generalize (config.symbols.filterMap fun symbol =>
    (decidedTarget strategy timeline entry.2 symbol).map fun target => (symbol, target)) = decided
    at updates timed
  cases decided with
  | nil => exact absurd rfl timed
  | cons first rest =>
      refine ⟨first.1, ?_⟩
      change (item.updates.lookup first.1).isSome = true
      rw [updates]
      simp

theorem plan_bound {item : PendingTargets} (member : item ∈ plan config strategy timeline) :
    item.executionIndex < timeline.times.length := by
  rcases mem_planOf member with ⟨entry, _, scheduled⟩
  exact (mem_schedule scheduled).2.2.1

end Plan

/-! ## The invariant of the run -/

/-- The record was made when the plan had been applied up to some point of its bar,
and its targets are those the applied signals leave. -/
structure RebalanceRecord.Placed (plan : List PendingTargets) (record : RebalanceRecord) :
    Prop where
  stage : exists started,
    signalTiming.Stage plan record.call.index started record.executed ∧
      (started ≠ [] ∨ signalTiming.dueAt plan record.call.index = [])
  targets : record.call.targets = targetOf record.executed

/-- The rebalance made for a signal: it is on the bar the signal waits for, and the signal is the
last of those executed by then. -/
def RebalanceRecord.MadeFor (plan : List PendingTargets) (item : PendingTargets)
    (record : RebalanceRecord) : Prop :=
  record.call.index = item.executionIndex ∧
    exists started, signalTiming.Stage plan item.executionIndex (started ++ [item]) record.executed

/-- Every rebalance has its place in the plan, and every applied signal its rebalance. -/
structure Simulation.Planned (plan : List PendingTargets) (state : Simulation) : Prop where
  records : forall record, record ∈ state.rebalances -> record.Placed plan
  applied : forall item, item ∈ state.executed ->
    exists record, record ∈ state.rebalances ∧ record.MadeFor plan item
  targets : state.targets = targetOf state.executed

/-- The simulation when some signals have been applied and some closes seen. -/
structure Synchronized (plan : List PendingTargets) (config : BacktestConfig)
    (closes : String -> List Rat) (applied : List PendingTargets) (state : Simulation) :
    Prop where
  planned : state.Planned plan
  executed : state.executed = applied
  histories : forall symbol, symbol ∈ config.symbols -> state.closeHistory symbol = closes symbol

/-- What is left when a run raises. -/
def Simulation.Recovered (plan : List PendingTargets) (state : Simulation) : Prop :=
  forall record, record ∈ state.rebalances -> record.Placed plan

section Stages

variable {plan : List PendingTargets} {config : BacktestConfig} {slice : Slice}
  {closes : String -> List Rat} {applied started : List PendingTargets}

/-- The simulation when `_rebalance` is called: only the signal that calls it may
still be without its rebalance. -/
structure Ready (plan : List PendingTargets) (config : BacktestConfig) (slice : Slice)
    (closes : String -> List Rat) (started : List PendingTargets) (state : Simulation) :
    Prop where
  records : state.Recovered plan
  applied : forall item, item ∈ state.executed ->
    (exists record, record ∈ state.rebalances ∧ record.MadeFor plan item) ∨
      (item.executionIndex = slice.index ∧ exists front, started = front ++ [item])
  targets : state.targets = targetOf state.executed
  stage : signalTiming.Stage plan slice.index started state.executed
  begun : started ≠ [] ∨ signalTiming.dueAt plan slice.index = []
  histories : forall symbol, symbol ∈ config.symbols -> state.closeHistory symbol = closes symbol

theorem runRebalance_synchronized (cause : Cause) (signalTime : Instant)
    (reasons : String -> Option String) :
    Loops.Meets (Ready plan config slice closes started)
      (runRebalance config slice cause signalTime reasons)
      (fun _ => Synchronized plan config closes
        (signalTiming.before plan slice.index ++ started))
      (fun _ => Simulation.Recovered plan) := by
  intro state ready
  unfold runRebalance
  dsimp only
  cases rebalance config
      { index := slice.index, bars := slice.bars, targets := state.targets,
        signalTime := signalTime, reasons := reasons } state.ledger with
  | error failure => exact ready.records
  | ok outcome =>
      refine
        { planned := { records := ?_, applied := ?_, targets := ready.targets }
          executed := ready.stage.executed, histories := ready.histories }
      · intro record member
        rcases List.mem_append.mp member with earlier | latest
        · exact ready.records record earlier
        · rw [List.mem_singleton.mp latest]
          exact { stage := ⟨started, ready.stage, ready.begun⟩, targets := ready.targets }
      · intro item member
        rcases ready.applied item member with ⟨record, earlier, made⟩ | ⟨here, front, split⟩
        · exact ⟨record, List.mem_append_left _ earlier, made⟩
        · refine ⟨_, List.mem_append_right _ (List.mem_singleton.mpr rfl), here.symm, front, ?_⟩
          rw [here, ← split]
          exact ready.stage

/-- Without due signals the stage of a risk-limit rebalance is empty. -/
theorem riskRebalance_synchronized {due : List PendingTargets}
    (planned : due = signalTiming.dueAt plan slice.index) :
    Loops.Meets
      (Synchronized plan config closes (signalTiming.before plan slice.index))
      (riskRebalance config slice due)
      (fun _ => Synchronized plan config closes (signalTiming.before plan slice.index))
      (fun _ => Simulation.Recovered plan) := by
  intro state holds
  unfold riskRebalance
  cases state.snapshots.getLast? with
  | none => exact holds
  | some snapshot =>
      dsimp only
      by_cases called : due = [] ∧ riskLimitBreached snapshot config = true
      · rw [if_pos called]
        have ready : Ready plan config slice closes [] state :=
          { records := holds.planned.records
            applied := fun item member => Or.inl (holds.planned.applied item member)
            targets := holds.planned.targets
            stage :=
              { due := List.nil_prefix
                executed := holds.executed.trans (List.append_nil _).symm }
            begun := Or.inr (planned.symm.trans called.1)
            histories := holds.histories }
        have met := runRebalance_synchronized (.riskLimit snapshot) snapshot.eventTime
          (fun symbol => if symbol ∈ config.symbols then some "Risk-limit rebalance" else none)
          state ready
        rw [List.append_nil] at met
        exact met
      · rw [if_neg called]
        exact holds

theorem executePending_synchronized {item : PendingTargets} {rest : List PendingTargets}
    (due : started ++ item :: rest = signalTiming.dueAt plan slice.index) :
    Loops.Meets
      (Synchronized plan config closes (signalTiming.before plan slice.index ++ started))
      (executePending config slice item)
      (fun _ => Synchronized plan config closes
        (signalTiming.before plan slice.index ++ (started ++ [item])))
      (fun _ => Simulation.Recovered plan) := by
  intro state holds
  have inDue : item ∈ signalTiming.dueAt plan slice.index := by
    rw [← due]
    exact List.mem_append_right _ List.mem_cons_self
  refine runRebalance_synchronized _ _ _ _
    { records := holds.planned.records, applied := ?_, targets := ?_, stage := ?_, begun := ?_
      histories := holds.histories }
  · intro other member
    rcases List.mem_append.mp member with earlier | latest
    · exact Or.inl (holds.planned.applied other earlier)
    · rw [List.mem_singleton.mp latest]
      exact Or.inr ⟨(DelayedWrites.Timing.mem_dueAt.mp inDue).2, started, rfl⟩
  · rw [targetOf_append, ← holds.planned.targets]
  · refine { due := ⟨rest, ?_⟩, executed := ?_ }
    · rw [List.append_assoc]
      exact due
    · rw [← List.append_assoc, ← holds.executed]
  · exact Or.inl (List.append_ne_nil_of_right_ne_nil _ (List.cons_ne_nil item []))

/-- Some of the due signals of a bar are left to execute. -/
def PendingLeft (plan : List PendingTargets) (config : BacktestConfig)
    (closes : String -> List Rat) (index : Nat) (rest : List PendingTargets)
    (state : Simulation) : Prop :=
  exists started, started ++ rest = signalTiming.dueAt plan index ∧
    Synchronized plan config closes (signalTiming.before plan index ++ started) state

/-- All the due signals of a bar, one after the other. -/
theorem pending_synchronized {due : List PendingTargets}
    (planned : due = signalTiming.dueAt plan slice.index) :
    Loops.Meets
      (Synchronized plan config closes (signalTiming.before plan slice.index))
      (due.forM (executePending config slice))
      (fun _ => Synchronized plan config closes (signalTiming.before plan (slice.index + 1)))
      (fun _ => Simulation.Recovered plan) := by
  have pass (item : PendingTargets) (rest : List PendingTargets) :
      Loops.Meets (PendingLeft plan config closes slice.index (item :: rest))
        (executePending config slice item)
        (fun _ => PendingLeft plan config closes slice.index rest)
        (fun _ => Simulation.Recovered plan) := by
    rintro state ⟨started, split, holds⟩
    refine (executePending_synchronized split).weaken (fun _ holds => holds) ?_
      (fun _ _ holds => holds) state holds
    intro _ next after
    refine ⟨started ++ [item], ?_, after⟩
    rw [List.append_assoc]
    exact split
  refine (Loops.Meets.forM (motive := PendingLeft plan config closes slice.index) pass
    due).weaken (fun state holds => ⟨[], planned, ?_⟩) ?_
    (fun _ _ holds => holds)
  · rw [List.append_nil]
    exact holds
  · rintro _ state ⟨started, all, holds⟩
    rw [List.append_nil] at all
    rw [all] at holds
    exact holds

theorem takeSnapshot_synchronized :
    Loops.Meets (Synchronized plan config closes applied) (takeSnapshot config slice)
      (fun _ => Synchronized plan config closes applied)
      (fun _ => Simulation.Recovered plan) := by
  intro state holds
  unfold takeSnapshot
  dsimp only
  by_cases undefined : slice.benchmarkStart = 0
  · rw [if_pos undefined]
    exact holds.planned.records
  · rw [if_neg undefined]
    exact
      { planned := ⟨holds.planned.records, holds.planned.applied, holds.planned.targets⟩
        executed := holds.executed, histories := holds.histories }

end Stages

/-! ## The signals of a bar -/

section Signals

variable {plan : List PendingTargets} {config : BacktestConfig} {strategy : Strategy}
  {timeline : Timeline} {entry : Instant × Nat}

theorem closesBefore_succ (current : timeline.times[entry.2]? = some entry.1) (symbol : String) :
    closesBefore timeline (entry.2 + 1) symbol =
      closesBefore timeline entry.2 symbol ++ [(timeline.bars entry.1 symbol).closePrice] := by
  unfold closesBefore
  rw [List.take_add_one, current, List.map_append]
  rfl

/-- A batch with one more decision. -/
def SignalBatch.add (batch : SignalBatch) (symbol : String) (signalTime : Instant) :
    Option (FloatValue × String) -> SignalBatch
  | none => batch
  | some target =>
      { updates := batch.updates ++ [(symbol, target.1)]
        reasons := batch.reasons ++ [(symbol, target.2)]
        signalTimes := batch.signalTimes ++ [signalTime] }

theorem decidedBatch_concat (visited : List String) (symbol : String) :
    decidedBatch strategy timeline entry (visited ++ [symbol]) =
      (decidedBatch strategy timeline entry visited).add symbol
        (timeline.bars entry.1 symbol).signalTime
        (decidedTarget strategy timeline entry.2 symbol) := by
  unfold decidedBatch
  cases decided : decidedTarget strategy timeline entry.2 symbol with
  | none => simp [List.filterMap_append, decided, SignalBatch.add]
  | some target => simp [List.filterMap_append, decided, SignalBatch.add]

/-- The closes seen when some of the symbols have been visited. -/
def closesSeen (timeline : Timeline) (index : Nat) (remaining : List String) (symbol : String) :
    List Rat :=
  if symbol ∈ remaining then closesBefore timeline index symbol
  else closesBefore timeline (index + 1) symbol

theorem generateSignal_synchronized {applied : List PendingTargets} {visited rest : List String}
    {symbol : String} (current : timeline.times[entry.2]? = some entry.1)
    (symbols : config.symbols = visited ++ symbol :: rest) :
    Loops.Meets
      (Synchronized plan config (closesSeen timeline entry.2 (symbol :: rest)) applied)
      (generateSignal strategy (timeline.slice entry.2 entry.1)
        (decidedBatch strategy timeline entry visited) symbol)
      (fun batch state => batch = decidedBatch strategy timeline entry (visited ++ [symbol]) ∧
        Synchronized plan config (closesSeen timeline entry.2 rest) applied state)
      (fun _ => Simulation.Recovered plan) := by
  have distinct : (visited ++ symbol :: rest).Nodup := symbols ▸ config.symbols_nodup
  have fresh : symbol ∉ rest := (List.nodup_cons.mp (List.nodup_append.mp distinct).2.1).1
  have known : symbol ∈ config.symbols := symbols ▸ List.mem_append_right _ List.mem_cons_self
  intro state holds
  have history : state.closeHistory symbol ++ [(timeline.bars entry.1 symbol).closePrice] =
      closesBefore timeline (entry.2 + 1) symbol := by
    rw [holds.histories symbol known, closesBefore_succ current]
    simp only [closesSeen, List.mem_cons, true_or, if_true]
  have seen : forall other, other ∈ config.symbols ->
      (if other = symbol then closesBefore timeline (entry.2 + 1) symbol
        else state.closeHistory other) = closesSeen timeline entry.2 rest other := by
    intro other member
    by_cases here : other = symbol
    · rw [if_pos here, here]
      simp only [closesSeen, if_neg fresh]
    · rw [if_neg here, holds.histories other member]
      simp only [closesSeen, List.mem_cons, here, false_or]
  unfold generateSignal
  simp only [Timeline.slice, history]
  have concat : decidedBatch strategy timeline entry (visited ++ [symbol]) =
      (decidedBatch strategy timeline entry visited).add symbol
        (timeline.bars entry.1 symbol).signalTime
        (decidedTarget strategy timeline entry.2 symbol) :=
    decidedBatch_concat visited symbol
  unfold decidedTarget at concat
  cases decided : strategy (closesBefore timeline (entry.2 + 1) symbol) entry.2 with
  | error failure => exact holds.planned.records
  | ok decision =>
      rw [decided] at concat
      dsimp only at concat ⊢
      cases weighted : decision.targetWeight with
      | none =>
          rw [weighted, Option.map_none] at concat
          exact ⟨concat.symm,
            { planned := ⟨holds.planned.records, holds.planned.applied, holds.planned.targets⟩
              executed := holds.executed, histories := seen }⟩
      | some weight =>
          rw [weighted, Option.map_some] at concat
          exact ⟨concat.symm,
            { planned := ⟨holds.planned.records, holds.planned.applied, holds.planned.targets⟩
              executed := holds.executed, histories := seen }⟩

/-- Some of the symbols are left to ask about. -/
def SymbolsLeft (plan : List PendingTargets) (config : BacktestConfig) (strategy : Strategy)
    (timeline : Timeline) (entry : Instant × Nat) (applied : List PendingTargets)
    (rest : List String) (batch : SignalBatch) (state : Simulation) : Prop :=
  exists visited, config.symbols = visited ++ rest ∧
    batch = decidedBatch strategy timeline entry visited ∧
      Synchronized plan config (closesSeen timeline entry.2 rest) applied state

theorem generateSignals_synchronized {applied : List PendingTargets}
    (current : timeline.times[entry.2]? = some entry.1) :
    Loops.Meets
      (Synchronized plan config (closesBefore timeline entry.2) applied)
      (generateSignals config strategy (timeline.slice entry.2 entry.1))
      (fun batch state => batch = decidedBatch strategy timeline entry config.symbols ∧
        Synchronized plan config (closesBefore timeline (entry.2 + 1)) applied state)
      (fun _ => Simulation.Recovered plan) := by
  have pass (symbol : String) (rest : List String) (batch : SignalBatch) :
      Loops.Meets (SymbolsLeft plan config strategy timeline entry applied (symbol :: rest) batch)
        (generateSignal strategy (timeline.slice entry.2 entry.1) batch symbol)
        (fun next => SymbolsLeft plan config strategy timeline entry applied rest next)
        (fun _ => Simulation.Recovered plan) := by
    rintro state ⟨visited, symbols, collected, holds⟩
    subst collected
    refine (generateSignal_synchronized current symbols).weaken (fun _ holds => holds) ?_
      (fun _ _ holds => holds) state holds
    rintro next after ⟨added, kept⟩
    refine ⟨visited ++ [symbol], ?_, added, kept⟩
    rw [List.append_assoc]
    exact symbols
  refine (Loops.Meets.foldlM (motive := SymbolsLeft plan config strategy timeline entry applied)
    pass config.symbols _).weaken (fun state holds => ⟨[], rfl, rfl, ?_⟩) ?_
      (fun _ _ holds => holds)
  · refine { planned := holds.planned, executed := holds.executed, histories := ?_ }
    intro symbol known
    rw [holds.histories symbol known]
    simp only [closesSeen, if_pos known]
  · rintro batch state ⟨visited, symbols, collected, holds⟩
    rw [List.append_nil] at symbols
    refine ⟨symbols ▸ collected,
      { planned := holds.planned, executed := holds.executed, histories := ?_ }⟩
    intro symbol known
    rw [holds.histories symbol known]
    simp only [closesSeen, List.not_mem_nil, if_false]

theorem barBody_synchronized (strategy : Strategy) {due : List PendingTargets}
    (current : timeline.times[entry.2]? = some entry.1)
    (planned : due = signalTiming.dueAt plan entry.2) :
    Loops.Meets
      (Synchronized plan config (closesBefore timeline entry.2)
        (signalTiming.before plan entry.2))
      (barBody config strategy (timeline.slice entry.2 entry.1) due)
      (fun batch state => batch = decidedBatch strategy timeline entry config.symbols ∧
        Synchronized plan config (closesBefore timeline (entry.2 + 1))
          (signalTiming.before plan (entry.2 + 1)) state)
      (fun _ => Simulation.Recovered plan) := by
  have slot : (timeline.slice entry.2 entry.1).index = entry.2 := rfl
  rw [← slot] at planned ⊢
  exact (riskRebalance_synchronized planned).bind fun _ =>
    (pending_synchronized planned).bind fun _ =>
      takeSnapshot_synchronized.bind fun _ => generateSignals_synchronized current

end Signals

/-! ## The whole run -/

section Run

variable {config : BacktestConfig} {strategy : Strategy} {timeline : Timeline}

/-- The loop with the bars to come: the signals of the bars seen that are still to
execute are pending. -/
structure PlanAhead (config : BacktestConfig) (strategy : Strategy) (timeline : Timeline)
    (remaining : List (Instant × Nat)) (state : EngineState) : Prop where
  bars : exists front, timeline.times.zipIdx = front ++ remaining ∧
    state.pending = (planOf config strategy timeline front).filter
      (fun item => front.length ≤ item.executionIndex) ∧
    Synchronized (plan config strategy timeline) config (closesBefore timeline front.length)
      (signalTiming.before (plan config strategy timeline) front.length) state.simulation

theorem zipIdx_split {front back : List (Instant × Nat)} {entry : Instant × Nat} {position : Nat}
    (split : timeline.times.zipIdx = front ++ back) (looked : back[position]? = some entry) :
    entry.2 = front.length + position ∧ timeline.times[entry.2]? = some entry.1 := by
  have found : timeline.times.zipIdx[front.length + position]? = some entry := by
    rw [split, List.getElem?_append_right (Nat.le_add_right _ _), Nat.add_sub_cancel_left]
    exact looked
  rw [List.getElem?_zipIdx, Option.map_eq_some_iff] at found
  rcases found with ⟨time, known, same⟩
  rw [← same]
  simp only [Nat.zero_add]
  exact ⟨trivial, known⟩

/-- Signals generated from a bar on execute after it. -/
theorem planOf_later {front back : List (Instant × Nat)} {item : PendingTargets}
    (split : timeline.times.zipIdx = front ++ back)
    (member : item ∈ planOf config strategy timeline back) :
    front.length < item.executionIndex := by
  rcases mem_planOf member with ⟨entry, inBack, scheduled⟩
  rcases List.mem_iff_getElem?.mp inBack with ⟨position, looked⟩
  have index := (zipIdx_split split looked).1
  have later := (mem_schedule scheduled).2.1
  omega

/-- The signals due at a bar were generated on the bars before it. -/
theorem dueAt_plan {front back : List (Instant × Nat)}
    (split : timeline.times.zipIdx = front ++ back) :
    ((planOf config strategy timeline front).filter
        fun item => front.length ≤ item.executionIndex).filter
          (fun item => item.executionIndex = front.length) =
      signalTiming.dueAt (plan config strategy timeline) front.length := by
  have none : (planOf config strategy timeline back).filter
      (fun item => item.executionIndex = front.length) = [] := by
    apply List.filter_eq_nil_iff.mpr
    intro item member
    have later := planOf_later split member
    simpa using ne_of_gt later
  change _ = (plan config strategy timeline).filter fun item => item.executionIndex = front.length
  unfold plan
  rw [split, planOf_append, List.filter_append, none, List.append_nil, List.filter_filter]
  congr 1
  funext item
  rw [← Bool.decide_and, decide_eq_decide]
  exact ⟨fun both => both.1, fun same => ⟨same, le_of_eq same.symm⟩⟩

/-- After a bar, its own signals are pending as well and the due ones are gone. -/
theorem pending_next (front : List (Instant × Nat)) (entry : Instant × Nat) :
    ((planOf config strategy timeline front).filter
        fun item => entry.2 ≤ item.executionIndex).filter
          (fun item => item.executionIndex ≠ entry.2) ++
        schedule config timeline.times entry.2
          (decidedBatch strategy timeline entry config.symbols) =
      (planOf config strategy timeline (front ++ [entry])).filter
        fun item => entry.2 + 1 ≤ item.executionIndex := by
  have own : planOf config strategy timeline [entry] = schedule config timeline.times entry.2
      (decidedBatch strategy timeline entry config.symbols) := List.append_nil _
  have later : (planOf config strategy timeline [entry]).filter
      (fun item => entry.2 + 1 ≤ item.executionIndex) =
        planOf config strategy timeline [entry] := by
    refine List.filter_eq_self.mpr fun item member => decide_eq_true ?_
    rw [own] at member
    exact (mem_schedule member).2.1
  rw [planOf_append, List.filter_append, later, own, List.filter_filter]
  congr 2
  funext item
  rw [← Bool.decide_and, decide_eq_decide]
  omega

theorem processBar_planAhead (entry : Instant × Nat) (remaining : List (Instant × Nat)) :
    Loops.Meets (PlanAhead config strategy timeline (entry :: remaining))
      (processBar config strategy timeline entry)
      (fun _ => PlanAhead config strategy timeline remaining)
      (fun _ state => state.simulation.Recovered (plan config strategy timeline)) := by
  rintro state ⟨front, split, pending, synchronized⟩
  rcases zipIdx_split split (List.getElem?_cons_zero) with ⟨index, current⟩
  rw [Nat.add_zero] at index
  rw [← index] at pending synchronized
  have due : (state.pending.filter fun item => item.executionIndex = entry.2) =
      signalTiming.dueAt (plan config strategy timeline) entry.2 := by
    rw [pending, index]
    exact dueAt_plan split
  have met := barBody_synchronized strategy current due state.simulation synchronized
  unfold processBar
  dsimp only
  cases done : barBody config strategy (timeline.slice entry.2 entry.1)
      (state.pending.filter fun item => item.executionIndex = entry.2) state.simulation with
  | error failure simulation =>
      rw [done] at met
      exact met
  | ok batch simulation =>
      rw [done] at met
      rcases met with ⟨collected, after⟩
      refine ⟨front ++ [entry], ?_, ?_, ?_⟩
      · rw [List.append_assoc]
        exact split
      · rw [List.length_append, List.length_singleton, ← index, ← pending_next, ← pending, collected]
      · rw [List.length_append, List.length_singleton, ← index]
        exact after

theorem PlanAhead.initial :
    PlanAhead config strategy timeline timeline.times.zipIdx (.initial config) where
  bars :=
    ⟨[], rfl, rfl,
      { planned :=
          { records := fun _ member => absurd member List.not_mem_nil
            applied := fun _ member => absurd member List.not_mem_nil
            targets := rfl }
        executed := rfl
        histories := fun _ _ => rfl }⟩

theorem PlanAhead.recovered {remaining : List (Instant × Nat)} {state : EngineState}
    (ahead : PlanAhead config strategy timeline remaining state) :
    state.simulation.Recovered (plan config strategy timeline) := by
  rcases ahead.bars with ⟨_, _, _, synchronized⟩
  exact synchronized.planned.records

variable {barsBySymbol : String -> List HistoricalBar} {benchmarkBars : List HistoricalBar}

/-- Every rebalance of a run has its place in the plan. -/
theorem reached_recovered (config : BacktestConfig) (strategy : Strategy)
    (barsBySymbol : String -> List HistoricalBar) (benchmarkBars : List HistoricalBar) :
    (reached config strategy barsBySymbol benchmarkBars).Recovered
      (plan config strategy (align config barsBySymbol benchmarkBars)) :=
  run_meets PlanAhead.initial processBar_planAhead fun _ _ ahead => ahead.recovered

/-- A completed run has made a rebalance for every signal of its plan. -/
theorem run_applied {final : EngineState}
    (done : run config strategy barsBySymbol benchmarkBars = .ok () final) {item : PendingTargets}
    (member : item ∈ plan config strategy (align config barsBySymbol benchmarkBars)) :
    exists record, record ∈ final.simulation.rebalances ∧
      record.MadeFor (plan config strategy (align config barsBySymbol benchmarkBars)) item := by
  have met := Loops.Meets.forM
    (motive := PlanAhead config strategy (align config barsBySymbol benchmarkBars))
    processBar_planAhead _ _ PlanAhead.initial
  have loop : (align config barsBySymbol benchmarkBars).times.zipIdx.forM
      (processBar config strategy (align config barsBySymbol benchmarkBars)) (.initial config) =
        .ok () final := run_ok done
  rw [loop] at met
  rcases met.bars with ⟨front, split, _, synchronized⟩
  rw [List.append_nil] at split
  have length : front.length = (align config barsBySymbol benchmarkBars).times.length := by
    rw [← split, List.length_zipIdx]
  refine synchronized.planned.applied item ?_
  rw [synchronized.executed, length]
  exact DelayedWrites.Timing.mem_before.mpr ⟨member, plan_bound member⟩

end Run

/-! ## The newest signal -/

section Latest

variable {signals : List PendingTargets} {record : RebalanceRecord}

theorem RebalanceRecord.latestWins_of_reads (targets : record.call.targets = targetOf record.executed)
    (reads : signalTiming.ReadsNewest signals record.call.index record.executed) :
    record.LatestWins signals := by
  intro symbol item newest
  have found : inForce record.executed symbol = some item := reads symbol item newest
  refine ⟨found, ?_⟩
  rcases Option.isSome_iff_exists.mp newest.writer with ⟨weight, looked⟩
  rw [targets]
  unfold targetOf
  rw [found, Option.bind_some, looked, Option.getD_some]

theorem RebalanceRecord.LatestWins.reads (wins : record.LatestWins signals) :
    signalTiming.ReadsNewest signals record.call.index record.executed :=
  fun symbol item newest => (wins symbol item newest).1

end Latest

/-- The target in force for a symbol is always the newest signal's when the plan is in
order, and in a completed run only then. -/
theorem latestWins_iff_inOrder (config : BacktestConfig) (strategy : Strategy)
    (barsBySymbol : String -> List HistoricalBar) (benchmarkBars : List HistoricalBar) :
    (InOrder (plan config strategy (align config barsBySymbol benchmarkBars)) ->
      forall record, record ∈ (reached config strategy barsBySymbol benchmarkBars).rebalances ->
        record.LatestWins (plan config strategy (align config barsBySymbol benchmarkBars))) ∧
    (Loops.completed (run config strategy barsBySymbol benchmarkBars) = true ->
      (forall record, record ∈ (reached config strategy barsBySymbol benchmarkBars).rebalances ->
        record.LatestWins (plan config strategy (align config barsBySymbol benchmarkBars))) ->
      InOrder (plan config strategy (align config barsBySymbol benchmarkBars))) := by
  constructor
  · rintro ⟨ordered, separate⟩ record member
    have placed := reached_recovered config strategy barsBySymbol benchmarkBars record member
    rcases placed.stage with ⟨started, stage, begun⟩
    exact record.latestWins_of_reads placed.targets
      (stage.readsNewest plan_issued ordered separate begun)
  · intro completed wins
    have done := Loops.eq_ok_of_completed completed
    have reads : forall item,
        item ∈ plan config strategy (align config barsBySymbol benchmarkBars) ->
        exists started executed,
          signalTiming.Stage (plan config strategy (align config barsBySymbol benchmarkBars))
              (signalTiming.applied item) (started ++ [item]) executed ∧
            signalTiming.ReadsNewest
              (plan config strategy (align config barsBySymbol benchmarkBars))
              (signalTiming.applied item) executed := by
      intro item member
      rcases run_applied done member with ⟨record, listed, index, started, stage⟩
      have reading := (wins record listed).reads
      rw [index] at reading
      exact ⟨started, record.executed, stage, reading⟩
    exact ⟨DelayedWrites.Timing.noOvertaking_of_reads reads,
      DelayedWrites.Timing.separateSlots_of_reads plan_issued reads fun _ member =>
        plan_writes member⟩

/-! ## A signal published late -/

/-- The first of four daily bars is published with the third one. -/
def overtakenBars (symbol : String) : List HistoricalBar :=
  [{ dailyBar symbol 0 1 with publicationTime := 2 }, dailyBar symbol 1 1, dailyBar symbol 2 1,
    dailyBar symbol 3 1]

def overtakenRun : EStateM.Result EngineError EngineState Unit :=
  run thinConfig roundTrip overtakenBars (overtakenBars "SPY")

def overtakenPlan : List PendingTargets :=
  plan thinConfig roundTrip (align thinConfig overtakenBars (overtakenBars "SPY"))

/-- A signal of the round trip. -/
def overtakenSignal (signalIndex executionIndex : Nat) (signalTime : Instant) (weight : Rat) :
    PendingTargets where
  executionIndex := executionIndex
  signalIndex := signalIndex
  signalTime := signalTime
  updates := [("ATOM", .finite weight)]
  reasons := [("ATOM", "")]

/-- The signal of the first bar executes on the fourth, after that of the second
bar, and buys what the newer signal had told to leave. -/
theorem overtakenRun_overrides :
    (forall bar, bar ∈ overtakenBars "ATOM" ++ overtakenBars "SPY" ->
      0 < bar.openPrice ∧ 0 < bar.closePrice ∧ bar.eventTime ≤ bar.publicationTime ∧
        bar.eventTime ≤ bar.effectiveTime) ∧
    exists final, overtakenRun = .ok () final ∧
      exists record, record ∈ final.simulation.rebalances ∧ ¬ record.LatestWins overtakenPlan ∧
        record.call.targets "ATOM" = .finite 1 ∧
        exists item, signalTiming.Newest
            (signalTiming.arrived overtakenPlan record.call.index) "ATOM" item ∧
          item.updates.lookup "ATOM" = some (.finite 0) := by
  have planned : overtakenPlan = [overtakenSignal 0 3 2 1, overtakenSignal 1 2 1 0] := by
    decide +kernel
  have recorded : (Loops.finalState overtakenRun).simulation.rebalances.any (fun record =>
      record.call.index = 3 ∧ record.call.targets "ATOM" = .finite 1) = true := by
    decide +kernel
  rcases List.any_eq_true.mp recorded with ⟨record, member, matching⟩
  rcases of_decide_eq_true matching with ⟨index, target⟩
  have newest : signalTiming.Newest (signalTiming.arrived overtakenPlan record.call.index) "ATOM"
      (overtakenSignal 1 2 1 0) := by
    rw [planned, index]
    refine { member := by decide +kernel, writer := rfl, newest := ?_ }
    intro other inArrived _
    have listed := (DelayedWrites.Timing.mem_arrived.mp inArrived).1
    rcases List.mem_cons.mp listed with rfl | second
    · exact Nat.zero_le 1
    · rw [List.mem_singleton.mp second]
  refine ⟨by decide +kernel, _, Loops.eq_ok_of_completed (by decide +kernel), record, member,
    fun wins => ?_, target, overtakenSignal 1 2 1 0, newest, rfl⟩
  have held := (wins "ATOM" (overtakenSignal 1 2 1 0) newest).2
  rw [target] at held
  exact absurd held (by decide +kernel)

end Backtesting
end MarketIntelligence
