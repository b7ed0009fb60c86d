import MarketIntelligence.Backtesting.Solvency
import MarketIntelligence.Backtesting.Scheduling

namespace MarketIntelligence
namespace Backtesting

open Foundations

/-!
# Later bars change nothing earlier

Two runs whose bars agree up to an instant share the first segment of their
timelines.  Over that segment they keep the same simulation, and the same
pending entries apart from those scheduled past its end.  From there on, each
run only appends entries with later times.
-/

/-! ## What a run shows up to an instant -/

/-- The snapshots, trades and signals of a run up to an instant.  A signal is
placed at the bar it was generated on. -/
structure Visible where
  snapshots : List DailySnapshot
  trades : List SimulatedTrade
  signals : List GeneratedSignal
  deriving DecidableEq, Repr

def Simulation.upTo (instant : Instant) (state : Simulation) : Visible where
  snapshots := state.result.snapshots.filter fun snapshot => snapshot.eventTime ≤ instant
  trades := state.result.trades.filter fun trade => trade.executionTime ≤ instant
  signals := (state.signals.filter fun entry => entry.barTime ≤ instant).map TimedSignal.signal

/-- Two lists hold the same bars, in the same order, at every instant up to the
given one. -/
def AgreeUpTo (instant : Instant) (left right : List HistoricalBar) : Prop :=
  forall time, time ≤ instant ->
    left.filter (fun bar => bar.eventTime = time) = right.filter (fun bar => bar.eventTime = time)

theorem AgreeUpTo.barAt {instant time : Instant} {left right : List HistoricalBar}
    (agree : AgreeUpTo instant left right) (early : time ≤ instant) :
    Backtesting.barAt left time = Backtesting.barAt right time := by
  rw [← barAt_filter left, agree time early, barAt_filter]

/-! ## The shared segment -/

/-- The two runs agree on everything that can still act before the cut. -/
structure AgreeBelow (cut : Nat) (left right : EngineState) : Prop where
  simulation : left.simulation = right.simulation
  pending : left.pending.filter (fun item => item.executionIndex < cut) =
    right.pending.filter (fun item => item.executionIndex < cut)

theorem AgreeBelow.due {cut index : Nat} {left right : EngineState}
    (agree : AgreeBelow cut left right) (inside : index < cut) :
    left.pending.filter (fun item => item.executionIndex = index) =
      right.pending.filter (fun item => item.executionIndex = index) := by
  have narrowed := congrArg
    (List.filter fun item : PendingTargets => item.executionIndex = index) agree.pending
  have absorbed (pending : List PendingTargets) :
      (pending.filter fun item => item.executionIndex < cut).filter
          (fun item => item.executionIndex = index) =
        pending.filter fun item => item.executionIndex = index := by
    rw [List.filter_filter]
    congr 1
    funext item
    rw [← Bool.decide_and, decide_eq_decide]
    exact ⟨fun both => both.1, fun equal => ⟨equal, equal ▸ inside⟩⟩
  rwa [absorbed, absorbed] at narrowed

theorem AgreeBelow.rest {cut index : Nat} {left right : EngineState}
    (agree : AgreeBelow cut left right) :
    (left.pending.filter fun item => item.executionIndex ≠ index).filter
        (fun item => item.executionIndex < cut) =
      (right.pending.filter fun item => item.executionIndex ≠ index).filter
        (fun item => item.executionIndex < cut) := by
  rw [List.filter_comm, agree.pending, List.filter_comm]

section SharedSegment

variable {config : BacktestConfig} {strategy : Strategy}

/-- One pass of the loop over the shared segment. -/
theorem processBar_agree {left right : Timeline} {front leftBack rightBack : List Instant}
    (leftTimes : left.times = front ++ leftBack) (rightTimes : right.times = front ++ rightBack)
    {entry : Instant × Nat} (inside : entry.2 < front.length)
    (slices : left.slice entry.2 entry.1 = right.slice entry.2 entry.1)
    {leftState rightState leftNext rightNext : EngineState}
    (agree : AgreeBelow front.length leftState rightState)
    (leftDone : processBar config strategy left entry leftState = .ok () leftNext)
    (rightDone : processBar config strategy right entry rightState = .ok () rightNext) :
    AgreeBelow front.length leftNext rightNext := by
  unfold processBar at leftDone rightDone
  dsimp only at leftDone rightDone
  rw [← agree.due inside, ← agree.simulation, ← slices] at rightDone
  cases body : barBody config strategy (left.slice entry.2 entry.1)
      (leftState.pending.filter fun item => item.executionIndex = entry.2)
      leftState.simulation with
  | error failure simulation =>
      rw [body] at leftDone
      cases leftDone
  | ok batch simulation =>
      rw [body] at leftDone rightDone
      cases leftDone
      cases rightDone
      refine { simulation := rfl, pending := ?_ }
      rw [List.filter_append, List.filter_append, agree.rest, leftTimes, rightTimes,
        schedule_filter, schedule_filter]

end SharedSegment

/-! ## The rest of each run -/

section LateBars

variable {config : BacktestConfig} {slice : Slice} {instant : Instant} {view : Visible}

theorem runRebalance_upTo (late : instant < slice.eventTime)
    (times : forall symbol, symbol ∈ config.symbols ->
      (slice.bars symbol).eventTime = slice.eventTime)
    (cause : Cause) (signalTime : Instant) (reasons : String -> Option String) :
    Loops.Preserves (fun state => state.upTo instant = view)
      (runRebalance config slice cause signalTime reasons) := by
  intro state shown
  unfold runRebalance
  dsimp only
  cases done : rebalance config
      { index := slice.index, bars := slice.bars, targets := state.targets,
        signalTime := signalTime, reasons := reasons } state.ledger with
  | error failure => exact shown
  | ok outcome =>
      have hidden : (outcome.fills.map Fill.trade).filter
          (fun trade => trade.executionTime ≤ instant) = [] := by
        apply List.filter_eq_nil_iff.mpr
        intro trade member
        rcases List.mem_map.mp member with ⟨fill, filled, equal⟩
        have atBar := rebalance_atBar done fill filled
        rw [← equal, atBar.2, times fill.symbol atBar.1]
        simpa using late
      rw [← shown]
      simp only [Loops.finalState, Simulation.upTo, Simulation.result, List.flatMap_append,
        List.flatMap_cons, List.flatMap_nil, List.append_nil, List.filter_append,
        RebalanceRecord.trades, hidden]

theorem riskRebalance_upTo (late : instant < slice.eventTime)
    (times : forall symbol, symbol ∈ config.symbols ->
      (slice.bars symbol).eventTime = slice.eventTime) (due : List PendingTargets) :
    Loops.Preserves (fun state => state.upTo instant = view) (riskRebalance config slice due) := by
  intro state shown
  unfold riskRebalance
  cases state.snapshots.getLast? with
  | none => exact shown
  | some snapshot =>
      dsimp only
      split
      · exact runRebalance_upTo late times _ _ _ state shown
      · exact shown

theorem takeSnapshot_upTo (late : instant < slice.eventTime) :
    Loops.Preserves (fun state => state.upTo instant = view) (takeSnapshot config slice) := by
  intro state shown
  unfold takeSnapshot
  dsimp only
  split
  · exact shown
  · rw [← shown]
    have hidden : ¬ slice.eventTime ≤ instant := not_le.mpr late
    simp only [Loops.finalState, Simulation.upTo, Simulation.result, List.filter_append,
      List.filter_cons, List.filter_nil, hidden, decide_false, Bool.false_eq_true, if_false,
      List.append_nil]

theorem generateSignal_upTo (late : instant < slice.eventTime) (strategy : Strategy)
    (batch : SignalBatch) (symbol : String) :
    Loops.Preserves (fun state => state.upTo instant = view)
      (generateSignal strategy slice batch symbol) := by
  intro state shown
  unfold generateSignal
  dsimp only
  split
  · exact shown
  · split
    · exact shown
    · rw [← shown]
      have hidden : ¬ slice.eventTime ≤ instant := not_le.mpr late
      simp only [Loops.finalState, Simulation.upTo, Simulation.result, List.filter_append,
        List.filter_cons, List.filter_nil, hidden, decide_false, Bool.false_eq_true, if_false,
        List.append_nil]

/-- A late bar shows nothing up to the instant. -/
theorem barBody_upTo (late : instant < slice.eventTime)
    (times : forall symbol, symbol ∈ config.symbols ->
      (slice.bars symbol).eventTime = slice.eventTime) (strategy : Strategy)
    (due : List PendingTargets) :
    Loops.Preserves (fun state => state.upTo instant = view)
      (barBody config strategy slice due) :=
  barBody_preserves (riskRebalance_upTo late times due)
    (fun _ _ _ shown => runRebalance_upTo late times _ _ _ _ shown)
    (takeSnapshot_upTo late) (fun batch symbol _ => generateSignal_upTo late strategy batch symbol)

end LateBars

/-! ## Two completed runs -/

section TwoRuns

variable {config : BacktestConfig} {strategy : Strategy} {instant : Instant}
  {leftBars rightBars : String -> List HistoricalBar}
  {leftBenchmark rightBenchmark : List HistoricalBar}

/-- Up to the instant the two inputs have the same bars of every selected symbol. -/
theorem barAt_orderedBars_agree
    (bars : forall symbol, symbol ∈ config.symbols ->
      AgreeUpTo instant (leftBars symbol) (rightBars symbol))
    {time : Instant} (early : time ≤ instant) (symbol : String) :
    barAt (orderedBars config leftBars symbol) time =
      barAt (orderedBars config rightBars symbol) time := by
  by_cases known : symbol ∈ config.symbols
  · rw [barAt_orderedBars known, barAt_orderedBars known, (bars symbol known).barAt early]
  · unfold orderedBars
    rw [if_neg known, if_neg known]

theorem isCommonTime_agree
    (bars : forall symbol, symbol ∈ config.symbols ->
      AgreeUpTo instant (leftBars symbol) (rightBars symbol))
    (benchmark : AgreeUpTo instant leftBenchmark rightBenchmark)
    {time : Instant} (early : time ≤ instant) :
    isCommonTime config leftBars leftBenchmark time =
      isCommonTime config rightBars rightBenchmark time := by
  unfold isCommonTime
  rw [benchmark.barAt early]
  simp only [barAt_orderedBars_agree bars early]

/-- The two timelines share their segment up to the instant. -/
theorem commonTimes_agree
    (bars : forall symbol, symbol ∈ config.symbols ->
      AgreeUpTo instant (leftBars symbol) (rightBars symbol))
    (benchmark : AgreeUpTo instant leftBenchmark rightBenchmark) :
    (commonTimes config leftBars leftBenchmark).filter (· ≤ instant) =
      (commonTimes config rightBars rightBenchmark).filter (· ≤ instant) := by
  refine SortedLists.eq_of_mem_iff (commonTimes_strict.filter _) (commonTimes_strict.filter _) ?_
  intro time
  simp only [List.mem_filter, decide_eq_true_eq]
  refine and_congr_left fun early => ?_
  rw [mem_commonTimes, mem_commonTimes, isCommonTime_agree bars benchmark early]

/-- At a shared instant the loop body reads the same values in both runs. -/
theorem slice_agree
    (bars : forall symbol, symbol ∈ config.symbols ->
      AgreeUpTo instant (leftBars symbol) (rightBars symbol))
    (benchmark : AgreeUpTo instant leftBenchmark rightBenchmark)
    {front leftBack rightBack : List Instant}
    (leftTimes : (align config leftBars leftBenchmark).times = front ++ leftBack)
    (rightTimes : (align config rightBars rightBenchmark).times = front ++ rightBack)
    (early : forall time, time ∈ front -> time ≤ instant)
    {time : Instant} (member : time ∈ front) (index : Nat) :
    (align config leftBars leftBenchmark).slice index time =
      (align config rightBars rightBenchmark).slice index time := by
  have first : (front ++ leftBack).headD 0 = (front ++ rightBack).headD 0 ∧
      (front ++ rightBack).headD 0 ≤ instant := by
    cases front with
    | nil => cases member
    | cons head tail => exact ⟨rfl, early head List.mem_cons_self⟩
  have selected : (align config leftBars leftBenchmark).bars time =
      (align config rightBars rightBenchmark).bars time := by
    funext symbol
    exact congrArg (fun found => found.getD default)
      (barAt_orderedBars_agree bars (early time member) symbol)
  have reference {time : Instant} (before : time ≤ instant) :
      (align config leftBars leftBenchmark).benchmark time =
        (align config rightBars rightBenchmark).benchmark time :=
    congrArg (fun found => found.getD default) (benchmark.barAt before)
  unfold Timeline.slice
  rw [leftTimes, rightTimes, first.1, selected, reference (early time member), reference first.2]

/-- The rest of a run leaves what it shows up to the instant alone. -/
theorem late_upTo {front back : List Instant}
    (times : (align config leftBars leftBenchmark).times = front ++ back)
    (late : forall time, time ∈ back -> instant < time) {middle final : EngineState}
    (done : (back.zipIdx front.length).forM
      (processBar config strategy (align config leftBars leftBenchmark)) middle = .ok () final) :
    final.simulation.upTo instant = middle.simulation.upTo instant := by
  have kept : Loops.Preserves
      (fun state : EngineState =>
        state.simulation.upTo instant = middle.simulation.upTo instant)
      ((back.zipIdx front.length).forM
        (processBar config strategy (align config leftBars leftBenchmark))) := by
    apply Loops.Preserves.forM
    intro entry member
    have inBack : entry.1 ∈ back := List.fst_mem_of_mem_zipIdx member
    have inTimes : entry.1 ∈ (align config leftBars leftBenchmark).times :=
      times ▸ List.mem_append_right _ inBack
    exact processBar_preserves fun due => barBody_upTo (late entry.1 inBack)
      (fun symbol known => (align_bar inTimes known).2) strategy due
  have shown := kept middle rfl
  rw [done] at shown
  exact shown

/-- No look-ahead.  Two completed runs over bars that agree up to an instant show
the same snapshots, trades and signals up to that instant. -/
theorem upTo_eq_of_agreeUpTo {leftFinal rightFinal : EngineState}
    (bars : forall symbol, symbol ∈ config.symbols ->
      AgreeUpTo instant (leftBars symbol) (rightBars symbol))
    (benchmark : AgreeUpTo instant leftBenchmark rightBenchmark)
    (leftDone : run config strategy leftBars leftBenchmark = .ok () leftFinal)
    (rightDone : run config strategy rightBars rightBenchmark = .ok () rightFinal) :
    leftFinal.simulation.upTo instant = rightFinal.simulation.upTo instant := by
  have leftStrict : (commonTimes config leftBars leftBenchmark).Pairwise (· < ·) :=
    commonTimes_strict
  have rightStrict : (commonTimes config rightBars rightBenchmark).Pairwise (· < ·) :=
    commonTimes_strict
  have leftSplit := SortedLists.split_at instant leftStrict
  have rightSplit := SortedLists.split_at instant rightStrict
  rw [← commonTimes_agree bars benchmark] at rightSplit
  generalize frontEq : (commonTimes config leftBars leftBenchmark).filter (· ≤ instant) = front
    at leftSplit rightSplit
  generalize leftBackEq : (commonTimes config leftBars leftBenchmark).filter
    (fun time => instant < time) = leftBack at leftSplit
  generalize rightBackEq : (commonTimes config rightBars rightBenchmark).filter
    (fun time => instant < time) = rightBack at rightSplit
  have early : forall time, time ∈ front -> time ≤ instant := by
    intro time member
    rw [← frontEq] at member
    exact of_decide_eq_true (List.mem_filter.mp member).2
  have leftLate : forall time, time ∈ leftBack -> instant < time := by
    intro time member
    rw [← leftBackEq] at member
    exact of_decide_eq_true (List.mem_filter.mp member).2
  have rightLate : forall time, time ∈ rightBack -> instant < time := by
    intro time member
    rw [← rightBackEq] at member
    exact of_decide_eq_true (List.mem_filter.mp member).2
  have leftLoop := run_ok leftDone
  have rightLoop := run_ok rightDone
  unfold runTimeline at leftLoop rightLoop
  rw [show (align config leftBars leftBenchmark).times = front ++ leftBack from leftSplit,
    List.zipIdx_append, Nat.zero_add] at leftLoop
  rw [show (align config rightBars rightBenchmark).times = front ++ rightBack from rightSplit,
    List.zipIdx_append, Nat.zero_add] at rightLoop
  rcases Loops.forM_append_ok leftLoop with ⟨leftMiddle, leftFront, leftRest⟩
  rcases Loops.forM_append_ok rightLoop with ⟨rightMiddle, rightFront, rightRest⟩
  have shared : AgreeBelow front.length leftMiddle rightMiddle := by
    refine Loops.forM_related (motive := AgreeBelow front.length) ?_ _ _ _ _
      { simulation := rfl, pending := rfl } leftFront rightFront
    intro entry member left right leftNext rightNext agree leftStep rightStep
    have inside : entry.2 < front.length := by
      have bound := List.snd_lt_of_mem_zipIdx member
      omega
    have slices := slice_agree bars benchmark leftSplit rightSplit early
      (List.fst_mem_of_mem_zipIdx member) entry.2
    exact processBar_agree leftSplit rightSplit inside slices agree leftStep rightStep
  rw [late_upTo leftSplit leftLate leftRest, late_upTo rightSplit rightLate rightRest,
    shared.simulation]

end TwoRuns

/-- The bars of `halvingBars` with another last day. -/
def risingBars (symbol : String) : List HistoricalBar :=
  [dailyBar symbol 0 1, dailyBar symbol 1 1, dailyBar symbol 2 4]

theorem halvingBars_agree_risingBars (symbol : String) :
    AgreeUpTo 1 (halvingBars symbol) (risingBars symbol) := by
  intro time early
  have before : (2 : Instant) ≠ time := ne_of_gt (lt_of_le_of_lt early (by decide))
  have hidden (price : Rat) :
      [dailyBar symbol 2 price].filter (fun bar => bar.eventTime = time) = [] :=
    List.filter_cons_of_neg fun same => before (of_decide_eq_true same)
  change ([dailyBar symbol 0 1, dailyBar symbol 1 1] ++ [dailyBar symbol 2 (1 / 2)]).filter _ =
    ([dailyBar symbol 0 1, dailyBar symbol 1 1] ++ [dailyBar symbol 2 4]).filter _
  rw [List.filter_append, List.filter_append, hidden, hidden]

theorem upTo_eq_halving_rising :
    (Loops.finalState (run thinConfig roundTrip halvingBars (halvingBars "SPY"))).simulation.upTo 1 =
      (Loops.finalState (run thinConfig roundTrip risingBars (risingBars "SPY"))).simulation.upTo 1 :=
  upTo_eq_of_agreeUpTo (fun symbol _ => halvingBars_agree_risingBars symbol)
    (halvingBars_agree_risingBars "SPY")
    (Loops.eq_ok_of_completed (by decide +kernel)) (Loops.eq_ok_of_completed (by decide +kernel))

end Backtesting
end MarketIntelligence
