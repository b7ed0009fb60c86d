import MarketIntelligence.Backtesting.Engine
import MarketIntelligence.Foundations.Loops
import MarketIntelligence.Foundations.SortedLists
import Mathlib.Data.List.Dedup
import Mathlib.Data.List.Range

namespace MarketIntelligence
namespace Backtesting

open Foundations

/-!
# The common timeline and the passes over it

The loop visits the instants that every selected symbol and the benchmark have,
each once and in order.  At such an instant every lookup of an aligned bar finds
a bar of the input with that event time.  An invariant of the whole run follows
from what each stage of one bar keeps.
-/

/-! ## Looking bars up -/

theorem barAt_some {bars : List HistoricalBar} {time : Instant} {bar : HistoricalBar}
    (found : barAt bars time = some bar) : bar ∈ bars ∧ bar.eventTime = time := by
  unfold barAt at found
  have member := List.mem_of_find?_eq_some found
  have matching := List.find?_some found
  exact ⟨List.mem_reverse.mp member, of_decide_eq_true matching⟩

theorem barAt_isSome {bars : List HistoricalBar} {time : Instant} :
    (barAt bars time).isSome = true <-> exists bar, bar ∈ bars ∧ bar.eventTime = time := by
  unfold barAt
  rw [List.find?_isSome]
  simp only [List.mem_reverse, decide_eq_true_eq]

theorem mem_orderedBars {config : BacktestConfig} {barsBySymbol : String -> List HistoricalBar}
    {symbol : String} {bar : HistoricalBar} :
    bar ∈ orderedBars config barsBySymbol symbol <->
      symbol ∈ config.symbols ∧ bar ∈ barsBySymbol symbol := by
  unfold orderedBars
  by_cases known : symbol ∈ config.symbols
  · rw [if_pos known, List.mem_insertionSort]
    exact ⟨fun member => ⟨known, member⟩, fun both => both.2⟩
  · rw [if_neg known]
    exact ⟨fun member => absurd member List.not_mem_nil, fun both => absurd both.1 known⟩

/-- A lookup reads only the bars of its own instant. -/
theorem barAt_filter (bars : List HistoricalBar) (time : Instant) :
    barAt (bars.filter fun bar => bar.eventTime = time) time = barAt bars time := by
  unfold barAt
  rw [← List.filter_reverse, List.find?_filter]
  simp only [decide_eq_true_eq, and_self]

/-- Sorting the bars of a symbol does not change which one a lookup finds. -/
theorem barAt_orderedBars {config : BacktestConfig} {barsBySymbol : String -> List HistoricalBar}
    {symbol : String} (known : symbol ∈ config.symbols) (time : Instant) :
    barAt (orderedBars config barsBySymbol symbol) time = barAt (barsBySymbol symbol) time := by
  unfold orderedBars
  rw [if_pos known, ← barAt_filter, SortedLists.filter_insertionSort, barAt_filter]
  intro first second firstAt secondAt
  rw [of_decide_eq_true firstAt, of_decide_eq_true secondAt]

/-! ## The instants of the loop -/

section CommonTimes

variable {config : BacktestConfig} {barsBySymbol : String -> List HistoricalBar}
  {benchmarkBars : List HistoricalBar} {time : Instant}

theorem isCommonTime_iff :
    isCommonTime config barsBySymbol benchmarkBars time = true <->
      (forall symbol, symbol ∈ config.symbols ->
        (barAt (orderedBars config barsBySymbol symbol) time).isSome = true) ∧
      (barAt benchmarkBars time).isSome = true := by
  unfold isCommonTime
  rw [Bool.and_eq_true, List.all_eq_true]

/-- There is at least one symbol, so a common instant is an instant of some bar. -/
theorem mem_commonTimes :
    time ∈ commonTimes config barsBySymbol benchmarkBars <->
      isCommonTime config barsBySymbol benchmarkBars time = true := by
  unfold commonTimes
  simp only [List.mem_insertionSort, List.mem_dedup, List.mem_filter, and_iff_right_iff_imp]
  intro common
  have nonempty := config.symbols_length.1
  cases symbols : config.symbols with
  | nil =>
      rw [symbols] at nonempty
      exact absurd nonempty (by decide)
  | cons first rest =>
      have known : first ∈ config.symbols := symbols ▸ List.mem_cons_self
      rcases barAt_isSome.mp ((isCommonTime_iff.mp common).1 first known) with ⟨bar, member, equal⟩
      apply List.mem_flatMap.mpr
      exact ⟨first, List.mem_cons_self, List.mem_map.mpr ⟨bar, member, equal⟩⟩

/-- The instants are visited in strictly increasing order. -/
theorem commonTimes_strict :
    (commonTimes config barsBySymbol benchmarkBars).Pairwise (· < ·) := by
  have sorted : (commonTimes config barsBySymbol benchmarkBars).Pairwise (· ≤ ·) :=
    List.pairwise_insertionSort _ _
  have distinct : (commonTimes config barsBySymbol benchmarkBars).Nodup :=
    (List.perm_insertionSort _ _).nodup_iff.mpr (List.nodup_dedup _)
  exact (sorted.and distinct).imp fun both => lt_of_le_of_ne both.1 both.2

theorem align_bar (member : time ∈ (align config barsBySymbol benchmarkBars).times)
    {symbol : String} (known : symbol ∈ config.symbols) :
    (align config barsBySymbol benchmarkBars).bars time symbol ∈ barsBySymbol symbol ∧
      ((align config barsBySymbol benchmarkBars).bars time symbol).eventTime = time := by
  have common := isCommonTime_iff.mp (mem_commonTimes.mp member)
  have found := common.1 symbol known
  change ((barAt (orderedBars config barsBySymbol symbol) time).getD default) ∈ _ ∧
    ((barAt (orderedBars config barsBySymbol symbol) time).getD default).eventTime = time
  cases looked : barAt (orderedBars config barsBySymbol symbol) time with
  | none =>
      rw [looked] at found
      cases found
  | some bar =>
      have spec := barAt_some looked
      exact ⟨(mem_orderedBars.mp spec.1).2, spec.2⟩

end CommonTimes

/-! ## Stages of a bar and passes of the loop -/

theorem mem_zipIdx_times {times : List Instant} {entry : Instant × Nat}
    (member : entry ∈ times.zipIdx) : times[entry.2]? = some entry.1 :=
  List.mem_zipIdx_iff_getElem?.mp member

section Stages

variable {config : BacktestConfig} {strategy : Strategy}

/-- An invariant of the simulation that each stage keeps is kept by the bar. -/
theorem barBody_preserves {invariant : Simulation -> Prop} {slice : Slice}
    {due : List PendingTargets}
    (risk : Loops.Preserves invariant (riskRebalance config slice due))
    (pending : forall item, item ∈ due ->
      Loops.Preserves invariant (executePending config slice item))
    (snapshot : Loops.Preserves invariant (takeSnapshot config slice))
    (signals : forall batch symbol, symbol ∈ config.symbols ->
      Loops.Preserves invariant (generateSignal strategy slice batch symbol)) :
    Loops.Preserves invariant (barBody config strategy slice due) := by
  refine risk.bind fun _ => ?_
  refine (Loops.Preserves.forM pending).bind fun _ => ?_
  refine snapshot.bind fun _ => ?_
  exact Loops.Preserves.foldlM (fun symbol batch known => signals batch symbol known) _

/-- The snapshot is the only stage that moves from one invariant to a weaker one. -/
theorem barBody_meets {before after : Simulation -> Prop} {slice : Slice}
    {due : List PendingTargets} (weaker : forall state, before state -> after state)
    (risk : Loops.Preserves before (riskRebalance config slice due))
    (pending : forall item, item ∈ due ->
      Loops.Preserves before (executePending config slice item))
    (snapshot : Loops.Meets before (takeSnapshot config slice) (fun _ => after) (fun _ => after))
    (signals : forall batch symbol, symbol ∈ config.symbols ->
      Loops.Preserves after (generateSignal strategy slice batch symbol)) :
    Loops.Meets before (barBody config strategy slice due) (fun _ => after) (fun _ => after) := by
  have riskMeets : Loops.Meets before (riskRebalance config slice due) (fun _ => before)
      (fun _ => after) :=
    risk.meets.weaken (fun _ holds => holds) (fun _ _ holds => holds) fun _ => weaker
  have pendingMeets : Loops.Meets before (due.forM (executePending config slice))
      (fun _ => before) (fun _ => after) :=
    (Loops.Preserves.forM pending).meets.weaken (fun _ holds => holds) (fun _ _ holds => holds)
      fun _ => weaker
  have signalsKeep : Loops.Preserves after (generateSignals config strategy slice) :=
    Loops.Preserves.foldlM (fun symbol batch known => signals batch symbol known) _
  exact riskMeets.bind fun _ => pendingMeets.bind fun _ => snapshot.bind fun _ =>
    signalsKeep.meets

/-- The pending list is not part of the simulation. -/
theorem processBar_preserves {invariant : Simulation -> Prop} {timeline : Timeline}
    {entry : Instant × Nat}
    (body : forall due,
      Loops.Preserves invariant (barBody config strategy (timeline.slice entry.2 entry.1) due)) :
    Loops.Preserves (fun state => invariant state.simulation)
      (processBar config strategy timeline entry) := by
  intro state holds
  have kept := body (state.pending.filter fun item => item.executionIndex = entry.2)
    state.simulation holds
  unfold processBar
  dsimp only
  cases done : barBody config strategy (timeline.slice entry.2 entry.1)
      (state.pending.filter fun item => item.executionIndex = entry.2) state.simulation with
  | error failure simulation =>
      rw [done] at kept
      exact kept
  | ok batch simulation =>
      rw [done] at kept
      exact kept

theorem processBar_meets {before after raised : Simulation -> Prop} {timeline : Timeline}
    {entry : Instant × Nat}
    (body : forall due, Loops.Meets before
      (barBody config strategy (timeline.slice entry.2 entry.1) due)
      (fun _ => after) (fun _ => raised)) :
    Loops.Meets (fun state => before state.simulation)
      (processBar config strategy timeline entry)
      (fun _ state => after state.simulation) (fun _ state => raised state.simulation) := by
  intro state holds
  have met := body (state.pending.filter fun item => item.executionIndex = entry.2)
    state.simulation holds
  unfold processBar
  dsimp only
  cases done : barBody config strategy (timeline.slice entry.2 entry.1)
      (state.pending.filter fun item => item.executionIndex = entry.2) state.simulation with
  | error failure simulation =>
      rw [done] at met
      exact met
  | ok batch simulation =>
      rw [done] at met
      exact met

/-- The rule of the run: what holds before a bar depends on the bars to come. -/
theorem run_meets {motive : List (Instant × Nat) -> EngineState -> Prop}
    {holds : EngineState -> Prop} {barsBySymbol : String -> List HistoricalBar}
    {benchmarkBars : List HistoricalBar}
    (initial : motive (align config barsBySymbol benchmarkBars).times.zipIdx (.initial config))
    (pass : forall head tail, Loops.Meets (motive (head :: tail))
      (processBar config strategy (align config barsBySymbol benchmarkBars) head)
      (fun _ => motive tail) (fun _ => holds))
    (ends : forall remaining state, motive remaining state -> holds state) :
    holds (Loops.finalState (run config strategy barsBySymbol benchmarkBars)) := by
  unfold run
  dsimp only
  split
  · exact ends _ _ initial
  · split
    · exact ends _ _ initial
    · exact ((Loops.Meets.forM pass _).weaken (fun _ holds => holds)
        (fun _ => ends []) (fun _ _ holds => holds)).finalState initial

theorem run_preserves {motive : EngineState -> Prop}
    {barsBySymbol : String -> List HistoricalBar} {benchmarkBars : List HistoricalBar}
    (initial : motive (.initial config))
    (pass : forall entry, entry ∈ (align config barsBySymbol benchmarkBars).times.zipIdx ->
      Loops.Preserves motive
        (processBar config strategy (align config barsBySymbol benchmarkBars) entry)) :
    motive (Loops.finalState (run config strategy barsBySymbol benchmarkBars)) := by
  unfold run
  dsimp only
  split
  · exact initial
  · split
    · exact initial
    · exact Loops.Preserves.forM pass _ initial

/-- Bars to come, for an invariant that speaks of a time nothing has reached yet. -/
structure TimedAhead (invariant : Instant -> Simulation -> Prop) (timeline : Timeline)
    (remaining : List (Instant × Nat)) (state : EngineState) : Prop where
  known : forall entry, entry ∈ remaining -> entry ∈ timeline.times.zipIdx
  increasing : (remaining.map Prod.fst).Pairwise (· < ·)
  next : forall entry, entry ∈ remaining -> invariant entry.1 state.simulation
  holds : exists time, invariant time state.simulation

/-- The rule of the run for an invariant that holds before each bar with the bar's
own time. -/
theorem run_timed {invariant : Instant -> Simulation -> Prop}
    {barsBySymbol : String -> List HistoricalBar} {benchmarkBars : List HistoricalBar}
    (mono : forall earlier later state, earlier ≤ later -> invariant earlier state ->
      invariant later state)
    (initial : forall time, invariant time (.initial config))
    (bar : forall entry, entry ∈ (align config barsBySymbol benchmarkBars).times.zipIdx ->
      forall due, Loops.Meets (invariant entry.1)
        (barBody config strategy
          ((align config barsBySymbol benchmarkBars).slice entry.2 entry.1) due)
        (fun _ => invariant (entry.1 + 1)) (fun _ => invariant (entry.1 + 1))) :
    exists time, invariant time
      (Loops.finalState (run config strategy barsBySymbol benchmarkBars)).simulation := by
  change (fun state : EngineState => exists time, invariant time state.simulation) _
  refine run_meets
    (motive := TimedAhead invariant (align config barsBySymbol benchmarkBars)) ?_ ?_
    (fun _ _ ahead => ahead.holds)
  · refine { known := fun _ member => member, increasing := ?_
             next := fun entry _ => initial entry.1, holds := ⟨0, initial 0⟩ }
    rw [List.zipIdx_map_fst]
    exact commonTimes_strict
  · intro entry remaining state ahead
    rcases List.pairwise_cons.mp ahead.increasing with ⟨first, rest⟩
    refine (processBar_meets (bar entry (ahead.known entry List.mem_cons_self))).weaken
      (fun _ holds => holds) ?_ (fun _ _ holds => ⟨entry.1 + 1, holds⟩) state
      (ahead.next entry List.mem_cons_self)
    intro _ next after
    exact
      { known := fun other member => ahead.known other (List.mem_cons_of_mem _ member)
        increasing := rest
        next := fun other member =>
          mono _ _ _ (first other.1 (List.mem_map_of_mem member)) after
        holds := ⟨entry.1 + 1, after⟩ }

/-- A completed run is a completed loop. -/
theorem run_ok {barsBySymbol : String -> List HistoricalBar} {benchmarkBars : List HistoricalBar}
    {final : EngineState} (done : run config strategy barsBySymbol benchmarkBars = .ok () final) :
    runTimeline config strategy (align config barsBySymbol benchmarkBars) (.initial config) =
      .ok () final := by
  unfold run at done
  dsimp only at done
  split at done
  · cases done
  · split at done
    · cases done
    · exact done

end Stages

end Backtesting
end MarketIntelligence
