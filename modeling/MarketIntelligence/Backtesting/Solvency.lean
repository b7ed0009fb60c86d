import MarketIntelligence.Backtesting.RebalanceSpec
import MarketIntelligence.Backtesting.Alignment

namespace MarketIntelligence
namespace Backtesting

open Foundations

/-!
# Solvency of a backtest

A purchase is sized against the cash it finds, commission included.  A sale is
not: its commission is charged against whatever it brings in, so a sale that
brings in less takes the account below zero, and the negative equity then turns
into sales of shares that are not held.

The account stays solvent through a run exactly when every rebalance is covered:
the cash and the proceeds of its sales pay one commission for each of them, and
no purchase is lifted over the cash by quantizing its cost.
-/

/-- At every rebalance and at every snapshot reached, cash and holdings are
nonnegative, and no sale exceeds what was held immediately before it. -/
def Simulation.Solvent (state : Simulation) : Prop :=
  (forall record, record ∈ state.rebalances ->
    record.outcome.ledger.Solvent ∧ forall fill, fill ∈ record.outcome.fills -> fill.LongOnly) ∧
  (forall ledger, ledger ∈ state.snapshotLedgers -> ledger.Solvent)

/-- Every rebalance so far found its fees covered by the ledger that it started from.  It says
nothing of what the rebalance has made of that ledger. -/
def Simulation.FeesCovered (config : BacktestConfig) (state : Simulation) : Prop :=
  forall record, record ∈ state.rebalances ->
    Backtesting.FeesCovered config record.call record.before

/-- The invariant of the run: as long as each rebalance found its fees covered the account is
solvent, and the other way round. -/
structure Accounted (config : BacktestConfig) (state : Simulation) : Prop where
  solvent_iff : state.Solvent <-> state.FeesCovered config
  current : state.Solvent -> state.ledger.Solvent

theorem Accounted.initial (config : BacktestConfig) : Accounted config (.initial config) where
  solvent_iff :=
    ⟨fun _ _ member => absurd member List.not_mem_nil,
      fun _ => ⟨fun _ member => absurd member List.not_mem_nil,
        fun _ member => absurd member List.not_mem_nil⟩⟩
  current := fun _ => ⟨le_of_lt config.initialCash_pos, fun _ => le_refl 0⟩

/-- Only the ledger and the two logs matter. -/
theorem Accounted.congr {config : BacktestConfig} {state next : Simulation}
    (accounted : Accounted config state) (ledger : next.ledger = state.ledger)
    (rebalances : next.rebalances = state.rebalances)
    (snapshots : next.snapshotLedgers = state.snapshotLedgers) : Accounted config next := by
  have solvent : next.Solvent <-> state.Solvent := by
    unfold Simulation.Solvent
    rw [rebalances, snapshots]
  have covered : next.FeesCovered config <-> state.FeesCovered config := by
    unfold Simulation.FeesCovered
    rw [rebalances]
  exact
    { solvent_iff := solvent.trans (accounted.solvent_iff.trans covered.symm)
      current := fun holds => ledger ▸ accounted.current (solvent.mp holds) }

/-- A snapshot repeats the ledger the last rebalance left. -/
theorem Accounted.mark {config : BacktestConfig} {state next : Simulation}
    (accounted : Accounted config state) (ledger : next.ledger = state.ledger)
    (rebalances : next.rebalances = state.rebalances)
    (snapshots : next.snapshotLedgers = state.snapshotLedgers ++ [state.ledger]) :
    Accounted config next := by
  have solvent : next.Solvent <-> state.Solvent := by
    unfold Simulation.Solvent
    rw [rebalances, snapshots]
    constructor
    · rintro ⟨records, marked⟩
      exact ⟨records, fun ledger member => marked ledger (List.mem_append_left _ member)⟩
    · rintro ⟨records, marked⟩
      refine ⟨records, fun ledger member => ?_⟩
      rcases List.mem_append.mp member with earlier | latest
      · exact marked ledger earlier
      · rw [List.mem_singleton.mp latest]
        exact accounted.current ⟨records, marked⟩
  have covered : next.FeesCovered config <-> state.FeesCovered config := by
    unfold Simulation.FeesCovered
    rw [rebalances]
  exact
    { solvent_iff := solvent.trans (accounted.solvent_iff.trans covered.symm)
      current := fun holds => ledger ▸ accounted.current (solvent.mp holds) }

/-! ## One bar -/

section Bar

variable {config : BacktestConfig} {slice : Slice}

theorem runRebalance_accounted
    (positive : forall symbol, symbol ∈ config.symbols -> 0 < (slice.bars symbol).openPrice)
    (cause : Cause) (signalTime : Instant) (reasons : String -> Option String) :
    Loops.Preserves (Accounted config) (runRebalance config slice cause signalTime reasons) := by
  intro state accounted
  unfold runRebalance
  dsimp only
  cases done : rebalance config
      { index := slice.index, bars := slice.bars, targets := state.targets,
        signalTime := signalTime, reasons := reasons } state.ledger with
  | error failure => exact accounted
  | ok outcome =>
      have spec := fun before : state.ledger.Solvent => rebalance_spec before positive done
      constructor
      · constructor
        · rintro ⟨records, snapshots⟩ record member
          have before : state.Solvent :=
            ⟨fun earlier known => records earlier (List.mem_append_left _ known), snapshots⟩
          rcases List.mem_append.mp member with earlier | latest
          · exact accounted.solvent_iff.mp before record earlier
          · have after := (records record member).1
            rw [List.mem_singleton.mp latest] at after ⊢
            exact (spec (accounted.current before)).1.mp after.1
        · intro covered
          have before : state.Solvent := accounted.solvent_iff.mpr fun record known =>
            covered record (List.mem_append_left _ known)
          have latest := covered _ (List.mem_append_right _ (List.mem_singleton.mpr rfl))
          have kept := spec (accounted.current before)
          refine ⟨fun record member => ?_, before.2⟩
          rcases List.mem_append.mp member with earlier | last
          · exact before.1 record earlier
          · rw [List.mem_singleton.mp last]
            exact ⟨⟨kept.1.mpr latest, kept.2.1⟩, kept.2.2⟩
      · rintro ⟨records, _⟩
        exact (records _ (List.mem_append_right _ (List.mem_singleton.mpr rfl))).1

theorem riskRebalance_accounted
    (positive : forall symbol, symbol ∈ config.symbols -> 0 < (slice.bars symbol).openPrice)
    (due : List PendingTargets) :
    Loops.Preserves (Accounted config) (riskRebalance config slice due) := by
  intro state accounted
  unfold riskRebalance
  cases state.snapshots.getLast? with
  | none => exact accounted
  | some snapshot =>
      dsimp only
      split
      · exact runRebalance_accounted positive _ _ _ state accounted
      · exact accounted

theorem executePending_accounted
    (positive : forall symbol, symbol ∈ config.symbols -> 0 < (slice.bars symbol).openPrice)
    (item : PendingTargets) :
    Loops.Preserves (Accounted config) (executePending config slice item) := by
  intro state accounted
  exact runRebalance_accounted positive _ _ _ _ (accounted.congr rfl rfl rfl)

theorem takeSnapshot_accounted :
    Loops.Preserves (Accounted config) (takeSnapshot config slice) := by
  intro state accounted
  unfold takeSnapshot
  dsimp only
  split
  · exact accounted.congr rfl rfl rfl
  · exact accounted.mark rfl rfl rfl

theorem generateSignal_accounted (strategy : Strategy) (batch : SignalBatch) (symbol : String) :
    Loops.Preserves (Accounted config) (generateSignal strategy slice batch symbol) := by
  intro state accounted
  unfold generateSignal
  dsimp only
  split
  · exact accounted.congr rfl rfl rfl
  · split <;> exact accounted.congr rfl rfl rfl

theorem barBody_accounted (strategy : Strategy)
    (positive : forall symbol, symbol ∈ config.symbols -> 0 < (slice.bars symbol).openPrice)
    (due : List PendingTargets) :
    Loops.Preserves (Accounted config) (barBody config strategy slice due) := by
  exact barBody_preserves (riskRebalance_accounted positive due)
    (fun item _ => executePending_accounted positive item) takeSnapshot_accounted
    (fun batch symbol _ => generateSignal_accounted strategy batch symbol)

end Bar

/-! ## The whole run -/

/-- The simulation a run reaches, whether it completes or raises. -/
def reached (config : BacktestConfig) (strategy : Strategy)
    (barsBySymbol : String -> List HistoricalBar) (benchmarkBars : List HistoricalBar) :
    Simulation :=
  (Loops.finalState (run config strategy barsBySymbol benchmarkBars)).simulation

theorem reached_accounted (config : BacktestConfig) (strategy : Strategy)
    (barsBySymbol : String -> List HistoricalBar) (benchmarkBars : List HistoricalBar)
    (positive : forall symbol, symbol ∈ config.symbols ->
      forall bar, bar ∈ barsBySymbol symbol -> bar.Positive) :
    Accounted config (reached config strategy barsBySymbol benchmarkBars) := by
  refine run_preserves (motive := fun state => Accounted config state.simulation)
    (Accounted.initial config) fun entry member => processBar_preserves ?_
  apply barBody_accounted
  intro symbol known
  have time := List.mem_of_getElem? (mem_zipIdx_times member)
  exact (positive symbol known _ (align_bar time known).1).1

/-- A run over positive prices is solvent at every point it reaches exactly when
each of its rebalances is covered. -/
theorem solvent_iff_feesCovered (config : BacktestConfig) (strategy : Strategy)
    (barsBySymbol : String -> List HistoricalBar) (benchmarkBars : List HistoricalBar)
    (positive : forall symbol, symbol ∈ config.symbols ->
      forall bar, bar ∈ barsBySymbol symbol -> bar.Positive) :
    (reached config strategy barsBySymbol benchmarkBars).Solvent <->
      (reached config strategy barsBySymbol benchmarkBars).FeesCovered config :=
  (reached_accounted config strategy barsBySymbol benchmarkBars positive).solvent_iff

/-! ## A fee larger than the proceeds -/

/-- One bar a day, opening and closing at the same price, published at once. -/
def dailyBar (symbol : String) (day : Nat) (price : Rat) : HistoricalBar where
  id := day
  assetId := 0
  symbol := symbol
  eventTime := day
  publicationTime := day
  effectiveTime := day
  openPrice := price
  closePrice := price

/-- One symbol, and the largest commission the validator accepts. -/
def thinConfig : BacktestConfig where
  symbols := ["ATOM"]
  benchmarkSymbol := "SPY"
  initialCash := 2000
  commission := 1000
  spreadBps := 0
  slippageBps := 0
  executionDelay := 1
  maxPositionPct := 1
  maxTotalExposure := 1
  symbols_length := by decide
  symbols_nonblank := by decide
  symbols_nodup := by decide
  benchmark_nonblank := by decide
  initialCash_pos := by norm_num
  initialCash_digits := ⟨by norm_num, 200000, by norm_num⟩
  commission_range := by norm_num
  spreadBps_range := by norm_num
  slippageBps_range := by norm_num
  executionDelay_range := by decide
  maxPositionPct_range := by norm_num
  maxTotalExposure_range := by norm_num

/-- Buy on the first bar, leave on the second. -/
def roundTrip : Strategy := fun _ index =>
  .ok
    { targetWeight := match index with
        | 0 => some (.finite 1)
        | 1 => some (.finite 0)
        | _ => none
      direction := "hold", strength := .finite 0, explanation := "", factors := [] }

def halvingBars (symbol : String) : List HistoricalBar :=
  [dailyBar symbol 0 1, dailyBar symbol 1 1, dailyBar symbol 2 (1 / 2)]

theorem halvingBars_positive (symbol : String) :
    forall bar, bar ∈ halvingBars symbol -> bar.Positive := by
  intro bar member
  simp only [halvingBars, List.mem_cons, List.not_mem_nil, or_false] at member
  rcases member with rfl | rfl | rfl <;> exact ⟨by norm_num [dailyBar], by norm_num [dailyBar]⟩

/-- The sale of the third bar brings in 500 and costs 1000. -/
theorem roundTrip_cash :
    (reached thinConfig roundTrip halvingBars (halvingBars "SPY")).snapshotLedgers.map Ledger.cash =
      [2000, 0, -500] := by
  decide +kernel

theorem roundTrip_insolvent :
    (forall symbol, symbol ∈ thinConfig.symbols ->
      forall bar, bar ∈ halvingBars symbol -> bar.Positive) ∧
      ¬ (reached thinConfig roundTrip halvingBars (halvingBars "SPY")).Solvent := by
  refine ⟨fun symbol _ => halvingBars_positive symbol, fun solvent => ?_⟩
  have listed : (-500 : Rat) ∈
      (reached thinConfig roundTrip halvingBars (halvingBars "SPY")).snapshotLedgers.map
        Ledger.cash := by
    rw [roundTrip_cash]
    decide
  rcases List.mem_map.mp listed with ⟨ledger, member, cash⟩
  have nonneg := (solvent.2 ledger member).1
  rw [cash] at nonneg
  exact absurd nonneg (by norm_num)

theorem solvent_iff_feesCovered_roundTrip :
    (reached thinConfig roundTrip halvingBars (halvingBars "SPY")).Solvent <->
      (reached thinConfig roundTrip halvingBars (halvingBars "SPY")).FeesCovered thinConfig :=
  solvent_iff_feesCovered thinConfig roundTrip halvingBars (halvingBars "SPY")
    fun symbol _ => halvingBars_positive symbol

end Backtesting
end MarketIntelligence
