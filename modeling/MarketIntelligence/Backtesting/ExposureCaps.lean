import MarketIntelligence.Backtesting.Solvency
import Mathlib.Algebra.BigOperators.Ring.List

namespace MarketIntelligence
namespace Backtesting

open Foundations

/-!
# The caps of a rebalance

The desired quantities respect both caps: each weight is cut to the position cap, and all
of them are scaled down together to the exposure cap.  No order takes a position above its
desired quantity, so the caps hold for what is held afterwards, at the opens that the
equity was computed with.
-/

/-! ## The weights -/

theorem cappedWeight_le {limit : Rat} (nonneg : 0 ≤ limit) (weight : FloatValue) :
    cappedWeight limit weight ≤ limit := by
  cases weight with
  | finite value => exact min_le_right _ _
  | positiveInfinity => exact le_refl limit
  | negativeInfinity => exact min_le_right _ _
  | notANumber => exact nonneg

section Weights

variable (config : BacktestConfig) (targets : String -> FloatValue)

theorem cappedTotal_nonneg :
    0 ≤ (config.symbols.map fun symbol =>
      cappedWeight (config.maxPositionPct * riskTargetBuffer) (targets symbol)).sum := by
  refine List.sum_nonneg fun weight member => ?_
  rcases List.mem_map.mp member with ⟨symbol, _, equal⟩
  exact equal ▸ cappedWeight_nonneg (positionLimit_nonneg config) _

theorem scaledWeight_le (symbol : String) :
    scaledWeight config targets symbol ≤ config.maxPositionPct * riskTargetBuffer := by
  have limit := positionLimit_nonneg config
  have capped := cappedWeight_le limit (targets symbol)
  have nonneg := cappedWeight_nonneg limit (targets symbol)
  unfold scaledWeight
  dsimp only
  split
  · rename_i above
    have total := cappedTotal_nonneg config targets
    have scale : config.maxTotalExposure * riskTargetBuffer /
        (config.symbols.map fun symbol =>
          cappedWeight (config.maxPositionPct * riskTargetBuffer) (targets symbol)).sum ≤ 1 :=
      div_le_one_of_le₀ above.le total
    exact (mul_le_of_le_one_right nonneg scale).trans capped
  · exact capped

theorem sum_scaledWeight_le :
    (config.symbols.map (scaledWeight config targets)).sum ≤
      config.maxTotalExposure * riskTargetBuffer := by
  have limit := exposureLimit_nonneg config
  by_cases above : config.maxTotalExposure * riskTargetBuffer <
      (config.symbols.map fun symbol =>
        cappedWeight (config.maxPositionPct * riskTargetBuffer) (targets symbol)).sum
  · have scaled : config.symbols.map (scaledWeight config targets) =
        config.symbols.map fun symbol =>
          cappedWeight (config.maxPositionPct * riskTargetBuffer) (targets symbol) *
            (config.maxTotalExposure * riskTargetBuffer /
              (config.symbols.map fun symbol =>
                cappedWeight (config.maxPositionPct * riskTargetBuffer) (targets symbol)).sum) :=
      List.map_congr_left fun symbol _ => if_pos above
    have positive := limit.trans_lt above
    rw [scaled, List.sum_map_mul_right, mul_div_cancel₀ _ positive.ne']
  · have same : config.symbols.map (scaledWeight config targets) =
        config.symbols.map fun symbol =>
          cappedWeight (config.maxPositionPct * riskTargetBuffer) (targets symbol) :=
      List.map_congr_left fun symbol _ => if_neg above
    rw [same]
    exact not_lt.mp above

end Weights

/-! ## No position exceeds its desired quantity -/

section Orders

variable {config : BacktestConfig} {call : RebalanceCall} {ledger : Ledger}
  {outcome : Rebalancing}

/-- A purchase that the cash does not cover is cut down. -/
theorem affordableQuantity_le {price quantity cash bought : Rat} (priced : 0 ≤ price)
    (nonneg : 0 ≤ quantity) (done : affordableQuantity config price quantity cash = .ok bought) :
    bought ≤ quantity := by
  unfold affordableQuantity at done
  split at done
  · rename_i short
    split at done
    · cases done
    · rename_i notFree
      cases done
      have positive : 0 < price := lt_of_le_of_ne priced (Ne.symm notFree)
      have spare : 0 ≤ max (cash - config.commission) 0 / price :=
        div_nonneg (le_max_right _ _) positive.le
      refine (DecimalGrid.truncateTo_le shareUnit_pos spare).trans ?_
      refine (div_le_iff₀ positive).mpr (max_le ?_ (mul_nonneg nonneg positive.le))
      linarith
  · cases done
    exact le_refl quantity

theorem heldAfterSells_le
    (nonneg : forall symbol, symbol ∈ config.symbols ->
      0 ≤ desiredQuantity config call ledger symbol)
    {symbol : String} (known : symbol ∈ config.symbols) :
    heldAfterSells config call ledger symbol ≤ desiredQuantity config call ledger symbol := by
  unfold heldAfterSells
  dsimp only
  split
  · assumption
  · split
    · exact nonneg symbol known
    · exact le_refl _

/-- One visit of the buying pass adds no more than is missing. -/
theorem buyPass_within {desired : String -> Rat} {symbol : String} {state next : Rebalancing}
    (positive : 0 < (call.bars symbol).openPrice)
    (done : buyPass config call desired state symbol = .ok next) (other : String) :
    (next.ledger.positions other).quantity ≤
      max (state.ledger.positions other).quantity (desired other) := by
  unfold buyPass at done
  by_cases enough : desired symbol ≤ (state.ledger.positions symbol).quantity
  · rw [if_pos enough] at done
    cases done
    exact le_max_left _ _
  · rw [if_neg enough] at done
    rcases Loops.except_bind_ok done with ⟨quantity, sized, rest⟩
    have bought := affordableQuantity_le
      (executionPrice_nonneg positive.le .buy config) (sub_nonneg.mpr (not_le.mp enough).le) sized
    by_cases none : quantity ≤ 0
    · rw [if_pos none] at rest
      cases rest
      exact le_max_left _ _
    · rw [if_neg none] at rest
      rcases order_buy rest with ⟨position, trade, ledgerEq, quantityEq, _⟩
      rw [ledgerEq]
      by_cases same : other = symbol
      · subst same
        rw [post_same, quantityEq]
        exact le_max_of_le_right (le_sub_iff_add_le'.mp bought)
      · rw [post_other _ _ _ same]
        exact le_max_left _ _

/-- After the rebalance no position is above its desired quantity. -/
theorem rebalance_within (solvent : ledger.Solvent)
    (positive : forall symbol, symbol ∈ config.symbols -> 0 < (call.bars symbol).openPrice)
    (done : rebalance config call ledger = .ok outcome) :
    forall symbol, symbol ∈ config.symbols ->
      (outcome.ledger.positions symbol).quantity ≤ desiredQuantity config call ledger symbol := by
  have nonneg : forall symbol, symbol ∈ config.symbols ->
      0 ≤ desiredQuantity config call ledger symbol :=
    fun _ known => desiredQuantity_nonneg solvent positive known
  rcases rebalance_ok done with ⟨sold, sells, buys⟩
  have selling := Selling.run solvent nonneg sells
  have start : forall symbol, symbol ∈ config.symbols ->
      (sold.ledger.positions symbol).quantity ≤ desiredQuantity config call ledger symbol := by
    intro symbol known
    rw [selling.visited symbol known List.not_mem_nil]
    exact heldAfterSells_le nonneg known
  refine Loops.foldlM_invariant
    (motive := fun state : Rebalancing => forall symbol, symbol ∈ config.symbols ->
      (state.ledger.positions symbol).quantity ≤ desiredQuantity config call ledger symbol)
    ?_ start buys
  intro visited member state next within step symbol known
  have added := buyPass_within (positive visited (mem_sortedSymbols.mp member)) step symbol
  exact added.trans (max_le (within symbol known) (le_refl _))

/-- What the desired quantity is worth at the open. -/
theorem desiredQuantity_worth (funded : 0 ≤ equityAtOpen config call.bars ledger) {symbol : String}
    (positive : 0 < (call.bars symbol).openPrice) :
    desiredQuantity config call ledger symbol * (call.bars symbol).openPrice ≤
      scaledWeight config call.targets symbol * equityAtOpen config call.bars ledger := by
  have share : 0 ≤ equityAtOpen config call.bars ledger *
      scaledWeight config call.targets symbol / (call.bars symbol).openPrice :=
    div_nonneg (mul_nonneg funded (scaledWeight_nonneg config _ symbol)) positive.le
  have truncated := DecimalGrid.truncateTo_le shareUnit_pos share
  rw [mul_comm (scaledWeight config call.targets symbol)]
  exact (le_div_iff₀ positive).mp truncated

/-- After a rebalance no position is worth more than the position cap, and all of them
together no more than the exposure cap, at the opens and the equity of the call. -/
theorem rebalance_caps (config : BacktestConfig) (call : RebalanceCall) (ledger : Ledger)
    (outcome : Rebalancing) (solvent : ledger.Solvent)
    (positive : forall symbol, symbol ∈ config.symbols -> 0 < (call.bars symbol).openPrice)
    (done : rebalance config call ledger = .ok outcome) :
    (forall symbol, symbol ∈ config.symbols ->
      (outcome.ledger.positions symbol).quantity * (call.bars symbol).openPrice ≤
        99 / 100 * config.maxPositionPct * equityAtOpen config call.bars ledger) ∧
    (config.symbols.map fun symbol =>
      (outcome.ledger.positions symbol).quantity * (call.bars symbol).openPrice).sum ≤
        99 / 100 * config.maxTotalExposure * equityAtOpen config call.bars ledger := by
  have funded := equityAtOpen_nonneg solvent positive
  have within := rebalance_within solvent positive done
  have worth : forall symbol, symbol ∈ config.symbols ->
      (outcome.ledger.positions symbol).quantity * (call.bars symbol).openPrice ≤
        scaledWeight config call.targets symbol * equityAtOpen config call.bars ledger := by
    intro symbol known
    exact (mul_le_mul_of_nonneg_right (within symbol known) (positive symbol known).le).trans
      (desiredQuantity_worth funded (positive symbol known))
  refine ⟨?_, ?_⟩
  · intro symbol known
    calc
      (outcome.ledger.positions symbol).quantity * (call.bars symbol).openPrice ≤
          scaledWeight config call.targets symbol * equityAtOpen config call.bars ledger :=
        worth symbol known
      _ ≤ config.maxPositionPct * riskTargetBuffer * equityAtOpen config call.bars ledger :=
        mul_le_mul_of_nonneg_right (scaledWeight_le config call.targets symbol) funded
      _ = 99 / 100 * config.maxPositionPct * equityAtOpen config call.bars ledger := by
        unfold riskTargetBuffer
        ring
  · calc
      (config.symbols.map fun symbol =>
          (outcome.ledger.positions symbol).quantity * (call.bars symbol).openPrice).sum ≤
          (config.symbols.map fun symbol =>
            scaledWeight config call.targets symbol * equityAtOpen config call.bars ledger).sum :=
        List.sum_le_sum worth
      _ = (config.symbols.map (scaledWeight config call.targets)).sum *
            equityAtOpen config call.bars ledger :=
        List.sum_map_mul_right ..
      _ ≤ config.maxTotalExposure * riskTargetBuffer * equityAtOpen config call.bars ledger :=
        mul_le_mul_of_nonneg_right (sum_scaledWeight_le config call.targets) funded
      _ = 99 / 100 * config.maxTotalExposure * equityAtOpen config call.bars ledger := by
        unfold riskTargetBuffer
        ring

end Orders

/-! ## Two symbols from cash -/

/-- Half of the equity in each symbol at most, and four fifths in all. -/
def pairConfig : BacktestConfig where
  symbols := ["ATOM", "BOLT"]
  benchmarkSymbol := "SPY"
  initialCash := 2000
  commission := 1
  spreadBps := 2
  slippageBps := 1
  executionDelay := 1
  maxPositionPct := 1 / 2
  maxTotalExposure := 4 / 5
  symbols_length := by decide
  symbols_nonblank := by decide
  symbols_nodup := by decide
  benchmark_nonblank := thinConfig.benchmark_nonblank
  initialCash_pos := by decide +kernel
  initialCash_digits := thinConfig.initialCash_digits
  commission_range := by decide +kernel
  spreadBps_range := by decide +kernel
  slippageBps_range := by decide +kernel
  executionDelay_range := thinConfig.executionDelay_range
  maxPositionPct_range := by decide +kernel
  maxTotalExposure_range := by decide +kernel

/-- Both symbols are wanted for more than the caps allow, and one of them is held. -/
def pairCall : RebalanceCall where
  index := 0
  bars := fun symbol => dailyBar symbol 0 (if symbol = "ATOM" then 7 else 11)
  targets := fun symbol => .finite (if symbol = "ATOM" then 1 else 3 / 5)
  signalTime := 0
  reasons := fun _ => none

def pairLedger : Ledger where
  cash := 500
  positions := fun symbol => if symbol = "ATOM" then ⟨200, 6, 0⟩ else .empty

theorem pairLedger_solvent : pairLedger.Solvent := by
  refine ⟨by norm_num [pairLedger], fun symbol => ?_⟩
  unfold pairLedger
  dsimp only
  split
  · norm_num
  · exact le_refl 0

theorem pairCall_positive (symbol : String) : 0 < (pairCall.bars symbol).openPrice := by
  change (0 : Rat) < if symbol = "ATOM" then 7 else 11
  split <;> norm_num

theorem pairCall_caps :
    exists outcome, rebalance pairConfig pairCall pairLedger = .ok outcome ∧
      (forall symbol, symbol ∈ pairConfig.symbols ->
        (outcome.ledger.positions symbol).quantity * (pairCall.bars symbol).openPrice ≤
          99 / 100 * pairConfig.maxPositionPct *
            equityAtOpen pairConfig pairCall.bars pairLedger) ∧
      (pairConfig.symbols.map fun symbol =>
        (outcome.ledger.positions symbol).quantity * (pairCall.bars symbol).openPrice).sum ≤
          99 / 100 * pairConfig.maxTotalExposure *
            equityAtOpen pairConfig pairCall.bars pairLedger := by
  have completes : (rebalance pairConfig pairCall pairLedger).isOk = true := by decide +kernel
  cases done : rebalance pairConfig pairCall pairLedger with
  | error raised =>
      rw [done] at completes
      cases completes
  | ok outcome =>
      exact ⟨outcome, rfl, rebalance_caps pairConfig pairCall pairLedger outcome
        pairLedger_solvent (fun symbol _ => pairCall_positive symbol) done⟩

end Backtesting
end MarketIntelligence
