import MarketIntelligence.Backtesting.Engine
import MarketIntelligence.Foundations.Loops
import Mathlib.Algebra.Order.BigOperators.Group.List

namespace MarketIntelligence
namespace Backtesting

open Foundations

/-!
# What one rebalance does to the ledger

Every symbol is visited at most once in each of the two passes, so an order is
always sized against the position the pass started from.  The cash after the
sells is therefore a plain sum over the symbols that are cut, and the buys are a
recursion over the symbols in order, each paid out of the cash the previous one
left.
-/

/-! ## Prices and weights are never negative -/

theorem friction_nonneg (config : BacktestConfig) : 0 ≤ friction config := by
  have spread := config.spreadBps_range.1
  have slippage := config.slippageBps_range.1
  unfold friction
  positivity

theorem friction_le (config : BacktestConfig) : friction config ≤ 3 / 40 := by
  have spread := config.spreadBps_range.2
  have slippage := config.slippageBps_range.2
  unfold friction
  linarith

theorem executionPrice_nonneg {base : Rat} (nonneg : 0 ≤ base) (side : Side)
    (config : BacktestConfig) : 0 ≤ executionPrice base side config := by
  have lower := friction_nonneg config
  have upper := friction_le config
  apply DecimalGrid.roundTo_nonneg shareUnit_pos
  apply mul_nonneg nonneg
  cases side with
  | buy => exact add_nonneg zero_le_one lower
  | sell =>
      change 0 ≤ 1 - friction config
      linarith

theorem cappedWeight_nonneg {limit : Rat} (nonneg : 0 ≤ limit) (weight : FloatValue) :
    0 ≤ cappedWeight limit weight := by
  cases weight with
  | finite value => exact le_min (le_max_right value 0) nonneg
  | positiveInfinity => exact nonneg
  | negativeInfinity => exact le_min (le_refl 0) nonneg
  | notANumber => exact le_refl 0

theorem positionLimit_nonneg (config : BacktestConfig) :
    0 ≤ config.maxPositionPct * riskTargetBuffer := by
  have positive := config.maxPositionPct_range.1
  unfold riskTargetBuffer
  positivity

theorem exposureLimit_nonneg (config : BacktestConfig) :
    0 ≤ config.maxTotalExposure * riskTargetBuffer := by
  have positive := config.maxTotalExposure_range.1
  unfold riskTargetBuffer
  positivity

theorem scaledWeight_nonneg (config : BacktestConfig) (targets : String -> FloatValue)
    (symbol : String) : 0 ≤ scaledWeight config targets symbol := by
  have capped := cappedWeight_nonneg (positionLimit_nonneg config)
  have limit := exposureLimit_nonneg config
  unfold scaledWeight
  dsimp only
  split
  · apply mul_nonneg (capped _)
    apply div_nonneg limit
    apply List.sum_nonneg
    intro weight member
    rcases List.mem_map.mp member with ⟨other, _, equal⟩
    exact equal ▸ capped _
  · exact capped _

/-! ## Solvent ledgers -/

/-- Cash and every held quantity are nonnegative.  A purchase on credit would show in the first,
and a sale of what is not held in the second. -/
def Ledger.Solvent (ledger : Ledger) : Prop :=
  0 ≤ ledger.cash ∧ forall symbol, 0 ≤ (ledger.positions symbol).quantity

/-- A sale never exceeds what was held immediately before it. -/
def Fill.LongOnly (fill : Fill) : Prop :=
  fill.trade.side = .sell ->
    fill.trade.quantity ≤ (fill.before.positions fill.symbol).quantity

section Desired

variable {config : BacktestConfig} {call : RebalanceCall} {ledger : Ledger}

theorem equityAtOpen_nonneg (solvent : ledger.Solvent)
    (positive : forall symbol, symbol ∈ config.symbols -> 0 < (call.bars symbol).openPrice) :
    0 ≤ equityAtOpen config call.bars ledger := by
  apply add_nonneg solvent.1
  apply List.sum_nonneg
  intro value member
  rcases List.mem_map.mp member with ⟨symbol, known, equal⟩
  rw [← equal]
  exact mul_nonneg (solvent.2 symbol) (le_of_lt (positive symbol known))

theorem desiredQuantity_nonneg_of_funded (funded : 0 ≤ equityAtOpen config call.bars ledger)
    {symbol : String} (positive : 0 < (call.bars symbol).openPrice) :
    0 ≤ desiredQuantity config call ledger symbol := by
  apply DecimalGrid.truncateTo_nonneg shareUnit_pos
  apply div_nonneg
  · exact mul_nonneg funded (scaledWeight_nonneg config _ symbol)
  · exact le_of_lt positive

theorem desiredQuantity_nonneg (solvent : ledger.Solvent)
    (positive : forall symbol, symbol ∈ config.symbols -> 0 < (call.bars symbol).openPrice)
    {symbol : String} (known : symbol ∈ config.symbols) :
    0 ≤ desiredQuantity config call ledger symbol :=
  desiredQuantity_nonneg_of_funded (equityAtOpen_nonneg solvent positive) (positive symbol known)

end Desired

/-! ## One order -/

@[simp] theorem post_cash (ledger : Ledger) (symbol : String) (position : Position) (cash : Rat) :
    (ledger.post symbol position cash).cash = cash := rfl

theorem post_same (ledger : Ledger) (symbol : String) (position : Position) (cash : Rat) :
    (ledger.post symbol position cash).positions symbol = position := by
  simp only [Ledger.post, if_true]

theorem post_other (ledger : Ledger) {symbol other : String} (position : Position) (cash : Rat)
    (different : other ≠ symbol) :
    (ledger.post symbol position cash).positions other = ledger.positions other := by
  simp only [Ledger.post, if_neg different]

/-- The quantized value of an order. -/
def grossValue (config : BacktestConfig) (call : RebalanceCall) (symbol : String) (side : Side)
    (quantity : Rat) : Rat :=
  money (quantity * executionPrice (call.bars symbol).openPrice side config)

theorem grossValue_nonneg {config : BacktestConfig} {call : RebalanceCall} {symbol : String}
    {quantity : Rat} (side : Side) (nonneg : 0 ≤ quantity)
    (positive : 0 < (call.bars symbol).openPrice) :
    0 ≤ grossValue config call symbol side quantity :=
  money_nonneg (mul_nonneg nonneg (executionPrice_nonneg (le_of_lt positive) side config))

section Order

variable {config : BacktestConfig} {call : RebalanceCall} {symbol : String} {quantity : Rat}
  {state next : Rebalancing}

theorem order_sell (done : state.order config call symbol .sell quantity = .ok next) :
    exists position trade,
      next.ledger = state.ledger.post symbol position
        (state.ledger.cash + (grossValue config call symbol .sell quantity - config.commission)) ∧
      position.quantity =
        (if (state.ledger.positions symbol).quantity - quantity ≤ shareUnit then 0
          else (state.ledger.positions symbol).quantity - quantity) ∧
      next.fills = state.fills ++ [⟨symbol, state.ledger, trade⟩] ∧
      trade.side = .sell ∧ trade.quantity = quantity ∧
      trade.executionTime = (call.bars symbol).eventTime := by
  unfold Rebalancing.order execute at done
  cases done
  refine ⟨_, _, rfl, ?_, rfl, rfl, rfl, rfl⟩
  dsimp only
  split <;> rfl

theorem order_buy (done : state.order config call symbol .buy quantity = .ok next) :
    exists position trade,
      next.ledger = state.ledger.post symbol position
        (state.ledger.cash - (grossValue config call symbol .buy quantity + config.commission)) ∧
      position.quantity = (state.ledger.positions symbol).quantity + quantity ∧
      next.fills = state.fills ++ [⟨symbol, state.ledger, trade⟩] ∧
      trade.side = .buy ∧ trade.quantity = quantity ∧
      trade.executionTime = (call.bars symbol).eventTime := by
  unfold Rebalancing.order execute at done
  dsimp only at done
  by_cases closed : (state.ledger.positions symbol).quantity + quantity = 0
  · rw [if_pos closed] at done
    cases done
  · rw [if_neg closed] at done
    cases done
    exact ⟨_, _, rfl, rfl, rfl, rfl, rfl, rfl⟩

end Order

/-! ## The selling pass -/

/-- What selling one symbol down to its desired quantity adds to the cash. -/
def sellGain (config : BacktestConfig) (call : RebalanceCall) (ledger : Ledger)
    (symbol : String) : Rat :=
  let held := (ledger.positions symbol).quantity
  let desired := desiredQuantity config call ledger symbol
  if held ≤ desired then 0
  else grossValue config call symbol .sell (held - desired) - config.commission

def cashAfterSells (config : BacktestConfig) (call : RebalanceCall) (ledger : Ledger) : Rat :=
  ledger.cash + (config.symbols.map (sellGain config call ledger)).sum

/-- The quantity left after the selling pass, with small residuals written off. -/
def heldAfterSells (config : BacktestConfig) (call : RebalanceCall) (ledger : Ledger)
    (symbol : String) : Rat :=
  let held := (ledger.positions symbol).quantity
  let desired := desiredQuantity config call ledger symbol
  if held ≤ desired then held
  else if desired ≤ shareUnit then 0
  else desired

theorem sortedSymbols_perm (config : BacktestConfig) :
    (sortedSymbols config).Perm config.symbols :=
  List.perm_insertionSort _ _

theorem sortedSymbols_nodup (config : BacktestConfig) : (sortedSymbols config).Nodup :=
  (sortedSymbols_perm config).nodup_iff.mpr config.symbols_nodup

theorem mem_sortedSymbols {config : BacktestConfig} {symbol : String} :
    symbol ∈ sortedSymbols config <-> symbol ∈ config.symbols :=
  (sortedSymbols_perm config).mem_iff

/-- The state of the selling pass with the symbols that are still to come. -/
structure Selling (config : BacktestConfig) (call : RebalanceCall) (ledger : Ledger)
    (remaining : List String) (state : Rebalancing) : Prop where
  nodup : remaining.Nodup
  known : forall symbol, symbol ∈ remaining -> symbol ∈ config.symbols
  untouched : forall symbol, symbol ∈ remaining ->
    state.ledger.positions symbol = ledger.positions symbol
  visited : forall symbol, symbol ∈ config.symbols -> symbol ∉ remaining ->
    (state.ledger.positions symbol).quantity = heldAfterSells config call ledger symbol
  cash : state.ledger.cash + (remaining.map (sellGain config call ledger)).sum =
    cashAfterSells config call ledger
  nonneg : forall symbol, 0 ≤ (state.ledger.positions symbol).quantity
  longOnly : forall fill, fill ∈ state.fills -> fill.LongOnly

section SellingPass

variable {config : BacktestConfig} {call : RebalanceCall} {ledger : Ledger}

theorem Selling.initial (solvent : ledger.Solvent) :
    Selling config call ledger (sortedSymbols config) (.start ledger) where
  nodup := sortedSymbols_nodup config
  known := fun _ member => mem_sortedSymbols.mp member
  untouched := fun _ _ => rfl
  visited := fun _ member absent => absurd (mem_sortedSymbols.mpr member) absent
  cash := by
    rw [((sortedSymbols_perm config).map _).sum_eq]
    rfl
  nonneg := solvent.2
  longOnly := fun _ member => absurd member List.not_mem_nil

theorem Selling.pass
    (desiredNonneg : forall symbol, symbol ∈ config.symbols ->
      0 ≤ desiredQuantity config call ledger symbol)
    {symbol : String} {rest : List String} {state next : Rebalancing}
    (selling : Selling config call ledger (symbol :: rest) state)
    (done : sellPass config call (desiredQuantity config call ledger) state symbol = .ok next) :
    Selling config call ledger rest next := by
  have fresh : symbol ∉ rest := (List.nodup_cons.mp selling.nodup).1
  have known := selling.known symbol List.mem_cons_self
  have same := selling.untouched symbol List.mem_cons_self
  have cash := selling.cash
  rw [List.map_cons, List.sum_cons] at cash
  unfold sellPass at done
  simp only [same] at done
  by_cases keep : (ledger.positions symbol).quantity ≤ desiredQuantity config call ledger symbol
  · rw [if_pos keep] at done
    cases done
    refine
      { nodup := (List.nodup_cons.mp selling.nodup).2
        known := fun other member => selling.known other (List.mem_cons_of_mem _ member)
        untouched := fun other member => selling.untouched other (List.mem_cons_of_mem _ member)
        visited := ?_, cash := ?_, nonneg := selling.nonneg, longOnly := selling.longOnly }
    · intro other member absent
      by_cases equal : other = symbol
      · subst equal
        rw [same]
        simp only [heldAfterSells, if_pos keep]
      · exact selling.visited other member (by simp [equal, absent])
    · simp only [sellGain, if_pos keep, zero_add] at cash
      exact cash
  · rw [if_neg keep] at done
    rcases order_sell done with ⟨position, trade, ledgerEq, quantityEq, fillsEq, sideEq, soldEq, _⟩
    have left : position.quantity = heldAfterSells config call ledger symbol := by
      rw [quantityEq, same, sub_sub_cancel]
      simp only [heldAfterSells, if_neg keep]
    refine
      { nodup := (List.nodup_cons.mp selling.nodup).2
        known := fun other member => selling.known other (List.mem_cons_of_mem _ member)
        untouched := ?_, visited := ?_, cash := ?_, nonneg := ?_, longOnly := ?_ }
    · intro other member
      rw [ledgerEq, post_other _ _ _ (ne_of_mem_of_not_mem member fresh)]
      exact selling.untouched other (List.mem_cons_of_mem _ member)
    · intro other member absent
      rw [ledgerEq]
      by_cases equal : other = symbol
      · subst equal
        rw [post_same, left]
      · rw [post_other _ _ _ equal]
        exact selling.visited other member (by simp [equal, absent])
    · rw [ledgerEq, post_cash]
      simp only [sellGain, if_neg keep] at cash
      linarith
    · intro other
      rw [ledgerEq]
      by_cases equal : other = symbol
      · subst equal
        rw [post_same, left]
        simp only [heldAfterSells, if_neg keep]
        split
        · exact le_refl 0
        · exact desiredNonneg other known
      · rw [post_other _ _ _ equal]
        exact selling.nonneg other
    · intro fill member
      rw [fillsEq] at member
      rcases List.mem_append.mp member with earlier | latest
      · exact selling.longOnly fill earlier
      · rw [List.mem_singleton.mp latest]
        intro _
        change trade.quantity ≤ (state.ledger.positions symbol).quantity
        rw [soldEq, same]
        have desired := desiredNonneg symbol known
        linarith

theorem Selling.run (solvent : ledger.Solvent)
    (desiredNonneg : forall symbol, symbol ∈ config.symbols ->
      0 ≤ desiredQuantity config call ledger symbol)
    {sold : Rebalancing}
    (done : (sortedSymbols config).foldlM
      (sellPass config call (desiredQuantity config call ledger)) (.start ledger) = .ok sold) :
    Selling config call ledger [] sold :=
  Loops.foldlM_induction (motive := Selling config call ledger)
    (fun _ _ _ _ selling step => selling.pass desiredNonneg step)
    (sortedSymbols config) (.start ledger) sold (Selling.initial solvent) done

end SellingPass

/-! ## The buying pass -/

/-- The quantity a purchase is cut down to when the cash does not cover it. -/
def buyQuantity (config : BacktestConfig) (price quantity cash : Rat) : Rat :=
  if cash < quantity * price + config.commission then
    DecimalGrid.truncateTo shareUnit (max (cash - config.commission) 0 / price)
  else quantity

theorem affordableQuantity_ok {config : BacktestConfig} {price quantity cash bought : Rat}
    (done : affordableQuantity config price quantity cash = .ok bought) :
    bought = buyQuantity config price quantity cash := by
  unfold affordableQuantity at done
  unfold buyQuantity
  by_cases short : cash < quantity * price + config.commission
  · rw [if_pos short] at done ⊢
    by_cases free : price = 0
    · rw [if_pos free] at done
      cases done
    · rw [if_neg free] at done
      exact (Except.ok.inj done).symm
  · rw [if_neg short] at done ⊢
    exact (Except.ok.inj done).symm

/-- The purchases of a rebalance, taken in order from the given cash, each cost
at most what is left once their cost has been quantized. -/
def BuysFit (config : BacktestConfig) (call : RebalanceCall) (ledger : Ledger) :
    List String -> Rat -> Prop
  | [], _ => True
  | symbol :: rest, cash =>
      let held := heldAfterSells config call ledger symbol
      let desired := desiredQuantity config call ledger symbol
      let price := executionPrice (call.bars symbol).openPrice .buy config
      let bought := buyQuantity config price (desired - held) cash
      if desired ≤ held ∨ bought ≤ 0 then BuysFit config call ledger rest cash
      else
        let paid := grossValue config call symbol .buy bought + config.commission
        paid ≤ cash ∧ BuysFit config call ledger rest (cash - paid)

/-- What the purchase of a symbol comes to, out of the given cash. -/
def boughtQuantity (config : BacktestConfig) (call : RebalanceCall) (ledger : Ledger)
    (symbol : String) (cash : Rat) : Rat :=
  buyQuantity config (executionPrice (call.bars symbol).openPrice .buy config)
    (desiredQuantity config call ledger symbol - heldAfterSells config call ledger symbol) cash

def paidFor (config : BacktestConfig) (call : RebalanceCall) (ledger : Ledger) (symbol : String)
    (cash : Rat) : Rat :=
  grossValue config call symbol .buy (boughtQuantity config call ledger symbol cash) +
    config.commission

instance decidableBuysFit (config : BacktestConfig) (call : RebalanceCall) (ledger : Ledger) :
    forall symbols cash, Decidable (BuysFit config call ledger symbols cash)
  | [], _ => isTrue trivial
  | symbol :: rest, cash =>
      have := decidableBuysFit config call ledger rest
      decidable_of_iff
        (if desiredQuantity config call ledger symbol ≤ heldAfterSells config call ledger symbol ∨
            boughtQuantity config call ledger symbol cash ≤ 0 then
          BuysFit config call ledger rest cash
        else paidFor config call ledger symbol cash ≤ cash ∧
          BuysFit config call ledger rest (cash - paidFor config call ledger symbol cash)) Iff.rfl

/-- The state of the buying pass with the symbols that are still to come. -/
structure Buying (config : BacktestConfig) (call : RebalanceCall) (ledger : Ledger)
    (remaining : List String) (state : Rebalancing) : Prop where
  nodup : remaining.Nodup
  known : forall symbol, symbol ∈ remaining -> symbol ∈ config.symbols
  untouched : forall symbol, symbol ∈ remaining ->
    (state.ledger.positions symbol).quantity = heldAfterSells config call ledger symbol
  cash : (0 ≤ state.ledger.cash ∧ BuysFit config call ledger remaining state.ledger.cash) <->
    (0 ≤ cashAfterSells config call ledger ∧
      BuysFit config call ledger (sortedSymbols config) (cashAfterSells config call ledger))
  nonneg : forall symbol, 0 ≤ (state.ledger.positions symbol).quantity
  longOnly : forall fill, fill ∈ state.fills -> fill.LongOnly

section BuyingPass

variable {config : BacktestConfig} {call : RebalanceCall} {ledger : Ledger}

theorem Selling.startBuying {sold : Rebalancing} (selling : Selling config call ledger [] sold) :
    Buying config call ledger (sortedSymbols config) sold where
  nodup := sortedSymbols_nodup config
  known := fun _ member => mem_sortedSymbols.mp member
  untouched := fun symbol member =>
    selling.visited symbol (mem_sortedSymbols.mp member) List.not_mem_nil
  cash := by
    have cash := selling.cash
    rw [List.map_nil, List.sum_nil, add_zero] at cash
    rw [cash]
  nonneg := selling.nonneg
  longOnly := selling.longOnly

theorem Buying.pass
    (positive : forall symbol, symbol ∈ config.symbols -> 0 < (call.bars symbol).openPrice)
    {symbol : String} {rest : List String} {state next : Rebalancing}
    (buying : Buying config call ledger (symbol :: rest) state)
    (done : buyPass config call (desiredQuantity config call ledger) state symbol = .ok next) :
    Buying config call ledger rest next := by
  have fresh : symbol ∉ rest := (List.nodup_cons.mp buying.nodup).1
  have known := buying.known symbol List.mem_cons_self
  have same := buying.untouched symbol List.mem_cons_self
  have cash := buying.cash
  have skip (unchanged : next.ledger = state.ledger ∧ next.fills = state.fills)
      (fits : BuysFit config call ledger (symbol :: rest) state.ledger.cash <->
        BuysFit config call ledger rest state.ledger.cash) :
      Buying config call ledger rest next := by
    rw [fits] at cash
    refine
      { nodup := (List.nodup_cons.mp buying.nodup).2
        known := fun other member => buying.known other (List.mem_cons_of_mem _ member)
        untouched := ?_, cash := ?_, nonneg := ?_, longOnly := ?_ }
    · intro other member
      rw [unchanged.1]
      exact buying.untouched other (List.mem_cons_of_mem _ member)
    · rw [unchanged.1]
      exact cash
    · rw [unchanged.1]
      exact buying.nonneg
    · rw [unchanged.2]
      exact buying.longOnly
  unfold buyPass at done
  simp only [same] at done
  by_cases enough : desiredQuantity config call ledger symbol ≤ heldAfterSells config call ledger symbol
  · rw [if_pos enough] at done
    cases done
    exact skip ⟨rfl, rfl⟩ (by simp only [BuysFit, enough, true_or, if_true])
  · rw [if_neg enough] at done
    generalize priceEq : executionPrice (call.bars symbol).openPrice .buy config = price at done
    cases sized : affordableQuantity config price
        (desiredQuantity config call ledger symbol - heldAfterSells config call ledger symbol)
        state.ledger.cash with
    | error failure =>
        rw [sized] at done
        cases done
    | ok bought =>
        rw [sized] at done
        have boughtEq := affordableQuantity_ok sized
        change (if bought ≤ 0 then _ else _) = Except.ok next at done
        by_cases none : bought ≤ 0
        · rw [if_pos none] at done
          cases done
          exact skip ⟨rfl, rfl⟩
            (by simp only [BuysFit, priceEq, ← boughtEq, none, or_true, if_true])
        · rw [if_neg none] at done
          rcases order_buy done with ⟨position, trade, ledgerEq, quantityEq, fillsEq, sideEq, _, _⟩
          have boughtPos : 0 < bought := not_le.mp none
          have grossNonneg : 0 ≤ grossValue config call symbol .buy bought :=
            grossValue_nonneg .buy (le_of_lt boughtPos) (positive symbol known)
          have feeNonneg := config.commission_range.1
          refine
            { nodup := (List.nodup_cons.mp buying.nodup).2
              known := fun other member => buying.known other (List.mem_cons_of_mem _ member)
              untouched := ?_, cash := ?_, nonneg := ?_, longOnly := ?_ }
          · intro other member
            rw [ledgerEq, post_other _ _ _ (ne_of_mem_of_not_mem member fresh)]
            exact buying.untouched other (List.mem_cons_of_mem _ member)
          · rw [← cash, ledgerEq, post_cash]
            simp only [BuysFit, priceEq, ← boughtEq, enough, none, or_self, if_false]
            constructor
            · rintro ⟨left, fits⟩
              exact ⟨by linarith, by linarith, fits⟩
            · rintro ⟨_, paid, fits⟩
              exact ⟨by linarith, fits⟩
          · intro other
            rw [ledgerEq]
            by_cases equal : other = symbol
            · subst equal
              rw [post_same, quantityEq]
              exact add_nonneg (buying.nonneg other) (le_of_lt boughtPos)
            · rw [post_other _ _ _ equal]
              exact buying.nonneg other
          · intro fill member
            rw [fillsEq] at member
            rcases List.mem_append.mp member with earlier | latest
            · exact buying.longOnly fill earlier
            · rw [List.mem_singleton.mp latest]
              intro sells
              change trade.side = .sell at sells
              rw [sideEq] at sells
              cases sells

end BuyingPass

/-! ## The rebalance as a whole -/

section Rebalance

variable {config : BacktestConfig} {call : RebalanceCall} {ledger : Ledger} {outcome : Rebalancing}

theorem rebalance_ok (done : rebalance config call ledger = .ok outcome) :
    exists sold,
      (sortedSymbols config).foldlM (sellPass config call (desiredQuantity config call ledger))
        (.start ledger) = .ok sold ∧
      (sortedSymbols config).foldlM (buyPass config call (desiredQuantity config call ledger))
        sold = .ok outcome := by
  unfold rebalance at done
  split at done
  · cases done
  · split at done
    · cases done
    · cases selling : (sortedSymbols config).foldlM
          (sellPass config call (desiredQuantity config call ledger)) (.start ledger) with
      | error failure =>
          simp only [selling] at done
          cases done
      | ok sold =>
          simp only [selling] at done
          exact ⟨sold, rfl, done⟩

/-- One visit of the selling pass: the position is kept, or cut down to its
desired quantity. -/
theorem sellPass_ok {desired : String -> Rat} {symbol : String} {state next : Rebalancing}
    (done : sellPass config call desired state symbol = .ok next) :
    next = state ∨ (desired symbol < (state.ledger.positions symbol).quantity ∧
      state.order config call symbol .sell
        ((state.ledger.positions symbol).quantity - desired symbol) = .ok next) := by
  unfold sellPass at done
  by_cases keep : (state.ledger.positions symbol).quantity ≤ desired symbol
  · rw [if_pos keep] at done
    exact Or.inl (Except.ok.inj done).symm
  · rw [if_neg keep] at done
    exact Or.inr ⟨not_le.mp keep, done⟩

/-- One visit of the buying pass: at most a rejection, or a purchase of a positive
quantity. -/
theorem buyPass_ok {desired : String -> Rat} {symbol : String} {state next : Rebalancing}
    (done : buyPass config call desired state symbol = .ok next) :
    (next.ledger = state.ledger ∧ next.fills = state.fills) ∨
      exists quantity, 0 < quantity ∧
        state.order config call symbol .buy quantity = .ok next := by
  unfold buyPass at done
  by_cases enough : desired symbol ≤ (state.ledger.positions symbol).quantity
  · rw [if_pos enough] at done
    cases done
    exact Or.inl ⟨rfl, rfl⟩
  · rw [if_neg enough] at done
    rcases Loops.except_bind_ok done with ⟨quantity, _, rest⟩
    by_cases none : quantity ≤ 0
    · rw [if_pos none] at rest
      cases rest
      exact Or.inl ⟨rfl, rfl⟩
    · rw [if_neg none] at rest
      exact Or.inr ⟨quantity, not_le.mp none, rest⟩

/-- The rule of the rebalance: what its orders keep, it keeps. -/
theorem rebalance_rule {motive : Rebalancing -> Prop} (initial : motive (.start ledger))
    (rejects : forall state next : Rebalancing, next.ledger = state.ledger ->
      next.fills = state.fills -> motive state -> motive next)
    (sells : forall state next symbol, symbol ∈ config.symbols -> motive state ->
      desiredQuantity config call ledger symbol < (state.ledger.positions symbol).quantity ->
      state.order config call symbol .sell ((state.ledger.positions symbol).quantity -
        desiredQuantity config call ledger symbol) = .ok next -> motive next)
    (buys : forall state next symbol quantity, symbol ∈ config.symbols -> motive state ->
      0 < quantity -> state.order config call symbol .buy quantity = .ok next -> motive next)
    (done : rebalance config call ledger = .ok outcome) : motive outcome := by
  rcases rebalance_ok done with ⟨sold, selling, buying⟩
  have known : forall symbol, symbol ∈ sortedSymbols config -> symbol ∈ config.symbols :=
    fun _ member => mem_sortedSymbols.mp member
  have afterSells := Loops.foldlM_induction
    (motive := fun remaining (state : Rebalancing) =>
      (forall symbol, symbol ∈ remaining -> symbol ∈ config.symbols) ∧ motive state)
    (fun head tail state next holds step => by
      refine ⟨fun symbol member => holds.1 symbol (List.mem_cons_of_mem _ member), ?_⟩
      rcases sellPass_ok step with same | ⟨above, ordered⟩
      · rw [same]
        exact holds.2
      · exact sells state next head (holds.1 head List.mem_cons_self) holds.2 above ordered)
    (sortedSymbols config) (.start ledger) sold ⟨known, initial⟩ selling
  have afterBuys := Loops.foldlM_induction
    (motive := fun remaining (state : Rebalancing) =>
      (forall symbol, symbol ∈ remaining -> symbol ∈ config.symbols) ∧ motive state)
    (fun head tail state next holds step => by
      refine ⟨fun symbol member => holds.1 symbol (List.mem_cons_of_mem _ member), ?_⟩
      rcases buyPass_ok step with ⟨sameLedger, sameFills⟩ | ⟨quantity, positive, ordered⟩
      · exact rejects state next sameLedger sameFills holds.2
      · exact buys state next head quantity (holds.1 head List.mem_cons_self) holds.2 positive
          ordered)
    (sortedSymbols config) sold outcome ⟨known, afterSells.2⟩ buying
  exact afterBuys.2

/-- The positions above their desired quantity, which the selling pass works off before anything
is bought. -/
def cutSymbols (config : BacktestConfig) (call : RebalanceCall) (ledger : Ledger) : List String :=
  config.symbols.filter fun symbol =>
    desiredQuantity config call ledger symbol < (ledger.positions symbol).quantity

/-- What cutting them brings in before fees. -/
def saleProceeds (config : BacktestConfig) (call : RebalanceCall) (ledger : Ledger) : Rat :=
  ((cutSymbols config call ledger).map fun symbol =>
    grossValue config call symbol .sell
      ((ledger.positions symbol).quantity - desiredQuantity config call ledger symbol)).sum

/-- The cash and the proceeds of the cuts pay one commission for each cut, and
every purchase fits the cash it finds. -/
def FeesCovered (config : BacktestConfig) (call : RebalanceCall) (ledger : Ledger) : Prop :=
  (cutSymbols config call ledger).length * config.commission ≤
      ledger.cash + saleProceeds config call ledger ∧
    BuysFit config call ledger (sortedSymbols config) (cashAfterSells config call ledger)

instance (config : BacktestConfig) (call : RebalanceCall) (ledger : Ledger) :
    Decidable (FeesCovered config call ledger) :=
  inferInstanceAs (Decidable (_ ∧ _))

theorem cashAfterSells_eq :
    cashAfterSells config call ledger =
      ledger.cash + saleProceeds config call ledger -
        (cutSymbols config call ledger).length * config.commission := by
  unfold cashAfterSells saleProceeds cutSymbols
  generalize config.symbols = symbols
  induction symbols with
  | nil => simp
  | cons symbol rest ih =>
      rw [List.map_cons, List.sum_cons]
      by_cases keep : (ledger.positions symbol).quantity ≤ desiredQuantity config call ledger symbol
      · rw [List.filter_cons_of_neg (by simpa using keep)]
        simp only [sellGain, if_pos keep, zero_add]
        exact ih
      · rw [List.filter_cons_of_pos (by simpa using keep)]
        simp only [sellGain, if_neg keep, List.map_cons, List.sum_cons, List.length_cons,
          Nat.cast_add, Nat.cast_one]
        linarith

/-- From a solvent ledger, holdings stay nonnegative and no sale exceeds them in
any case.  Cash stays nonnegative exactly when the fees are covered. -/
theorem rebalance_spec (solvent : ledger.Solvent)
    (positive : forall symbol, symbol ∈ config.symbols -> 0 < (call.bars symbol).openPrice)
    (done : rebalance config call ledger = .ok outcome) :
    (0 ≤ outcome.ledger.cash <-> FeesCovered config call ledger) ∧
      (forall symbol, 0 ≤ (outcome.ledger.positions symbol).quantity) ∧
      (forall fill, fill ∈ outcome.fills -> fill.LongOnly) := by
  rcases rebalance_ok done with ⟨sold, sells, buys⟩
  have selling := Selling.run solvent
    (fun _ known => desiredQuantity_nonneg solvent positive known) sells
  have buying := Loops.foldlM_induction (motive := Buying config call ledger)
    (fun _ _ _ _ buying step => buying.pass positive step)
    (sortedSymbols config) sold outcome selling.startBuying buys
  refine ⟨?_, buying.nonneg, buying.longOnly⟩
  have cash := buying.cash
  simp only [BuysFit, and_true] at cash
  rw [cash, FeesCovered, cashAfterSells_eq, sub_nonneg]

/-! ## The fills of a rebalance -/

/-- The fill is of a configured symbol and executes at the time of that symbol's bar. -/
def Fill.AtBar (config : BacktestConfig) (call : RebalanceCall) (fill : Fill) : Prop :=
  fill.symbol ∈ config.symbols ∧
    fill.trade.executionTime = (call.bars fill.symbol).eventTime

theorem order_atBar {symbol : String} {side : Side} {quantity : Rat} {state next : Rebalancing}
    (known : symbol ∈ config.symbols)
    (fills : forall fill, fill ∈ state.fills -> fill.AtBar config call)
    (done : state.order config call symbol side quantity = .ok next) :
    forall fill, fill ∈ next.fills -> fill.AtBar config call := by
  have added : exists trade : SimulatedTrade,
      next.fills = state.fills ++ [⟨symbol, state.ledger, trade⟩] ∧
        trade.executionTime = (call.bars symbol).eventTime := by
    cases side with
    | buy =>
        rcases order_buy done with ⟨_, trade, _, _, fillsEq, _, _, timeEq⟩
        exact ⟨trade, fillsEq, timeEq⟩
    | sell =>
        rcases order_sell done with ⟨_, trade, _, _, fillsEq, _, _, timeEq⟩
        exact ⟨trade, fillsEq, timeEq⟩
  rcases added with ⟨trade, fillsEq, timeEq⟩
  intro fill member
  rw [fillsEq] at member
  rcases List.mem_append.mp member with earlier | latest
  · exact fills fill earlier
  · rw [List.mem_singleton.mp latest]
    exact ⟨known, timeEq⟩

theorem rebalance_atBar (done : rebalance config call ledger = .ok outcome) :
    forall fill, fill ∈ outcome.fills -> fill.AtBar config call := by
  refine rebalance_rule
    (motive := fun state => forall fill, fill ∈ state.fills -> fill.AtBar config call)
    (fun _ member => absurd member List.not_mem_nil) ?_ ?_ ?_ done
  · intro state next _ fills holds
    rw [fills]
    exact holds
  · intro state next symbol known holds _ sold
    exact order_atBar known holds sold
  · intro state next symbol quantity known holds _ bought
    exact order_atBar known holds bought

end Rebalance

end Backtesting
end MarketIntelligence
