import MarketIntelligence.PaperTrading.Solvency
import Mathlib.Tactic.FieldSimp

namespace MarketIntelligence
namespace PaperTrading

open Foundations
open DecimalGrid

/-!
# How far the book value drifts

The cash and the positions at average cost differ from the starting cash by the realized
profit, but for what the rounding of a fill leaves behind.  A purchase rounds the average
cost of all that is then held, and a sale rounds what it brings in, while its profit is not
rounded.  Nothing that a fill leaves behind is multiplied by a later one.
-/

/-- Cash and the positions at their average cost. -/
def bookValue (portfolio : PaperPortfolio) : Rat :=
  portfolio.cashBalance +
    (portfolio.positions.map fun position => position.quantity * position.averageCost).sum

/-- What the book value has over the starting cash and the realized profit. -/
def drift (portfolio : PaperPortfolio) : Rat :=
  bookValue portfolio - portfolio.startingCash - portfolio.realizedPnl

/-- One call of `_fill`. -/
structure FillCall where
  market : Market
  orderId : Nat
  order : PaperOrder
  bar : PriceBar
  price : Rat

def FillCall.run (assumptions : ExecutionAssumptions) (portfolio : PaperPortfolio)
    (call : FillCall) : Except TradingError PaperPortfolio :=
  fill assumptions call.market portfolio call.orderId call.order call.bar call.price

/-- Half a unit of the average cost for each share held after a purchase, or half a unit of
money. -/
def roundingAllowance (portfolio : PaperPortfolio) (call : FillCall) : Rat :=
  match call.order.side with
  | .buy => 5 / 10 ^ 9 * (ownedQuantity portfolio call.order.assetId + call.order.quantity)
  | .sell => 5 / 10 ^ 7

/-- The allowances of the fills of a sequence. -/
def driftAllowance (assumptions : ExecutionAssumptions) :
    PaperPortfolio -> List FillCall -> Rat
  | _, [] => 0
  | portfolio, call :: rest =>
      roundingAllowance portfolio call +
        match call.run assumptions portfolio with
        | .ok next => driftAllowance assumptions next rest
        | .error _ => 0

/-- No sale of the sequence exceeds what is held when it is made. -/
def SalesHeld (assumptions : ExecutionAssumptions) : PaperPortfolio -> List FillCall -> Prop
  | _, [] => True
  | portfolio, call :: rest =>
      (call.order.side = .sell ->
        call.order.quantity ≤ ownedQuantity portfolio call.order.assetId) ∧
      forall next, call.run assumptions portfolio = .ok next -> SalesHeld assumptions next rest

section Rounding

variable {assumptions : ExecutionAssumptions} {portfolio next : PaperPortfolio}
  {position updated : PaperPosition} {quantity price : Rat}

theorem abs_money_sub_le (value : Rat) : |money value - value| ≤ 5 / 10 ^ 7 := by
  have half := abs_roundTo_sub_le moneyUnit_pos value
  unfold money
  refine half.trans (le_of_eq ?_)
  norm_num [moneyUnit]

/-- What a fill adds to the cash and the position at average cost, but for its profit. -/
def residue (assumptions : ExecutionAssumptions) (position updated : PaperPosition) (side : Side)
    (quantity price : Rat) : Rat :=
  paidBy assumptions side quantity price + updated.quantity * updated.averageCost -
    position.quantity * position.averageCost -
      realizedBy assumptions position side quantity price

/-- A purchase leaves what the rounding of the average cost does to the shares held. -/
theorem residue_buy (held : 0 ≤ position.quantity) (positive : 0 < quantity)
    (done : updatePosition assumptions position .buy quantity price = .ok updated) :
    |residue assumptions position updated .buy quantity price| ≤
      5 / 10 ^ 9 * (position.quantity + quantity) := by
  have after : 0 < position.quantity + quantity := by linarith
  unfold updatePosition at done
  dsimp only at done
  rw [if_neg after.ne'] at done
  cases done
  generalize total : position.quantity * position.averageCost + money (price * quantity) +
    assumptions.commission = totalCost
  have half := abs_roundTo_sub_le shareUnit_pos (totalCost / (position.quantity + quantity))
  have same : residue assumptions position
      { position with
        quantity := position.quantity + quantity
        averageCost := roundTo shareUnit (totalCost / (position.quantity + quantity)) }
      .buy quantity price =
        (roundTo shareUnit (totalCost / (position.quantity + quantity)) -
          totalCost / (position.quantity + quantity)) * (position.quantity + quantity) := by
    unfold residue paidBy realizedBy
    dsimp only
    rw [sub_mul, div_mul_cancel₀ _ after.ne', ← total]
    ring
  rw [same, abs_mul, abs_of_pos after]
  calc
    |roundTo shareUnit (totalCost / (position.quantity + quantity)) -
        totalCost / (position.quantity + quantity)| * (position.quantity + quantity) ≤
        shareUnit / 2 * (position.quantity + quantity) :=
      mul_le_mul_of_nonneg_right half after.le
    _ = 5 / 10 ^ 9 * (position.quantity + quantity) := by
      unfold shareUnit
      ring

/-- A sale leaves what the rounding of its proceeds does. -/
theorem residue_sell
    (done : updatePosition assumptions position .sell quantity price = .ok updated) :
    |residue assumptions position updated .sell quantity price| ≤ 5 / 10 ^ 7 := by
  unfold updatePosition at done
  cases done
  have same : residue assumptions position
      { position with
        quantity := position.quantity - quantity
        averageCost := if position.quantity - quantity = 0 then 0 else position.averageCost
        realizedPnl := position.realizedPnl +
          realizedBy assumptions position .sell quantity price }
      .sell quantity price = money (price * quantity) - price * quantity := by
    have kept : (position.quantity - quantity) *
        (if position.quantity - quantity = 0 then 0 else position.averageCost) =
          (position.quantity - quantity) * position.averageCost := by
      split
      · rename_i closed
        rw [closed, zero_mul, zero_mul]
      · rfl
    unfold residue paidBy realizedBy
    dsimp only
    rw [kept]
    ring
  rw [same]
  exact abs_money_sub_le (price * quantity)

end Rounding

section Fills

variable {assumptions : ExecutionAssumptions} {portfolio next : PaperPortfolio} {call : FillCall}

/-- A fill moves the drift by the residue of its position. -/
theorem fill_drift {market : Market} {orderId : Nat} {order : PaperOrder} {bar : PriceBar}
    {price : Rat} (done : fill assumptions market portfolio orderId order bar price = .ok next) :
    exists updated, updatePosition assumptions (positionOf portfolio order.assetId) order.side
        order.quantity price = .ok updated ∧
      drift next - drift portfolio =
        residue assumptions (positionOf portfolio order.assetId) updated order.side
          order.quantity price := by
  rcases fill_ok done with ⟨updated, snapshot, computed, _, written⟩
  refine ⟨updated, computed, ?_⟩
  have asset : updated.assetId = order.assetId := by
    have own := positionOf_assetId portfolio order.assetId
    unfold updatePosition at computed
    cases side : order.side with
    | buy =>
        rw [side] at computed
        dsimp only at computed
        split at computed
        · cases computed
        · cases computed
          exact own
    | sell =>
        rw [side] at computed
        cases computed
        exact own
  have total := Tables.sum_put PaperPosition.assetId
    (fun position : PaperPosition => position.quantity * position.averageCost) updated
      portfolio.positions
  have before : ((Tables.lookup PaperPosition.assetId order.assetId portfolio.positions).map
      fun position : PaperPosition => position.quantity * position.averageCost).getD 0 =
        (positionOf portfolio order.assetId).quantity *
          (positionOf portfolio order.assetId).averageCost := by
    unfold positionOf
    cases Tables.lookup PaperPosition.assetId order.assetId portfolio.positions with
    | none => exact (zero_mul 0).symm
    | some position => rfl
  rw [asset, before] at total
  subst written
  unfold drift bookValue residue book
  dsimp only
  linarith

/-- One fill moves the drift by its allowance at most. -/
theorem run_drift (holdings : HoldingsNonneg portfolio)
    (done : call.run assumptions portfolio = .ok next) :
    |drift next - drift portfolio| ≤ roundingAllowance portfolio call := by
  rcases fill_drift done with ⟨updated, computed, moved⟩
  rw [moved]
  unfold roundingAllowance
  have held := ownedQuantity_nonneg holdings call.order.assetId
  rw [← positionOf_quantity] at held ⊢
  cases side : call.order.side with
  | buy =>
      rw [side] at computed
      exact residue_buy held call.order.quantity_pos computed
  | sell =>
      rw [side] at computed
      exact residue_sell computed

/-- The fills of a sequence go through, and move the drift by their allowances at most. -/
theorem fills_drift (calls : List FillCall) (holdings : HoldingsNonneg portfolio)
    (held : SalesHeld assumptions portfolio calls) :
    exists final, calls.foldlM (FillCall.run assumptions) portfolio = .ok final ∧
      |drift final - drift portfolio| ≤ driftAllowance assumptions portfolio calls := by
  induction calls generalizing portfolio with
  | nil =>
      refine ⟨portfolio, rfl, ?_⟩
      rw [sub_self, abs_zero]
      exact le_refl 0
  | cons call rest ih =>
      rcases held with ⟨owned, further⟩
      rcases fill_covered assumptions call.market call.orderId call.bar call.price holdings owned
        with ⟨middle, done, _, stored⟩
      have first : call.run assumptions portfolio = .ok middle := done
      rcases ih stored (further middle first) with ⟨final, completed, later⟩
      refine ⟨final, ?_, ?_⟩
      · rw [List.foldlM_cons, Loops.except_bind_eq first]
        exact completed
      · have now := run_drift holdings first
        have split : drift final - drift portfolio =
            (drift middle - drift portfolio) + (drift final - drift middle) := by ring
        unfold driftAllowance
        rw [first, split]
        exact (abs_add_le _ _).trans (add_le_add now later)

theorem run_startingCash (done : call.run assumptions portfolio = .ok next) :
    next.startingCash = portfolio.startingCash := by
  rcases fill_ok done with ⟨updated, snapshot, _, _, written⟩
  subst written
  rfl

end Fills

/-- From a new portfolio on, the book value stays within the allowances of the fills of the
starting cash and the realized profit. -/
theorem bookValue_drift (assumptions : ExecutionAssumptions) (startingCash : Rat)
    (createdAt : Instant) (calls : List FillCall)
    (held : SalesHeld assumptions (.create startingCash createdAt) calls) :
    exists final,
      calls.foldlM (FillCall.run assumptions) (.create startingCash createdAt) = .ok final ∧
      |bookValue final - startingCash - final.realizedPnl| ≤
        driftAllowance assumptions (.create startingCash createdAt) calls := by
  have empty : HoldingsNonneg (.create startingCash createdAt) :=
    fun _ member => absurd member List.not_mem_nil
  rcases fills_drift calls empty held with ⟨final, done, bound⟩
  refine ⟨final, done, ?_⟩
  have started : final.startingCash = startingCash :=
    Loops.foldlM_invariant
      (motive := fun portfolio : PaperPortfolio => portfolio.startingCash = startingCash)
      (fun call _ portfolio next kept step => (run_startingCash step).trans kept) rfl done
  have none_ : drift (.create startingCash createdAt) = 0 := by
    unfold drift bookValue PaperPortfolio.create
    simp
  rw [none_, sub_zero] at bound
  unfold drift at bound
  rw [started] at bound
  exact bound

/-! ## Three shares for ten, and one of them sold -/

def shareOrder (side : Side) (quantity : Rat) (positive : 0 < quantity) : PaperOrder where
  clientOrderId := "share"
  symbol := "ALPHA"
  side := side
  orderType := .market
  quantity := quantity
  limitPrice := none
  stopPrice := none
  quantity_pos := positive
  limitPrice_pos := absent_pos
  stopPrice_pos := absent_pos
  limit_required := fun kind => by rcases kind with same | same <;> cases same
  stop_required := fun kind => by rcases kind with same | same <;> cases same
  market_plain := fun _ => ⟨rfl, rfl⟩
  assetId := 0
  status := .pending
  isTriggered := false
  rejectionReasons := []
  estimatedValue := none
  estimatedFees := 0
  sourcePriceBarId := 0

def shareCall (side : Side) (quantity price : Rat) (positive : 0 < quantity) : FillCall where
  market := threeSectors
  orderId := 0
  order := shareOrder side quantity positive
  bar := flatBar 0 1 price
  price := price

/-- The average cost of the shares has no end, and neither has the price of the sale. -/
def shareCalls : List FillCall :=
  [shareCall .buy 3 (10 / 3) (by norm_num), shareCall .sell 1 (5 / 3) (by norm_num)]

theorem shareCalls_held : SalesHeld .default (.create 100 0) shareCalls := by
  refine ⟨nofun, fun next done => ⟨fun _ => ?_, fun _ _ => trivial⟩⟩
  have owned : ((shareCall .buy 3 (10 / 3) (by norm_num)).run .default (.create 100 0)).map
      (fun portfolio => ownedQuantity portfolio 0) = .ok 3 := by decide +kernel
  rw [done] at owned
  have three : ownedQuantity next 0 = 3 := Except.ok.inj owned
  change (1 : Rat) ≤ ownedQuantity next 0
  rw [three]
  norm_num

theorem shareCalls_drift :
    exists final, shareCalls.foldlM (FillCall.run .default) (.create 100 0) = .ok final ∧
      |bookValue final - 100 - final.realizedPnl| ≤
        driftAllowance .default (.create 100 0) shareCalls :=
  bookValue_drift .default 100 0 shareCalls shareCalls_held

end PaperTrading
end MarketIntelligence
