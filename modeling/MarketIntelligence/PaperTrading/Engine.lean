import MarketIntelligence.PaperTrading.Risk

namespace MarketIntelligence
namespace PaperTrading

open Foundations

/-!
# The paper-trading engine

An operation either raises, and the session is rolled back, or returns with the
portfolio it wrote.  A limit or stop order that is not reached at submission
waits, and `process_order` fills it later against another bar.
-/

/-! ## Prices -/

/-- Whether an order would fill on a bar.  A stop that triggers without a fill is kept apart,
since it becomes a limit order from there on. -/
inductive Outcome where
  | wouldFill
  | pending
  | triggered
  | rejected
  deriving DecidableEq, Repr

/-- `_limit_price`. -/
def limitPriceOn (side : Side) (bar : PriceBar) (limitPrice : Option Rat) :
    Except TradingError (Option Rat × Outcome) :=
  match limitPrice with
  | none => .error .limitPriceRequired
  | some limit =>
      match side with
      | .buy =>
          if bar.openPrice ≤ limit then .ok (some bar.openPrice, .wouldFill)
          else if bar.low ≤ limit then .ok (some limit, .wouldFill)
          else .ok (none, .pending)
      | .sell =>
          if limit ≤ bar.openPrice then .ok (some bar.openPrice, .wouldFill)
          else if limit ≤ bar.high then .ok (some limit, .wouldFill)
          else .ok (none, .pending)

structure Eligibility where
  basePrice : Option Rat
  outcome : Outcome
  triggered : Bool
  deriving DecidableEq, Repr

def stopReached (side : Side) (bar : PriceBar) (stop : Rat) (alreadyTriggered : Bool) : Bool :=
  alreadyTriggered || match side with
    | .buy => decide (stop ≤ bar.high)
    | .sell => decide (bar.low ≤ stop)

/-- The base price of a stop order that is reached: the stop, or the open beyond it. -/
def stopBase (side : Side) (bar : PriceBar) (stop : Rat) : Rat :=
  match side with
  | .buy => max bar.openPrice stop
  | .sell => min bar.openPrice stop

/-- `_eligible_price`. -/
def eligiblePrice (request : OrderRequest) (bar : PriceBar) (alreadyTriggered : Bool) :
    Except TradingError Eligibility :=
  match request.orderType, request.stopPrice with
  | .market, _ =>
      .ok { basePrice := some bar.openPrice, outcome := .wouldFill, triggered := false }
  | .limit, _ =>
      (limitPriceOn request.side bar request.limitPrice).map fun found =>
        { basePrice := found.1, outcome := found.2, triggered := false }
  | .stop, none => .error .stopPriceRequired
  | .stopLimit, none => .error .stopPriceRequired
  | .stop, some stop =>
      if stopReached request.side bar stop alreadyTriggered = false then
        .ok { basePrice := none, outcome := .pending, triggered := false }
      else
        .ok { basePrice := some (stopBase request.side bar stop), outcome := .wouldFill,
              triggered := true }
  | .stopLimit, some stop =>
      if stopReached request.side bar stop alreadyTriggered = false then
        .ok { basePrice := none, outcome := .pending, triggered := false }
      else
        (limitPriceOn request.side bar request.limitPrice).map fun found =>
          { basePrice := found.1
            outcome := if found.1 = none then .triggered else found.2
            triggered := true }

/-- `_apply_friction`, on a base price that is present. -/
def applyFriction (assumptions : ExecutionAssumptions) (base : Rat) (side : Side)
    (limitPrice : Option Rat) : Rat :=
  let friction := (assumptions.spreadBps / 2 + assumptions.slippageBps) / 10000
  let adjusted := match side with
    | .buy => base * (1 + friction)
    | .sell => base * (1 - friction)
  let bounded := match limitPrice, side with
    | none, _ => adjusted
    | some limit, .buy => min adjusted limit
    | some limit, .sell => max adjusted limit
  DecimalGrid.roundTo shareUnit bounded

/-! ## Previews -/

structure OrderPreview where
  outcome : Outcome
  estimatedPrice : Option Rat
  estimatedValue : Option Rat
  estimatedFees : Rat
  rejectionReasons : List RejectionReason
  sourcePriceBarId : Identifier
  isTriggered : Bool
  deriving DecidableEq, Repr

/-- `value or default`: zero counts as absent. -/
def orElse (value : Option Rat) (default : Option Rat) : Option Rat :=
  match value with
  | some number => if number = 0 then default else some number
  | none => default

/-- The asset of a request and its latest bar. -/
def findQuote (market : Market) (symbol : String) : Except TradingError (Asset × PriceBar) :=
  match market.findAsset symbol with
  | none => .error (.assetNotFound symbol)
  | some asset =>
      match market.latestBar asset.id with
      | none => .error .priceDataUnavailable
      | some bar => .ok (asset, bar)

def previewOn (assumptions : ExecutionAssumptions) (market : Market) (portfolio : PaperPortfolio)
    (request : OrderRequest) (asset : Asset) (bar : PriceBar) (eligible : Eligibility) :
    OrderPreview :=
  let price := (orElse eligible.basePrice none).map fun base =>
    applyFriction assumptions base request.side request.limitPrice
  let riskPrice :=
    (orElse price (orElse request.limitPrice (orElse request.stopPrice none))).getD bar.close
  let candidate : Candidate :=
    { asset := asset, bar := bar, side := request.side, quantity := request.quantity,
      estimatedPrice := riskPrice, estimatedFees := assumptions.commission }
  let reasons := reject (portfolio.status ≠ .active) .paused ++
    evaluateRisk market portfolio candidate
  { outcome := if reasons = [] then eligible.outcome else .rejected
    estimatedPrice := price
    estimatedValue := (orElse price none).map fun price => money (price * request.quantity)
    estimatedFees := assumptions.commission
    rejectionReasons := reasons
    sourcePriceBarId := bar.id
    isTriggered := eligible.triggered }

def preview (assumptions : ExecutionAssumptions) (market : Market) (portfolio : PaperPortfolio)
    (request : OrderRequest) : Except TradingError OrderPreview := do
  let (asset, bar) ← findQuote market request.symbol
  let eligible ← eligiblePrice request bar false
  return previewOn assumptions market portfolio request asset bar eligible

/-! ## Fills -/

def positionOf (portfolio : PaperPortfolio) (assetId : Identifier) : PaperPosition :=
  (Tables.lookup PaperPosition.assetId assetId portfolio.positions).getD
    { assetId := assetId, quantity := 0, averageCost := 0, realizedPnl := 0 }

/-- What a fill adds to the realized profit, zero for a purchase. -/
def realizedBy (assumptions : ExecutionAssumptions) (position : PaperPosition) (side : Side)
    (quantity price : Rat) : Rat :=
  match side with
  | .buy => 0
  | .sell => (price - position.averageCost) * quantity - assumptions.commission

/-- The position after a fill.  A purchase spreads the commission over the shares held, and a
sale takes its profit against their average cost. -/
def updatePosition (assumptions : ExecutionAssumptions) (position : PaperPosition) (side : Side)
    (quantity price : Rat) : Except TradingError PaperPosition :=
  let gross := money (price * quantity)
  match side with
  | .buy =>
      let totalCost := position.quantity * position.averageCost + gross + assumptions.commission
      let held := position.quantity + quantity
      if held = 0 then .error .divisionByZero
      else .ok { position with
        quantity := held
        averageCost := DecimalGrid.roundTo shareUnit (totalCost / held) }
  | .sell =>
      let held := position.quantity - quantity
      .ok { position with
        quantity := held
        averageCost := if held = 0 then 0 else position.averageCost
        realizedPnl := position.realizedPnl +
          realizedBy assumptions position side quantity price }

/-- `_snapshot`, whose flush checks the stored quantities. -/
def takeSnapshot (market : Market) (portfolio : PaperPortfolio) (eventTime : Instant) :
    Except TradingError PaperPortfolio :=
  if portfolio.positions.any fun position => position.quantity < 0 then .error .integrityError
  else
    let equity := equityOf market portfolio
    let snapshot : PortfolioSnapshot :=
      { eventTime := eventTime
        equity := equity
        cash := portfolio.cashBalance
        realizedPnl := portfolio.realizedPnl
        unrealizedPnl := unrealizedOf market portfolio
        exposure := if equity = 0 then 0 else (equity - portfolio.cashBalance) / equity
        positions := (markedPositions market portfolio).map Mark.position }
    .ok { portfolio with snapshots := portfolio.snapshots ++ [snapshot] }

/-- What a fill adds to the cash. -/
def paidBy (assumptions : ExecutionAssumptions) (side : Side) (quantity price : Rat) : Rat :=
  let gross := money (price * quantity)
  match side with
  | .buy => -(gross + assumptions.commission)
  | .sell => gross - assumptions.commission

/-- The writes of a fill, up to its snapshot. -/
def book (assumptions : ExecutionAssumptions) (portfolio : PaperPortfolio) (orderId : Nat)
    (order : PaperOrder) (bar : PriceBar) (price : Rat) (updated : PaperPosition) :
    PaperPortfolio :=
  let position := positionOf portfolio order.assetId
  let record : PaperFill :=
    { orderId := orderId, assetId := order.assetId, sourcePriceBarId := bar.id,
      side := order.side, quantity := order.quantity, price := price,
      grossValue := money (price * order.quantity), fees := assumptions.commission,
      filledAt := bar.eventTime }
  { portfolio with
    cashBalance := portfolio.cashBalance + paidBy assumptions order.side order.quantity price
    realizedPnl := portfolio.realizedPnl +
      realizedBy assumptions position order.side order.quantity price
    positions := Tables.put PaperPosition.assetId updated portfolio.positions
    orders := portfolio.orders.set orderId
      { order with status := .filled, sourcePriceBarId := bar.id }
    fills := portfolio.fills ++ [record] }

/-- `_fill`. -/
def fill (assumptions : ExecutionAssumptions) (market : Market) (portfolio : PaperPortfolio)
    (orderId : Nat) (order : PaperOrder) (bar : PriceBar) (price : Rat) :
    Except TradingError PaperPortfolio := do
  let updated ← updatePosition assumptions (positionOf portfolio order.assetId) order.side
    order.quantity price
  takeSnapshot market (book assumptions portfolio orderId order bar price updated) bar.eventTime

/-! ## Operations -/

structure OrderResult where
  orderId : Nat
  status : OrderStatus
  rejectionReasons : List RejectionReason
  idempotentReplay : Bool
  deriving DecidableEq, Repr

/-- The status a preview's outcome gives to the new order. -/
def initialStatus : Outcome -> OrderStatus
  | .wouldFill => .pending
  | .pending => .pending
  | .triggered => .triggered
  | .rejected => .rejected

def newOrder (request : OrderRequest) (asset : Asset) (preview : OrderPreview) : PaperOrder :=
  { request with
    assetId := asset.id
    status := initialStatus preview.outcome
    isTriggered := preview.isTriggered
    rejectionReasons := preview.rejectionReasons
    estimatedValue := preview.estimatedValue
    estimatedFees := preview.estimatedFees
    sourcePriceBarId := preview.sourcePriceBarId }

/-- Add an order that is not known yet, and fill it when it would fill at once. -/
def submitNew (assumptions : ExecutionAssumptions) (market : Market) (portfolio : PaperPortfolio)
    (request : OrderRequest) : Except TradingError PaperPortfolio := do
  let (asset, bar) ← findQuote market request.symbol
  let preview ← preview assumptions market portfolio request
  let order := newOrder request asset preview
  let orderId := portfolio.orders.length
  let stored := { portfolio with orders := portfolio.orders ++ [order] }
  match preview.outcome, preview.estimatedPrice with
  | .wouldFill, some price => fill assumptions market stored orderId order bar price
  | _, _ => return stored

def resultOf (portfolio : PaperPortfolio) (orderId : Nat) (replay : Bool) :
    Except TradingError OrderResult :=
  match portfolio.orders[orderId]? with
  | none => .error .orderNotFound
  | some order =>
      .ok
        { orderId := orderId, status := order.status,
          rejectionReasons := order.rejectionReasons, idempotentReplay := replay }

/-- The place of the order that already has the client's identifier. -/
def existingOrder (portfolio : PaperPortfolio) (clientOrderId : String) : Option Nat :=
  portfolio.orders.findIdx? fun order => order.clientOrderId = clientOrderId

def submit (assumptions : ExecutionAssumptions) (market : Market) (portfolio : PaperPortfolio)
    (request : OrderRequest) : Except TradingError (OrderResult × PaperPortfolio) := do
  match existingOrder portfolio request.clientOrderId with
  | some orderId =>
      let result ← resultOf portfolio orderId true
      return (result, portfolio)
  | none =>
      let next ← submitNew assumptions market portfolio request
      let result ← resultOf next portfolio.orders.length false
      return (result, next)

def OrderStatus.isOpen : OrderStatus -> Bool
  | .pending => true
  | .triggered => true
  | .filled => false
  | .rejected => false
  | .cancelled => false

def processOrder (assumptions : ExecutionAssumptions) (market : Market)
    (portfolio : PaperPortfolio) (orderId : Nat) (bar : PriceBar) :
    Except TradingError PaperPortfolio := do
  match portfolio.orders[orderId]? with
  | none => throw .orderNotFound
  | some order =>
      if order.status.isOpen = false then return portfolio
      else
        let eligible ← eligiblePrice order.toOrderRequest bar order.isTriggered
        let status :=
          if eligible.triggered && eligible.outcome ≠ .wouldFill then OrderStatus.triggered
          else OrderStatus.pending
        let waiting := { order with isTriggered := eligible.triggered, status := status }
        let stored := { portfolio with orders := portfolio.orders.set orderId waiting }
        match eligible.basePrice, eligible.outcome with
        | some base, .wouldFill =>
            fill assumptions market stored orderId waiting bar
              (applyFriction assumptions base order.side order.limitPrice)
        | _, _ => return stored

def cancel (portfolio : PaperPortfolio) (orderId : Nat) : Except TradingError PaperPortfolio := do
  match portfolio.orders[orderId]? with
  | none => throw .orderNotFound
  | some order =>
      if order.status.isOpen = false then throw (.notCancellable order.status)
      else return { portfolio with
        orders := portfolio.orders.set orderId { order with status := .cancelled } }

inductive Operation where
  | submit (request : OrderRequest)
  | processOrder (orderId : Nat) (bar : PriceBar)
  | cancel (orderId : Nat)
  | pause
  | resume

/-- An operation on the market of its moment. -/
def execute (assumptions : ExecutionAssumptions) (portfolio : PaperPortfolio)
    (operation : Market × Operation) : Except TradingError PaperPortfolio :=
  match operation.2 with
  | .submit request =>
      (submit assumptions operation.1 portfolio request).map fun written => written.2
  | .processOrder orderId bar => processOrder assumptions operation.1 portfolio orderId bar
  | .cancel orderId => cancel portfolio orderId
  | .pause => .ok { portfolio with status := .paused }
  | .resume => .ok { portfolio with status := .active }

/-- The portfolio after an operation.  One that raises is rolled back. -/
def apply (assumptions : ExecutionAssumptions) (portfolio : PaperPortfolio)
    (operation : Market × Operation) : PaperPortfolio :=
  match execute assumptions portfolio operation with
  | .ok next => next
  | .error _ => portfolio

end PaperTrading
end MarketIntelligence
