import MarketIntelligence.Core.Values
import Mathlib.Data.List.Basic

namespace MarketIntelligence
namespace PaperTrading

/-!
# Orders, positions and the market they meet

An order request carries what its validators establish.  The rows keep exact
amounts: a column's precision only matters once a row is read back, and the
objects of one session are not.  Identifiers are opaque, so the identifier of an
order is its place among the orders of its portfolio.
-/

/-! ## Requests -/

inductive OrderType where
  | market
  | limit
  | stop
  | stopLimit
  deriving DecidableEq, Repr

structure OrderRequest where
  clientOrderId : String
  symbol : String
  side : Side
  orderType : OrderType
  quantity : Rat
  limitPrice : Option Rat
  stopPrice : Option Rat
  quantity_pos : 0 < quantity
  limitPrice_pos : forall price, limitPrice = some price -> 0 < price
  stopPrice_pos : forall price, stopPrice = some price -> 0 < price
  limit_required : (orderType = .limit ∨ orderType = .stopLimit) -> limitPrice ≠ none
  stop_required : (orderType = .stop ∨ orderType = .stopLimit) -> stopPrice ≠ none
  market_plain : orderType = .market -> limitPrice = none ∧ stopPrice = none

/-- The friction of simulated executions.  None of it is negative, so no order gains by it. -/
structure ExecutionAssumptions where
  commission : Rat
  spreadBps : Rat
  slippageBps : Rat
  commission_nonneg : 0 ≤ commission
  spreadBps_nonneg : 0 ≤ spreadBps
  slippageBps_nonneg : 0 ≤ slippageBps

/-- `ExecutionAssumptions()`. -/
def ExecutionAssumptions.default : ExecutionAssumptions where
  commission := 1
  spreadBps := 2
  slippageBps := 1
  commission_nonneg := by norm_num
  spreadBps_nonneg := by norm_num
  slippageBps_nonneg := by norm_num

/-! ## The market at the time of an operation -/

structure Asset where
  id : Identifier
  symbol : String
  sector : Option String
  deriving DecidableEq, Repr

structure PriceBar where
  id : Identifier
  eventTime : Instant
  retrievalTime : Instant
  openPrice : Rat
  high : Rat
  low : Rat
  close : Rat

inductive RiskRuleType where
  | maximumPositionPercentage
  | maximumTotalExposure
  | maximumDailySimulatedLoss
  | maximumPortfolioDrawdown
  | maximumDailyTradeCount
  | maximumSectorExposure
  | minimumCashReserve
  | maximumOrderValue
  | stalePriceDays
  deriving DecidableEq, Repr

structure RiskRule where
  ruleType : RiskRuleType
  limitValue : Rat
  isEnabled : Bool
  limitValue_nonneg : 0 ≤ limitValue

/-- The calendar day of an instant. -/
def dayOf (instant : Instant) : Int :=
  instant / (24 * 60 * 60 * 1000000)

/-- What an operation reads besides the portfolio: the assets, the latest bar of
each, the rules of the portfolio and the current day. -/
structure Market where
  assets : List Asset
  latestBar : Identifier -> Option PriceBar
  rules : List RiskRule
  today : Int

def Market.findAsset (market : Market) (symbol : String) : Option Asset :=
  market.assets.find? fun asset => asset.symbol = symbol

def Market.sectorOf (market : Market) (assetId : Identifier) : Option String :=
  (market.assets.find? fun asset => asset.id = assetId).bind Asset.sector

/-- `rules.get(rule_type)` over the enabled rules. -/
def Market.limitOf (market : Market) (ruleType : RiskRuleType) : Option Rat :=
  (market.rules.find? fun rule => rule.isEnabled && rule.ruleType = ruleType).map RiskRule.limitValue

/-! ## Rows of a portfolio -/

structure PaperPosition where
  assetId : Identifier
  quantity : Rat
  averageCost : Rat
  realizedPnl : Rat
  deriving DecidableEq, Repr

inductive OrderStatus where
  | pending
  | triggered
  | filled
  | rejected
  | cancelled
  deriving DecidableEq, Repr

/-- Why an order is rejected, with the amounts its message shows. -/
inductive RejectionReason where
  | paused
  | shortSale (quantity owned : Rat)
  | orderValue (value limit : Rat)
  | cashReserve (remaining reserve : Rat)
  | positionExposure (exposure limit : Rat)
  | totalExposure (exposure limit : Rat)
  | sectorExposure (sector : Option String) (exposure limit : Rat)
  | stalePrice (ageDays limit : Rat)
  | dailyTradeCount (limit : Int)
  | drawdown (value limit : Rat)
  | dailyLoss (value limit : Rat)
  deriving DecidableEq, Repr

structure PaperOrder extends OrderRequest where
  assetId : Identifier
  status : OrderStatus
  isTriggered : Bool
  rejectionReasons : List RejectionReason
  estimatedValue : Option Rat
  estimatedFees : Rat
  sourcePriceBarId : Identifier

structure PaperFill where
  orderId : Nat
  assetId : Identifier
  sourcePriceBarId : Identifier
  side : Side
  quantity : Rat
  price : Rat
  grossValue : Rat
  fees : Rat
  filledAt : Instant
  deriving DecidableEq, Repr

structure PortfolioSnapshot where
  eventTime : Instant
  equity : Rat
  cash : Rat
  realizedPnl : Rat
  unrealizedPnl : Rat
  exposure : Rat
  positions : List PaperPosition
  deriving DecidableEq, Repr

inductive PortfolioStatus where
  | active
  | paused
  deriving DecidableEq, Repr

structure PaperPortfolio where
  startingCash : Rat
  cashBalance : Rat
  realizedPnl : Rat
  status : PortfolioStatus
  positions : List PaperPosition
  orders : List PaperOrder
  fills : List PaperFill
  snapshots : List PortfolioSnapshot

/-- `create_portfolio`. -/
def PaperPortfolio.create (startingCash : Rat) (createdAt : Instant) : PaperPortfolio where
  startingCash := startingCash
  cashBalance := startingCash
  realizedPnl := 0
  status := .active
  positions := []
  orders := []
  fills := []
  snapshots :=
    [{ eventTime := createdAt, equity := startingCash, cash := startingCash, realizedPnl := 0,
       unrealizedPnl := 0, exposure := 0, positions := [] }]

/-- What an operation can raise. -/
inductive TradingError where
  | assetNotFound (symbol : String)
  | priceDataUnavailable
  | limitPriceRequired
  | stopPriceRequired
  | notCancellable (status : OrderStatus)
  | divisionByZero
  /-- The check that a stored quantity is not negative. -/
  | integrityError
  | orderNotFound
  deriving DecidableEq, Repr

end PaperTrading
end MarketIntelligence
