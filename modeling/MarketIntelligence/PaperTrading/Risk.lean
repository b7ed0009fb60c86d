import MarketIntelligence.PaperTrading.Types
import MarketIntelligence.Foundations.Tables
import Mathlib.Data.List.Sort
import Mathlib.Data.List.MinMax
import Mathlib.Data.Rat.Floor

namespace MarketIntelligence
namespace PaperTrading

open Foundations

/-!
# Risk checks

The checks run once, when an order is submitted, against the marks of that
moment.  A sale is only compared with the quantity held.
-/

/-! ## Marks -/

/-- A position with the bar it is valued at. -/
structure Mark where
  position : PaperPosition
  bar : PriceBar

def Mark.value (mark : Mark) : Rat :=
  mark.position.quantity * mark.bar.close

/-- The open positions that have a bar. -/
def markedPositions (market : Market) (portfolio : PaperPortfolio) : List Mark :=
  (portfolio.positions.filter fun position => 0 < position.quantity).filterMap fun position =>
    (market.latestBar position.assetId).map fun bar => { position := position, bar := bar }

def equityOf (market : Market) (portfolio : PaperPortfolio) : Rat :=
  portfolio.cashBalance + ((markedPositions market portfolio).map Mark.value).sum

def unrealizedOf (market : Market) (portfolio : PaperPortfolio) : Rat :=
  ((markedPositions market portfolio).map fun mark =>
    (mark.bar.close - mark.position.averageCost) * mark.position.quantity).sum

/-! ## The checks, in the order of their messages -/

/-- The order a check looks at. -/
structure Candidate where
  asset : Asset
  bar : PriceBar
  side : Side
  quantity : Rat
  estimatedPrice : Rat
  estimatedFees : Rat

def ownedQuantity (portfolio : PaperPortfolio) (assetId : Identifier) : Rat :=
  ((Tables.lookup PaperPosition.assetId assetId portfolio.positions).map
    PaperPosition.quantity).getD 0

def reject (violated : Bool) (reason : RejectionReason) : List RejectionReason :=
  if violated then [reason] else []

/-- A limit on a share of the equity, when there is a rule and any equity. -/
def shareReasons (limit : Option Rat) (value equity : Rat)
    (reason : Rat -> Rat -> RejectionReason) : List RejectionReason :=
  match limit with
  | none => []
  | some limit =>
      reject (equity ≠ 0 && limit < value / equity) (reason (value / equity) limit)

def shortSaleReasons (portfolio : PaperPortfolio) (order : Candidate) : List RejectionReason :=
  let owned := ownedQuantity portfolio order.asset.id
  reject (order.side = .sell && owned < order.quantity) (.shortSale order.quantity owned)

def orderValueReasons (market : Market) (order : Candidate) : List RejectionReason :=
  let value := order.quantity * order.estimatedPrice
  match market.limitOf .maximumOrderValue with
  | none => []
  | some limit => reject (limit < value) (.orderValue value limit)

def cashReserveReasons (market : Market) (portfolio : PaperPortfolio) (order : Candidate) :
    List RejectionReason :=
  let value := order.quantity * order.estimatedPrice
  let remaining := portfolio.cashBalance - value - order.estimatedFees
  let reserve := equityOf market portfolio * (market.limitOf .minimumCashReserve).getD 0
  reject (remaining < reserve) (.cashReserve remaining reserve)

def buyReasons (market : Market) (portfolio : PaperPortfolio) (order : Candidate) :
    List RejectionReason :=
  let equity := equityOf market portfolio
  let marked := markedPositions market portfolio
  let value := order.quantity * order.estimatedPrice
  let owned := ownedQuantity portfolio order.asset.id
  let exposure := (marked.map Mark.value).sum + value
  let sectorValue :=
    ((marked.filter fun mark => market.sectorOf mark.position.assetId = order.asset.sector).map
      Mark.value).sum + value
  cashReserveReasons market portfolio order ++
    shareReasons (market.limitOf .maximumPositionPercentage)
      ((owned + order.quantity) * order.estimatedPrice) equity .positionExposure ++
    shareReasons (market.limitOf .maximumTotalExposure) exposure equity .totalExposure ++
    shareReasons (market.limitOf .maximumSectorExposure) sectorValue equity
      (.sectorExposure order.asset.sector)

def staleReasons (market : Market) (order : Candidate) : List RejectionReason :=
  let ageDays : Rat := (max (market.today - dayOf order.bar.retrievalTime) 0 : Int)
  match market.limitOf .stalePriceDays with
  | none => []
  | some limit => reject (limit < ageDays) (.stalePrice ageDays limit)

def tradeCountReasons (market : Market) (portfolio : PaperPortfolio) (order : Candidate) :
    List RejectionReason :=
  let today := portfolio.fills.countP fun fill => dayOf fill.filledAt = dayOf order.bar.eventTime
  match market.limitOf .maximumDailyTradeCount with
  | none => []
  | some limit => reject (⌊limit⌋ ≤ (today : Int)) (.dailyTradeCount ⌊limit⌋)

def drawdownReasons (market : Market) (equity peak : Rat) : List RejectionReason :=
  match market.limitOf .maximumPortfolioDrawdown with
  | none => []
  | some limit =>
      reject (peak ≠ 0 && limit ≤ (peak - equity) / peak) (.drawdown ((peak - equity) / peak) limit)

def dailyLossReasons (market : Market) (equity : Rat) (sameDay : Option PortfolioSnapshot) :
    List RejectionReason :=
  match market.limitOf .maximumDailySimulatedLoss, sameDay with
  | some limit, some first =>
      reject (first.equity ≠ 0 && limit ≤ (first.equity - equity) / first.equity)
        (.dailyLoss ((first.equity - equity) / first.equity) limit)
  | _, _ => []

def snapshotReasons (market : Market) (portfolio : PaperPortfolio) (order : Candidate) :
    List RejectionReason :=
  let equity := equityOf market portfolio
  let snapshots := portfolio.snapshots.insertionSort fun first second =>
    first.eventTime ≤ second.eventTime
  match (snapshots.map PortfolioSnapshot.equity).max? with
  | none => []
  | some peak =>
      drawdownReasons market equity peak ++
        dailyLossReasons market equity
          (snapshots.find? fun snapshot => dayOf snapshot.eventTime = dayOf order.bar.eventTime)

def evaluateRisk (market : Market) (portfolio : PaperPortfolio) (order : Candidate) :
    List RejectionReason :=
  shortSaleReasons portfolio order ++ orderValueReasons market order ++
    (match order.side with
      | .buy => buyReasons market portfolio order
      | .sell => []) ++
    staleReasons market order ++ tradeCountReasons market portfolio order ++
    snapshotReasons market portfolio order

end PaperTrading
end MarketIntelligence
