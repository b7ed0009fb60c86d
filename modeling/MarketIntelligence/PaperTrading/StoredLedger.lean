import MarketIntelligence.PaperTrading.LedgerIdentity
import MarketIntelligence.PaperTrading.FillPrices

namespace MarketIntelligence
namespace PaperTrading

open Foundations
open DecimalGrid

/-!
# The ledger as it is stored

Within one session the objects keep exact amounts.  When the session ends its rows are
what the columns keep of them, and the next session starts from these rows.  Every
amount that the engine books is quantized first, to the six decimals of money or the
eight of a price, with one exception: the profit of a sale is added as it is, to the
portfolio and to the position, and each of the two columns rounds its own total.

The rounding is that of PostgreSQL, the production database, which takes ties away from
zero.  Two totals that grow by the same tie are then rounded apart when they end on
different sides of zero, and from there on the portfolio's realized profit is not that
of its positions.
-/

/-! ## Columns -/

/-- What a `Numeric(20, 6)` column keeps of a value. -/
def moneyColumn (value : Rat) : Rat :=
  roundAway moneyUnit value

/-- What a column with eight decimals keeps of a value. -/
def shareColumn (value : Rat) : Rat :=
  roundAway shareUnit value

def PaperPosition.readBack (position : PaperPosition) : PaperPosition :=
  { position with
    quantity := shareColumn position.quantity
    averageCost := shareColumn position.averageCost
    realizedPnl := moneyColumn position.realizedPnl }

/-- The amounts of the request itself have the scale of their columns, which the validators
see to. -/
def PaperOrder.readBack (order : PaperOrder) : PaperOrder :=
  { order with
    estimatedValue := order.estimatedValue.map moneyColumn
    estimatedFees := moneyColumn order.estimatedFees }

def PaperFill.readBack (fill : PaperFill) : PaperFill :=
  { fill with
    quantity := shareColumn fill.quantity
    price := shareColumn fill.price
    grossValue := moneyColumn fill.grossValue
    fees := moneyColumn fill.fees }

/-- The positions of a snapshot are kept as text. -/
def PortfolioSnapshot.readBack (snapshot : PortfolioSnapshot) : PortfolioSnapshot :=
  { snapshot with
    equity := moneyColumn snapshot.equity
    cash := moneyColumn snapshot.cash
    realizedPnl := moneyColumn snapshot.realizedPnl
    unrealizedPnl := moneyColumn snapshot.unrealizedPnl
    exposure := shareColumn snapshot.exposure }

/-- The rows of a portfolio as the next session reads them. -/
def PaperPortfolio.readBack (portfolio : PaperPortfolio) : PaperPortfolio :=
  { portfolio with
    startingCash := moneyColumn portfolio.startingCash
    cashBalance := moneyColumn portfolio.cashBalance
    realizedPnl := moneyColumn portfolio.realizedPnl
    positions := portfolio.positions.map PaperPosition.readBack
    orders := portfolio.orders.map PaperOrder.readBack
    fills := portfolio.fills.map PaperFill.readBack
    snapshots := portfolio.snapshots.map PortfolioSnapshot.readBack }

/-! ## Sessions -/

/-- An operation, and whether the session ends with it.  A request of the interface is one
operation in a session of its own. -/
structure SessionStep where
  market : Market
  operation : Operation
  ends : Bool

def SessionStep.call (step : SessionStep) : Market × Operation :=
  (step.market, step.operation)

def serve (assumptions : ExecutionAssumptions) (portfolio : PaperPortfolio) (step : SessionStep) :
    PaperPortfolio :=
  let next := apply assumptions portfolio step.call
  if step.ends then next.readBack else next

/-- The validators of the interface admit eight decimals of a quantity, so every quantity that
reaches the engine is on the share grid. -/
def SessionStep.Scaled (step : SessionStep) : Prop :=
  forall request, step.operation = .submit request -> OnGrid shareUnit request.quantity

/-- The cash is what the fills have left of the starting cash, every position holds its net
quantity, the profits add up, an order has one fill if it is filled, and a client identifier in
use is replayed without a change. -/
structure LedgerIdentity (assumptions : ExecutionAssumptions) (startingCash : Rat)
    (portfolio : PaperPortfolio) : Prop where
  cash : portfolio.cashBalance =
    startingCash - boughtFor portfolio.fills + soldFor portfolio.fills
  quantities : forall position, position ∈ portfolio.positions ->
    position.quantity = netQuantity portfolio.fills position.assetId
  realized : portfolio.realizedPnl = (portfolio.positions.map PaperPosition.realizedPnl).sum
  filled : forall orderId order, portfolio.orders[orderId]? = some order ->
    fillCount portfolio.fills orderId = if order.status = .filled then 1 else 0
  replayed : forall market request,
    (exists order, order ∈ portfolio.orders ∧ order.clientOrderId = request.clientOrderId) ->
      exists orderId order, portfolio.orders[orderId]? = some order ∧
        order.clientOrderId = request.clientOrderId ∧
        submit assumptions market portfolio request =
          .ok ({ orderId := orderId, status := order.status,
                 rejectionReasons := order.rejectionReasons, idempotentReplay := true },
            portfolio)

/-! ## The profit of a sale -/

/-- `realized`, what a fill adds to the two totals: nothing for a purchase. -/
def profitOf (assumptions : ExecutionAssumptions) (portfolio : PaperPortfolio) (due : DueFill) :
    Rat :=
  realizedBy assumptions (positionOf portfolio due.assetId) due.side due.quantity due.price

/-- The columns keep the profit of the sale that the operation completes, if it completes
one.  Rounding then changes neither the portfolio's total nor that of the position. -/
def ProfitFits (assumptions : ExecutionAssumptions) (portfolio : PaperPortfolio)
    (operation : Market × Operation) : Prop :=
  forall due, completedFill assumptions portfolio operation = some due ->
    OnGrid moneyUnit (profitOf assumptions portfolio due)

/-- The operation completes a sale whose profit ends in half a unit of the columns, and with it
one of the two totals is below zero and the other is not. -/
def ProfitSplits (assumptions : ExecutionAssumptions) (portfolio : PaperPortfolio)
    (operation : Market × Operation) : Prop :=
  exists due, completedFill assumptions portfolio operation = some due ∧
    OnTie moneyUnit (profitOf assumptions portfolio due) ∧
    ¬ (0 ≤ portfolio.realizedPnl + profitOf assumptions portfolio due <->
      0 ≤ (positionOf portfolio due.assetId).realizedPnl + profitOf assumptions portfolio due)

/-! ## Amounts that the columns keep -/

structure PaperFill.Scaled (fill : PaperFill) : Prop where
  quantity : OnGrid shareUnit fill.quantity
  price : OnGrid shareUnit fill.price
  grossValue : OnGrid moneyUnit fill.grossValue
  fees : OnGrid moneyUnit fill.fees

/-- Every amount but the realized profits has the scale of its column. -/
structure Scaled (portfolio : PaperPortfolio) : Prop where
  startingCash : OnGrid moneyUnit portfolio.startingCash
  cashBalance : OnGrid moneyUnit portfolio.cashBalance
  quantity : forall position, position ∈ portfolio.positions -> OnGrid shareUnit position.quantity
  averageCost : forall position, position ∈ portfolio.positions ->
    OnGrid shareUnit position.averageCost
  fills : forall fill, fill ∈ portfolio.fills -> fill.Scaled
  orders : forall order, order ∈ portfolio.orders -> OnGrid shareUnit order.quantity

structure ProfitsScaled (portfolio : PaperPortfolio) : Prop where
  total : OnGrid moneyUnit portfolio.realizedPnl
  position : forall position, position ∈ portfolio.positions ->
    OnGrid moneyUnit position.realizedPnl

section ReadBack

variable {portfolio : PaperPortfolio} {value : Rat}

theorem moneyColumn_of_onGrid (member : OnGrid moneyUnit value) : moneyColumn value = value :=
  roundAway_of_onGrid moneyUnit_pos member

theorem shareColumn_of_onGrid (member : OnGrid shareUnit value) : shareColumn value = value :=
  roundAway_of_onGrid shareUnit_pos member

theorem PaperFill.Scaled.readBack_eq {fill : PaperFill} (scaled : fill.Scaled) :
    fill.readBack = fill := by
  unfold PaperFill.readBack
  rw [shareColumn_of_onGrid scaled.quantity, shareColumn_of_onGrid scaled.price,
    moneyColumn_of_onGrid scaled.grossValue, moneyColumn_of_onGrid scaled.fees]

theorem Scaled.readBack_fills (scaled : Scaled portfolio) :
    portfolio.readBack.fills = portfolio.fills := by
  refine (List.map_congr_left fun fill member => ?_).trans (List.map_id portfolio.fills)
  exact (scaled.fills fill member).readBack_eq

theorem Scaled.readBack_startingCash (scaled : Scaled portfolio) :
    portfolio.readBack.startingCash = portfolio.startingCash :=
  moneyColumn_of_onGrid scaled.startingCash

theorem Scaled.readBack_cashBalance (scaled : Scaled portfolio) :
    portfolio.readBack.cashBalance = portfolio.cashBalance :=
  moneyColumn_of_onGrid scaled.cashBalance

theorem Scaled.readBack_quantity (scaled : Scaled portfolio) {position : PaperPosition}
    (member : position ∈ portfolio.positions) :
    position.readBack.quantity = position.quantity :=
  shareColumn_of_onGrid (scaled.quantity position member)

theorem readBack_ownedQuantity (scaled : Scaled portfolio) (assetId : Identifier) :
    ownedQuantity portfolio.readBack assetId = ownedQuantity portfolio assetId := by
  unfold ownedQuantity PaperPortfolio.readBack
  dsimp only
  have keeps : forall position : PaperPosition,
      position.readBack.assetId = position.assetId := fun _ => rfl
  rw [Tables.lookup_map keeps]
  cases found : Tables.lookup PaperPosition.assetId assetId portfolio.positions with
  | none => rfl
  | some position => exact scaled.readBack_quantity (Tables.lookup_some found).1

theorem readBack_order {orderId : Nat} {order : PaperOrder}
    (found : portfolio.readBack.orders[orderId]? = some order) :
    exists before, portfolio.orders[orderId]? = some before ∧ order = before.readBack := by
  change (portfolio.orders.map PaperOrder.readBack)[orderId]? = some order at found
  rw [List.getElem?_map] at found
  rcases Option.map_eq_some_iff.mp found with ⟨before, stored, same⟩
  exact ⟨before, stored, same.symm⟩

/-- What the columns keep is balanced where it was. -/
theorem Balanced.readBack (balanced : Balanced portfolio) (scaled : Scaled portfolio) :
    Balanced portfolio.readBack where
  cash := by
    rw [scaled.readBack_cashBalance, scaled.readBack_startingCash, scaled.readBack_fills]
    exact balanced.cash
  quantities := by
    intro assetId
    rw [readBack_ownedQuantity scaled, scaled.readBack_fills]
    exact balanced.quantities assetId
  distinct := by
    have same : portfolio.readBack.positions.map PaperPosition.assetId =
        portfolio.positions.map PaperPosition.assetId := List.map_map
    rw [same]
    exact balanced.distinct
  filled := by
    intro orderId order found
    rcases readBack_order found with ⟨before, stored, same⟩
    rw [scaled.readBack_fills, balanced.filled orderId before stored, same]
    rfl
  known := by
    intro fill member
    rw [scaled.readBack_fills] at member
    exact (balanced.known fill member).trans_eq (List.length_map _).symm
  clients := by
    have same : (portfolio.readBack.orders.map fun order => order.clientOrderId) =
        portfolio.orders.map fun order => order.clientOrderId := List.map_map
    rw [same]
    exact balanced.clients
  holdings := by
    intro position member
    rcases List.mem_map.mp member with ⟨before, stored, same⟩
    rw [← same, scaled.readBack_quantity stored]
    exact balanced.holdings before stored

theorem Scaled.readBack (scaled : Scaled portfolio) : Scaled portfolio.readBack where
  startingCash := onGrid_roundAway _ _
  cashBalance := onGrid_roundAway _ _
  quantity := by
    intro position member
    rcases List.mem_map.mp member with ⟨before, _, same⟩
    exact same ▸ onGrid_roundAway _ _
  averageCost := by
    intro position member
    rcases List.mem_map.mp member with ⟨before, _, same⟩
    exact same ▸ onGrid_roundAway _ _
  fills := by
    intro fill member
    rw [scaled.readBack_fills] at member
    exact scaled.fills fill member
  orders := by
    intro order member
    rcases List.mem_map.mp member with ⟨before, stored, same⟩
    exact same ▸ scaled.orders before stored

theorem profitsScaled_readBack (portfolio : PaperPortfolio) : ProfitsScaled portfolio.readBack where
  total := onGrid_roundAway _ _
  position := by
    intro position member
    rcases List.mem_map.mp member with ⟨before, _, same⟩
    exact same ▸ onGrid_roundAway _ _

/-- The rows have the gap that the rounded totals have. -/
theorem readBack_profitGap (portfolio : PaperPortfolio) :
    profitGap portfolio.readBack = moneyColumn portfolio.realizedPnl -
      (portfolio.positions.map fun position => moneyColumn position.realizedPnl).sum := by
  unfold profitGap PaperPortfolio.readBack
  dsimp only
  rw [List.map_map]
  rfl

theorem ProfitsScaled.sum_positions (scaled : ProfitsScaled portfolio) :
    (portfolio.positions.map fun position => moneyColumn position.realizedPnl) =
      portfolio.positions.map PaperPosition.realizedPnl :=
  List.map_congr_left fun position member => moneyColumn_of_onGrid (scaled.position position member)

theorem ProfitsScaled.readBack_profitGap_eq (scaled : ProfitsScaled portfolio) :
    profitGap portfolio.readBack = profitGap portfolio := by
  rw [readBack_profitGap, scaled.sum_positions, moneyColumn_of_onGrid scaled.total]
  rfl

end ReadBack

/-! ## One operation -/

section Operations

variable {assumptions : ExecutionAssumptions} {portfolio next : PaperPortfolio}
  {step : SessionStep} {operation : Market × Operation} {due : DueFill}

theorem dueFill_price_onGrid (known : dueFill assumptions portfolio operation = some due) :
    OnGrid shareUnit due.price := by
  have priced : exists request bar already,
      fillPrice assumptions request bar already = some due.price := by
    rcases operation with ⟨market, body⟩
    cases body with
    | submit request =>
        rcases dueOnSubmit_price known with ⟨asset, bar, _, _, price⟩
        exact ⟨request, bar, false, price⟩
    | processOrder orderId bar =>
        rcases dueOnBar_price known with ⟨order, _, _, price⟩
        exact ⟨order.toOrderRequest, bar, order.isTriggered, price⟩
    | cancel orderId => cases known
    | pause => cases known
    | resume => cases known
  rcases priced with ⟨request, bar, already, price⟩
  rcases fillPrice_some price with ⟨eligible, base, _, _, same⟩
  rw [← same]
  exact onGrid_roundTo _ _

theorem paidBy_onGrid (commission : OnGrid moneyUnit assumptions.commission) (side : Side)
    (quantity price : Rat) : OnGrid moneyUnit (paidBy assumptions side quantity price) := by
  have gross : OnGrid moneyUnit (money (price * quantity)) := onGrid_roundTo _ _
  cases side with
  | buy => exact (gross.add commission).neg
  | sell => exact gross.sub commission

/-- A fill leaves the position on the scale of its columns, but for the profit. -/
theorem updatePosition_scaled {position updated : PaperPosition} {side : Side}
    {quantity price : Rat} (held : OnGrid shareUnit position.quantity)
    (cost : OnGrid shareUnit position.averageCost) (traded : OnGrid shareUnit quantity)
    (done : updatePosition assumptions position side quantity price = .ok updated) :
    OnGrid shareUnit updated.quantity ∧ OnGrid shareUnit updated.averageCost := by
  unfold updatePosition at done
  cases side with
  | buy =>
      dsimp only at done
      split at done
      · cases done
      · cases done
        exact ⟨held.add traded, onGrid_roundTo _ _⟩
  | sell =>
      cases done
      refine ⟨held.sub traded, ?_⟩
      dsimp only
      split
      · exact OnGrid.zero _
      · exact cost

theorem Scaled.positionOf (scaled : Scaled portfolio) (assetId : Identifier) :
    OnGrid shareUnit (positionOf portfolio assetId).quantity ∧
      OnGrid shareUnit (PaperTrading.positionOf portfolio assetId).averageCost := by
  unfold PaperTrading.positionOf
  cases found : Tables.lookup PaperPosition.assetId assetId portfolio.positions with
  | none => exact ⟨OnGrid.zero _, OnGrid.zero _⟩
  | some position =>
      have member := (Tables.lookup_some found).1
      exact ⟨scaled.quantity position member, scaled.averageCost position member⟩

theorem ProfitsScaled.positionOf (scaled : ProfitsScaled portfolio) (assetId : Identifier) :
    OnGrid moneyUnit (positionOf portfolio assetId).realizedPnl := by
  unfold PaperTrading.positionOf
  cases found : Tables.lookup PaperPosition.assetId assetId portfolio.positions with
  | none => exact OnGrid.zero _
  | some position => exact scaled.position position (Tables.lookup_some found).1

theorem apply_orders_scaled (scaled : Scaled portfolio) (submitted : step.Scaled) :
    forall order, order ∈ (apply assumptions portfolio step.call).orders ->
      OnGrid shareUnit order.quantity := by
  intro order member
  rcases apply_requested member with ⟨before, stored, same⟩ | asked
  · rw [show order.quantity = before.quantity from congrArg OrderRequest.quantity same]
    exact scaled.orders before stored
  · exact submitted order.toOrderRequest asked

theorem apply_portfolio_scaled (commission : OnGrid moneyUnit assumptions.commission)
    (holdings : HoldingsNonneg portfolio) (scaled : Scaled portfolio) (submitted : step.Scaled) :
    Scaled (apply assumptions portfolio step.call) := by
  have orders : forall order, order ∈ (apply assumptions portfolio step.call).orders ->
      OnGrid shareUnit order.quantity := apply_orders_scaled scaled submitted
  cases completed : completedFill assumptions portfolio step.call with
  | none =>
      have quiet := apply_quiet holdings completed
      refine { startingCash := ?_, cashBalance := ?_, quantity := ?_, averageCost := ?_,
               fills := ?_, orders := orders }
      · exact quiet.startingCash ▸ scaled.startingCash
      · exact quiet.cashBalance ▸ scaled.cashBalance
      · exact quiet.positions ▸ scaled.quantity
      · exact quiet.positions ▸ scaled.averageCost
      · exact quiet.fills ▸ scaled.fills
  | some due =>
      have filled := apply_filled holdings completed
      rcases filled.order with ⟨order, member, same⟩
      have traded : OnGrid shareUnit due.quantity := same ▸ orders order member
      have priced := dueFill_price_onGrid (Option.filter_eq_some_iff.mp completed).1
      rcases filled.position with ⟨updated, computed, positions⟩
      rcases scaled.positionOf due.assetId with ⟨held, cost⟩
      rcases updatePosition_scaled held cost traded computed with ⟨quantity, averageCost⟩
      refine { startingCash := ?_, cashBalance := ?_, quantity := ?_, averageCost := ?_,
               fills := ?_, orders := orders }
      · exact filled.startingCash ▸ scaled.startingCash
      · rw [filled.cashBalance]
        exact scaled.cashBalance.add (paidBy_onGrid commission _ _ _)
      · intro position found
        rw [positions] at found
        rcases Tables.mem_put found with new | old
        · exact new ▸ quantity
        · exact scaled.quantity position old
      · intro position found
        rw [positions] at found
        rcases Tables.mem_put found with new | old
        · exact new ▸ averageCost
        · exact scaled.averageCost position old
      · intro fill found
        rcases filled.record with ⟨made, fills, madeQuantity, madePrice, gross, fees⟩
        rw [fills] at found
        rcases List.mem_append.mp found with old | new
        · exact scaled.fills fill old
        · rw [List.mem_singleton.mp new]
          exact
            { quantity := madeQuantity ▸ traded, price := madePrice ▸ priced
              grossValue := gross ▸ onGrid_roundTo _ _, fees := fees ▸ commission }

/-- A profit that fits keeps the totals on the scale of their columns. -/
theorem apply_profitsScaled (holdings : HoldingsNonneg portfolio)
    (scaled : ProfitsScaled portfolio) (fits : ProfitFits assumptions portfolio operation) :
    ProfitsScaled (apply assumptions portfolio operation) := by
  cases completed : completedFill assumptions portfolio operation with
  | none =>
      have quiet := apply_quiet holdings completed
      exact { total := quiet.realizedPnl ▸ scaled.total,
              position := quiet.positions ▸ scaled.position }
  | some due =>
      have filled := apply_filled holdings completed
      have profit := fits due completed
      rcases filled.position with ⟨updated, computed, positions⟩
      refine { total := ?_, position := ?_ }
      · rw [filled.realizedPnl]
        exact scaled.total.add profit
      · intro position found
        rw [positions] at found
        rcases Tables.mem_put found with new | old
        · rw [new, (updatePosition_profit computed).2]
          exact (scaled.positionOf due.assetId).add profit
        · exact scaled.position position old

/-- What the columns make of the two totals after a fill. -/
theorem Filled.readBack_profitGap (filled : Filled assumptions portfolio next due)
    (scaled : ProfitsScaled portfolio) :
    profitGap next.readBack = profitGap portfolio +
      (moneyColumn (portfolio.realizedPnl + profitOf assumptions portfolio due) -
        portfolio.realizedPnl) -
      (moneyColumn ((positionOf portfolio due.assetId).realizedPnl +
        profitOf assumptions portfolio due) -
          (positionOf portfolio due.assetId).realizedPnl) := by
  have fresh : moneyColumn (0 : Rat) = 0 := moneyColumn_of_onGrid (OnGrid.zero _)
  rcases filled.sum_positions (fun position => moneyColumn position.realizedPnl) fresh with
    ⟨updated, computed, total⟩
  rw [scaled.sum_positions, (updatePosition_profit computed).2,
    moneyColumn_of_onGrid (scaled.positionOf due.assetId)] at total
  rw [PaperTrading.readBack_profitGap, filled.realizedPnl]
  unfold profitGap profitOf
  linarith

/-- Where the rows agree, an operation in a session of its own leaves rows that agree exactly when
it does not complete a sale whose profit is split. -/
theorem readBack_profitGap_iff (holdings : HoldingsNonneg portfolio)
    (scaled : ProfitsScaled portfolio) (agree : profitGap portfolio = 0) :
    profitGap (apply assumptions portfolio operation).readBack = 0 <->
      ¬ ProfitSplits assumptions portfolio operation := by
  cases completed : completedFill assumptions portfolio operation with
  | none =>
      have quiet := apply_quiet holdings completed
      have kept : ProfitsScaled (apply assumptions portfolio operation) :=
        { total := quiet.realizedPnl ▸ scaled.total
          position := quiet.positions ▸ scaled.position }
      refine iff_of_true ?_ ?_
      · rw [kept.readBack_profitGap_eq, quiet.profitGap_eq, agree]
      · rintro ⟨due, known, _⟩
        rw [completed] at known
        cases known
  | some due =>
      have alike := roundAway_alike_iff moneyUnit_pos scaled.total
        (scaled.positionOf due.assetId) (profitOf assumptions portfolio due)
      have splits : ProfitSplits assumptions portfolio operation <->
          OnTie moneyUnit (profitOf assumptions portfolio due) ∧
            ¬ (0 ≤ portfolio.realizedPnl + profitOf assumptions portfolio due <->
              0 ≤ (positionOf portfolio due.assetId).realizedPnl +
                profitOf assumptions portfolio due) := by
        unfold ProfitSplits
        rw [completed]
        simp only [Option.some.injEq, exists_eq_left']
      rw [splits, ← alike, (apply_filled holdings completed).readBack_profitGap scaled, agree,
        zero_add, sub_eq_zero]
      rfl

end Operations

/-! ## Runs -/

/-- What every step keeps, whatever the profits: the cash balances the fills, the amounts have
the scale of their columns, and the starting cash stays. -/
structure Sound (startingCash : Rat) (portfolio : PaperPortfolio) : Prop where
  balanced : Balanced portfolio
  scaled : Scaled portfolio
  started : portfolio.startingCash = startingCash

section Runs

variable {assumptions : ExecutionAssumptions} {startingCash : Rat} {portfolio : PaperPortfolio}
  {step : SessionStep}

theorem Sound.create (cash : OnGrid moneyUnit startingCash) (createdAt : Instant) :
    Sound startingCash (.create startingCash createdAt) where
  balanced := Balanced.create startingCash createdAt
  scaled :=
    { startingCash := cash, cashBalance := cash
      quantity := fun _ member => absurd member List.not_mem_nil
      averageCost := fun _ member => absurd member List.not_mem_nil
      fills := fun _ member => absurd member List.not_mem_nil
      orders := fun _ member => absurd member List.not_mem_nil }
  started := rfl

theorem profitsScaled_create (startingCash : Rat) (createdAt : Instant) :
    ProfitsScaled (.create startingCash createdAt) where
  total := OnGrid.zero _
  position := fun _ member => absurd member List.not_mem_nil

theorem Sound.readBack (sound : Sound startingCash portfolio) :
    Sound startingCash portfolio.readBack where
  balanced := sound.balanced.readBack sound.scaled
  scaled := sound.scaled.readBack
  started := sound.scaled.readBack_startingCash.trans sound.started

theorem Sound.serve (commission : OnGrid moneyUnit assumptions.commission)
    (sound : Sound startingCash portfolio) (submitted : step.Scaled) :
    Sound startingCash (serve assumptions portfolio step) := by
  have applied : Sound startingCash (apply assumptions portfolio step.call) :=
    { balanced := apply_balanced sound.balanced
      scaled := apply_portfolio_scaled commission sound.balanced.holdings sound.scaled submitted
      started := (apply_startingCash sound.balanced.holdings).trans sound.started }
  unfold PaperTrading.serve
  cases ends : step.ends with
  | false => exact applied
  | true => exact applied.readBack

/-- Sound books are the identity but for the realized profits. -/
theorem Sound.identity_iff (sound : Sound startingCash portfolio) :
    LedgerIdentity assumptions startingCash portfolio <-> profitGap portfolio = 0 := by
  unfold profitGap
  rw [sub_eq_zero]
  constructor
  · exact LedgerIdentity.realized
  · intro realized
    exact
      { cash := by rw [sound.balanced.cash, sound.started]
        quantities := fun _ member => sound.balanced.position member
        realized := realized
        filled := sound.balanced.filled
        replayed := fun market _ used => submit_replay assumptions market used }

/-- A step keeps the rows in agreement when the profit of its sale fits the columns. -/
theorem serve_agrees (holdings : HoldingsNonneg portfolio) (scaled : ProfitsScaled portfolio)
    (agree : profitGap portfolio = 0) (fits : ProfitFits assumptions portfolio step.call) :
    ProfitsScaled (serve assumptions portfolio step) ∧
      profitGap (serve assumptions portfolio step) = 0 := by
  have kept := apply_profitsScaled holdings scaled fits
  have gap : profitGap (apply assumptions portfolio step.call) = 0 :=
    (apply_profitGap holdings).trans agree
  unfold serve
  cases step.ends with
  | false => exact ⟨kept, gap⟩
  | true => exact ⟨profitsScaled_readBack _, kept.readBack_profitGap_eq.trans gap⟩

/-- The ledger identity over runs of sessions.  Sessions of any length keep it when the profit of
every sale has at most six decimals.  Where every operation is a session of its own, they keep
it exactly when no sale makes a profit that ends in half a millionth and leaves the portfolio's
realized profit and that of the position on different sides of zero. -/
theorem ledgerIdentity_states (assumptions : ExecutionAssumptions)
    (commission : OnGrid moneyUnit assumptions.commission) (startingCash : Rat)
    (cash : OnGrid moneyUnit startingCash) (createdAt : Instant) (steps : List SessionStep)
    (submitted : forall step, step ∈ steps -> step.Scaled) :
    (Runs.Along (serve assumptions)
        (fun portfolio step => ProfitFits assumptions portfolio step.call)
        (.create startingCash createdAt) steps ->
      forall visited,
        visited ∈ Runs.states (serve assumptions) (.create startingCash createdAt) steps ->
          LedgerIdentity assumptions startingCash visited) ∧
    ((forall step, step ∈ steps -> step.ends = true) ->
      ((forall visited,
          visited ∈ Runs.states (serve assumptions) (.create startingCash createdAt) steps ->
            LedgerIdentity assumptions startingCash visited) <->
        Runs.Along (serve assumptions)
          (fun portfolio step => ¬ ProfitSplits assumptions portfolio step.call)
          (.create startingCash createdAt) steps)) := by
  have start := Sound.create cash createdAt
  have rows := profitsScaled_create startingCash createdAt
  have level : profitGap (.create startingCash createdAt) = 0 := sub_zero 0
  constructor
  · intro along visited member
    have kept := (along.and_labels submitted).preserves
      (motive := fun portfolio => Sound startingCash portfolio ∧ ProfitsScaled portfolio ∧
        profitGap portfolio = 0)
      (fun portfolio step guard held => ⟨held.1.serve commission guard.2,
        serve_agrees held.1.balanced.holdings held.2.1 held.2.2 guard.1⟩)
      ⟨start, rows, level⟩ visited member
    exact kept.1.identity_iff.mpr kept.2.2
  · intro ends
    have decides := @Runs.allowed_states_iff_along _ _ (serve assumptions)
      (fun portfolio => Sound startingCash portfolio ∧ ProfitsScaled portfolio ∧
        profitGap portfolio = 0)
      (fun portfolio step => ¬ ProfitSplits assumptions portfolio step.call)
      (fun step : SessionStep => step.Scaled ∧ step.ends = true)
      (fun portfolio step allowed held => by
        have sound := held.1.serve commission allowed.1
        have stored : serve assumptions portfolio step =
            (apply assumptions portfolio step.call).readBack := by
          unfold serve
          rw [allowed.2]
          rfl
        rw [stored] at sound ⊢
        rw [and_iff_right sound, and_iff_right (profitsScaled_readBack _)]
        exact readBack_profitGap_iff held.1.balanced.holdings held.2.1 held.2.2)
      _ steps (fun step member => ⟨submitted step member, ends step member⟩)
      ⟨start, rows, level⟩
    rw [← decides]
    -- The books stay sound and the rows on their scale in any case.
    have always := (@Runs.Along.true _ _ (serve assumptions) (.create startingCash createdAt)
      steps).and_labels
      (fun step member => And.intro (submitted step member) (ends step member)) |>.preserves
      (motive := fun portfolio => Sound startingCash portfolio ∧ ProfitsScaled portfolio)
      (fun portfolio step guard held => ⟨held.1.serve commission guard.2.1, by
        unfold serve
        rw [guard.2.2]
        exact profitsScaled_readBack _⟩)
      ⟨start, rows⟩
    refine forall₂_congr fun visited member => ?_
    rcases always visited member with ⟨sound, scaled⟩
    rw [sound.identity_iff, and_iff_right sound, and_iff_right scaled]

end Runs

/-! ## Two round trips -/

/-- Two assets of different sectors, and the price of each. -/
def pairMarket (alpha bravo : Rat) : Market where
  assets :=
    [{ id := 0, symbol := "ALPHA", sector := some "energy" },
     { id := 1, symbol := "BRAVO", sector := some "health" }]
  latestBar := fun assetId => some (flatBar assetId 1 (if assetId = 0 then alpha else bravo))
  rules := defaultRiskRules
  today := 2

theorem market_unlimited (kind : OrderType.market = .limit ∨ OrderType.market = .stopLimit) :
    (none : Option Rat) ≠ none := by
  rcases kind with same | same <;> cases same

theorem market_unstopped (kind : OrderType.market = .stop ∨ OrderType.market = .stopLimit) :
    (none : Option Rat) ≠ none := by
  rcases kind with same | same <;> cases same

theorem market_plain (_ : OrderType.market = .market) :
    (none : Option Rat) = none ∧ (none : Option Rat) = none :=
  ⟨rfl, rfl⟩

def oneShare (clientOrderId symbol : String) (side : Side) : OrderRequest where
  clientOrderId := clientOrderId
  symbol := symbol
  side := side
  orderType := .market
  quantity := 1
  limitPrice := none
  stopPrice := none
  quantity_pos := stopLimitBuy.quantity_pos
  limitPrice_pos := absent_pos
  stopPrice_pos := absent_pos
  limit_required := market_unlimited
  stop_required := market_unstopped
  market_plain := market_plain

/-- A share in a session of its own. -/
def tradeOne (alpha bravo : Rat) (clientOrderId symbol : String) (side : Side) : SessionStep where
  market := pairMarket alpha bravo
  operation := .submit (oneShare clientOrderId symbol side)
  ends := true

/-- A share bought at 100 and sold at 200. -/
def gainfulTrip : List SessionStep :=
  [tradeOne 100 100 "first" "ALPHA" .buy, tradeOne 200 100 "second" "ALPHA" .sell]

/-- Another share is bought at 100 and sold at 100.0025, of which the friction leaves
99.9824995. -/
def twoTrips : List SessionStep :=
  gainfulTrip ++
    [tradeOne 200 100 "third" "BRAVO" .buy, tradeOne 200 (1000025 / 10000) "fourth" "BRAVO" .sell]

/-- The second sale loses 2.0375005.  The portfolio's 95.9024995 becomes 95.902500, and the
position's loss 2.037501. -/
theorem twoTrips_realized :
    (twoTrips.foldl (serve .default) (.create 100000 0)).realizedPnl = 95902500 / 1000000 ∧
      (twoTrips.foldl (serve .default) (.create 100000 0)).positions.map
        PaperPosition.realizedPnl = [97940000 / 1000000, -2037501 / 1000000] := by
  decide +kernel

theorem twoTrips_differ :
    ¬ forall visited,
      visited ∈ Runs.states (serve .default) (.create 100000 0) twoTrips ->
        LedgerIdentity .default 100000 visited := by
  intro identity
  have realized := (identity _ (Runs.foldl_mem_states _ twoTrips)).realized
  rw [twoTrips_realized.1, twoTrips_realized.2] at realized
  exact absurd realized (by norm_num)

/-- Where the totals end on one side of zero the profit is not split. -/
theorem not_splits_of_signs {assumptions : ExecutionAssumptions} {portfolio : PaperPortfolio}
    {operation : Market × Operation}
    (signs : (completedFill assumptions portfolio operation).all (fun due =>
      decide (0 ≤ portfolio.realizedPnl + profitOf assumptions portfolio due <->
        0 ≤ (positionOf portfolio due.assetId).realizedPnl +
          profitOf assumptions portfolio due)) = true) :
    ¬ ProfitSplits assumptions portfolio operation := by
  rintro ⟨due, known, _, apart⟩
  rw [known] at signs
  exact apart (of_decide_eq_true signs)

/-- The stored rows agree after the purchase and the sale at a profit. -/
theorem gainfulTrip_identity :
    LedgerIdentity .default 100000
      (gainfulTrip.foldl (serve .default) (.create 100000 0)) := by
  have whole : forall count : Int, OnGrid moneyUnit (count : Rat) := fun count =>
    ⟨count * 1000000, by
      unfold moneyUnit
      push_cast
      ring⟩
  refine ((ledgerIdentity_states .default (whole 1) 100000 (whole 100000) 0 gainfulTrip
    ?_).2 ?_).mpr ?_ _ (Runs.foldl_mem_states _ gainfulTrip)
  · intro step member request asked
    rcases List.mem_pair.mp member with rfl | rfl <;>
      · cases asked
        exact ⟨100000000, by norm_num [oneShare, shareUnit]⟩
  · intro step member
    rcases List.mem_pair.mp member with rfl | rfl <;> rfl
  · exact ⟨not_splits_of_signs (by decide +kernel), not_splits_of_signs (by decide +kernel),
      trivial⟩

end PaperTrading
end MarketIntelligence
