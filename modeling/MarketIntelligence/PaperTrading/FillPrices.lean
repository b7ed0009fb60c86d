import MarketIntelligence.PaperTrading.Lifecycle

namespace MarketIntelligence
namespace PaperTrading

open Foundations
open DecimalGrid

/-!
# The prices of fills

Friction never takes a price to the trader's advantage, and the limit takes back what it
adds beyond the limit.  A limit or stop-limit order only fills where the bar reaches its
limit.  The validators let a plain stop order carry a limit price as well, which no part of
the price logic compares with the bar.

A stop-limit order asks for its limit on the whole bar as soon as its stop is reached
anywhere in it.  The open then counts although it was traded before the stop, while a plain
stop that triggers inside the bar pays the stop.
-/

/-- The price at which an order fills on a bar. -/
def fillPrice (assumptions : ExecutionAssumptions) (request : OrderRequest) (bar : PriceBar)
    (already : Bool) : Option Rat :=
  match eligiblePrice request bar already with
  | .error _ => none
  | .ok eligible =>
      if eligible.outcome = .wouldFill then
        eligible.basePrice.map fun base =>
          applyFriction assumptions base request.side request.limitPrice
      else none

section Due

variable {assumptions : ExecutionAssumptions} {market : Market} {portfolio : PaperPortfolio}
  {due : DueFill}

/-- The fill of an open order on a bar. -/
theorem dueOnBar_price {orderId : Nat} {bar : PriceBar}
    (known : dueOnBar assumptions portfolio orderId bar = some due) :
    exists order, portfolio.orders[orderId]? = some order ∧ due.side = order.side ∧
      fillPrice assumptions order.toOrderRequest bar order.isTriggered = some due.price := by
  unfold dueOnBar at known
  split at known
  · cases known
  · rename_i order found
    refine ⟨order, found, ?_⟩
    split at known
    · cases known
    · rename_i eligible eligibleOk
      split at known
      · rename_i both
        rcases Option.map_eq_some_iff.mp known with ⟨base, baseEq, same⟩
        subst same
        unfold fillPrice
        rw [eligibleOk]
        dsimp only
        rw [if_pos both.2, baseEq]
        exact ⟨rfl, rfl⟩
      · cases known

theorem dueOnSubmit_price {request : OrderRequest}
    (known : dueOnSubmit assumptions market portfolio request = some due) :
    exists asset bar, findQuote market request.symbol = .ok (asset, bar) ∧
      due.side = request.side ∧ fillPrice assumptions request bar false = some due.price := by
  unfold dueOnSubmit at known
  split at known
  · rename_i asset bar shown absent quote previewed
    rcases preview_cases quote previewed with ⟨eligible, eligibleOk, equal⟩
    refine ⟨asset, bar, quote, ?_⟩
    unfold fillPrice
    split at known
    · rename_i outcome
      rcases Option.map_eq_some_iff.mp known with ⟨price, estimated, same⟩
      subst same
      have fills : eligible.outcome = .wouldFill := by
        rw [equal, previewOn_outcome] at outcome
        split at outcome
        · exact outcome
        · cases outcome
      rw [eligibleOk]
      dsimp only
      rw [if_pos fills]
      rw [equal] at estimated
      unfold previewOn orElse at estimated
      dsimp only at estimated
      cases based : eligible.basePrice with
      | none =>
          rw [based] at estimated
          cases estimated
      | some base =>
          rw [based] at estimated
          dsimp only at estimated
          split at estimated
          · cases estimated
          · exact ⟨rfl, estimated⟩
    · cases known
  · cases known

end Due

/-! ## What is promised of requests and bars -/

/-- The validators admit eight decimal places, so a limit or a stop is compared with a bar as it
was sent, and no rounding comes between them. -/
structure OrderRequest.Scaled (request : OrderRequest) : Prop where
  limitPrice : forall price, request.limitPrice = some price -> OnGrid shareUnit price
  stopPrice : forall price, request.stopPrice = some price -> OnGrid shareUnit price

structure PriceBar.Ordered (bar : PriceBar) : Prop where
  low_open : bar.low ≤ bar.openPrice
  low_close : bar.low ≤ bar.close
  open_high : bar.openPrice ≤ bar.high
  close_high : bar.close ≤ bar.high

/-- A bar as the import stores it, which refuses prices that are not positive and rounds
them to the six decimal places of the columns. -/
structure PriceBar.Stored (bar : PriceBar) : Prop extends bar.Ordered where
  nonneg : 0 ≤ bar.low
  low_grid : OnGrid moneyUnit bar.low
  high_grid : OnGrid moneyUnit bar.high

/-- The price is no better than the market, that is, than the extreme of the bar on the trader's
side, and it is no worse than the limit of the order. -/
structure FairFill (request : OrderRequest) (bar : PriceBar) (price : Rat) : Prop where
  buys : request.side = .buy -> bar.low ≤ price
  sells : request.side = .sell -> price ≤ bar.high
  buyLimit : forall limit, request.limitPrice = some limit -> request.side = .buy -> price ≤ limit
  sellLimit : forall limit, request.limitPrice = some limit -> request.side = .sell -> limit ≤ price

/-- The limit price lies outside the bar, on the side where the bar does not reach it.  A plain
stop does not look at its limit, so this can happen there. -/
def LimitOutside (request : OrderRequest) (bar : PriceBar) : Prop :=
  exists limit, request.limitPrice = some limit ∧
    ((request.side = .buy ∧ limit < bar.low) ∨ (request.side = .sell ∧ bar.high < limit))

section Prices

variable {assumptions : ExecutionAssumptions} {request : OrderRequest} {bar : PriceBar}
  {already : Bool} {eligible : Eligibility} {base price limit : Rat}

theorem moneyUnit_onGrid : OnGrid shareUnit moneyUnit :=
  ⟨100, by norm_num [moneyUnit, shareUnit]⟩

/-- The base price of a limit order lies in the bar, and the bar reaches its limit. -/
theorem limitPriceOn_bounds {side : Side} {outcome : Outcome} (ordered : bar.Ordered)
    (limited : limitPriceOn side bar (some limit) = .ok (some base, outcome)) :
    bar.low ≤ base ∧ base ≤ bar.high ∧ (side = .buy -> bar.low ≤ limit) ∧
      (side = .sell -> limit ≤ bar.high) := by
  unfold limitPriceOn at limited
  cases side with
  | buy =>
      dsimp only at limited
      split at limited
      · rename_i below
        cases limited
        exact ⟨ordered.low_open, ordered.open_high, fun _ => ordered.low_open.trans below,
          nofun⟩
      · rename_i above
        split at limited
        · rename_i touched
          cases limited
          exact ⟨touched, (not_le.mp above).le.trans ordered.open_high, fun _ => touched,
            nofun⟩
        · cases limited
  | sell =>
      dsimp only at limited
      split at limited
      · rename_i above
        cases limited
        exact ⟨ordered.low_open, ordered.open_high, nofun,
          fun _ => above.trans ordered.open_high⟩
      · rename_i below
        split at limited
        · rename_i touched
          cases limited
          exact ⟨ordered.low_open.trans (not_le.mp below).le, touched,
            nofun, fun _ => touched⟩
        · cases limited

theorem limited_bounds {found : Option Rat × Outcome} (ordered : bar.Ordered)
    (limited : limitPriceOn request.side bar request.limitPrice = .ok found)
    (based : found.1 = some base) :
    (request.side = .buy -> bar.low ≤ base) ∧ (request.side = .sell -> base ≤ bar.high) ∧
      (0 ≤ bar.low -> 0 ≤ base) ∧
      (LimitOutside request bar -> request.orderType = .stop) := by
  cases limit : request.limitPrice with
  | none =>
      rw [limit] at limited
      cases limited
  | some bound =>
      have same : found = (some base, found.2) := Prod.ext based rfl
      rw [limit, same] at limited
      rcases limitPriceOn_bounds ordered limited with ⟨low, high, buys, sells⟩
      refine ⟨fun _ => low, fun _ => high, fun nonneg => nonneg.trans low, ?_⟩
      rintro ⟨other, known, outside⟩
      cases limit.symm.trans known
      rcases outside with ⟨side, below⟩ | ⟨side, above⟩
      · exact absurd (buys side) (not_le.mpr below)
      · exact absurd (sells side) (not_le.mpr above)

/-- What a base price has to do with the bar.  Only a plain stop order may have its limit
price outside. -/
theorem EligibleOn.base_bounds (cases_ : EligibleOn request bar already eligible)
    (ordered : bar.Ordered) (based : eligible.basePrice = some base) :
    (request.side = .buy -> bar.low ≤ base) ∧ (request.side = .sell -> base ≤ bar.high) ∧
      (0 ≤ bar.low -> 0 ≤ base) ∧
      (LimitOutside request bar -> request.orderType = .stop) := by
  cases cases_ with
  | market kind =>
      cases based
      refine ⟨fun _ => ordered.low_open, fun _ => ordered.open_high,
        fun nonneg => nonneg.trans ordered.low_open, ?_⟩
      rintro ⟨limit, found, _⟩
      exact absurd (found.symm.trans (request.market_plain kind).1) (Option.some_ne_none _)
  | waits stops stop priced waiting => cases based
  | stop kind stop priced reached =>
      cases based
      have positive := (request.stopPrice_pos stop priced).le
      refine ⟨?_, ?_, ?_, fun _ => kind⟩
      · intro buys
        rw [buys]
        exact ordered.low_open.trans (le_max_left _ _)
      · intro sells
        rw [sells]
        exact (min_le_left _ _).trans ordered.open_high
      · intro nonneg
        cases request.side with
        | buy => exact positive.trans (le_max_right _ _)
        | sell => exact le_min (nonneg.trans ordered.low_open) positive
  | limit kind found limited =>
      exact limited_bounds ordered limited based
  | stopLimit kind stop priced reached found limited =>
      exact limited_bounds ordered limited based

theorem friction_nonneg (assumptions : ExecutionAssumptions) :
    0 ≤ (assumptions.spreadBps / 2 + assumptions.slippageBps) / 10000 := by
  have spread := assumptions.spreadBps_nonneg
  have slippage := assumptions.slippageBps_nonneg
  positivity

/-- A purchase pays at least its base price or the limit, and no more than the limit. -/
theorem applyFriction_buy (nonneg : 0 ≤ base) (onGrid : forall limit,
    request.limitPrice = some limit -> OnGrid shareUnit limit) {low : Rat}
    (grid : OnGrid shareUnit low) (above : low ≤ base) :
    (forall limit, request.limitPrice = some limit ->
      applyFriction assumptions base .buy request.limitPrice ≤ limit) ∧
    ((forall limit, request.limitPrice = some limit -> low ≤ limit) ->
      low ≤ applyFriction assumptions base .buy request.limitPrice) := by
  have friction := friction_nonneg assumptions
  have adjusted : low ≤
      base * (1 + (assumptions.spreadBps / 2 + assumptions.slippageBps) / 10000) := by
    nlinarith
  cases limited : request.limitPrice with
  | none =>
      refine ⟨fun _ found => (by cases found), fun _ => ?_⟩
      exact le_roundTo_of_onGrid shareUnit_pos grid adjusted
  | some limit =>
      refine ⟨?_, ?_⟩
      · intro other same
        cases same
        exact roundTo_le_of_onGrid shareUnit_pos (onGrid limit limited) (min_le_right _ _)
      · intro inside
        exact le_roundTo_of_onGrid shareUnit_pos grid (le_min adjusted (inside limit rfl))

theorem applyFriction_sell (nonneg : 0 ≤ base) (onGrid : forall limit,
    request.limitPrice = some limit -> OnGrid shareUnit limit) {high : Rat}
    (grid : OnGrid shareUnit high) (below : base ≤ high) :
    (forall limit, request.limitPrice = some limit ->
      limit ≤ applyFriction assumptions base .sell request.limitPrice) ∧
    ((forall limit, request.limitPrice = some limit -> limit ≤ high) ->
      applyFriction assumptions base .sell request.limitPrice ≤ high) := by
  have friction := friction_nonneg assumptions
  have adjusted :
      base * (1 - (assumptions.spreadBps / 2 + assumptions.slippageBps) / 10000) ≤ high := by
    nlinarith
  cases limited : request.limitPrice with
  | none =>
      refine ⟨fun _ found => (by cases found), fun _ => ?_⟩
      exact roundTo_le_of_onGrid shareUnit_pos grid adjusted
  | some limit =>
      refine ⟨?_, ?_⟩
      · intro other same
        cases same
        exact le_roundTo_of_onGrid shareUnit_pos (onGrid limit limited) (le_max_right _ _)
      · intro inside
        exact roundTo_le_of_onGrid shareUnit_pos grid (max_le adjusted (inside limit rfl))

theorem fillPrice_some (fills : fillPrice assumptions request bar already = some price) :
    exists eligible base, eligiblePrice request bar already = .ok eligible ∧
      eligible.basePrice = some base ∧
      applyFriction assumptions base request.side request.limitPrice = price := by
  unfold fillPrice at fills
  split at fills
  · cases fills
  · rename_i eligible eligibleOk
    split at fills
    · rcases Option.map_eq_some_iff.mp fills with ⟨base, based, same⟩
      exact ⟨eligible, base, eligibleOk, based, same⟩
    · cases fills

/-- The price made of a base price is fair exactly when the bar reaches the limit price, and it
always does so for an order other than a plain stop. -/
theorem EligibleOn.fair_iff (assumptions : ExecutionAssumptions)
    (cases_ : EligibleOn request bar already eligible) (scaled : request.Scaled)
    (stored : bar.Stored) (based : eligible.basePrice = some base) :
    FairFill request bar (applyFriction assumptions base request.side request.limitPrice) <->
      ¬ (request.orderType = .stop ∧ LimitOutside request bar) := by
  rcases cases_.base_bounds stored.toOrdered based with ⟨buys, sells, positive, kind⟩
  have nonneg := positive stored.nonneg
  have inside : ¬ (request.orderType = .stop ∧ LimitOutside request bar) <->
      ¬ LimitOutside request bar := by
    constructor
    · exact fun apart outside => apart ⟨kind outside, outside⟩
    · exact fun apart both => apart both.2
  rw [inside]
  cases side : request.side with
  | buy =>
      have bought := @applyFriction_buy assumptions request base nonneg scaled.limitPrice
        bar.low (stored.low_grid.refine moneyUnit_onGrid) (buys side)
      constructor
      · rintro fair ⟨limit, limited, outside⟩
        rcases outside with ⟨_, below⟩ | ⟨other, _⟩
        · have low := fair.buys side
          have high := fair.buyLimit limit limited side
          exact absurd (low.trans high) (not_le.mpr below)
        · cases side.symm.trans other
      · intro apart
        refine ⟨fun _ => ?_, ?_, ?_, ?_⟩
        · refine bought.2 fun limit limited => ?_
          exact not_lt.mp fun below => apart ⟨limit, limited, Or.inl ⟨side, below⟩⟩
        · exact fun other => by cases side.symm.trans other
        · exact fun limit limited _ => bought.1 limit limited
        · exact fun limit limited other => by cases side.symm.trans other
  | sell =>
      have sold := @applyFriction_sell assumptions request base nonneg scaled.limitPrice
        bar.high (stored.high_grid.refine moneyUnit_onGrid) (sells side)
      constructor
      · rintro fair ⟨limit, limited, outside⟩
        rcases outside with ⟨other, _⟩ | ⟨_, above⟩
        · cases side.symm.trans other
        · have high := fair.sells side
          have low := fair.sellLimit limit limited side
          exact absurd (low.trans high) (not_le.mpr above)
      · intro apart
        refine ⟨?_, fun _ => ?_, ?_, ?_⟩
        · exact fun other => by cases side.symm.trans other
        · refine sold.2 fun limit limited => ?_
          exact not_lt.mp fun above => apart ⟨limit, limited, Or.inr ⟨side, above⟩⟩
        · exact fun limit limited other => by cases side.symm.trans other
        · exact fun limit limited _ => sold.1 limit limited

/-- A fill is fair exactly when the bar reaches the limit price, and it always does so for an
order other than a plain stop. -/
theorem fairFill_iff (assumptions : ExecutionAssumptions) (request : OrderRequest)
    (bar : PriceBar) (already : Bool) (price : Rat) (scaled : request.Scaled)
    (stored : bar.Stored) (fills : fillPrice assumptions request bar already = some price) :
    FairFill request bar price <-> ¬ (request.orderType = .stop ∧ LimitOutside request bar) := by
  rcases fillPrice_some fills with ⟨eligible, base, eligibleOk, based, same⟩
  subst same
  exact (eligiblePrice_cases eligibleOk).fair_iff assumptions scaled stored based

end Prices

/-! ## The fills of a run -/

/-- The request and the bar that an operation prices, if it fills anything. -/
def Prices (portfolio : PaperPortfolio) (operation : Market × Operation) (request : OrderRequest)
    (bar : PriceBar) : Prop :=
  match operation.2 with
  | .submit submitted =>
      request = submitted ∧ exists asset, findQuote operation.1 submitted.symbol = .ok (asset, bar)
  | .processOrder orderId processed =>
      bar = processed ∧ exists order, portfolio.orders[orderId]? = some order ∧
        request = order.toOrderRequest
  | .cancel _ => False
  | .pause => False
  | .resume => False

/-- What the validators and the import promise of the operation. -/
structure Promised (operation : Market × Operation) : Prop where
  scaled : forall request, operation.2 = .submit request -> request.Scaled
  quoted : forall assetId bar, operation.1.latestBar assetId = some bar -> bar.Stored
  processed : forall orderId bar, operation.2 = .processOrder orderId bar -> bar.Stored

section Runs

variable {assumptions : ExecutionAssumptions} {portfolio : PaperPortfolio}
  {operation : Market × Operation}

theorem findQuote_bar {market : Market} {symbol : String} {asset : Asset} {bar : PriceBar}
    (quote : findQuote market symbol = .ok (asset, bar)) :
    market.latestBar asset.id = some bar := by
  unfold findQuote at quote
  split at quote
  · cases quote
  · rename_i known found
    split at quote
    · cases quote
    · rename_i latest shown
      cases quote
      exact shown

/-- A due fill has the price of a request that was promised on a bar that was. -/
theorem dueFill_prices {due : DueFill} (promised : Promised operation)
    (scaled : forall order, order ∈ portfolio.orders -> order.toOrderRequest.Scaled)
    (known : dueFill assumptions portfolio operation = some due) :
    exists request bar already, Prices portfolio operation request bar ∧ request.Scaled ∧
      bar.Stored ∧ due.side = request.side ∧
      fillPrice assumptions request bar already = some due.price := by
  rcases operation with ⟨market, body⟩
  cases body with
  | submit request =>
      rcases dueOnSubmit_price known with ⟨asset, bar, quote, side, price⟩
      exact ⟨request, bar, false, ⟨rfl, asset, quote⟩, promised.scaled request rfl,
        promised.quoted asset.id bar (findQuote_bar quote), side, price⟩
  | processOrder orderId bar =>
      rcases dueOnBar_price known with ⟨order, found, side, price⟩
      exact ⟨order.toOrderRequest, bar, order.isTriggered, ⟨rfl, order, found, rfl⟩,
        scaled order (List.mem_of_getElem? found), promised.processed orderId bar rfl, side, price⟩
  | cancel orderId => cases known
  | pause => cases known
  | resume => cases known

theorem apply_scaled (promised : Promised operation)
    (scaled : forall order, order ∈ portfolio.orders -> order.toOrderRequest.Scaled) :
    forall order, order ∈ (apply assumptions portfolio operation).orders ->
      order.toOrderRequest.Scaled := by
  intro order member
  rcases apply_requested member with ⟨before, stored, same⟩ | submitted
  · rw [same]
    exact scaled before stored
  · exact promised.scaled order.toOrderRequest submitted

/-- Along every run, a fill is fair exactly when it is not that of a plain stop order whose limit
price lies outside its bar. -/
theorem fills_fair_along (assumptions : ExecutionAssumptions) (startingCash : Rat)
    (createdAt : Instant) (operations : List (Market × Operation))
    (promised : forall operation, operation ∈ operations -> Promised operation) :
    Runs.Along (apply assumptions)
      (fun portfolio operation => forall due,
        dueFill assumptions portfolio operation = some due ->
          exists request bar, Prices portfolio operation request bar ∧ due.side = request.side ∧
            (FairFill request bar due.price <->
              ¬ (request.orderType = .stop ∧ LimitOutside request bar)))
      (.create startingCash createdAt) operations := by
  refine ((Runs.Along.true (.create startingCash createdAt) operations).and_labels
    promised).entails
    (motive := fun portfolio : PaperPortfolio =>
      forall order, order ∈ portfolio.orders -> order.toOrderRequest.Scaled) ?_ ?_ ?_
  · exact fun portfolio operation scaled kept => apply_scaled kept.2 scaled
  · intro portfolio operation scaled kept due known
    rcases dueFill_prices kept.2 scaled known with
      ⟨request, bar, already, prices, fit, stored, side, priced⟩
    rcases fillPrice_some priced with ⟨eligible, base, eligibleOk, based, same⟩
    refine ⟨request, bar, prices, side, ?_⟩
    rw [← same]
    exact (eligiblePrice_cases eligibleOk).fair_iff assumptions fit stored based
  · intro order member
    cases member

end Runs

theorem flatBar_stored (id : Identifier) (day : Nat) (cents : Nat) :
    (flatBar id day (cents / 100)).Stored where
  low_open := le_refl _
  low_close := le_refl _
  open_high := le_refl _
  close_high := le_refl _
  nonneg := by
    unfold flatBar
    positivity
  low_grid := ⟨cents * 10000, by
    unfold flatBar moneyUnit
    push_cast
    ring⟩
  high_grid := ⟨cents * 10000, by
    unfold flatBar moneyUnit
    push_cast
    ring⟩

theorem limitBuy_fair : FairFill (limitBuy "ALPHA") (flatBar 10 2 (8000 / 100)) 80 := by
  refine (fairFill_iff .default (limitBuy "ALPHA") (flatBar 10 2 (8000 / 100)) false 80 ?_
    (flatBar_stored 10 2 8000) (by decide +kernel)).mpr ?_
  · refine ⟨?_, nofun⟩
    intro price same
    cases same
    exact ⟨8000000000, by norm_num [shareUnit]⟩
  · exact fun both => absurd both.1 (by decide)

/-- Buy one share at the market once ninety is reached, with a limit price of five. -/
def cappedStop : OrderRequest where
  clientOrderId := "capped"
  symbol := "ALPHA"
  side := .buy
  orderType := .stop
  quantity := 1
  limitPrice := some 5
  stopPrice := some 90
  quantity_pos := stopLimitBuy.quantity_pos
  limitPrice_pos := fun price found => by
    cases found
    decide
  stopPrice_pos := fun price found => by
    cases found
    decide
  limit_required := fun kind => by rcases kind with same | same <;> cases same
  stop_required := fun _ absent => by cases absent
  market_plain := fun kind => by cases kind

/-- On a bar at one hundred the order is filled at five. -/
theorem cappedStop_unfair :
    (execute .default (.create 100000 0) (threeSectors, .submit cappedStop)).map
        (fun next => next.fills.map PaperFill.price) = .ok [5] ∧
      fillPrice .default cappedStop (flatBar 0 1 100) false = some 5 ∧
      ¬ FairFill cappedStop (flatBar 0 1 100) 5 := by
  refine ⟨by decide +kernel, by decide +kernel, ?_⟩
  intro fair
  have low : (100 : Rat) ≤ 5 := fair.buys rfl
  exact absurd low (by norm_num)

/-! ## Stop-limit and plain stop -/

/-- The stop has been reached when this price is traded: for a purchase by a price at or above
it, for a sale by one at or below it. -/
def reachedAt (side : Side) (price stop : Rat) : Prop :=
  match side with
  | .buy => stop ≤ price
  | .sell => price ≤ stop

/-- The limit admits the price: a purchase is made at the limit or below it, and a sale at the
limit or above it. -/
def admits (side : Side) (limit price : Rat) : Prop :=
  match side with
  | .buy => price ≤ limit
  | .sell => limit ≤ price

/-- The first price is better for the trader than the second one: lower in a purchase, and higher
in a sale. -/
def better (side : Side) (price other : Rat) : Prop :=
  match side with
  | .buy => price < other
  | .sell => other < price

section StopLimits

variable {limited plain : OrderRequest} {bar : PriceBar} {stop limit base : Rat}

theorem eligiblePrice_stop (kind : plain.orderType = .stop) (priced : plain.stopPrice = some stop)
    (reached : stopReached plain.side bar stop false = true) :
    eligiblePrice plain bar false =
      .ok ⟨some (stopBase plain.side bar stop), .wouldFill, true⟩ := by
  unfold eligiblePrice
  rw [kind, priced]
  exact if_neg (by rw [reached]; decide)

/-- A stop-limit order that fills on the bar that triggers it has reached its stop, and its base
price is that of its limit on the bar. -/
theorem limited_base (kind : limited.orderType = .stopLimit)
    (stopPrice : limited.stopPrice = some stop) (limitPrice : limited.limitPrice = some limit)
    (fills : eligiblePrice limited bar false = .ok ⟨some base, .wouldFill, true⟩) :
    stopReached limited.side bar stop false = true ∧
      exists outcome, limitPriceOn limited.side bar (some limit) = .ok (some base, outcome) := by
  generalize shape : (⟨some base, .wouldFill, true⟩ : Eligibility) = eligible at fills
  cases eligiblePrice_cases fills with
  | market other => cases kind.symm.trans other
  | limit other found limited => cases kind.symm.trans other
  | waits stops stop priced waiting => cases shape
  | stop other stop priced reached => cases kind.symm.trans other
  | stopLimit other known priced reached found limited_ =>
      cases stopPrice.symm.trans priced
      rw [limitPrice] at limited_
      have based : some base = found.1 := congrArg Eligibility.basePrice shape
      exact ⟨reached, found.2, limited_.trans (congrArg Except.ok (Prod.ext based.symm rfl))⟩

/-- The base price of a limit is the open where the limit admits it, and else the limit.  Whether
the bar had traded at the open before or after it reached the stop plays no part. -/
theorem limitPriceOn_base {side : Side} {outcome : Outcome}
    (found : limitPriceOn side bar (some limit) = .ok (some base, outcome)) :
    (admits side limit bar.openPrice ∧ base = bar.openPrice) ∨
      (¬ admits side limit bar.openPrice ∧ base = limit) := by
  unfold limitPriceOn at found
  unfold admits
  cases side with
  | buy =>
      dsimp only at found ⊢
      split at found
      · rename_i below
        cases found
        exact Or.inl ⟨below, rfl⟩
      · rename_i above
        split at found
        · cases found
          exact Or.inr ⟨above, rfl⟩
        · cases found
  | sell =>
      dsimp only at found ⊢
      split at found
      · rename_i above
        cases found
        exact Or.inl ⟨above, rfl⟩
      · rename_i below
        split at found
        · cases found
          exact Or.inr ⟨below, rfl⟩
        · cases found

/-- The open is no better than the base price of the plain stop exactly when it is beyond the
stop. -/
theorem open_notBetter_iff (side : Side) :
    ¬ better side bar.openPrice (stopBase side bar stop) <-> reachedAt side bar.openPrice stop := by
  unfold better stopBase reachedAt
  cases side with
  | buy => exact not_lt.trans max_le_iff |>.trans (and_iff_right (le_refl _))
  | sell => exact not_lt.trans le_min_iff |>.trans (and_iff_right (le_refl _))

/-- A limit that does not admit the open is better than the base price of the plain stop. -/
theorem limit_better {side : Side} (refused : ¬ admits side limit bar.openPrice) :
    better side limit (stopBase side bar stop) := by
  unfold admits at refused
  unfold better stopBase
  cases side with
  | buy => exact (not_le.mp refused).trans_le (le_max_left _ _)
  | sell => exact (min_le_left _ _).trans_lt (not_le.mp refused)

/-- A stop-limit order that is triggered and filled on a bar gets no better base price than the
plain stop exactly when the bar opens at or beyond the stop and the limit admits the open.  On a
bar that opens before the stop it is given the open, a price from before the trigger; on one that
opens beyond the limit it waits for the limit. -/
theorem stopLimit_notBetter_iff (limited plain : OrderRequest) (bar : PriceBar)
    (stop limit base : Rat) (limitedKind : limited.orderType = .stopLimit)
    (plainKind : plain.orderType = .stop) (sameSide : plain.side = limited.side)
    (limitedStop : limited.stopPrice = some stop) (plainStop : plain.stopPrice = some stop)
    (limitPrice : limited.limitPrice = some limit)
    (fills : eligiblePrice limited bar false = .ok ⟨some base, .wouldFill, true⟩) :
    exists plainBase, eligiblePrice plain bar false = .ok ⟨some plainBase, .wouldFill, true⟩ ∧
      (¬ better limited.side base plainBase <->
        reachedAt limited.side bar.openPrice stop ∧ admits limited.side limit bar.openPrice) := by
  rcases limited_base limitedKind limitedStop limitPrice fills with ⟨reached, outcome, found⟩
  rw [← sameSide] at reached
  refine ⟨stopBase limited.side bar stop, ?_, ?_⟩
  · rw [eligiblePrice_stop plainKind plainStop reached, sameSide]
  · rcases limitPriceOn_base found with ⟨admitted, same⟩ | ⟨refused, same⟩
    · rw [same, open_notBetter_iff, and_iff_left admitted]
    · rw [same]
      exact iff_of_false (not_not.mpr (limit_better refused)) fun both => refused both.2

end StopLimits

/-- A bar that opens at nine and rises to eleven. -/
def risingBar : PriceBar where
  id := 0
  eventTime := 0
  retrievalTime := 0
  openPrice := 9
  high := 11
  low := 9
  close := 11

/-- A bar that opens at fifteen and comes down to eleven. -/
def gapBar : PriceBar where
  id := 0
  eventTime := 0
  retrievalTime := 0
  openPrice := 15
  high := 16
  low := 11
  close := 12

/-- Buy one share once ten is reached, at a limit price for a stop-limit order. -/
def stopBuy (orderType : OrderType) (limitPrice : Option Rat)
    (positive : forall price, limitPrice = some price -> 0 < price)
    (required : orderType = .stopLimit -> limitPrice ≠ none)
    (stops : orderType = .stop ∨ orderType = .stopLimit) : OrderRequest where
  clientOrderId := "gap"
  symbol := "ALPHA"
  side := .buy
  orderType := orderType
  quantity := 1
  limitPrice := limitPrice
  stopPrice := some 10
  quantity_pos := stopLimitBuy.quantity_pos
  limitPrice_pos := positive
  stopPrice_pos := stopLimitBuy.limitPrice_pos
  limit_required := fun kind => by
    rcases kind with same | same
    · rcases stops with other | other <;> cases same.symm.trans other
    · exact required same
  stop_required := fun _ absent => by cases absent
  market_plain := fun kind => by
    rcases stops with other | other <;> cases kind.symm.trans other

def plainBuy : OrderRequest :=
  stopBuy .stop none absent_pos (fun kind => by cases kind) (Or.inl rfl)

def limitedBuy (limit : Rat) (positive : 0 < limit) : OrderRequest :=
  stopBuy .stopLimit (some limit)
    (fun price found => by
      cases found
      exact positive) (fun _ absent => by cases absent) (Or.inr rfl)

/-- The bar reaches the stop of ten on its way to eleven.  The stop-limit order is filled at the
open of nine, and the plain stop at ten. -/
theorem limitedBuy_better :
    eligiblePrice (limitedBuy 12 (by decide)) risingBar false =
        .ok ⟨some 9, .wouldFill, true⟩ ∧
      eligiblePrice plainBuy risingBar false = .ok ⟨some 10, .wouldFill, true⟩ ∧
      better .buy 9 10 := by
  refine ⟨by decide +kernel, by decide +kernel, ?_⟩
  have less : (9 : Rat) < 10 := by norm_num
  exact less

/-- On the gap bar the open is beyond the stop, and a limit of sixteen admits it. -/
theorem limitedBuy_notBetter_iff :
    exists plainBase, eligiblePrice plainBuy gapBar false =
        .ok ⟨some plainBase, .wouldFill, true⟩ ∧
      (¬ better .buy 15 plainBase <->
        reachedAt .buy gapBar.openPrice 10 ∧ admits .buy 16 gapBar.openPrice) :=
  stopLimit_notBetter_iff (limitedBuy 16 (by norm_num)) plainBuy gapBar 10 16 15 rfl rfl rfl rfl rfl
    rfl (by decide +kernel)

end PaperTrading
end MarketIntelligence
