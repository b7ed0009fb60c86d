import MarketIntelligence.PaperTrading.Engine
import MarketIntelligence.Foundations.Loops
import Mathlib.Tactic.Linarith

namespace MarketIntelligence
namespace PaperTrading

open Foundations

/-!
# What an operation can do

An operation either fills one order or moves no money at all.  Which of the two
is decided before anything is written, by the fill that is due.
-/

/-! ## The due fill -/

structure DueFill where
  side : Side
  assetId : Identifier
  quantity : Rat
  price : Rat
  deriving DecidableEq, Repr

/-- The fill a new order makes at once. -/
def dueOnSubmit (assumptions : ExecutionAssumptions) (market : Market)
    (portfolio : PaperPortfolio) (request : OrderRequest) : Option DueFill :=
  match existingOrder portfolio request.clientOrderId, findQuote market request.symbol,
      preview assumptions market portfolio request with
  | none, .ok (asset, _), .ok preview =>
      if preview.outcome = .wouldFill then
        preview.estimatedPrice.map fun price =>
          { side := request.side, assetId := asset.id, quantity := request.quantity,
            price := price }
      else none
  | _, _, _ => none

/-- The fill an open order makes on a bar. -/
def dueOnBar (assumptions : ExecutionAssumptions) (portfolio : PaperPortfolio) (orderId : Nat)
    (bar : PriceBar) : Option DueFill :=
  match portfolio.orders[orderId]? with
  | none => none
  | some order =>
      match eligiblePrice order.toOrderRequest bar order.isTriggered with
      | .error _ => none
      | .ok eligible =>
          if order.status.isOpen = true ∧ eligible.outcome = .wouldFill then
            eligible.basePrice.map fun base =>
              { side := order.side, assetId := order.assetId, quantity := order.quantity,
                price := applyFriction assumptions base order.side order.limitPrice }
          else none

def dueFill (assumptions : ExecutionAssumptions) (portfolio : PaperPortfolio)
    (operation : Market × Operation) : Option DueFill :=
  match operation.2 with
  | .submit request => dueOnSubmit assumptions operation.1 portfolio request
  | .processOrder orderId bar => dueOnBar assumptions portfolio orderId bar
  | .cancel _ => none
  | .pause => none
  | .resume => none

/-! ## Operations that move no money -/

/-- The orders after a write that fills none of them. -/
inductive OrdersWritten (orders : List PaperOrder) : List PaperOrder -> Prop where
  | same : OrdersWritten orders orders
  | added (order : PaperOrder)
      (fresh : forall other, other ∈ orders -> other.clientOrderId ≠ order.clientOrderId)
      (unfilled : order.status ≠ .filled) : OrdersWritten orders (orders ++ [order])
  | changed (orderId : Nat) (before after : PaperOrder) (found : orders[orderId]? = some before)
      (client : after.clientOrderId = before.clientOrderId) (wasUnfilled : before.status ≠ .filled)
      (unfilled : after.status ≠ .filled) : OrdersWritten orders (orders.set orderId after)

/-- The write leaves the money, the positions and the fills alone. -/
structure Quiet (portfolio next : PaperPortfolio) : Prop where
  startingCash : next.startingCash = portfolio.startingCash
  cashBalance : next.cashBalance = portfolio.cashBalance
  realizedPnl : next.realizedPnl = portfolio.realizedPnl
  positions : next.positions = portfolio.positions
  fills : next.fills = portfolio.fills
  orders : OrdersWritten portfolio.orders next.orders

theorem Quiet.refl (portfolio : PaperPortfolio) : Quiet portfolio portfolio :=
  { startingCash := rfl, cashBalance := rfl, realizedPnl := rfl, positions := rfl, fills := rfl,
    orders := .same }

theorem Quiet.of_orders {portfolio : PaperPortfolio} {orders : List PaperOrder}
    (written : OrdersWritten portfolio.orders orders) :
    Quiet portfolio { portfolio with orders := orders } :=
  { startingCash := rfl, cashBalance := rfl, realizedPnl := rfl, positions := rfl, fills := rfl,
    orders := written }

theorem initialStatus_ne_filled (outcome : Outcome) : initialStatus outcome ≠ .filled := by
  cases outcome <;> decide

theorem isOpen_ne_filled {status : OrderStatus} (isOpen : status.isOpen = true) :
    status ≠ .filled := by
  cases status <;> simp_all [OrderStatus.isOpen]

theorem existingOrder_none {portfolio : PaperPortfolio} {clientOrderId : String}
    (absent : existingOrder portfolio clientOrderId = none) :
    forall order, order ∈ portfolio.orders -> order.clientOrderId ≠ clientOrderId := by
  intro order member same
  have none := List.findIdx?_eq_none_iff.mp absent order member
  exact absurd (decide_eq_true same) (by simpa using none)

/-! ## Fills -/

section Fill

variable {assumptions : ExecutionAssumptions} {market : Market} {portfolio next : PaperPortfolio}
  {orderId : Nat} {order : PaperOrder} {bar : PriceBar} {price : Rat}

theorem takeSnapshot_ok {eventTime : Instant}
    (done : takeSnapshot market portfolio eventTime = .ok next) :
    (forall position, position ∈ portfolio.positions -> 0 ≤ position.quantity) ∧
      exists snapshot, next = { portfolio with snapshots := portfolio.snapshots ++ [snapshot] } := by
  unfold takeSnapshot at done
  split at done
  · cases done
  · rename_i stored
    refine ⟨fun position member => ?_, ⟨_, (Except.ok.inj done).symm⟩⟩
    by_contra negative
    exact stored (List.any_eq_true.mpr ⟨position, member, decide_eq_true (not_le.mp negative)⟩)

theorem takeSnapshot_eq_ok (market : Market) (eventTime : Instant)
    (nonneg : forall position, position ∈ portfolio.positions -> 0 ≤ position.quantity) :
    exists snapshot, takeSnapshot market portfolio eventTime =
      .ok { portfolio with snapshots := portfolio.snapshots ++ [snapshot] } := by
  unfold takeSnapshot
  split
  · rename_i negative
    rcases List.any_eq_true.mp negative with ⟨position, member, below⟩
    exact absurd (nonneg position member) (not_le.mpr (of_decide_eq_true below))
  · exact ⟨_, rfl⟩

/-- Everything a completed fill changes: the position it updates, the books it writes, and one
more snapshot.  No position is short afterwards. -/
theorem fill_ok (done : fill assumptions market portfolio orderId order bar price = .ok next) :
    exists updated snapshot,
      updatePosition assumptions (positionOf portfolio order.assetId) order.side order.quantity
        price = .ok updated ∧
      (forall position, position ∈ Tables.put PaperPosition.assetId updated portfolio.positions ->
        0 ≤ position.quantity) ∧
      next = { book assumptions portfolio orderId order bar price updated with
        snapshots := portfolio.snapshots ++ [snapshot] } := by
  unfold fill at done
  rcases Loops.except_bind_ok done with ⟨updated, computed, snapshotted⟩
  rcases takeSnapshot_ok snapshotted with ⟨nonneg, snapshot, written⟩
  exact ⟨updated, snapshot, computed, nonneg, written⟩

end Fill

/-! ## Submitting -/

section Submit

variable {assumptions : ExecutionAssumptions} {market : Market} {portfolio : PaperPortfolio}
  {request : OrderRequest} {asset : Asset} {bar : PriceBar} {shown : OrderPreview}

theorem submitNew_eq (quote : findQuote market request.symbol = .ok (asset, bar))
    (previewed : preview assumptions market portfolio request = .ok shown) :
    submitNew assumptions market portfolio request =
      match shown.outcome, shown.estimatedPrice with
      | .wouldFill, some price =>
          fill assumptions market
            { portfolio with orders := portfolio.orders ++ [newOrder request asset shown] }
            portfolio.orders.length (newOrder request asset shown) bar price
      | _, _ =>
          .ok { portfolio with orders := portfolio.orders ++ [newOrder request asset shown] } := by
  unfold submitNew
  rw [quote, previewed]
  rfl

theorem added_quiet (absent : existingOrder portfolio request.clientOrderId = none) :
    Quiet portfolio
      { portfolio with orders := portfolio.orders ++ [newOrder request asset shown] } :=
  Quiet.of_orders (.added _ (existingOrder_none absent) (initialStatus_ne_filled _))

end Submit

/-- The order is stored, open, and nothing else has been written. -/
structure Booking (portfolio stored : PaperPortfolio) (orderId : Nat) (order : PaperOrder) :
    Prop where
  quiet : Quiet portfolio stored
  found : stored.orders[orderId]? = some order
  unfilled : order.status ≠ .filled

section Operations

variable {assumptions : ExecutionAssumptions} {portfolio : PaperPortfolio}
  {operation : Market × Operation}

/-- The order is found again after its fill. -/
theorem resultOf_fill {market : Market} {stored next : PaperPortfolio} {orderId : Nat}
    {order : PaperOrder} {bar : PriceBar} {price : Rat}
    (found : stored.orders[orderId]? = some order)
    (done : fill assumptions market stored orderId order bar price = .ok next) (replay : Bool) :
    exists result, resultOf next orderId replay = .ok result := by
  rcases fill_ok done with ⟨updated, snapshot, _, _, written⟩
  have bound := (List.getElem?_eq_some_iff.mp found).1
  unfold resultOf
  rw [written]
  simp only [book, List.getElem?_set_self bound]
  exact ⟨_, rfl⟩

theorem execute_submit_due {market : Market} {request : OrderRequest} {due : DueFill}
    (known : dueOnSubmit assumptions market portfolio request = some due) :
    exists stored orderId order bar, Booking portfolio stored orderId order ∧
      order.side = due.side ∧ order.assetId = due.assetId ∧ order.quantity = due.quantity ∧
      execute assumptions portfolio (market, .submit request) =
        fill assumptions market stored orderId order bar due.price := by
  unfold dueOnSubmit at known
  split at known
  · rename_i asset bar shown absent quote previewed
    split at known
    · rename_i outcome
      rcases Option.map_eq_some_iff.mp known with ⟨price, estimated, rfl⟩
      have found : (portfolio.orders ++ [newOrder request asset shown])[portfolio.orders.length]? =
          some (newOrder request asset shown) := List.getElem?_concat_length
      refine ⟨_, portfolio.orders.length, newOrder request asset shown, bar,
        { quiet := added_quiet absent, found := found, unfilled := initialStatus_ne_filled _ },
        rfl, rfl, rfl, ?_⟩
      have submitted := submitNew_eq quote previewed
      rw [outcome, estimated] at submitted
      dsimp only at submitted
      change (submit assumptions market portfolio request).map Prod.snd = _
      unfold submit
      rw [absent, submitted]
      cases filled : fill assumptions market
          { portfolio with orders := portfolio.orders ++ [newOrder request asset shown] }
          portfolio.orders.length (newOrder request asset shown) bar price with
      | error failure => rfl
      | ok next =>
          rcases resultOf_fill found filled false with ⟨result, shownResult⟩
          change (do let result ← resultOf next portfolio.orders.length false
                     return (result, next) : Except TradingError (OrderResult × PaperPortfolio)).map
            Prod.snd = _
          rw [shownResult]
          rfl
    · cases known
  · cases known

/-- The status an open order has while a bar is being processed is not `filled`. -/
theorem processed_ne_filled (triggered : Bool) (outcome : Outcome) :
    (if (triggered && decide (outcome ≠ .wouldFill)) = true then OrderStatus.triggered
      else OrderStatus.pending) ≠ .filled := by
  split <;> decide

theorem execute_process_due (market : Market) {orderId : Nat} {bar : PriceBar} {due : DueFill}
    (known : dueOnBar assumptions portfolio orderId bar = some due) :
    exists stored place order source, Booking portfolio stored place order ∧
      order.side = due.side ∧ order.assetId = due.assetId ∧ order.quantity = due.quantity ∧
      execute assumptions portfolio (market, .processOrder orderId bar) =
        fill assumptions market stored place order source due.price := by
  unfold dueOnBar at known
  split at known
  · cases known
  · rename_i order found
    split at known
    · cases known
    · rename_i eligible eligibleOk
      split at known
      · rename_i both
        rcases both with ⟨isOpen, outcome⟩
        rcases Option.map_eq_some_iff.mp known with ⟨base, baseEq, rfl⟩
        have bound := (List.getElem?_eq_some_iff.mp found).1
        let waiting : PaperOrder := { order with
          isTriggered := eligible.triggered
          status := if eligible.triggered && eligible.outcome ≠ .wouldFill then .triggered
            else .pending }
        have unfilled : waiting.status ≠ .filled := processed_ne_filled _ _
        refine ⟨{ portfolio with orders := portfolio.orders.set orderId waiting }, orderId, waiting,
          bar, ?_, rfl, rfl, rfl, ?_⟩
        · exact
            { quiet := Quiet.of_orders
                (.changed orderId order waiting found rfl (isOpen_ne_filled isOpen) unfilled)
              found := List.getElem?_set_self bound
              unfilled := unfilled }
        · change processOrder assumptions market portfolio orderId bar = _
          unfold processOrder
          rw [found]
          dsimp only
          rw [if_neg (by simp [isOpen]), eligibleOk]
          simp only [bind, Except.bind, baseEq, outcome, waiting]
      · cases known

theorem execute_due {due : DueFill} (known : dueFill assumptions portfolio operation = some due) :
    exists stored orderId order bar, Booking portfolio stored orderId order ∧
      order.side = due.side ∧ order.assetId = due.assetId ∧ order.quantity = due.quantity ∧
      execute assumptions portfolio operation =
        fill assumptions operation.1 stored orderId order bar due.price := by
  rcases operation with ⟨market, body⟩
  cases body with
  | submit request => exact execute_submit_due known
  | processOrder orderId bar => exact execute_process_due market known
  | cancel orderId => cases known
  | pause => cases known
  | resume => cases known

/-- What a submission does: nothing for a known client order identifier, otherwise a new order,
which is filled if the preview says so. -/
theorem submit_cases {market : Market} {request : OrderRequest} {result : OrderResult}
    {next : PaperPortfolio}
    (done : submit assumptions market portfolio request = .ok (result, next)) :
    (existingOrder portfolio request.clientOrderId ≠ none ∧ next = portfolio) ∨
      exists asset bar shown, existingOrder portfolio request.clientOrderId = none ∧
        findQuote market request.symbol = .ok (asset, bar) ∧
        preview assumptions market portfolio request = .ok shown ∧
        ((exists price, shown.outcome = .wouldFill ∧ shown.estimatedPrice = some price ∧
            fill assumptions market
              { portfolio with orders := portfolio.orders ++ [newOrder request asset shown] }
              portfolio.orders.length (newOrder request asset shown) bar price = .ok next) ∨
          ((shown.outcome = .wouldFill -> shown.estimatedPrice = none) ∧
            next = { portfolio with
              orders := portfolio.orders ++ [newOrder request asset shown] })) := by
  unfold submit at done
  cases absent : existingOrder portfolio request.clientOrderId with
  | some orderId =>
      rw [absent] at done
      rcases Loops.except_bind_ok done with ⟨found, _, returned⟩
      cases returned
      exact Or.inl ⟨Option.some_ne_none _, rfl⟩
  | none =>
      rw [absent] at done
      rcases Loops.except_bind_ok done with ⟨written, submitted, rest⟩
      rcases Loops.except_bind_ok rest with ⟨found, _, returned⟩
      cases returned
      have parts := submitted
      unfold submitNew at parts
      rcases Loops.except_bind_ok parts with ⟨⟨asset, bar⟩, quote, previewPart⟩
      rcases Loops.except_bind_ok previewPart with ⟨shown, previewed, _⟩
      rw [submitNew_eq quote previewed] at submitted
      refine Or.inr ⟨asset, bar, shown, rfl, quote, previewed, ?_⟩
      split at submitted
      · rename_i price outcome estimated
        exact Or.inl ⟨price, outcome, estimated, submitted⟩
      · rename_i unfilled
        cases submitted
        refine Or.inr ⟨?_, rfl⟩
        intro fills
        cases estimated : shown.estimatedPrice with
        | none => rfl
        | some price => exact absurd estimated (unfilled price fills)

theorem submit_quiet {market : Market} {request : OrderRequest} {result : OrderResult}
    {next : PaperPortfolio} (noFill : dueOnSubmit assumptions market portfolio request = none)
    (done : submit assumptions market portfolio request = .ok (result, next)) :
    Quiet portfolio next := by
  rcases submit_cases done with ⟨_, same⟩ | ⟨asset, bar, shown, absent, quote, previewed, written⟩
  · rw [same]
    exact Quiet.refl portfolio
  · rcases written with ⟨price, outcome, estimated, _⟩ | ⟨_, same⟩
    · unfold dueOnSubmit at noFill
      rw [absent, quote, previewed] at noFill
      dsimp only at noFill
      rw [if_pos outcome, estimated] at noFill
      cases noFill
    · rw [same]
      exact added_quiet absent

/-- The result of a submission is not kept. -/
theorem execute_submit_ok {market : Market} {request : OrderRequest} {next : PaperPortfolio}
    (done : execute assumptions portfolio (market, .submit request) = .ok next) :
    exists result, submit assumptions market portfolio request = .ok (result, next) := by
  change (submit assumptions market portfolio request).map Prod.snd = _ at done
  cases submitted : submit assumptions market portfolio request with
  | error failure =>
      rw [submitted] at done
      cases done
  | ok written =>
      rw [submitted] at done
      cases done
      exact ⟨written.1, rfl⟩

theorem processOrder_quiet {market : Market} {orderId : Nat} {bar : PriceBar}
    {next : PaperPortfolio} (noFill : dueOnBar assumptions portfolio orderId bar = none)
    (done : processOrder assumptions market portfolio orderId bar = .ok next) :
    Quiet portfolio next := by
  unfold processOrder at done
  unfold dueOnBar at noFill
  cases found : portfolio.orders[orderId]? with
  | none =>
      rw [found] at done
      cases done
  | some order =>
      rw [found] at done noFill
      dsimp only at done noFill
      cases isOpen : order.status.isOpen with
      | false =>
          rw [if_pos isOpen] at done
          cases done
          exact Quiet.refl portfolio
      | true =>
          rw [if_neg (by simp [isOpen])] at done
          rcases Loops.except_bind_ok done with ⟨eligible, eligibleOk, rest⟩
          rw [eligibleOk] at noFill
          dsimp only at noFill rest
          split at rest
          · rename_i base baseEq outcome
            rw [if_pos ⟨isOpen, outcome⟩, baseEq] at noFill
            cases noFill
          · cases rest
            exact Quiet.of_orders (.changed orderId order _ found rfl (isOpen_ne_filled isOpen)
              (processed_ne_filled _ _))

theorem cancel_quiet {orderId : Nat} {next : PaperPortfolio}
    (done : cancel portfolio orderId = .ok next) : Quiet portfolio next := by
  unfold cancel at done
  cases found : portfolio.orders[orderId]? with
  | none =>
      rw [found] at done
      cases done
  | some order =>
      rw [found] at done
      dsimp only at done
      split at done
      · cases done
      · rename_i isOpen
        cases done
        exact Quiet.of_orders (.changed orderId order _ found rfl
          (isOpen_ne_filled (by simpa using isOpen)) fun filled => OrderStatus.noConfusion filled)

/-- Without a due fill, an operation moves no money. -/
theorem execute_quiet {next : PaperPortfolio}
    (noFill : dueFill assumptions portfolio operation = none)
    (done : execute assumptions portfolio operation = .ok next) : Quiet portfolio next := by
  rcases operation with ⟨market, body⟩
  cases body with
  | submit request =>
      rcases execute_submit_ok done with ⟨result, submitted⟩
      exact submit_quiet noFill submitted
  | processOrder orderId bar => exact processOrder_quiet noFill done
  | cancel orderId => exact cancel_quiet done
  | pause =>
      cases done
      exact { Quiet.refl portfolio with }
  | resume =>
      cases done
      exact { Quiet.refl portfolio with }

end Operations

end PaperTrading
end MarketIntelligence
