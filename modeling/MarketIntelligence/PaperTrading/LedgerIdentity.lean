import MarketIntelligence.PaperTrading.Solvency

namespace MarketIntelligence
namespace PaperTrading

open Foundations

/-!
# The ledger of a paper portfolio

The fills are the record.  Cash and positions are what the fills add up to, an
order has a fill exactly when its status says so, and a client identifier names
one order.  A sale adds its profit to the portfolio and to its position alike,
so in memory an operation leaves the gap between the two as it finds it.
-/

/-! ## What the fills add up to -/

def PaperFill.cost (fill : PaperFill) : Rat :=
  fill.grossValue + fill.fees

def PaperFill.proceeds (fill : PaperFill) : Rat :=
  fill.grossValue - fill.fees

def boughtFor (fills : List PaperFill) : Rat :=
  ((fills.filter fun fill => fill.side = .buy).map PaperFill.cost).sum

def soldFor (fills : List PaperFill) : Rat :=
  ((fills.filter fun fill => fill.side = .sell).map PaperFill.proceeds).sum

def tradedQuantity (fills : List PaperFill) (side : Side) (assetId : Identifier) : Rat :=
  ((fills.filter fun fill => fill.side = side ∧ fill.assetId = assetId).map
    PaperFill.quantity).sum

/-- The quantity the fills leave of an asset. -/
def netQuantity (fills : List PaperFill) (assetId : Identifier) : Rat :=
  tradedQuantity fills .buy assetId - tradedQuantity fills .sell assetId

def fillCount (fills : List PaperFill) (orderId : Nat) : Nat :=
  fills.countP fun fill => fill.orderId = orderId

section Append

variable (fills : List PaperFill) (made : PaperFill)

theorem cash_append (startingCash : Rat) :
    startingCash - boughtFor (fills ++ [made]) + soldFor (fills ++ [made]) =
      startingCash - boughtFor fills + soldFor fills +
        match made.side with
        | .buy => -made.cost
        | .sell => made.proceeds := by
  unfold boughtFor soldFor
  cases side : made.side with
  | buy =>
      simp [List.filter_append, side]
      ring
  | sell =>
      simp [List.filter_append, side]
      ring

theorem netQuantity_append (assetId : Identifier) :
    netQuantity (fills ++ [made]) assetId =
      netQuantity fills assetId +
        if made.assetId = assetId then signedQuantity made.side made.quantity else 0 := by
  unfold netQuantity tradedQuantity
  by_cases same : made.assetId = assetId
  · cases side : made.side with
    | buy =>
        simp [List.filter_append, side, same, signedQuantity]
        ring
    | sell =>
        simp [List.filter_append, side, same, signedQuantity]
        ring
  · simp [List.filter_append, same]

theorem fillCount_append (orderId : Nat) :
    fillCount (fills ++ [made]) orderId =
      fillCount fills orderId + if made.orderId = orderId then 1 else 0 := by
  unfold fillCount
  rw [List.countP_append, List.countP_singleton]
  simp only [decide_eq_true_eq]

end Append

/-! ## The invariant -/

/-- What every operation keeps of the books, but for the realized profit. -/
structure Balanced (portfolio : PaperPortfolio) : Prop where
  cash : portfolio.cashBalance =
    portfolio.startingCash - boughtFor portfolio.fills + soldFor portfolio.fills
  quantities : forall assetId,
    ownedQuantity portfolio assetId = netQuantity portfolio.fills assetId
  distinct : (portfolio.positions.map PaperPosition.assetId).Nodup
  filled : forall orderId order, portfolio.orders[orderId]? = some order ->
    fillCount portfolio.fills orderId = if order.status = .filled then 1 else 0
  known : forall fill, fill ∈ portfolio.fills -> fill.orderId < portfolio.orders.length
  clients : (portfolio.orders.map fun order => order.clientOrderId).Nodup
  holdings : HoldingsNonneg portfolio

theorem Balanced.create (startingCash : Rat) (createdAt : Instant) :
    Balanced (.create startingCash createdAt) where
  cash := by
    change startingCash = startingCash - 0 + 0
    ring
  quantities := fun _ => (sub_zero 0).symm
  distinct := List.nodup_nil
  filled := fun _ _ found => by cases found
  known := fun _ member => absurd member List.not_mem_nil
  clients := List.nodup_nil
  holdings := fun _ member => absurd member List.not_mem_nil

theorem Balanced.position {portfolio : PaperPortfolio} (balanced : Balanced portfolio)
    {position : PaperPosition} (member : position ∈ portfolio.positions) :
    position.quantity = netQuantity portfolio.fills position.assetId := by
  rw [← balanced.quantities]
  unfold ownedQuantity
  rw [Tables.lookup_of_mem balanced.distinct member]
  rfl

/-! ## Writes that move no money -/

/-- An order that is not stored has no fill. -/
theorem Balanced.fillCount_length {portfolio : PaperPortfolio} (balanced : Balanced portfolio) :
    fillCount portfolio.fills portfolio.orders.length = 0 := by
  apply List.countP_eq_zero.mpr
  intro fill member same
  exact absurd (of_decide_eq_true same) (ne_of_lt (balanced.known fill member))

theorem map_set_of_eq {α β : Type} (read : α -> β) {values : List α} {index : Nat}
    {before : α} (after : α) (found : values[index]? = some before) (same : read after = read before) :
    (values.set index after).map read = values.map read := by
  rw [List.map_set, same]
  apply List.ext_getElem?
  intro position
  by_cases here : position = index
  · subst here
    have bound : position < (values.map read).length := by
      rw [List.length_map]
      exact (List.getElem?_eq_some_iff.mp found).1
    rw [List.getElem?_set_self bound, List.getElem?_map, found]
    rfl
  · rw [List.getElem?_set_ne (fun equal => here equal.symm)]

theorem Quiet.balanced {portfolio next : PaperPortfolio} (quiet : Quiet portfolio next)
    (balanced : Balanced portfolio) : Balanced next := by
  have orders : (forall orderId order, next.orders[orderId]? = some order ->
        fillCount portfolio.fills orderId = if order.status = .filled then 1 else 0) ∧
      portfolio.orders.length ≤ next.orders.length ∧
      (next.orders.map fun order => order.clientOrderId).Nodup := by
    have written := quiet.orders
    generalize next.orders = orders at written ⊢
    cases written with
    | same => exact ⟨balanced.filled, le_refl _, balanced.clients⟩
    | added order fresh unfilled =>
        refine ⟨fun orderId other found => ?_, ?_, ?_⟩
        · rcases lt_trichotomy orderId portfolio.orders.length with earlier | last | later
          · rw [List.getElem?_append_left earlier] at found
            exact balanced.filled orderId other found
          · rw [last, List.getElem?_concat_length] at found
            cases found
            rw [last, balanced.fillCount_length, if_neg unfilled]
          · have beyond : (portfolio.orders ++ [order]).length ≤ orderId := by
              rw [List.length_append, List.length_singleton]
              exact later
            rw [List.getElem?_eq_none beyond] at found
            cases found
        · rw [List.length_append]
          exact Nat.le_add_right _ _
        · refine Tables.nodup_append_row.mpr ⟨?_, balanced.clients⟩
          intro member
          rcases List.mem_map.mp member with ⟨existing, stored, same⟩
          exact fresh existing stored same
    | changed orderId before after found client wasUnfilled unfilled =>
        have bound := (List.getElem?_eq_some_iff.mp found).1
        refine ⟨fun position other looked => ?_, ?_, ?_⟩
        · by_cases here : position = orderId
          · rw [here, List.getElem?_set_self bound] at looked
            cases looked
            have count := balanced.filled orderId before found
            rw [if_neg wasUnfilled] at count
            rw [here, count, if_neg unfilled]
          · rw [List.getElem?_set_ne (fun equal => here equal.symm)] at looked
            exact balanced.filled position other looked
        · rw [List.length_set]
        · rw [map_set_of_eq _ after found client]
          exact balanced.clients
  refine
    { cash := ?_, quantities := ?_, distinct := ?_, filled := ?_, known := ?_,
      clients := orders.2.2, holdings := quiet.holdingsNonneg balanced.holdings }
  · rw [quiet.cashBalance, quiet.startingCash, quiet.fills]
    exact balanced.cash
  · intro assetId
    rw [quiet.ownedQuantity, quiet.fills]
    exact balanced.quantities assetId
  · rw [quiet.positions]
    exact balanced.distinct
  · rw [quiet.fills]
    exact orders.1
  · intro fill member
    rw [quiet.fills] at member
    exact lt_of_lt_of_le (balanced.known fill member) orders.2.1

/-! ## Fills -/

/-- A fill of a stored order that has none keeps the books. -/
theorem fill_balanced {assumptions : ExecutionAssumptions} {market : Market}
    {stored next : PaperPortfolio} {orderId : Nat} {order : PaperOrder} {bar : PriceBar}
    {price : Rat} (balanced : Balanced stored) (found : stored.orders[orderId]? = some order)
    (unfilled : order.status ≠ .filled)
    (done : fill assumptions market stored orderId order bar price = .ok next) :
    Balanced next := by
  rcases fill_ok done with ⟨updated, snapshot, computed, nonneg, written⟩
  have bound := (List.getElem?_eq_some_iff.mp found).1
  have held : 0 ≤ (positionOf stored order.assetId).quantity := by
    rw [positionOf_quantity]
    exact ownedQuantity_nonneg balanced.holdings order.assetId
  rcases updatePosition_ok assumptions order.side price order.quantity_pos held with
    ⟨position, positionOk, asset, quantity, _⟩
  rw [computed] at positionOk
  cases positionOk
  rw [positionOf_assetId] at asset
  rw [written]
  refine
    { cash := ?_, quantities := ?_, distinct := Tables.nodup_put balanced.distinct,
      filled := ?_, known := ?_, clients := ?_, holdings := nonneg }
  · change stored.cashBalance + paidBy assumptions order.side order.quantity price =
      stored.startingCash - boughtFor (stored.fills ++ [_]) + soldFor (stored.fills ++ [_])
    rw [cash_append, balanced.cash]
    cases side : order.side <;> rfl
  · intro assetId
    change ((Tables.lookup PaperPosition.assetId assetId
      (Tables.put PaperPosition.assetId updated stored.positions)).map
        PaperPosition.quantity).getD 0 = netQuantity (stored.fills ++ [_]) assetId
    rw [Tables.lookup_put, netQuantity_append, ← balanced.quantities, asset]
    by_cases same : order.assetId = assetId
    · rw [if_pos same, if_pos same, ← same, ← positionOf_quantity]
      exact quantity
    · rw [if_neg same, if_neg same, add_zero]
      rfl
  · intro place other looked
    change (stored.orders.set orderId _)[place]? = some other at looked
    change fillCount (stored.fills ++ [_]) place = _
    rw [fillCount_append]
    by_cases here : place = orderId
    · rw [here, List.getElem?_set_self bound] at looked
      cases looked
      have count := balanced.filled orderId order found
      rw [if_neg unfilled] at count
      rw [here, count, if_pos rfl, if_pos rfl]
    · rw [List.getElem?_set_ne (fun equal => here equal.symm)] at looked
      have elsewhere : ¬ orderId = place := fun equal => here equal.symm
      rw [balanced.filled place other looked, if_neg elsewhere, add_zero]
  · intro made member
    change made.orderId < (stored.orders.set orderId _).length
    rw [List.length_set]
    rcases List.mem_append.mp member with earlier | latest
    · exact balanced.known made earlier
    · rw [List.mem_singleton.mp latest]
      exact bound
  · change ((stored.orders.set orderId _).map fun order => order.clientOrderId).Nodup
    rw [map_set_of_eq _ { order with status := .filled, sourcePriceBarId := bar.id } found rfl]
    exact balanced.clients

/-! ## What an operation completes -/

/-- The fill that an operation completes.  A sale of more than is held is due as well, but the
stored check rolls it back. -/
def completedFill (assumptions : ExecutionAssumptions) (portfolio : PaperPortfolio)
    (operation : Market × Operation) : Option DueFill :=
  (dueFill assumptions portfolio operation).filter fun due =>
    due.side = .buy ∨ due.quantity ≤ ownedQuantity portfolio due.assetId

/-- Everything that a completed fill writes to the money, the positions and the record. -/
structure Filled (assumptions : ExecutionAssumptions) (portfolio next : PaperPortfolio)
    (due : DueFill) : Prop where
  startingCash : next.startingCash = portfolio.startingCash
  cashBalance : next.cashBalance =
    portfolio.cashBalance + paidBy assumptions due.side due.quantity due.price
  realizedPnl : next.realizedPnl = portfolio.realizedPnl +
    realizedBy assumptions (positionOf portfolio due.assetId) due.side due.quantity due.price
  position : exists updated,
    updatePosition assumptions (positionOf portfolio due.assetId) due.side due.quantity
      due.price = .ok updated ∧
    next.positions = Tables.put PaperPosition.assetId updated portfolio.positions
  record : exists made, next.fills = portfolio.fills ++ [made] ∧ made.quantity = due.quantity ∧
    made.price = due.price ∧ made.grossValue = money (due.price * due.quantity) ∧
    made.fees = assumptions.commission
  order : exists order, order ∈ next.orders ∧ order.quantity = due.quantity

section Operations

variable {assumptions : ExecutionAssumptions} {portfolio : PaperPortfolio}
  {operation : Market × Operation}

theorem apply_balanced (balanced : Balanced portfolio) :
    Balanced (apply assumptions portfolio operation) := by
  unfold apply
  cases done : execute assumptions portfolio operation with
  | error failure => exact balanced
  | ok next =>
      cases due : dueFill assumptions portfolio operation with
      | none => exact (execute_quiet due done).balanced balanced
      | some item =>
          rcases execute_due due with ⟨stored, orderId, order, bar, booking, _, _, _, same⟩
          rw [same] at done
          exact fill_balanced (booking.quiet.balanced balanced) booking.found booking.unfilled done

/-- Without a completed fill an operation moves no money, whether it returns or raises. -/
theorem apply_quiet (holdings : HoldingsNonneg portfolio)
    (noFill : completedFill assumptions portfolio operation = none) :
    Quiet portfolio (apply assumptions portfolio operation) := by
  unfold apply
  cases due : dueFill assumptions portfolio operation with
  | none =>
      cases done : execute assumptions portfolio operation with
      | error failure => exact Quiet.refl portfolio
      | ok next => exact execute_quiet due done
  | some item =>
      rcases execute_due due with
        ⟨stored, orderId, order, bar, booking, side, asset, quantity, same⟩
      have refused : ¬ (item.side = .buy ∨
          item.quantity ≤ PaperTrading.ownedQuantity portfolio item.assetId) := by
        intro kept
        unfold completedFill at noFill
        rw [due, Option.filter_some, if_pos (decide_eq_true kept)] at noFill
        cases noFill
      rcases not_or.mp refused with ⟨notBuy, exceeds⟩
      have sells : order.side = .sell := by
        rw [side]
        cases sideEq : item.side with
        | buy => exact absurd sideEq notBuy
        | sell => rfl
      have short : PaperTrading.ownedQuantity stored order.assetId < order.quantity := by
        rw [booking.quiet.ownedQuantity, asset, quantity]
        exact not_le.mp exceeds
      rw [same, fill_overfilled assumptions operation.1 orderId bar item.price
        (booking.quiet.holdingsNonneg holdings) sells short]
      exact Quiet.refl portfolio

theorem apply_filled (holdings : HoldingsNonneg portfolio) {due : DueFill}
    (completed : completedFill assumptions portfolio operation = some due) :
    Filled assumptions portfolio (apply assumptions portfolio operation) due := by
  rcases Option.filter_eq_some_iff.mp completed with ⟨known, kept⟩
  rcases execute_due known with
    ⟨stored, orderId, order, bar, booking, side, asset, quantity, same⟩
  have owned : order.side = .sell ->
      order.quantity ≤ PaperTrading.ownedQuantity stored order.assetId := by
    intro sells
    rw [booking.quiet.ownedQuantity, asset, quantity]
    rcases of_decide_eq_true kept with buys | held
    · exact absurd (side.symm.trans sells) (by rw [buys]; decide)
    · exact held
  rcases fill_covered assumptions operation.1 orderId bar due.price
    (booking.quiet.holdingsNonneg holdings) owned with ⟨next, done, _⟩
  have ends : apply assumptions portfolio operation = next := by
    unfold apply
    rw [same, done]
  have position : positionOf stored order.assetId = positionOf portfolio due.assetId := by
    unfold positionOf
    rw [booking.quiet.positions, asset]
  rcases fill_ok done with ⟨updated, snapshot, computed, _, written⟩
  have bound := (List.getElem?_eq_some_iff.mp booking.found).1
  rw [position, side, quantity] at computed
  rw [ends, written]
  exact
    { startingCash := booking.quiet.startingCash
      cashBalance := by
        change stored.cashBalance + paidBy assumptions order.side order.quantity due.price = _
        rw [booking.quiet.cashBalance, side, quantity]
      realizedPnl := by
        change stored.realizedPnl + realizedBy assumptions (positionOf stored order.assetId)
          order.side order.quantity due.price = _
        rw [booking.quiet.realizedPnl, position, side, quantity]
      position := ⟨updated, computed, by
        change Tables.put PaperPosition.assetId updated stored.positions = _
        rw [booking.quiet.positions]⟩
      record := by
        refine ⟨_, congrArg (· ++ _) booking.quiet.fills, quantity, rfl, ?_, rfl⟩
        rw [quantity]
      order := ⟨_, List.mem_set bound _, quantity⟩ }

theorem apply_startingCash (holdings : HoldingsNonneg portfolio) :
    (apply assumptions portfolio operation).startingCash = portfolio.startingCash := by
  cases completed : completedFill assumptions portfolio operation with
  | none => exact (apply_quiet holdings completed).startingCash
  | some due => exact (apply_filled holdings completed).startingCash

end Operations

/-! ## Realized profit -/

/-- What the portfolio's realized profit has over that of its positions. -/
def profitGap (portfolio : PaperPortfolio) : Rat :=
  portfolio.realizedPnl - (portfolio.positions.map PaperPosition.realizedPnl).sum

section Profit

variable {assumptions : ExecutionAssumptions} {portfolio next : PaperPortfolio}
  {position updated : PaperPosition} {side : Side} {quantity price : Rat} {due : DueFill}

/-- A fill keeps the asset of its position and adds the profit of a sale. -/
theorem updatePosition_profit
    (done : updatePosition assumptions position side quantity price = .ok updated) :
    updated.assetId = position.assetId ∧ updated.realizedPnl = position.realizedPnl +
      realizedBy assumptions position side quantity price := by
  unfold updatePosition at done
  cases side with
  | buy =>
      dsimp only at done
      split at done
      · cases done
      · cases done
        exact ⟨rfl, (add_zero _).symm⟩
  | sell =>
      cases done
      exact ⟨rfl, rfl⟩

/-- A value of the positions after a fill, by what it is of the position that the fill touches. -/
theorem Filled.sum_positions (filled : Filled assumptions portfolio next due)
    (value : PaperPosition -> Rat)
    (fresh : value { assetId := due.assetId, quantity := 0, averageCost := 0, realizedPnl := 0 } =
      0) :
    exists updated,
      updatePosition assumptions (positionOf portfolio due.assetId) due.side due.quantity
        due.price = .ok updated ∧
      (next.positions.map value).sum + value (positionOf portfolio due.assetId) =
        (portfolio.positions.map value).sum + value updated := by
  rcases filled.position with ⟨updated, computed, positions⟩
  refine ⟨updated, computed, ?_⟩
  have asset : updated.assetId = due.assetId :=
    (updatePosition_profit computed).1.trans (positionOf_assetId portfolio due.assetId)
  have before : ((Tables.lookup PaperPosition.assetId due.assetId portfolio.positions).map
      value).getD 0 = value (positionOf portfolio due.assetId) := by
    unfold positionOf
    cases Tables.lookup PaperPosition.assetId due.assetId portfolio.positions with
    | none => exact fresh.symm
    | some found => rfl
  have total := Tables.sum_put PaperPosition.assetId value updated portfolio.positions
  rw [asset, before] at total
  rw [positions]
  exact total

/-- In memory a fill adds its profit to both. -/
theorem Filled.profitGap_eq (filled : Filled assumptions portfolio next due) :
    profitGap next = profitGap portfolio := by
  rcases filled.sum_positions PaperPosition.realizedPnl rfl with ⟨updated, computed, total⟩
  have profit := (updatePosition_profit computed).2
  unfold profitGap
  rw [filled.realizedPnl]
  linarith

theorem Quiet.profitGap_eq (quiet : Quiet portfolio next) :
    profitGap next = profitGap portfolio := by
  unfold profitGap
  rw [quiet.realizedPnl, quiet.positions]

theorem apply_profitGap {operation : Market × Operation} (holdings : HoldingsNonneg portfolio) :
    profitGap (apply assumptions portfolio operation) = profitGap portfolio := by
  cases completed : completedFill assumptions portfolio operation with
  | none => exact (apply_quiet holdings completed).profitGap_eq
  | some due => exact (apply_filled holdings completed).profitGap_eq

end Profit

/-! ## Replays -/

/-- Submitting a known client identifier returns its order and writes nothing. -/
theorem submit_replay (assumptions : ExecutionAssumptions) (market : Market)
    {portfolio : PaperPortfolio} {request : OrderRequest}
    (used : exists order, order ∈ portfolio.orders ∧
      order.clientOrderId = request.clientOrderId) :
    exists orderId order, portfolio.orders[orderId]? = some order ∧
      order.clientOrderId = request.clientOrderId ∧
      submit assumptions market portfolio request =
        .ok ({ orderId := orderId, status := order.status,
               rejectionReasons := order.rejectionReasons, idempotentReplay := true },
          portfolio) := by
  cases existing : existingOrder portfolio request.clientOrderId with
  | none =>
      rcases used with ⟨order, member, same⟩
      exact absurd same (existingOrder_none existing order member)
  | some orderId =>
      rcases List.findIdx?_eq_some_iff_getElem.mp existing with ⟨bound, matching, _⟩
      have found : portfolio.orders[orderId]? = some portfolio.orders[orderId] :=
        List.getElem?_eq_getElem bound
      refine ⟨orderId, portfolio.orders[orderId], found, of_decide_eq_true matching, ?_⟩
      unfold submit resultOf
      rw [existing]
      dsimp only
      rw [found]
      rfl

end PaperTrading
end MarketIntelligence
