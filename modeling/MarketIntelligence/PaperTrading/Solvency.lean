import MarketIntelligence.PaperTrading.EngineSpec
import MarketIntelligence.Foundations.Runs

namespace MarketIntelligence
namespace PaperTrading

open Foundations

/-!
# Solvency of a paper portfolio

The stored quantities are checked, so a sale of more than is held is rolled back
and no position is ever negative.  The cash is not checked.  An order is compared
with it when it is submitted, and a fill that comes later, or a commission larger
than what a sale brings in, is charged whatever is left.

A portfolio stays solvent exactly when every fill finds the cash it takes.
-/

/-- No stored quantity is negative. -/
def HoldingsNonneg (portfolio : PaperPortfolio) : Prop :=
  forall position, position ∈ portfolio.positions -> 0 ≤ position.quantity

/-- Cash and every held quantity are nonnegative.  The engine checks the cash of a submission and
the quantity of a sale, and neither of them again when a waiting order is filled. -/
def Solvent (portfolio : PaperPortfolio) : Prop :=
  0 ≤ portfolio.cashBalance ∧ HoldingsNonneg portfolio

/-- The cash before the operation covers the fill it is about to make: the cost
and the commission of a purchase, or what the commission of a sale takes beyond
its proceeds.  A sale of more than is held is refused and takes nothing. -/
def Covered (assumptions : ExecutionAssumptions) (portfolio : PaperPortfolio)
    (operation : Market × Operation) : Prop :=
  forall due, dueFill assumptions portfolio operation = some due ->
    match due.side with
    | .buy => money (due.price * due.quantity) + assumptions.commission ≤ portfolio.cashBalance
    | .sell => due.quantity ≤ ownedQuantity portfolio due.assetId ->
        assumptions.commission ≤ portfolio.cashBalance + money (due.price * due.quantity)

/-! ## The position a fill touches -/

section Positions

variable {assumptions : ExecutionAssumptions} {portfolio : PaperPortfolio} {position : PaperPosition}

theorem positionOf_quantity (portfolio : PaperPortfolio) (assetId : Identifier) :
    (positionOf portfolio assetId).quantity = ownedQuantity portfolio assetId := by
  unfold positionOf ownedQuantity
  cases Tables.lookup PaperPosition.assetId assetId portfolio.positions <;> rfl

theorem positionOf_assetId (portfolio : PaperPortfolio) (assetId : Identifier) :
    (positionOf portfolio assetId).assetId = assetId := by
  unfold positionOf
  cases found : Tables.lookup PaperPosition.assetId assetId portfolio.positions with
  | none => rfl
  | some position => exact (Tables.lookup_some found).2

theorem ownedQuantity_nonneg (nonneg : HoldingsNonneg portfolio) (assetId : Identifier) :
    0 ≤ ownedQuantity portfolio assetId := by
  unfold ownedQuantity
  cases found : Tables.lookup PaperPosition.assetId assetId portfolio.positions with
  | none => exact le_refl 0
  | some position => exact nonneg position (Tables.lookup_some found).1

/-- The change a fill makes to a held quantity. -/
def signedQuantity (side : Side) (quantity : Rat) : Rat :=
  match side with
  | .buy => quantity
  | .sell => -quantity

/-- A fill never divides by zero, since it adds to a nonnegative quantity. -/
theorem updatePosition_ok (assumptions : ExecutionAssumptions) (side : Side) {quantity : Rat} (price : Rat) (positive : 0 < quantity)
    (nonneg : 0 ≤ position.quantity) :
    exists updated, updatePosition assumptions position side quantity price = .ok updated ∧
      updated.assetId = position.assetId ∧
      updated.quantity = position.quantity + signedQuantity side quantity ∧
      updated.realizedPnl = position.realizedPnl +
        realizedBy assumptions position side quantity price := by
  unfold updatePosition
  cases side with
  | buy =>
      have held : position.quantity + quantity ≠ 0 := by linarith
      dsimp only
      rw [if_neg held]
      exact ⟨_, rfl, rfl, rfl, (add_zero _).symm⟩
  | sell => exact ⟨_, rfl, rfl, sub_eq_add_neg _ _, rfl⟩

end Positions

/-! ## One fill -/

section Fill

variable (assumptions : ExecutionAssumptions) (market : Market) {portfolio : PaperPortfolio}
  (orderId : Nat) {order : PaperOrder} (bar : PriceBar) (price : Rat)

/-- A purchase, or a sale of no more than is held, goes through. -/
theorem fill_covered (nonneg : HoldingsNonneg portfolio)
    (owned : order.side = .sell -> order.quantity ≤ ownedQuantity portfolio order.assetId) :
    exists next, fill assumptions market portfolio orderId order bar price = .ok next ∧
      next.cashBalance = portfolio.cashBalance +
        paidBy assumptions order.side order.quantity price ∧
      HoldingsNonneg next := by
  have before := ownedQuantity_nonneg nonneg order.assetId
  have held : 0 ≤ (positionOf portfolio order.assetId).quantity := by
    rw [positionOf_quantity]
    exact before
  rcases updatePosition_ok assumptions order.side price order.quantity_pos held with
    ⟨updated, computed, _, quantity, _⟩
  have after : 0 ≤ updated.quantity := by
    rw [quantity, positionOf_quantity]
    cases side : order.side with
    | buy => exact add_nonneg before (le_of_lt order.quantity_pos)
    | sell =>
        change 0 ≤ ownedQuantity portfolio order.assetId + -order.quantity
        linarith [owned side]
  have stored : HoldingsNonneg (book assumptions portfolio orderId order bar price updated) := by
    intro position member
    rcases Tables.mem_put member with new | old
    · exact new ▸ after
    · exact nonneg position old
  rcases takeSnapshot_eq_ok market bar.eventTime stored with ⟨snapshot, written⟩
  have filled : fill assumptions market portfolio orderId order bar price =
      .ok { book assumptions portfolio orderId order bar price updated with
        snapshots := portfolio.snapshots ++ [snapshot] } := by
    unfold fill
    rw [computed]
    exact written
  exact ⟨_, filled, rfl, stored⟩

/-- A sale of more than is held is refused by the stored check. -/
theorem fill_overfilled (nonneg : HoldingsNonneg portfolio) (sells : order.side = .sell)
    (exceeds : ownedQuantity portfolio order.assetId < order.quantity) :
    fill assumptions market portfolio orderId order bar price = .error .integrityError := by
  have held : 0 ≤ (positionOf portfolio order.assetId).quantity := by
    rw [positionOf_quantity]
    exact ownedQuantity_nonneg nonneg order.assetId
  rcases updatePosition_ok assumptions order.side price order.quantity_pos held with
    ⟨updated, computed, _, quantity, _⟩
  have negative : updated.quantity < 0 := by
    rw [quantity, positionOf_quantity, sells]
    change ownedQuantity portfolio order.assetId + -order.quantity < 0
    linarith
  unfold fill
  rw [computed]
  change takeSnapshot market (book assumptions portfolio orderId order bar price updated) _ = _
  unfold takeSnapshot
  rw [if_pos]
  exact List.any_eq_true.mpr
    ⟨updated, Tables.mem_put_self updated portfolio.positions, decide_eq_true negative⟩

theorem fill_ne_divisionByZero (nonneg : HoldingsNonneg portfolio) :
    fill assumptions market portfolio orderId order bar price ≠ .error .divisionByZero := by
  intro raised
  by_cases exceeds : order.side = .sell ∧ ownedQuantity portfolio order.assetId < order.quantity
  · rw [fill_overfilled assumptions market orderId bar price nonneg exceeds.1 exceeds.2] at raised
    cases raised
  · rcases fill_covered assumptions market orderId bar price nonneg
      (fun sells => not_lt.mp fun less => exceeds ⟨sells, less⟩) with ⟨next, done, _⟩
    rw [done] at raised
    cases raised

end Fill

/-! ## One operation -/

section Operations

variable {assumptions : ExecutionAssumptions} {portfolio : PaperPortfolio}
  {operation : Market × Operation}

theorem Quiet.holdingsNonneg {next : PaperPortfolio} (quiet : Quiet portfolio next)
    (nonneg : HoldingsNonneg portfolio) : HoldingsNonneg next := by
  unfold HoldingsNonneg
  rw [quiet.positions]
  exact nonneg

theorem Quiet.ownedQuantity {stored : PaperPortfolio} (quiet : Quiet portfolio stored)
    (assetId : Identifier) :
    PaperTrading.ownedQuantity stored assetId = PaperTrading.ownedQuantity portfolio assetId := by
  unfold PaperTrading.ownedQuantity
  rw [quiet.positions]

theorem apply_holdingsNonneg (nonneg : HoldingsNonneg portfolio) :
    HoldingsNonneg (apply assumptions portfolio operation) := by
  unfold apply
  cases done : execute assumptions portfolio operation with
  | error failure => exact nonneg
  | ok next =>
      cases due : dueFill assumptions portfolio operation with
      | none => exact (execute_quiet due done).holdingsNonneg nonneg
      | some item =>
          rcases execute_due due with ⟨stored, orderId, order, bar, _, _, _, _, same⟩
          rw [same] at done
          rcases fill_ok done with ⟨updated, snapshot, _, kept, written⟩
          intro position member
          rw [written] at member
          exact kept position member

/-- From a solvent portfolio, an operation stays solvent exactly when it is covered. -/
theorem apply_solvent_iff (solvent : Solvent portfolio) :
    Solvent (apply assumptions portfolio operation) <-> Covered assumptions portfolio operation := by
  have holdings : HoldingsNonneg (apply assumptions portfolio operation) :=
    apply_holdingsNonneg solvent.2
  unfold Solvent
  rw [and_iff_left holdings]
  cases due : dueFill assumptions portfolio operation with
  | none =>
      have covered : Covered assumptions portfolio operation := by
        intro item known
        rw [due] at known
        cases known
      refine iff_of_true ?_ covered
      unfold apply
      cases done : execute assumptions portfolio operation with
      | error failure => exact solvent.1
      | ok next =>
          change 0 ≤ next.cashBalance
          rw [(execute_quiet due done).cashBalance]
          exact solvent.1
  | some item =>
      rcases execute_due due with
        ⟨stored, orderId, order, bar, booking, side, asset, quantity, same⟩
      have nonneg := booking.quiet.holdingsNonneg solvent.2
      have covered_iff : Covered assumptions portfolio operation <-> match item.side with
          | .buy => money (item.price * item.quantity) + assumptions.commission ≤
              portfolio.cashBalance
          | .sell => item.quantity ≤ PaperTrading.ownedQuantity portfolio item.assetId ->
              assumptions.commission ≤
                portfolio.cashBalance + money (item.price * item.quantity) := by
        unfold Covered
        rw [due]
        simp only [Option.some.injEq, forall_eq']
      rw [covered_iff]
      have owned_eq := booking.quiet.ownedQuantity order.assetId
      unfold apply
      rw [same]
      by_cases exceeds : order.side = .sell ∧
          PaperTrading.ownedQuantity portfolio order.assetId < order.quantity
      · rw [fill_overfilled assumptions operation.1 orderId bar item.price nonneg exceeds.1
          (owned_eq ▸ exceeds.2)]
        rw [side, quantity, asset] at exceeds
        rw [exceeds.1]
        exact iff_of_true solvent.1 fun owned => absurd owned (not_le.mpr exceeds.2)
      · rcases fill_covered assumptions operation.1 orderId bar item.price nonneg
          (fun sells => not_lt.mp fun less => exceeds ⟨sells, owned_eq ▸ less⟩) with
          ⟨next, done, cash, _⟩
        rw [done]
        change 0 ≤ next.cashBalance <-> _
        rw [cash, booking.quiet.cashBalance]
        rw [side, quantity, asset] at exceeds
        rw [side, quantity]
        cases sideEq : item.side with
        | buy =>
            change 0 ≤ _ + -(_ + assumptions.commission) <-> _ + assumptions.commission ≤ _
            rw [← sub_eq_add_neg, sub_nonneg]
        | sell =>
            have owned : item.quantity ≤ PaperTrading.ownedQuantity portfolio item.assetId :=
              not_lt.mp fun less => exceeds ⟨sideEq, less⟩
            change 0 ≤ _ + (_ - assumptions.commission) <-> _
            simp only [owned, forall_const]
            rw [← add_sub_assoc, sub_nonneg]

/-- A completed sale does not exceed what was held before it. -/
theorem execute_longOnly {next : PaperPortfolio} (nonneg : HoldingsNonneg portfolio)
    (done : execute assumptions portfolio operation = .ok next) {made : PaperFill}
    (fills : next.fills = portfolio.fills ++ [made]) (sells : made.side = .sell) :
    made.quantity ≤ PaperTrading.ownedQuantity portfolio made.assetId := by
  cases due : dueFill assumptions portfolio operation with
  | none =>
      rw [(execute_quiet due done).fills] at fills
      have lengths := congrArg List.length fills
      rw [List.length_append, List.length_singleton] at lengths
      omega
  | some item =>
      rcases execute_due due with ⟨stored, orderId, order, bar, booking, _, _, _, same⟩
      rw [same] at done
      by_cases exceeds : order.side = .sell ∧
          PaperTrading.ownedQuantity stored order.assetId < order.quantity
      · rw [fill_overfilled assumptions operation.1 orderId bar item.price
          (booking.quiet.holdingsNonneg nonneg) exceeds.1 exceeds.2] at done
        cases done
      · rcases fill_ok done with ⟨updated, snapshot, _, _, written⟩
        rw [written] at fills
        change stored.fills ++ [_] = portfolio.fills ++ [made] at fills
        rw [booking.quiet.fills] at fills
        have last := List.append_cancel_left fills
        cases last
        rw [← booking.quiet.ownedQuantity]
        exact not_lt.mp fun less => exceeds ⟨sells, less⟩

end Operations

/-! ## Runs -/

/-- Over any run from a new portfolio, the portfolio is solvent at every point
exactly when every operation is covered.  In any case no completed sale exceeds
what was held before it, and no fill divides by zero. -/
theorem solvent_states_iff (assumptions : ExecutionAssumptions) {startingCash : Rat}
    (nonneg : 0 ≤ startingCash) (createdAt : Instant) (operations : List (Market × Operation)) :
    ((forall visited,
        visited ∈ Runs.states (apply assumptions) (.create startingCash createdAt) operations ->
          Solvent visited) <->
      Runs.Along (apply assumptions) (Covered assumptions) (.create startingCash createdAt)
        operations) ∧
    (forall visited,
      visited ∈ Runs.states (apply assumptions) (.create startingCash createdAt) operations ->
        (forall operation next made, execute assumptions visited operation = .ok next ->
          next.fills = visited.fills ++ [made] -> made.side = .sell ->
            made.quantity ≤ ownedQuantity visited made.assetId) ∧
        (forall market orderId order bar price,
          fill assumptions market visited orderId order bar price ≠ .error .divisionByZero)) := by
  have empty : HoldingsNonneg (.create startingCash createdAt) :=
    fun _ member => absurd member List.not_mem_nil
  constructor
  · exact Runs.invariant_states_iff_along (fun _ _ solvent => apply_solvent_iff solvent)
      ⟨nonneg, empty⟩
  · intro visited member
    have holdings := Runs.invariant_states (motive := HoldingsNonneg)
      (fun _ _ kept => apply_holdingsNonneg kept) empty visited member
    exact ⟨fun operation next made done fills sells => execute_longOnly holdings done fills sells,
      fun market orderId order bar price =>
        fill_ne_divisionByZero assumptions market orderId bar price holdings⟩

/-! ## Three orders on the same cash -/

/-- A bar that opens and closes at one price. -/
def flatBar (id : Identifier) (day : Nat) (price : Rat) : PriceBar where
  id := id
  eventTime := day * (24 * 60 * 60 * 1000000)
  retrievalTime := day * (24 * 60 * 60 * 1000000)
  openPrice := price
  high := price
  low := price
  close := price

/-- `DEFAULT_RISK_RULES`. -/
def defaultRiskRules : List RiskRule :=
  [{ ruleType := .maximumPositionPercentage, limitValue := 2 / 5, isEnabled := true,
     limitValue_nonneg := by decide +kernel },
   { ruleType := .maximumTotalExposure, limitValue := 1, isEnabled := true,
     limitValue_nonneg := by decide +kernel },
   { ruleType := .maximumDailySimulatedLoss, limitValue := 1 / 20, isEnabled := true,
     limitValue_nonneg := by decide +kernel },
   { ruleType := .maximumPortfolioDrawdown, limitValue := 1 / 4, isEnabled := true,
     limitValue_nonneg := by decide +kernel },
   { ruleType := .maximumDailyTradeCount, limitValue := 20, isEnabled := true,
     limitValue_nonneg := by decide +kernel },
   { ruleType := .maximumSectorExposure, limitValue := 1 / 2, isEnabled := true,
     limitValue_nonneg := by decide +kernel },
   { ruleType := .minimumCashReserve, limitValue := 1 / 50, isEnabled := true,
     limitValue_nonneg := by decide +kernel },
   { ruleType := .maximumOrderValue, limitValue := 50000, isEnabled := true,
     limitValue_nonneg := by decide +kernel },
   { ruleType := .stalePriceDays, limitValue := 3650, isEnabled := true,
     limitValue_nonneg := by decide +kernel }]

/-- Three assets of different sectors, all at 100. -/
def threeSectors : Market where
  assets :=
    [{ id := 0, symbol := "ALPHA", sector := some "energy" },
     { id := 1, symbol := "BRAVO", sector := some "health" },
     { id := 2, symbol := "CHARLIE", sector := some "retail" }]
  latestBar := fun assetId => some (flatBar assetId 1 100)
  rules := defaultRiskRules
  today := 2

theorem absent_pos (price : Rat) (found : none = some price) : 0 < price := by
  cases found

/-- Buy 500 shares at 80 or less. -/
def limitBuy (symbol : String) : OrderRequest where
  clientOrderId := symbol
  symbol := symbol
  side := .buy
  orderType := .limit
  quantity := 500
  limitPrice := some 80
  stopPrice := none
  quantity_pos := by norm_num
  limitPrice_pos := fun price found => by
    cases found
    norm_num
  stopPrice_pos := absent_pos
  limit_required := fun _ absent => by cases absent
  stop_required := fun stops => by rcases stops with same | same <;> cases same
  market_plain := fun same => by cases same

/-- Each order leaves the reserve when it is submitted, and then all of them fill. -/
def threeLimitBuys : List (Market × Operation) :=
  [(threeSectors, .submit (limitBuy "ALPHA")), (threeSectors, .submit (limitBuy "BRAVO")),
   (threeSectors, .submit (limitBuy "CHARLIE")),
   (threeSectors, .processOrder 0 (flatBar 10 2 80)),
   (threeSectors, .processOrder 1 (flatBar 11 2 80)),
   (threeSectors, .processOrder 2 (flatBar 12 2 80))]

theorem threeLimitBuys_cash :
    (threeLimitBuys.foldl (apply .default) (.create 100000 0)).cashBalance = -20003 := by
  decide +kernel

theorem threeLimitBuys_insolvent :
    ¬ forall visited,
      visited ∈ Runs.states (apply .default) (.create 100000 0) threeLimitBuys ->
        Solvent visited := by
  intro solvent
  have last := (solvent _ (Runs.foldl_mem_states _ threeLimitBuys)).1
  rw [threeLimitBuys_cash] at last
  exact absurd last (by norm_num)

theorem threeLimitBuys_solvent_iff :
    (forall visited,
      visited ∈ Runs.states (apply .default) (.create 100000 0) threeLimitBuys ->
        Solvent visited) <->
      Runs.Along (apply .default) (Covered .default) (.create 100000 0) threeLimitBuys :=
  (solvent_states_iff .default (by norm_num) 0 threeLimitBuys).1

end PaperTrading
end MarketIntelligence
