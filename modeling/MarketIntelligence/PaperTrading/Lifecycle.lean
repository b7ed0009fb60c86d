import MarketIntelligence.PaperTrading.Solvency

namespace MarketIntelligence
namespace PaperTrading

open Foundations

/-!
# The life of an order

An order that is filled, cancelled or rejected stays as it is, and a stop that has been
reached stays reached.  While an order is open its status says whether its stop has been
reached.

A submission does not keep the last of these when the base price is zero.  The preview
counts a zero price as absent, so the new order is reached and neither filled nor marked as
triggered.
-/

/-! ## What the status shows -/

def OrderRequest.hasStop (request : OrderRequest) : Prop :=
  request.orderType = .stop ∨ request.orderType = .stopLimit

/-- An open order is in status `triggered` exactly when its flag is set. -/
def PaperOrder.Coherent (order : PaperOrder) : Prop :=
  order.status.isOpen = true -> (order.status = .triggered <-> order.isTriggered = true)

/-- Every open order of the portfolio shows in its status whether its stop has been reached: it
is in status `triggered` exactly when its flag is set. -/
def Coherent (portfolio : PaperPortfolio) : Prop :=
  forall order, order ∈ portfolio.orders -> order.Coherent

/-- What an order may become: its request never changes, a settled order stays as it is, and a
stop once triggered stays triggered. -/
structure Follows (before after : PaperOrder) : Prop where
  request : after.toOrderRequest = before.toOrderRequest
  settled : before.status.isOpen = false -> after = before
  triggered : before.hasStop -> before.isTriggered = true -> after.isTriggered = true

theorem Follows.refl (order : PaperOrder) : Follows order order :=
  ⟨rfl, fun _ => rfl, fun _ kept => kept⟩

theorem Follows.trans {before middle after : PaperOrder} (first : Follows before middle)
    (second : Follows middle after) : Follows before after where
  request := second.request.trans first.request
  settled := by
    intro closed
    have same := first.settled closed
    subst same
    exact second.settled closed
  triggered := by
    intro stops reached
    refine second.triggered ?_ (first.triggered stops reached)
    unfold OrderRequest.hasStop at *
    rw [first.request]
    exact stops

def fillsOf (portfolio : PaperPortfolio) (orderId : Nat) : List PaperFill :=
  portfolio.fills.filter fun fill => fill.orderId = orderId

/-- Every order goes on as it may, and an order that is no longer open before the step gets no
more fills from it. -/
def Settles (portfolio next : PaperPortfolio) : Prop :=
  forall orderId before, portfolio.orders[orderId]? = some before ->
    exists after, next.orders[orderId]? = some after ∧ Follows before after ∧
      (before.status.isOpen = false -> fillsOf next orderId = fillsOf portfolio orderId)

theorem Settles.refl (portfolio : PaperPortfolio) : Settles portfolio portfolio :=
  fun _ before found => ⟨before, found, Follows.refl before, fun _ => rfl⟩

theorem Settles.trans {portfolio middle next : PaperPortfolio} (first : Settles portfolio middle)
    (second : Settles middle next) : Settles portfolio next := by
  intro orderId before found
  rcases first orderId before found with ⟨between, stored, follows, kept⟩
  rcases second orderId between stored with ⟨after, last, further, same⟩
  refine ⟨after, last, follows.trans further, ?_⟩
  intro closed
  have unchanged := follows.settled closed
  subst unchanged
  exact (same closed).trans (kept closed)

/-! ## Eligibility -/

section Eligible

variable {request : OrderRequest} {bar : PriceBar} {already : Bool} {eligible : Eligibility}

theorem limitPriceOn_ok {side : Side} {limitPrice : Option Rat} {found : Option Rat × Outcome}
    (done : limitPriceOn side bar limitPrice = .ok found) :
    (found.2 = .wouldFill ∧ found.1 ≠ none) ∨ (found.2 = .pending ∧ found.1 = none) := by
  unfold limitPriceOn at done
  cases limitPrice with
  | none => cases done
  | some limit =>
      cases side with
      | buy =>
          dsimp only at done
          split at done
          · cases done
            exact Or.inl ⟨rfl, Option.some_ne_none _⟩
          · split at done
            · cases done
              exact Or.inl ⟨rfl, Option.some_ne_none _⟩
            · cases done
              exact Or.inr ⟨rfl, rfl⟩
      | sell =>
          dsimp only at done
          split at done
          · cases done
            exact Or.inl ⟨rfl, Option.some_ne_none _⟩
          · split at done
            · cases done
              exact Or.inl ⟨rfl, Option.some_ne_none _⟩
            · cases done
              exact Or.inr ⟨rfl, rfl⟩

/-- What eligibility can be, by the type of the order. -/
inductive EligibleOn (request : OrderRequest) (bar : PriceBar) (already : Bool) :
    Eligibility -> Prop where
  | market (kind : request.orderType = .market) :
      EligibleOn request bar already ⟨some bar.openPrice, .wouldFill, false⟩
  | limit (kind : request.orderType = .limit) (found : Option Rat × Outcome)
      (limited : limitPriceOn request.side bar request.limitPrice = .ok found) :
      EligibleOn request bar already ⟨found.1, found.2, false⟩
  | waits (stops : request.hasStop) (stop : Rat) (priced : request.stopPrice = some stop)
      (waiting : stopReached request.side bar stop already = false) :
      EligibleOn request bar already ⟨none, .pending, false⟩
  | stop (kind : request.orderType = .stop) (stop : Rat) (priced : request.stopPrice = some stop)
      (reached : stopReached request.side bar stop already = true) :
      EligibleOn request bar already ⟨some (stopBase request.side bar stop), .wouldFill, true⟩
  | stopLimit (kind : request.orderType = .stopLimit) (stop : Rat)
      (priced : request.stopPrice = some stop)
      (reached : stopReached request.side bar stop already = true)
      (found : Option Rat × Outcome)
      (limited : limitPriceOn request.side bar request.limitPrice = .ok found) :
      EligibleOn request bar already
        ⟨found.1, if found.1 = none then .triggered else found.2, true⟩

theorem eligiblePrice_cases (done : eligiblePrice request bar already = .ok eligible) :
    EligibleOn request bar already eligible := by
  unfold eligiblePrice at done
  split at done
  · rename_i kind
    cases done
    exact .market kind
  · rename_i kind
    cases limited : limitPriceOn request.side bar request.limitPrice with
    | error raised =>
        rw [limited] at done
        cases done
    | ok found =>
        rw [limited] at done
        cases done
        exact .limit kind found limited
  · cases done
  · cases done
  · rename_i stop kind priced
    split at done
    · rename_i waiting
      cases done
      exact .waits (Or.inl kind) stop priced waiting
    · rename_i reached
      cases done
      exact .stop kind stop priced (Bool.eq_true_of_not_eq_false reached)
  · rename_i stop kind priced
    split at done
    · rename_i waiting
      cases done
      exact .waits (Or.inr kind) stop priced waiting
    · rename_i reached
      cases limited : limitPriceOn request.side bar request.limitPrice with
      | error raised =>
          rw [limited] at done
          cases done
      | ok found =>
          rw [limited] at done
          cases done
          exact .stopLimit kind stop priced (Bool.eq_true_of_not_eq_false reached) found limited

/-- An order that would fill has a base price. -/
theorem EligibleOn.priced (cases_ : EligibleOn request bar already eligible)
    (fills : eligible.outcome = .wouldFill) : eligible.basePrice ≠ none := by
  cases cases_ with
  | market kind => exact Option.some_ne_none _
  | limit kind found limited =>
      rcases limitPriceOn_ok limited with ⟨_, priced⟩ | ⟨waits, _⟩
      · exact priced
      · exact absurd (waits.symm.trans fills) (by decide)
  | waits stops stop priced waiting => cases fills
  | stop kind stop priced reached => exact Option.some_ne_none _
  | stopLimit kind stop priced reached found limited =>
      intro absent
      dsimp only at absent fills
      rw [if_pos absent] at fills
      cases fills

/-- An order that would not fill is triggered when its stop has been reached, and else pending. -/
theorem EligibleOn.waiting (cases_ : EligibleOn request bar already eligible)
    (waits : eligible.outcome ≠ .wouldFill) :
    eligible.outcome = if eligible.triggered = true then .triggered else .pending := by
  cases cases_ with
  | market kind => exact absurd rfl waits
  | limit kind found limited =>
      rcases limitPriceOn_ok limited with ⟨fills, _⟩ | ⟨pending, _⟩
      · exact absurd fills waits
      · exact pending
  | waits stops stop priced waiting => rfl
  | stop kind stop priced reached => exact absurd rfl waits
  | stopLimit kind stop priced reached found limited =>
      rcases limitPriceOn_ok limited with ⟨fills, present⟩ | ⟨_, absent⟩
      · dsimp only at waits
        rw [if_neg present] at waits
        exact absurd fills waits
      · exact if_pos absent

/-- A stop that has been reached stays reached. -/
theorem EligibleOn.stays (cases_ : EligibleOn request bar true eligible) (stops : request.hasStop) :
    eligible.triggered = true := by
  unfold OrderRequest.hasStop at stops
  cases cases_ with
  | market kind => rcases stops with same | same <;> exact absurd (kind.symm.trans same) (by decide)
  | limit kind found limited =>
      rcases stops with same | same <;> exact absurd (kind.symm.trans same) (by decide)
  | waits stops stop priced waiting => cases waiting
  | stop kind stop priced reached => rfl
  | stopLimit kind stop priced reached found limited => rfl

/-- The stop is reached at an open of zero, which is the base price. -/
def ReachedAtZero (request : OrderRequest) (bar : PriceBar) : Prop :=
  bar.openPrice = 0 ∧
    ((request.orderType = .stop ∧ request.side = .sell) ∨
      (request.orderType = .stopLimit ∧ request.side = .buy)) ∧
    exists stop, request.stopPrice = some stop ∧ stopReached request.side bar stop false = true

theorem limitPriceOn_zero {side : Side} {limit : Rat} {outcome : Outcome} (positive : 0 < limit)
    (limited : limitPriceOn side bar (some limit) = .ok (some 0, outcome)) :
    side = .buy ∧ bar.openPrice = 0 := by
  unfold limitPriceOn at limited
  cases side with
  | buy =>
      dsimp only at limited
      split at limited
      · have same := (Prod.ext_iff.mp (Except.ok.inj limited)).1
        exact ⟨rfl, Option.some.inj same⟩
      · split at limited
        · have same := (Prod.ext_iff.mp (Except.ok.inj limited)).1
          exact absurd (Option.some.inj same) positive.ne'
        · cases limited
  | sell =>
      dsimp only at limited
      split at limited
      · rename_i above
        have same := (Prod.ext_iff.mp (Except.ok.inj limited)).1
        rw [Option.some.inj same] at above
        exact absurd above (not_le.mpr positive)
      · split at limited
        · have same := (Prod.ext_iff.mp (Except.ok.inj limited)).1
          exact absurd (Option.some.inj same) positive.ne'
        · cases limited

/-- When the base price of a stop that is reached is zero. -/
theorem eligible_zero_iff (done : eligiblePrice request bar false = .ok eligible) :
    (eligible.triggered = true ∧ eligible.outcome = .wouldFill ∧ eligible.basePrice = some 0) <->
      ReachedAtZero request bar := by
  constructor
  · rintro ⟨triggered, fills, zero⟩
    cases eligiblePrice_cases done with
    | market kind => cases triggered
    | limit kind found limited => cases triggered
    | waits stops stop priced waiting => cases triggered
    | stop kind stop priced reached =>
        have positive := request.stopPrice_pos stop priced
        have same : stopBase request.side bar stop = 0 := Option.some.inj zero
        cases side : request.side with
        | buy =>
            rw [side] at same
            exact absurd same (lt_max_of_lt_right positive).ne'
        | sell =>
            rw [side] at same
            have low : min bar.openPrice stop = 0 := same
            have open_ : bar.openPrice = 0 := by
              rcases min_choice bar.openPrice stop with first | second
              · exact first.symm.trans low
              · exact absurd (second.symm.trans low) positive.ne'
            exact ⟨open_, Or.inl ⟨kind, side⟩, stop, priced, reached⟩
    | stopLimit kind stop priced reached found limited =>
        cases limitPrice : request.limitPrice with
        | none =>
            rw [limitPrice] at limited
            cases limited
        | some limit =>
            rw [limitPrice] at limited
            have exact_ : found = (some 0, found.2) := Prod.ext zero rfl
            rw [exact_] at limited
            rcases limitPriceOn_zero (request.limitPrice_pos limit limitPrice) limited with
              ⟨side, open_⟩
            exact ⟨open_, Or.inr ⟨kind, side⟩, stop, priced, reached⟩
  · rintro ⟨open_, kinds, stop, priced, reached⟩
    unfold eligiblePrice at done
    rcases kinds with ⟨kind, side⟩ | ⟨kind, side⟩
    · rw [kind, priced] at done
      dsimp only at done
      rw [if_neg (by rw [reached]; decide)] at done
      cases done
      refine ⟨rfl, rfl, congrArg some ?_⟩
      rw [side]
      exact (congrArg (min · stop) open_).trans (min_eq_left (request.stopPrice_pos stop priced).le)
    · rw [kind, priced] at done
      dsimp only at done
      rw [if_neg (by rw [reached]; decide)] at done
      cases limitPrice : request.limitPrice with
      | none => exact absurd limitPrice (request.limit_required (Or.inr kind))
      | some limit =>
          have below : bar.openPrice ≤ limit :=
            open_.trans_le (request.limitPrice_pos limit limitPrice).le
          have limited : limitPriceOn request.side bar request.limitPrice =
              .ok (some bar.openPrice, .wouldFill) := by
            rw [side, limitPrice]
            exact if_pos below
          rw [limited] at done
          cases done
          exact ⟨rfl, rfl, congrArg some open_⟩

end Eligible

/-! ## Operations -/

section Operations

variable {assumptions : ExecutionAssumptions} {market : Market} {portfolio next : PaperPortfolio}
  {orderId : Nat} {order : PaperOrder} {bar : PriceBar} {request : OrderRequest} {price : Rat}

/-- What a fill writes to the orders and their fills. -/
theorem fill_orders (done : fill assumptions market portfolio orderId order bar price = .ok next) :
    next.orders = portfolio.orders.set orderId
        { order with status := .filled, sourcePriceBarId := bar.id } ∧
      forall other, other ≠ orderId -> fillsOf next other = fillsOf portfolio other := by
  rcases fill_ok done with ⟨updated, snapshot, _, _, written⟩
  subst written
  refine ⟨rfl, ?_⟩
  intro other different
  unfold fillsOf book
  rw [List.filter_append, List.filter_cons_of_neg (by simpa using different.symm),
    List.filter_nil, List.append_nil]

/-- The order after the bar, before its fill. -/
def waitingOrder (order : PaperOrder) (eligible : Eligibility) : PaperOrder :=
  { order with
    isTriggered := eligible.triggered
    status := if eligible.triggered && eligible.outcome ≠ .wouldFill then .triggered
      else .pending }

theorem processOrder_cases
    (done : processOrder assumptions market portfolio orderId bar = .ok next) :
    next = portfolio ∨
      exists order eligible, portfolio.orders[orderId]? = some order ∧
        order.status.isOpen = true ∧
        eligiblePrice order.toOrderRequest bar order.isTriggered = .ok eligible ∧
        ((exists base, eligible.basePrice = some base ∧ eligible.outcome = .wouldFill ∧
            fill assumptions market
              { portfolio with orders := portfolio.orders.set orderId (waitingOrder order eligible) }
              orderId (waitingOrder order eligible) bar
              (applyFriction assumptions base order.side order.limitPrice) = .ok next) ∨
          (eligible.outcome ≠ .wouldFill ∧
            next = { portfolio with
              orders := portfolio.orders.set orderId (waitingOrder order eligible) })) := by
  unfold processOrder at done
  cases found : portfolio.orders[orderId]? with
  | none =>
      rw [found] at done
      cases done
  | some order =>
      rw [found] at done
      dsimp only at done
      cases isOpen : order.status.isOpen with
      | false =>
          rw [if_pos isOpen] at done
          cases done
          exact Or.inl rfl
      | true =>
          rw [if_neg (by simp [isOpen])] at done
          rcases Loops.except_bind_ok done with ⟨eligible, eligibleOk, rest⟩
          refine Or.inr ⟨order, eligible, rfl, isOpen, eligibleOk, ?_⟩
          split at rest
          · rename_i base baseEq outcome
            exact Or.inl ⟨base, baseEq, outcome, rest⟩
          · rename_i unfilled
            cases rest
            refine Or.inr ⟨?_, rfl⟩
            intro fills
            cases priced : eligible.basePrice with
            | none => exact (eligiblePrice_cases eligibleOk).priced fills priced
            | some base => exact unfilled base priced fills

/-- The write of one order, after which the fills of the others are the same. -/
theorem settles_set {before after : PaperOrder} (found : portfolio.orders[orderId]? = some before)
    (orders : next.orders = portfolio.orders.set orderId after) (follows : Follows before after)
    (isOpen : before.status.isOpen = true)
    (fills : forall other, other ≠ orderId -> fillsOf next other = fillsOf portfolio other) :
    Settles portfolio next := by
  intro place known stored
  rw [orders]
  by_cases same : place = orderId
  · subst same
    have equal : before = known := Option.some.inj (found.symm.trans stored)
    subst equal
    refine ⟨after, List.getElem?_set_self (List.getElem?_eq_some_iff.mp found).1, follows, ?_⟩
    intro closed
    exact absurd (isOpen.symm.trans closed) (by decide)
  · refine ⟨known, ?_, Follows.refl known, fun _ => fills place same⟩
    rw [List.getElem?_set_ne (Ne.symm same)]
    exact stored

/-- A new order at the end leaves the others. -/
theorem settles_added (orders : next.orders = portfolio.orders ++ [order])
    (fills : forall other, other ≠ portfolio.orders.length ->
      fillsOf next other = fillsOf portfolio other) : Settles portfolio next := by
  intro place known stored
  have inside := (List.getElem?_eq_some_iff.mp stored).1
  refine ⟨known, ?_, Follows.refl known, fun _ => fills place (Nat.ne_of_lt inside)⟩
  rw [orders, List.getElem?_append_left inside]
  exact stored

theorem coherent_set {after : PaperOrder} (found : orderId < portfolio.orders.length)
    (orders : next.orders = portfolio.orders.set orderId after) (coherent : Coherent portfolio) :
    Coherent next <-> after.Coherent := by
  constructor
  · intro all
    refine all after ?_
    rw [orders]
    exact List.mem_set found after
  · intro own known member
    rw [orders] at member
    rcases List.mem_or_eq_of_mem_set member with old | new
    · exact coherent known old
    · exact new ▸ own

theorem coherent_added (orders : next.orders = portfolio.orders ++ [order])
    (coherent : Coherent portfolio) : Coherent next <-> order.Coherent := by
  unfold Coherent at *
  rw [orders]
  constructor
  · exact fun all => all order (List.mem_append_right _ List.mem_cons_self)
  · intro own known member
    rcases List.mem_append.mp member with old | new
    · exact coherent known old
    · exact List.mem_singleton.mp new ▸ own

theorem closed_coherent (closed : order.status.isOpen = false) : order.Coherent :=
  fun isOpen => absurd (isOpen.symm.trans closed) (by decide)

theorem waitingOrder_coherent {eligible : Eligibility} (waits : eligible.outcome ≠ .wouldFill) :
    (waitingOrder order eligible).Coherent := by
  intro _
  unfold waitingOrder
  cases reached : eligible.triggered with
  | true => simp [waits]
  | false => simp

theorem cancel_cases (done : cancel portfolio orderId = .ok next) :
    exists order, portfolio.orders[orderId]? = some order ∧ order.status.isOpen = true ∧
      next = { portfolio with
        orders := portfolio.orders.set orderId { order with status := .cancelled } } := by
  unfold cancel at done
  cases found : portfolio.orders[orderId]? with
  | none =>
      rw [found] at done
      cases done
  | some order =>
      rw [found] at done
      dsimp only at done
      split at done
      · cases done
      · rename_i isOpen
        cases done
        exact ⟨order, rfl, Bool.eq_true_of_not_eq_false isOpen, rfl⟩

/-! ## A submission that stalls -/

/-- A new order whose stop is reached at a base price of zero, and that no rule rejects. -/
def Stalls (assumptions : ExecutionAssumptions) (portfolio : PaperPortfolio)
    (operation : Market × Operation) : Prop :=
  exists request asset bar shown, operation.2 = .submit request ∧
    existingOrder portfolio request.clientOrderId = none ∧
    findQuote operation.1 request.symbol = .ok (asset, bar) ∧
    preview assumptions operation.1 portfolio request = .ok shown ∧
    shown.rejectionReasons = [] ∧ ReachedAtZero request bar

theorem preview_cases {asset : Asset} {shown : OrderPreview}
    (quote : findQuote market request.symbol = .ok (asset, bar))
    (previewed : preview assumptions market portfolio request = .ok shown) :
    exists eligible, eligiblePrice request bar false = .ok eligible ∧
      shown = previewOn assumptions market portfolio request asset bar eligible := by
  unfold preview at previewed
  rw [Loops.except_bind_eq quote] at previewed
  rcases Loops.except_bind_ok previewed with ⟨eligible, done, ends⟩
  exact ⟨eligible, done, (Except.ok.inj ends).symm⟩

theorem previewOn_outcome {asset : Asset} {eligible : Eligibility} :
    (previewOn assumptions market portfolio request asset bar eligible).outcome =
      if (previewOn assumptions market portfolio request asset bar eligible).rejectionReasons = []
      then eligible.outcome else .rejected := rfl

/-- A price is estimated unless the base price is absent or zero. -/
theorem estimatedPrice_none_iff {asset : Asset} {eligible : Eligibility} :
    (previewOn assumptions market portfolio request asset bar eligible).estimatedPrice = none <->
      eligible.basePrice = none ∨ eligible.basePrice = some 0 := by
  unfold previewOn
  dsimp only
  rw [Option.map_eq_none_iff]
  unfold orElse
  cases eligible.basePrice with
  | none => simp
  | some base =>
      dsimp only
      by_cases zero : base = 0
      · simp [zero]
      · simp [zero]

/-- A new order that is not filled at once is coherent unless it stalls. -/
theorem newOrder_coherent_iff {asset : Asset} {shown : OrderPreview}
    (quote : findQuote market request.symbol = .ok (asset, bar))
    (previewed : preview assumptions market portfolio request = .ok shown)
    (unfilled : shown.outcome = .wouldFill -> shown.estimatedPrice = none) :
    (newOrder request asset shown).Coherent <->
      ¬ (shown.rejectionReasons = [] ∧ ReachedAtZero request bar) := by
  rcases preview_cases quote previewed with ⟨eligible, done, same⟩
  have outcome : shown.outcome =
      if shown.rejectionReasons = [] then eligible.outcome else .rejected := by
    rw [same]
    exact previewOn_outcome
  by_cases accepted : shown.rejectionReasons = []
  · rw [if_pos accepted] at outcome
    rw [outcome] at unfilled
    by_cases fills : eligible.outcome = .wouldFill
    · have zero : eligible.basePrice = some 0 := by
        have absent := unfilled fills
        rw [same, estimatedPrice_none_iff] at absent
        exact absent.resolve_left ((eligiblePrice_cases done).priced fills)
      have status : (newOrder request asset shown).status = .pending := by
        unfold newOrder
        dsimp only
        rw [outcome, fills]
        rfl
      have flag : (newOrder request asset shown).isTriggered = eligible.triggered := by
        unfold newOrder
        rw [same]
        rfl
      unfold PaperOrder.Coherent
      rw [status, flag, ← eligible_zero_iff done]
      cases eligible.triggered <;> simp [OrderStatus.isOpen, accepted, fills, zero]
    · have waits := (eligiblePrice_cases done).waiting fills
      have status : (newOrder request asset shown).status =
          if eligible.triggered = true then .triggered else .pending := by
        unfold newOrder
        dsimp only
        rw [outcome, waits]
        cases eligible.triggered <;> rfl
      have flag : (newOrder request asset shown).isTriggered = eligible.triggered := by
        unfold newOrder
        rw [same]
        rfl
      refine iff_of_true ?_ ?_
      · intro _
        rw [status, flag]
        cases eligible.triggered <;> simp
      · intro stalled
        exact fills ((eligible_zero_iff done).mpr stalled.2).2.1
  · rw [if_neg accepted] at outcome
    refine iff_of_true (closed_coherent ?_) fun stalled => accepted stalled.1
    unfold newOrder
    dsimp only
    rw [outcome]
    rfl

theorem stalls_submit_iff {asset : Asset} {shown : OrderPreview}
    (absent : existingOrder portfolio request.clientOrderId = none)
    (quote : findQuote market request.symbol = .ok (asset, bar))
    (previewed : preview assumptions market portfolio request = .ok shown) :
    Stalls assumptions portfolio (market, .submit request) <->
      shown.rejectionReasons = [] ∧ ReachedAtZero request bar := by
  constructor
  · rintro ⟨other, otherAsset, otherBar, otherShown, same, _, otherQuote, otherPreviewed, both⟩
    cases same
    cases quote.symm.trans otherQuote
    cases previewed.symm.trans otherPreviewed
    exact both
  · intro both
    exact ⟨request, asset, bar, shown, rfl, absent, quote, previewed, both⟩

theorem stalls_ok {operation : Market × Operation}
    (stalled : Stalls assumptions portfolio operation) :
    exists next, execute assumptions portfolio operation = .ok next := by
  rcases operation with ⟨market, body⟩
  rcases stalled with ⟨request, asset, bar, shown, same, absent, quote, previewed, accepted, zero⟩
  dsimp only at same quote previewed
  subst same
  rcases preview_cases quote previewed with ⟨eligible, done, equal⟩
  have based := ((eligible_zero_iff done).mpr zero).2.2
  have unpriced : shown.estimatedPrice = none := by
    rw [equal, estimatedPrice_none_iff]
    exact Or.inr based
  have submitted := submitNew_eq quote previewed
  rw [unpriced] at submitted
  have written : submitNew assumptions market portfolio request =
      .ok { portfolio with orders := portfolio.orders ++ [newOrder request asset shown] } := by
    rw [submitted]
    cases shown.outcome <;> rfl
  have found : (portfolio.orders ++ [newOrder request asset shown])[portfolio.orders.length]? =
      some (newOrder request asset shown) := List.getElem?_concat_length
  refine ⟨{ portfolio with orders := portfolio.orders ++ [newOrder request asset shown] }, ?_⟩
  change (submit assumptions market portfolio request).map Prod.snd = _
  unfold submit
  rw [absent]
  dsimp only
  rw [Loops.except_bind_eq written]
  unfold resultOf
  dsimp only
  rw [found]
  rfl

/-! ## One operation -/

theorem submit_settles {result : OrderResult}
    (done : submit assumptions market portfolio request = .ok (result, next)) :
    Settles portfolio next ∧ (Coherent portfolio -> (Coherent next <->
      ¬ Stalls assumptions portfolio (market, .submit request))) := by
  rcases submit_cases done with ⟨known, same⟩ | ⟨asset, bar, shown, absent, quote, previewed, way⟩
  · subst same
    refine ⟨Settles.refl next, fun coherent => iff_of_true coherent ?_⟩
    rintro ⟨other, _, _, _, same, absent, _⟩
    cases same
    exact known absent
  · rcases way with ⟨price, fills, estimated, filled⟩ | ⟨unfilled, same⟩
    · rcases fill_orders filled with ⟨orders, others⟩
      have written : next.orders = portfolio.orders ++
          [{ newOrder request asset shown with status := .filled, sourcePriceBarId := bar.id }] := by
        rw [orders]
        simp
      refine ⟨settles_added written others, fun coherent => ?_⟩
      rw [coherent_added written coherent, stalls_submit_iff absent quote previewed]
      refine iff_of_true (closed_coherent rfl) ?_
      rintro ⟨_, zero⟩
      rcases preview_cases quote previewed with ⟨eligible, checked, equal⟩
      have based := ((eligible_zero_iff checked).mpr zero).2.2
      rw [equal, estimatedPrice_none_iff.mpr (Or.inr based)] at estimated
      cases estimated
    · subst same
      refine ⟨settles_added rfl fun _ _ => rfl, fun coherent => ?_⟩
      rw [coherent_added rfl coherent, stalls_submit_iff absent quote previewed]
      exact newOrder_coherent_iff quote previewed unfilled

theorem processOrder_settles
    (done : processOrder assumptions market portfolio orderId bar = .ok next) :
    Settles portfolio next ∧ (Coherent portfolio -> Coherent next) := by
  rcases processOrder_cases done with same | ⟨order, eligible, found, isOpen, checked, way⟩
  · subst same
    exact ⟨Settles.refl next, id⟩
  · have bound := (List.getElem?_eq_some_iff.mp found).1
    have stays : order.hasStop -> order.isTriggered = true -> eligible.triggered = true := by
      intro stops reached
      rw [reached] at checked
      exact (eligiblePrice_cases checked).stays stops
    rcases way with ⟨base, _, _, filled⟩ | ⟨waits, same⟩
    · rcases fill_orders filled with ⟨orders, others⟩
      have written := orders.trans (List.set_set _)
      refine ⟨settles_set found written ⟨rfl, ?_, stays⟩ isOpen others, fun coherent => ?_⟩
      · exact fun closed => absurd (isOpen.symm.trans closed) (by decide)
      · exact (coherent_set bound written coherent).mpr (closed_coherent rfl)
    · subst same
      refine ⟨settles_set found rfl ⟨rfl, ?_, stays⟩ isOpen fun _ _ => rfl, fun coherent => ?_⟩
      · exact fun closed => absurd (isOpen.symm.trans closed) (by decide)
      · exact (coherent_set bound rfl coherent).mpr (waitingOrder_coherent waits)

theorem cancel_settles (done : cancel portfolio orderId = .ok next) :
    Settles portfolio next ∧ (Coherent portfolio -> Coherent next) := by
  rcases cancel_cases done with ⟨order, found, isOpen, same⟩
  subst same
  have bound := (List.getElem?_eq_some_iff.mp found).1
  refine ⟨settles_set found rfl ⟨rfl, ?_, fun _ reached => reached⟩ isOpen fun _ _ => rfl,
    fun coherent => ?_⟩
  · exact fun closed => absurd (isOpen.symm.trans closed) (by decide)
  · exact (coherent_set bound rfl coherent).mpr (closed_coherent rfl)

theorem execute_settles {operation : Market × Operation}
    (done : execute assumptions portfolio operation = .ok next) :
    Settles portfolio next ∧ (Coherent portfolio -> (Coherent next <->
      ¬ Stalls assumptions portfolio operation)) := by
  rcases operation with ⟨market, body⟩
  cases body with
  | submit request =>
      rcases execute_submit_ok done with ⟨result, submitted⟩
      exact submit_settles submitted
  | processOrder orderId bar =>
      rcases processOrder_settles done with ⟨settles, keeps⟩
      refine ⟨settles, fun coherent => iff_of_true (keeps coherent) ?_⟩
      rintro ⟨request, _, _, _, same, _⟩
      cases same
  | cancel orderId =>
      rcases cancel_settles done with ⟨settles, keeps⟩
      refine ⟨settles, fun coherent => iff_of_true (keeps coherent) ?_⟩
      rintro ⟨request, _, _, _, same, _⟩
      cases same
  | pause =>
      cases done
      refine ⟨Settles.refl portfolio, fun coherent => iff_of_true coherent ?_⟩
      rintro ⟨request, _, _, _, same, _⟩
      cases same
  | resume =>
      cases done
      refine ⟨Settles.refl portfolio, fun coherent => iff_of_true coherent ?_⟩
      rintro ⟨request, _, _, _, same, _⟩
      cases same

/-- An order of the portfolio asks for what the order before it asked for, or for what was just
submitted. -/
def Requested (portfolio : PaperPortfolio) (operation : Market × Operation) (order : PaperOrder) :
    Prop :=
  (exists before, before ∈ portfolio.orders ∧ order.toOrderRequest = before.toOrderRequest) ∨
    operation.2 = .submit order.toOrderRequest

theorem requested_set {operation : Market × Operation} {before : PaperOrder} (after : PaperOrder)
    (found : portfolio.orders[orderId]? = some before)
    (same : after.toOrderRequest = before.toOrderRequest)
    (member : order ∈ portfolio.orders.set orderId after) :
    Requested portfolio operation order := by
  rcases List.mem_or_eq_of_mem_set member with old | new
  · exact Or.inl ⟨order, old, rfl⟩
  · exact Or.inl ⟨before, List.mem_of_getElem? found, by rw [new, same]⟩

theorem requested_added {asset : Asset} {shown : OrderPreview}
    (member : order ∈ portfolio.orders ++ [newOrder request asset shown]) :
    Requested portfolio (market, .submit request) order := by
  rcases List.mem_append.mp member with old | new
  · exact Or.inl ⟨order, old, rfl⟩
  · rw [List.mem_singleton.mp new]
    exact Or.inr rfl

theorem execute_requested {operation : Market × Operation}
    (done : execute assumptions portfolio operation = .ok next) (member : order ∈ next.orders) :
    Requested portfolio operation order := by
  rcases operation with ⟨market, body⟩
  cases body with
  | submit request =>
      rcases execute_submit_ok done with ⟨result, submitted⟩
      rcases submit_cases submitted with ⟨_, same⟩ | ⟨asset, bar, shown, _, _, _, way⟩
      · rw [same] at member
        exact Or.inl ⟨order, member, rfl⟩
      · rcases way with ⟨price, _, _, filled⟩ | ⟨_, same⟩
        · rw [(fill_orders filled).1] at member
          rcases List.mem_or_eq_of_mem_set member with old | new
          · exact requested_added old
          · rw [new]
            exact Or.inr rfl
        · rw [same] at member
          exact requested_added member
  | processOrder orderId bar =>
      rcases processOrder_cases done with same | ⟨waits, eligible, found, _, _, way⟩
      · rw [same] at member
        exact Or.inl ⟨order, member, rfl⟩
      · rcases way with ⟨base, _, _, filled⟩ | ⟨_, same⟩
        · rw [(fill_orders filled).1] at member
          rw [List.set_set] at member
          exact requested_set { waitingOrder waits eligible with
            status := .filled, sourcePriceBarId := bar.id } found rfl member
        · rw [same] at member
          exact requested_set (waitingOrder waits eligible) found rfl member
  | cancel orderId =>
      rcases cancel_cases done with ⟨known, found, _, same⟩
      rw [same] at member
      exact requested_set { known with status := .cancelled } found rfl member
  | pause =>
      cases done
      exact Or.inl ⟨order, member, rfl⟩
  | resume =>
      cases done
      exact Or.inl ⟨order, member, rfl⟩

theorem apply_requested {operation : Market × Operation}
    (member : order ∈ (apply assumptions portfolio operation).orders) :
    Requested portfolio operation order := by
  unfold apply at member
  cases done : execute assumptions portfolio operation with
  | error failure =>
      rw [done] at member
      exact Or.inl ⟨order, member, rfl⟩
  | ok next =>
      rw [done] at member
      exact execute_requested done member

theorem apply_settles (assumptions : ExecutionAssumptions) (portfolio : PaperPortfolio)
    (operation : Market × Operation) :
    Settles portfolio (apply assumptions portfolio operation) := by
  unfold apply
  cases done : execute assumptions portfolio operation with
  | error failure => exact Settles.refl portfolio
  | ok next => exact (execute_settles done).1

theorem apply_coherent_iff (operation : Market × Operation) (coherent : Coherent portfolio) :
    Coherent (apply assumptions portfolio operation) <->
      ¬ Stalls assumptions portfolio operation := by
  unfold apply
  cases done : execute assumptions portfolio operation with
  | error failure =>
      refine iff_of_true coherent fun stalled => ?_
      rcases stalls_ok stalled with ⟨next, returns⟩
      rw [returns] at done
      cases done
  | ok next => exact (execute_settles done).2 coherent

end Operations

/-! ## Runs -/

/-- From every portfolio that the operations visit, all further operations leave what is
settled alone; and the open orders are coherent in all of them exactly when no submission
stalls. -/
theorem order_lifecycle_iff (assumptions : ExecutionAssumptions) (startingCash : Rat)
    (createdAt : Instant) (operations : List (Market × Operation)) :
    (forall visited,
      visited ∈ Runs.states (apply assumptions) (.create startingCash createdAt) operations ->
        (forall further : List (Market × Operation),
            Settles visited (further.foldl (apply assumptions) visited)) ∧
          Coherent visited) <->
      Runs.Along (apply assumptions)
        (fun portfolio operation => ¬ Stalls assumptions portfolio operation)
        (.create startingCash createdAt) operations := by
  have settles : forall visited (further : List (Market × Operation)),
      Settles visited (further.foldl (apply assumptions) visited) := by
    intro visited further
    exact Runs.invariant_foldl (motive := Settles visited)
      (fun state operation reached => reached.trans (apply_settles assumptions state operation))
      (Settles.refl visited)
  have empty : Coherent (.create startingCash createdAt) := by
    intro order member
    cases member
  rw [← Runs.invariant_states_iff_along (motive := Coherent)
    (fun portfolio operation coherent => apply_coherent_iff operation coherent) empty]
  constructor
  · exact fun all visited member => (all visited member).2
  · exact fun all visited member => ⟨settles visited, all visited member⟩

/-! ## A bar that opens at zero -/

/-- Its open is stored as zero, and it rises to five. -/
def zeroOpen : PriceBar where
  id := 0
  eventTime := 24 * 60 * 60 * 1000000
  retrievalTime := 24 * 60 * 60 * 1000000
  openPrice := 0
  high := 5
  low := 0
  close := 5

def zeroMarket : Market where
  assets := [{ id := 0, symbol := "ALPHA", sector := none }]
  latestBar := fun _ => some zeroOpen
  rules := defaultRiskRules
  today := 2

/-- Buy one share at ten or less once four is reached. -/
def stopLimitBuy : OrderRequest where
  clientOrderId := "first"
  symbol := "ALPHA"
  side := .buy
  orderType := .stopLimit
  quantity := 1
  limitPrice := some 10
  stopPrice := some 4
  quantity_pos := by decide
  limitPrice_pos := fun price found => by
    cases found
    decide
  stopPrice_pos := fun price found => by
    cases found
    decide
  limit_required := fun _ absent => by cases absent
  stop_required := fun _ absent => by cases absent
  market_plain := fun same => by cases same

/-- The new order is open, its stop has been reached, and its status is `pending`. -/
theorem stopLimitBuy_incoherent :
    exists next, execute .default (.create 100000 0) (zeroMarket, .submit stopLimitBuy) = .ok next ∧
      (next.orders.map fun order => (order.status, order.isTriggered)) = [(.pending, true)] := by
  have shown : (execute .default (.create 100000 0) (zeroMarket, .submit stopLimitBuy)).map
      (fun next => next.orders.map fun order => (order.status, order.isTriggered)) =
        .ok [(.pending, true)] := by
    decide +kernel
  cases done : execute .default (.create 100000 0) (zeroMarket, .submit stopLimitBuy) with
  | error raised =>
      rw [done] at shown
      cases shown
  | ok next =>
      rw [done] at shown
      exact ⟨next, rfl, Except.ok.inj shown⟩

end PaperTrading
end MarketIntelligence
