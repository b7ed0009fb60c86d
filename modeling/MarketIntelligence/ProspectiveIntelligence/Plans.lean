import MarketIntelligence.ProspectiveIntelligence.Portfolio
import MarketIntelligence.Foundations.BinaryFloats
import MarketIntelligence.Foundations.Loops
import Mathlib.Data.List.Sort
import Mathlib.Data.List.Dedup

namespace MarketIntelligence
namespace ProspectiveIntelligence

open Foundations
open Foundations.Loops

/-!
# Plans of paper portfolios

A plan is a constructed portfolio with its risk review, its scenario stress and, when both approve,
a preview of the orders.  The review adds the weights up over the domains in one pass.  The review
and the stress compare floats with their limits to the last digit, so here they are computed as
floats: each operation is rounded, and so are the limits.

An order is sized from a difference of weights, so the orders of a plan are held against what
executing them makes of the current weights.  Their arithmetic is exact up to the eight decimals
of a quantity.
-/

/-! ## Requests and what they return -/

/-- `PlanCreate` after validation. -/
structure PlanCreate where
  scores : ScoreMap
  domains : List (String × String)
  currentWeights : List (String × Rat) := []
  prices : List (String × Rat)
  equity : Rat
  method : String := "SCORE_CAPPED"
  maxPosition : Rat := 1 / 5
  minCash : Rat := 1 / 10
  maxDomain : Rat := 2 / 5
  scenarioShocks : List (String × List (String × Rat)) := []
  executionMode : String := "MANUAL_PREVIEW"
  equity_pos : 0 < equity
  maxPosition_range : 0 < maxPosition ∧ maxPosition ≤ 1 := by norm_num
  minCash_range : 0 ≤ minCash ∧ minCash ≤ 1 := by norm_num
  maxDomain_range : 0 < maxDomain ∧ maxDomain ≤ 1 := by norm_num

structure RiskReview where
  approved : Bool
  violations : List String
  informationDomainWeights : List (String × Rat)
  deriving DecidableEq, Repr

structure ScenarioStress where
  results : List (String × Rat)
  worstReturn : Rat
  approved : Bool
  deriving DecidableEq, Repr

structure PaperOrder where
  symbol : String
  side : Side
  quantity : Rat
  clientOrderId : String
  deriving DecidableEq, Repr

inductive PlanError where
  | unprocessable (detail : String)
  | valueError (text : String)
  | keyError (key : String)
  | zeroDivision
  deriving DecidableEq, Repr

structure PaperPlan where
  id : String
  status : String
  targetWeights : List (String × Rat)
  cashWeight : Rat
  riskReview : RiskReview
  scenarioStress : ScenarioStress
  orderPreview : List PaperOrder
  executionMode : String
  deriving DecidableEq, Repr

/-- The two digests, of a request and of `[plan_id, asset, round(difference, 10)]`. -/
structure Digests where
  plan : PlanCreate -> String
  order : String -> String -> Rat -> String

/-! ## The review -/

section Review

variable (weights : List (String × Rat)) (domains : List (String × String))

/-- `domains.get(asset, "UNKNOWN")` -/
def domainOf (asset : String) : String :=
  ((Tables.lookup Prod.fst asset domains).map Prod.snd).getD "UNKNOWN"

def addToDomain (totals : List (String × Rat)) (entry : String × Rat) : List (String × Rat) :=
  let domain := domainOf domains entry.1
  Tables.put Prod.fst (domain, BinaryFloats.add (amount domain totals) entry.2) totals

def domainWeights : List (String × Rat) :=
  weights.foldl (addToDomain domains) []

/-- `bound + 1e-9` -/
def limitOf (bound : Rat) : Rat :=
  BinaryFloats.add bound (BinaryFloats.nearest tolerance)

def researchRisk (maxPosition maxDomain : Rat) : RiskReview :=
  let totals := domainWeights weights domains
  let violations :=
    ((weights.filter fun entry => limitOf maxPosition < entry.2).map fun entry =>
        "position:" ++ entry.1) ++
      (totals.filter fun entry => limitOf maxDomain < entry.2).map fun entry =>
        "information_domain:" ++ entry.1
  { approved := violations.isEmpty
    violations := violations
    informationDomainWeights := totals }

def scenarioReturn (impacts : List (String × Rat)) : Rat :=
  BinaryFloats.sum (impacts.map fun impact =>
    BinaryFloats.nearest (amount impact.1 weights * impact.2))

/-- The default of `loss_limit`. -/
def defaultLossLimit : Rat := BinaryFloats.nearest (3 / 20)

def scenarioStress (shocks : List (String × List (String × Rat)))
    (lossLimit : Rat := defaultLossLimit) : ScenarioStress :=
  let results := shocks.map fun shock => (shock.1, scenarioReturn weights shock.2)
  let worst := ((results.map Prod.snd).min?).getD 0
  { results := results, worstReturn := worst, approved := -lossLimit ≤ worst }

end Review

/-! ## The orders -/

section Orders

variable (orderDigest : String -> String -> Rat -> String) (current target : List (String × Rat))
  (equity : Rat) (prices : List (String × Rat)) (planId : String)

/-- `target.get(asset, 0) - current.get(asset, 0)` -/
def difference (asset : String) : Rat := amount asset target - amount asset current

def orderQuantity (price : Rat) (asset : String) : Rat :=
  |difference current target asset * equity / price|

/-- The preview for one asset, if its quantity is not negligible. -/
def previewOf (asset : String) : Option PaperOrder :=
  let quantity := orderQuantity current target equity (amount asset prices) asset
  if tolerance < quantity then
    some
      { symbol := asset
        side := if 0 < difference current target asset then .buy else .sell
        quantity := DecimalGrid.roundTo shareUnit quantity
        clientOrderId := orderDigest planId asset
          (DecimalGrid.roundTo (1 / 10000000000) (difference current target asset)) }
  else none

def orderFor (asset : String) : Except PlanError (Option PaperOrder) :=
  match Tables.lookup Prod.fst asset prices with
  | none => .error (.keyError asset)
  | some price =>
      if price.2 = 0 then .error .zeroDivision
      else .ok (previewOf orderDigest current target equity prices planId asset)

/-- `sorted(set(current) | set(target))` -/
def tradedAssets : List String :=
  ((current.map Prod.fst ++ target.map Prod.fst).dedup).insertionSort (· ≤ ·)

def rebalanceOrders : Except PlanError (List PaperOrder) := do
  let previews ← (tradedAssets current target).mapM
    (orderFor orderDigest current target equity prices planId)
  return previews.filterMap id

end Orders

/-- The floats that the decimal weights of a portfolio are. -/
def floatWeights (weights : List (String × Rat)) : List (String × Rat) :=
  weights.map fun entry => (entry.1, BinaryFloats.nearest entry.2)

/-- `create_plan` -/
def createPlan (digests : Digests) (body : PlanCreate) : Except PlanError PaperPlan :=
  if body.executionMode ∉ ["MANUAL_PREVIEW", "AUTO_SIMULATED"] then
    .error (.unprocessable "Unsupported paper execution mode")
  else
    match constructPortfolio body.scores
      { method := body.method, maxPosition := body.maxPosition, minCash := body.minCash } with
    | .error failure => .error (.valueError failure.text)
    | .ok portfolio =>
        let weights := floatWeights portfolio.weights
        let risk := researchRisk weights body.domains body.maxPosition body.maxDomain
        let stress := scenarioStress weights body.scenarioShocks
        let approved := risk.approved && stress.approved
        let planId := digests.plan body
        let orders :=
          if approved then
            rebalanceOrders digests.order body.currentWeights portfolio.weights body.equity
              body.prices planId
          else .ok []
        orders.map fun preview =>
          { id := planId
            status := if approved then "APPROVED_FOR_SIMULATION" else "REJECTED"
            targetWeights := portfolio.weights
            cashWeight := portfolio.cashWeight
            riskReview := risk
            scenarioStress := stress
            orderPreview := preview
            executionMode := body.executionMode }

/-! ## What the review approves -/

section Reviewed

variable {weights : List (String × Rat)} {domains : List (String × String)}

/-- The weight of the assets of a domain, added up in the order of the portfolio. -/
def domainTotal (weights : List (String × Rat)) (domains : List (String × String))
    (domain : String) : Rat :=
  ((weights.filter fun entry => domainOf domains entry.1 = domain).map Prod.snd).foldl
    BinaryFloats.add 0

theorem amount_put (key other : String) (value : Rat) (entries : List (String × Rat)) :
    amount other (Tables.put Prod.fst (key, value) entries) =
      if key = other then value else amount other entries := by
  rw [amount, Tables.lookup_put]
  split
  · rfl
  · rfl

theorem foldl_addToDomain (entries totals : List (String × Rat)) (domain : String) :
    amount domain (entries.foldl (addToDomain domains) totals) =
      ((entries.filter fun entry => domainOf domains entry.1 = domain).map Prod.snd).foldl
        BinaryFloats.add (amount domain totals) := by
  induction entries generalizing totals with
  | nil => rfl
  | cons head tail ih =>
      rw [List.foldl_cons, ih, addToDomain, amount_put, List.filter_cons]
      by_cases own : domainOf domains head.1 = domain
      · rw [if_pos own, if_pos (decide_eq_true own), own, List.map_cons, List.foldl_cons]
      · rw [if_neg own, if_neg (by rw [decide_eq_false own]; exact Bool.false_ne_true)]

theorem domainWeights_amount (domain : String) :
    amount domain (domainWeights weights domains) = domainTotal weights domains domain :=
  foldl_addToDomain weights [] domain

theorem domainWeights_distinct : ((domainWeights weights domains).map Prod.fst).Nodup := by
  have grows : forall (entries totals : List (String × Rat)), (totals.map Prod.fst).Nodup ->
      ((entries.foldl (addToDomain domains) totals).map Prod.fst).Nodup := by
    intro entries
    induction entries with
    | nil => exact fun _ distinct => distinct
    | cons head tail ih =>
        exact fun totals distinct =>
          ih (addToDomain domains totals head) (Tables.nodup_put distinct)
  exact grows weights [] List.nodup_nil

/-- The limits of a review, in terms of the weights alone. -/
structure WithinLimits (weights : List (String × Rat)) (domains : List (String × String))
    (maxPosition maxDomain : Rat) : Prop where
  positions : forall asset weight, (asset, weight) ∈ weights -> weight ≤ limitOf maxPosition
  domains : forall domain, domainTotal weights domains domain ≤ limitOf maxDomain

theorem limitOf_nonneg {bound : Rat} (nonneg : 0 ≤ bound) : 0 ≤ limitOf bound :=
  BinaryFloats.nearest_nonneg
    (add_nonneg nonneg (BinaryFloats.nearest_nonneg tolerance_pos.le))

theorem researchRisk_approved_iff (weights : List (String × Rat))
    (domains : List (String × String)) (maxPosition : Rat) {maxDomain : Rat} (some : 0 ≤ maxDomain) :
    (researchRisk weights domains maxPosition maxDomain).approved = true <->
      WithinLimits weights domains maxPosition maxDomain := by
  rw [researchRisk]
  simp only [List.isEmpty_iff, List.append_eq_nil_iff, List.map_eq_nil_iff, List.filter_eq_nil_iff,
    decide_eq_true_eq, not_lt]
  constructor
  · rintro ⟨positions, totals⟩
    refine ⟨fun asset weight member => positions (asset, weight) member, fun domain => ?_⟩
    rw [← domainWeights_amount]
    cases found : Tables.lookup Prod.fst domain (domainWeights weights domains) with
    | none =>
        rw [amount, found]
        exact limitOf_nonneg some
    | some entry =>
        rw [amount, found]
        exact totals entry (Tables.lookup_some found).1
  · rintro ⟨positions, totals⟩
    refine ⟨fun entry member => positions entry.1 entry.2 member, fun entry member => ?_⟩
    rw [← amount_of_mem domainWeights_distinct member, domainWeights_amount]
    exact totals entry.1

theorem scenarioStress_approved_iff (weights : List (String × Rat))
    (shocks : List (String × List (String × Rat))) {lossLimit : Rat} (some : 0 ≤ lossLimit) :
    (scenarioStress weights shocks lossLimit).approved = true <->
      forall shock, shock ∈ shocks -> -lossLimit ≤ scenarioReturn weights shock.2 := by
  rw [scenarioStress]
  simp only [decide_eq_true_eq, List.map_map]
  cases least : (shocks.map (Prod.snd ∘ fun shock =>
      (shock.1, scenarioReturn weights shock.2))).min? with
  | none =>
      rw [List.map_eq_nil_iff.mp (List.min?_eq_none_iff.mp least), Option.getD_none]
      exact ⟨fun _ _ member => absurd member List.not_mem_nil,
        fun _ => neg_nonpos.mpr some⟩
  | some worst =>
      rw [Option.getD_some]
      have spec := List.min?_eq_some_iff.mp least
      constructor
      · intro bounded shock member
        exact bounded.trans (spec.2 _ (List.mem_map_of_mem member))
      · intro each
        rcases List.mem_map.mp spec.1 with ⟨shock, member, same⟩
        exact same ▸ each shock member

end Reviewed

/-! ## What the orders do -/

section Executed

variable {orderDigest : String -> String -> Rat -> String} {current target : List (String × Rat)}
  {equity : Rat} {prices : List (String × Rat)} {planId : String}

/-- A purchase counts up, a sale down. -/
def PaperOrder.signed (order : PaperOrder) : Rat :=
  match order.side with
  | .buy => order.quantity
  | .sell => -order.quantity

/-- The weight of an asset when every order has been filled at its price. -/
def weightAfter (current : List (String × Rat)) (equity : Rat) (prices : List (String × Rat))
    (orders : List PaperOrder) (asset : String) : Rat :=
  amount asset current +
    ((orders.filter fun order => order.symbol = asset).map PaperOrder.signed).sum *
      amount asset prices / equity

theorem mem_tradedAssets {asset : String} : asset ∈ tradedAssets current target <->
    asset ∈ current.map Prod.fst ∨ asset ∈ target.map Prod.fst := by
  rw [tradedAssets, List.mem_insertionSort, List.mem_dedup, List.mem_append]

theorem tradedAssets_distinct : (tradedAssets current target).Nodup :=
  (List.perm_insertionSort _ _).nodup_iff.mpr (List.nodup_dedup _)

theorem amount_of_not_mem {asset : String} {entries : List (String × Rat)}
    (missing : asset ∉ entries.map Prod.fst) : amount asset entries = 0 := by
  rw [amount, Option.isNone_iff_eq_none.mp (Tables.lookup_isNone_iff.mpr missing)]
  rfl

theorem previewOf_symbol {asset : String} {order : PaperOrder}
    (previewed : previewOf orderDigest current target equity prices planId asset = some order) :
    order.symbol = asset := by
  unfold previewOf at previewed
  dsimp only at previewed
  split at previewed
  · cases previewed
    rfl
  · cases previewed

/-- Every traded asset has a price that is not zero, and its preview is its only order. -/
theorem rebalanceOrders_ok {orders : List PaperOrder}
    (done : rebalanceOrders orderDigest current target equity prices planId = .ok orders) :
    orders = (tradedAssets current target).filterMap
        (previewOf orderDigest current target equity prices planId) ∧
      forall asset, asset ∈ tradedAssets current target -> amount asset prices ≠ 0 := by
  have agrees : forall asset preview,
      orderFor orderDigest current target equity prices planId asset = .ok preview ->
      preview = previewOf orderDigest current target equity prices planId asset ∧
        amount asset prices ≠ 0 := by
    intro asset preview priced
    unfold orderFor at priced
    split at priced
    · cases priced
    · rename_i price found
      split at priced
      · cases priced
      · rename_i nonzero
        cases priced
        refine ⟨rfl, ?_⟩
        rw [amount, found]
        exact nonzero
  rcases except_bind_ok done with ⟨previews, mapped, ends⟩
  cases ends
  rcases (except_mapM_ok_iff fun asset preview priced => (agrees asset preview priced).1).mp mapped
    with ⟨each, rfl⟩
  refine ⟨?_, fun asset member => (agrees asset _ (each asset member)).2⟩
  rw [List.filterMap_map]
  rfl

theorem filter_orders {assets : List String} (distinct : assets.Nodup) (asset : String) :
    (assets.filterMap (previewOf orderDigest current target equity prices planId)).filter
        (fun order => order.symbol = asset) =
      if asset ∈ assets then
        (previewOf orderDigest current target equity prices planId asset).toList
      else [] := by
  induction assets with
  | nil => rfl
  | cons head tail ih =>
      rcases List.nodup_cons.mp distinct with ⟨fresh, rest⟩
      rw [List.filterMap_cons]
      by_cases own : head = asset
      · subst own
        have later : (tail.filterMap (previewOf orderDigest current target equity prices
            planId)).filter (fun order => order.symbol = head) = [] := by
          rw [ih rest, if_neg fresh]
        rw [if_pos List.mem_cons_self]
        cases previewed : previewOf orderDigest current target equity prices planId head with
        | none => exact later
        | some order =>
            rw [List.filter_cons, if_pos (decide_eq_true (previewOf_symbol previewed)), later]
            rfl
      · have others : (asset ∈ head :: tail) = (asset ∈ tail) :=
          propext ⟨fun member => (List.mem_cons.mp member).resolve_left (Ne.symm own),
            List.mem_cons_of_mem _⟩
        simp only [others]
        rw [← ih rest]
        cases previewed : previewOf orderDigest current target equity prices planId head with
        | none => rfl
        | some order =>
            have apart : ¬ decide (order.symbol = asset) = true := by
              rw [previewOf_symbol previewed]
              exact fun same => own (of_decide_eq_true same)
            rw [List.filter_cons, if_neg apart]

/-- The size of an order, signed, is near the difference it is for. -/
theorem signed_preview_near (asset : String) (positive : 0 < equity)
    (priced : 0 < amount asset prices) :
    |((previewOf orderDigest current target equity prices planId asset).toList.map
        PaperOrder.signed).sum - difference current target asset * equity / amount asset prices| ≤
      shareUnit / 2 := by
  have unit : tolerance ≤ shareUnit / 2 := by norm_num [tolerance, shareUnit]
  unfold previewOf
  dsimp only
  split
  · have close := DecimalGrid.abs_roundTo_sub_le shareUnit_pos
      (orderQuantity current target equity (amount asset prices) asset)
    rw [Option.toList_some, List.map_singleton, List.sum_singleton, PaperOrder.signed]
    by_cases more : 0 < difference current target asset
    · have same : orderQuantity current target equity (amount asset prices) asset =
          difference current target asset * equity / amount asset prices :=
        abs_of_pos (div_pos (mul_pos more positive) priced)
      simp only [if_pos more]
      rw [← same]
      exact close
    · have same : orderQuantity current target equity (amount asset prices) asset =
          -(difference current target asset * equity / amount asset prices) :=
        abs_of_nonpos (div_nonpos_of_nonpos_of_nonneg
          (mul_nonpos_of_nonpos_of_nonneg (not_lt.mp more) positive.le) priced.le)
      simp only [if_neg more]
      rw [← neg_eq_iff_eq_neg.mpr same, sub_neg_eq_add, neg_add_eq_sub, abs_sub_comm]
      exact close
  · rename_i few
    rw [Option.toList_none, List.map_nil, List.sum_nil, zero_sub, abs_neg]
    exact (not_lt.mp few).trans unit

end Executed

/-! ## Every plan -/

/-- What holds of a plan for the request it answers.  The limits are tested on the floats of the
weights, as the code does, and the orders are carried out in exact arithmetic. -/
structure PlanKept (body : PlanCreate) (plan : PaperPlan) : Prop where
  status : plan.status = "APPROVED_FOR_SIMULATION" <->
    WithinLimits (floatWeights plan.targetWeights) body.domains body.maxPosition body.maxDomain ∧
      forall shock, shock ∈ body.scenarioShocks ->
        -defaultLossLimit ≤ scenarioReturn (floatWeights plan.targetWeights) shock.2
  rejected : plan.status ≠ "APPROVED_FOR_SIMULATION" -> plan.orderPreview = []
  weights : forall asset weight, (asset, weight) ∈ plan.targetWeights -> 0 ≤ weight ∧
    (DecimalGrid.OnGrid shareUnit body.maxPosition -> weight ≤ body.maxPosition)
  settled : plan.status = "APPROVED_FOR_SIMULATION" -> forall asset,
    0 < amount asset body.prices ->
      |weightAfter body.currentWeights body.equity body.prices plan.orderPreview asset -
          amount asset plan.targetWeights| ≤
        shareUnit / 2 * amount asset body.prices / body.equity

theorem constructPortfolio_weights {scores : ScoreMap} {options : PortfolioOptions}
    {portfolio : PortfolioPlan} (cash : 0 ≤ options.minCash ∧ options.minCash ≤ 1)
    (cap : 0 ≤ options.maxPosition) (constructed : constructPortfolio scores options = .ok portfolio)
    {asset : String} {weight : Rat} (member : (asset, weight) ∈ portfolio.weights) :
    0 ≤ weight ∧
      (DecimalGrid.OnGrid shareUnit options.maxPosition -> weight ≤ options.maxPosition) := by
  unfold constructPortfolio at constructed
  split at constructed
  · cases constructed
  · split at constructed
    · cases constructed
      cases member
    · cases constructed
      rcases List.mem_map.mp member with ⟨entry, listed, same⟩
      cases same
      have opening : Sound (ranking scores options) scores.names options.maxPosition
          (investable options) (openingBook scores options) := openingBook_sound cash cap
      rcases redistribute_sound opening with ⟨sound, closed⟩
      have bounds := (sound.feasible closed).bounds entry.1 entry.2 listed
      exact ⟨DecimalGrid.roundTo_nonneg shareUnit_pos bounds.1,
        fun grid => DecimalGrid.roundTo_le_of_onGrid shareUnit_pos grid bounds.2⟩

/-- Executing the orders brings an asset with a positive price to its target but for the rounding
of one order. -/
theorem rebalanceOrders_settle {orderDigest : String -> String -> Rat -> String}
    {current target prices : List (String × Rat)} {equity : Rat} {planId : String}
    {orders : List PaperOrder} (invested : 0 < equity)
    (done : rebalanceOrders orderDigest current target equity prices planId = .ok orders)
    {asset : String} (price : 0 < amount asset prices) :
    |weightAfter current equity prices orders asset - amount asset target| ≤
      shareUnit / 2 * amount asset prices / equity := by
  rcases rebalanceOrders_ok done with ⟨same, -⟩
  rw [weightAfter, same, filter_orders tradedAssets_distinct]
  by_cases traded : asset ∈ tradedAssets current target
  · have near : |((previewOf orderDigest current target equity prices planId asset).toList.map
        PaperOrder.signed).sum - difference current target asset * equity / amount asset prices| ≤
        shareUnit / 2 := signed_preview_near asset invested price
    rw [if_pos traded]
    generalize ((previewOf orderDigest current target equity prices planId asset).toList.map
      PaperOrder.signed).sum = signed at near ⊢
    have change : amount asset current + signed * amount asset prices / equity -
        amount asset target =
        (signed - difference current target asset * equity / amount asset prices) *
          (amount asset prices / equity) := by
      rw [difference]
      field_simp
      ring
    rw [change, abs_mul, abs_of_pos (div_pos price invested), mul_div_assoc (shareUnit / 2)]
    exact mul_le_mul_of_nonneg_right near (div_pos price invested).le
  · have absent := mt mem_tradedAssets.mpr traded
    rw [not_or] at absent
    rw [if_neg traded, amount_of_not_mem absent.1, amount_of_not_mem absent.2, List.map_nil,
      List.sum_nil, zero_mul, zero_div, add_zero, sub_zero, abs_zero]
    exact div_nonneg (mul_nonneg (div_nonneg shareUnit_pos.le zero_le_two) price.le) invested.le

/-- Two of three assets of one domain, and a holding that the plan gives up. -/
def threeAssets : PlanCreate where
  scores := ⟨[("ALPHA", 3), ("BETA", 2), ("GAMMA", 1)], by decide⟩
  domains := [("ALPHA", "rates"), ("BETA", "rates"), ("GAMMA", "energy")]
  currentWeights := [("ALPHA", 1 / 10), ("DELTA", 3 / 10)]
  prices := [("ALPHA", 30), ("BETA", 7), ("GAMMA", 11), ("DELTA", 3)]
  equity := 1000
  scenarioShocks := [("crash", [("ALPHA", -1 / 2), ("GAMMA", -1 / 10)])]
  equity_pos := by norm_num

def threeAssetsOptions : PortfolioOptions :=
  { method := threeAssets.method, maxPosition := threeAssets.maxPosition
    minCash := threeAssets.minCash }

theorem threeAssets_weights : finalWeights threeAssets.scores threeAssetsOptions =
    [("ALPHA", 1 / 5), ("BETA", 1 / 5), ("GAMMA", 1 / 5)] := by
  have going : (openingBook threeAssets.scores threeAssetsOptions).Open := by decide +kernel
  have closed : ¬ (round threeAssetsOptions.maxPosition
      (openingBook threeAssets.scores threeAssetsOptions)).Open := by decide +kernel
  rw [finalWeights, redistribute, if_pos going, redistribute, if_neg closed]
  decide +kernel

theorem threeAssets_created : exists plan,
    createPlan ⟨fun _ => "", fun _ asset _ => asset⟩ threeAssets = .ok plan ∧
      plan.status = "APPROVED_FOR_SIMULATION" ∧
      plan.orderPreview.map PaperOrder.symbol = ["ALPHA", "BETA", "DELTA", "GAMMA"] := by
  have previewed : (createPlan ⟨fun _ => "", fun _ asset _ => asset⟩ threeAssets).toOption.map
      (fun plan => (plan.status, plan.orderPreview.map PaperOrder.symbol)) =
        some ("APPROVED_FOR_SIMULATION", ["ALPHA", "BETA", "DELTA", "GAMMA"]) := by
    unfold createPlan constructPortfolio
    rw [← threeAssetsOptions, threeAssets_weights]
    decide +kernel
  cases created : createPlan ⟨fun _ => "", fun _ asset _ => asset⟩ threeAssets with
  | error failure =>
      rw [created] at previewed
      cases previewed
  | ok plan =>
      rw [created] at previewed
      rcases Prod.mk.inj (Option.some.inj previewed) with ⟨status, orders⟩
      exact ⟨plan, rfl, status, orders⟩

/-- A loss of 15 percent in exact arithmetic is more than the limit in floats. -/
example : (scenarioStress (floatWeights [("ALPHA", 1 / 5)])
    [("crash", [("ALPHA", -3 / 4)])]).approved = false := by
  decide +kernel

end ProspectiveIntelligence
end MarketIntelligence
