import MarketIntelligence.MarketData.Validation
import MarketIntelligence.Foundations.SortedLists
import Mathlib.Order.Filter.AtTopBot.Field
import Mathlib.Order.Filter.AtTopBot.Group
import Mathlib.Tactic.Linarith

namespace MarketIntelligence
namespace MarketData

open Foundations
open SortedLists
open Filter

/-!
# Adjusted closes

A close is adjusted backwards for the corporate actions after its bar, in the order of
their effective times.  Splits scale the value and dividends are taken from it, and the two
do not commute.  Actions of one instant keep the order in which they are given.
-/

/-! ## The adjustment -/

/-- The least adjusted close. -/
def closeFloor : Rat := 1 / 1000000

def splitTypes : List String := ["split", "reverse_split"]

/-- The branches of the loop for an action after the bar. -/
def adjusted (value : Rat) (action : CorporateActionRecord) : Rat :=
  if action.actionType ∈ splitTypes ∧ action.ratio.any (· ≠ 0) then
    value / action.ratio.getD 1
  else if action.actionType = "dividend" ∧ action.amount.any (· ≠ 0) then
    max closeFloor (value - action.amount.getD 0)
  else value

/-- The body of the loop. -/
def adjustOnce (bar : HistoricalBarRecord) (value : Rat) (action : CorporateActionRecord) :
    Except Exception Rat := do
  validateCorporateAction action
  if action.effectiveTime ≤ bar.eventTime then pure value else pure (adjusted value action)

def adjustedCloseFor (bar : HistoricalBarRecord) (actions : List CorporateActionRecord) :
    Except Exception Rat :=
  (sortedBy CorporateActionRecord.effectiveTime actions).foldlM (adjustOnce bar) bar.closePrice

/-! ## Valid actions -/

/-- The validation of corporate actions accepts the record, so a split has a positive ratio and a
dividend an amount that is not negative. -/
abbrev CorporateActionRecord.Valid (action : CorporateActionRecord) : Prop :=
  validateCorporateAction action = .ok PUnit.unit.{1}

def CorporateActionRecord.Rescales (action : CorporateActionRecord) : Prop :=
  action.actionType ∈ splitTypes ∧ action.ratio ≠ some 1

/-- The action takes something from the value. -/
def CorporateActionRecord.PaysOut (action : CorporateActionRecord) : Prop :=
  action.actionType = "dividend" ∧ action.amount ≠ some 0

instance (action : CorporateActionRecord) : Decidable action.Rescales :=
  inferInstanceAs (Decidable (_ ∧ _))

instance (action : CorporateActionRecord) : Decidable action.PaysOut :=
  inferInstanceAs (Decidable (_ ∧ _))

section Actions

variable {action : CorporateActionRecord}

theorem CorporateActionRecord.Valid.ratio (valid : action.Valid)
    (split : action.actionType ∈ splitTypes) : exists ratio, action.ratio = some ratio ∧ 0 < ratio := by
  have type : action.actionType = "split" ∨ action.actionType = "reverse_split" := by
    simpa [splitTypes] using split
  rw [CorporateActionRecord.Valid, validateCorporateAction] at valid
  split at valid
  · cases valid
  split at valid
  · cases valid
  rename_i positive
  cases found : action.ratio with
  | none => exact absurd ⟨type, by rw [found]; rfl⟩ positive
  | some ratio =>
      refine ⟨ratio, rfl, ?_⟩
      by_contra low
      exact positive ⟨type, by rw [found]; exact decide_eq_true (not_lt.mp low)⟩

theorem CorporateActionRecord.Valid.amount (valid : action.Valid)
    (dividend : action.actionType = "dividend") :
    exists amount, action.amount = some amount ∧ 0 ≤ amount := by
  rw [CorporateActionRecord.Valid, validateCorporateAction] at valid
  split at valid
  · cases valid
  split at valid
  · cases valid
  split at valid
  · cases valid
  rename_i nonneg
  cases found : action.amount with
  | none => exact absurd ⟨dividend, Or.inl (by rw [found]; rfl)⟩ nonneg
  | some amount =>
      refine ⟨amount, rfl, ?_⟩
      by_contra low
      exact nonneg ⟨dividend, Or.inl (by rw [found]; exact decide_eq_true (not_le.mp low))⟩

theorem CorporateActionRecord.Valid.split (valid : action.Valid)
    (split : action.actionType ∈ splitTypes) :
    exists ratio, action.ratio = some ratio ∧ 0 < ratio ∧
      forall close, adjusted close action = close / ratio := by
  rcases valid.ratio split with ⟨ratio, found, positive⟩
  refine ⟨ratio, found, positive, fun close => ?_⟩
  rw [adjusted, if_pos ⟨split, by rw [found]; exact decide_eq_true positive.ne'⟩, found]
  rfl

theorem not_split_of_dividend (dividend : action.actionType = "dividend") :
    action.actionType ∉ splitTypes := by
  rw [dividend]
  decide

theorem CorporateActionRecord.Valid.dividend (valid : action.Valid)
    (dividend : action.actionType = "dividend") (pays : action.amount ≠ some 0) :
    exists amount, 0 < amount ∧
      forall close, adjusted close action = max closeFloor (close - amount) := by
  rcases valid.amount dividend with ⟨amount, found, nonneg⟩
  have nonzero : amount ≠ 0 := by
    intro zero
    exact pays (found.trans (congrArg some zero))
  refine ⟨amount, lt_of_le_of_ne nonneg nonzero.symm, fun close => ?_⟩
  rw [adjusted, if_neg fun taken => not_split_of_dividend dividend taken.1,
    if_pos ⟨dividend, by rw [found]; exact decide_eq_true nonzero⟩, found]
  rfl

/-- What a valid action does to a value. -/
inductive Effect (action : CorporateActionRecord) : Prop where
  | rescale (ratio : Rat) (positive : 0 < ratio) (branch : action.Rescales)
      (value : forall close, adjusted close action = close / ratio)
  | payOut (amount : Rat) (positive : 0 < amount) (branch : action.PaysOut)
      (value : forall close, adjusted close action = max closeFloor (close - amount))
  | none (value : forall close, adjusted close action = close)

theorem CorporateActionRecord.Valid.effect (valid : action.Valid) : Effect action := by
  by_cases split : action.actionType ∈ splitTypes
  · rcases valid.split split with ⟨ratio, found, positive, value⟩
    by_cases one : action.ratio = some 1
    · apply Effect.none
      intro close
      rw [value, Option.some.inj (found.symm.trans one), div_one]
    · exact .rescale ratio positive ⟨split, one⟩ value
  by_cases dividend : action.actionType = "dividend"
  · by_cases zero : action.amount = some 0
    · apply Effect.none
      intro close
      rw [adjusted, if_neg fun taken => split taken.1, if_neg]
      rintro ⟨_, pays⟩
      rw [zero] at pays
      exact absurd pays (by decide)
    · rcases valid.dividend dividend zero with ⟨amount, positive, value⟩
      exact .payOut amount positive ⟨dividend, zero⟩ value
  · apply Effect.none
    intro close
    rw [adjusted, if_neg fun taken => split taken.1, if_neg fun taken => dividend taken.1]

end Actions

/-! ## One instant -/

/-- What the loop does to a value. -/
def effectAt (eventTime : Instant) (value : Rat) (action : CorporateActionRecord) : Rat :=
  if action.effectiveTime ≤ eventTime then value else adjusted value action

/-- No instant after the bar has both an action that scales and one that pays out.  At such an
instant the result depends on which of them is applied first. -/
def Separated (eventTime : Instant) (actions : List CorporateActionRecord) : Prop :=
  forall split, split ∈ actions -> split.Rescales -> forall dividend, dividend ∈ actions ->
    dividend.PaysOut -> split.effectiveTime = dividend.effectiveTime ->
      split.effectiveTime ≤ eventTime

/-- Every order of the actions gives the bar one adjusted close.  The code applies them by their
times and leaves equal times in the order of the list. -/
def OrderFree (bar : HistoricalBarRecord) (actions : List CorporateActionRecord) : Prop :=
  forall reordered : List CorporateActionRecord, reordered.Perm actions ->
    adjustedCloseFor bar reordered = adjustedCloseFor bar actions

section Order

variable {eventTime : Instant} {actions : List CorporateActionRecord}

theorem foldlM_adjustOnce (bar : HistoricalBarRecord)
    (valid : forall action, action ∈ actions -> action.Valid) (value : Rat) :
    actions.foldlM (adjustOnce bar) value = .ok (actions.foldl (effectAt bar.eventTime) value) := by
  induction actions generalizing value with
  | nil => rfl
  | cons action rest ih =>
      have once : adjustOnce bar value action = .ok (effectAt bar.eventTime value action) := by
        have passes : action.Valid := valid action List.mem_cons_self
        rw [adjustOnce, passes, effectAt]
        split <;> rfl
      rw [List.foldlM_cons, once]
      exact ih (fun other member => valid other (List.mem_cons_of_mem _ member)) _

theorem adjustedCloseFor_valid (bar : HistoricalBarRecord)
    (valid : forall action, action ∈ actions -> action.Valid) :
    adjustedCloseFor bar actions =
      .ok ((sortedBy CorporateActionRecord.effectiveTime actions).foldl (effectAt bar.eventTime)
        bar.closePrice) :=
  foldlM_adjustOnce bar (fun action member => valid action (mem_sortedBy.mp member)) _

/-- Only a split and a dividend of one instant cannot be exchanged. -/
theorem adjusted_exchange {left right : CorporateActionRecord} (leftValid : left.Valid)
    (rightValid : right.Valid) (first : ¬ (left.Rescales ∧ right.PaysOut))
    (second : ¬ (right.Rescales ∧ left.PaysOut)) (close : Rat) :
    adjusted (adjusted close left) right = adjusted (adjusted close right) left := by
  cases leftValid.effect with
  | none leftValue => rw [leftValue, leftValue]
  | rescale ratio positive rescales leftValue =>
      cases rightValid.effect with
      | none rightValue => rw [rightValue, rightValue]
      | rescale other otherPositive _ rightValue =>
          rw [leftValue, rightValue, rightValue, leftValue, div_right_comm]
      | payOut amount _ pays _ => exact absurd ⟨rescales, pays⟩ first
  | payOut amount positive pays leftValue =>
      cases rightValid.effect with
      | none rightValue => rw [rightValue, rightValue]
      | rescale other _ rescales _ => exact absurd ⟨rescales, pays⟩ second
      | payOut other otherPositive _ rightValue =>
          have once : forall paid : Rat, 0 < paid -> forall value : Rat,
              max closeFloor (max closeFloor value - paid) = max closeFloor (value - paid) := by
            intro paid paidPositive value
            rw [← max_sub_sub_right, ← max_assoc, max_eq_left (b := closeFloor - paid)]
            exact (sub_lt_self closeFloor paidPositive).le
          rw [leftValue, rightValue, rightValue, leftValue, once other otherPositive,
            once amount positive, sub_right_comm]

theorem effectAt_exchange (valid : forall action, action ∈ actions -> action.Valid)
    (separated : Separated eventTime actions) {left right : CorporateActionRecord}
    (leftMember : left ∈ actions) (rightMember : right ∈ actions)
    (same : left.effectiveTime = right.effectiveTime) (close : Rat) :
    effectAt eventTime (effectAt eventTime close left) right =
      effectAt eventTime (effectAt eventTime close right) left := by
  by_cases early : left.effectiveTime ≤ eventTime
  · have rightEarly : right.effectiveTime ≤ eventTime := same ▸ early
    simp only [effectAt, if_pos early, if_pos rightEarly]
  · have rightLate : ¬ right.effectiveTime ≤ eventTime := same ▸ early
    simp only [effectAt, if_neg early, if_neg rightLate]
    apply adjusted_exchange (valid left leftMember) (valid right rightMember)
    · rintro ⟨rescales, pays⟩
      exact early (separated left leftMember rescales right rightMember pays same)
    · rintro ⟨rescales, pays⟩
      exact rightLate (separated right rightMember rescales left leftMember pays same.symm)

theorem Separated.orderFree (separated : Separated eventTime actions)
    (valid : forall action, action ∈ actions -> action.Valid) {bar : HistoricalBarRecord}
    (at_ : bar.eventTime = eventTime) : OrderFree bar actions := by
  subst at_
  intro reordered perm
  have stillValid : forall action, action ∈ reordered -> action.Valid :=
    fun action member => valid action (perm.mem_iff.mp member)
  rw [adjustedCloseFor_valid bar stillValid, adjustedCloseFor_valid bar valid]
  congr 1
  apply foldl_sortedBy_perm perm
  intro left leftMember right rightMember same close
  exact effectAt_exchange valid separated (perm.mem_iff.mp leftMember)
    (perm.mem_iff.mp rightMember) same close

end Order

/-! ## Large closes -/

/-- Large values stay large, and are told apart. -/
structure Faithful (change : Rat -> Rat) : Prop where
  grows : Tendsto change atTop atTop
  apart : exists start, Set.InjOn change (Set.Ici start)

theorem Faithful.id : Faithful fun value => value :=
  ⟨tendsto_id, 0, fun _ _ _ _ same => same⟩

theorem Faithful.comp {outer inner : Rat -> Rat} (outerFaithful : Faithful outer)
    (innerFaithful : Faithful inner) : Faithful fun value => outer (inner value) where
  grows := outerFaithful.grows.comp innerFaithful.grows
  apart := by
    rcases outerFaithful.apart with ⟨outerStart, outerApart⟩
    rcases innerFaithful.apart with ⟨innerStart, innerApart⟩
    rcases tendsto_atTop_atTop.mp innerFaithful.grows outerStart with ⟨reach, large⟩
    refine ⟨max reach innerStart, ?_⟩
    intro first firstLarge second secondLarge same
    have firstBounds := max_le_iff.mp (Set.mem_Ici.mp firstLarge)
    have secondBounds := max_le_iff.mp (Set.mem_Ici.mp secondLarge)
    exact innerApart firstBounds.2 secondBounds.2
      (outerApart (large first firstBounds.1) (large second secondBounds.1) same)

theorem Faithful.div {ratio : Rat} (positive : 0 < ratio) : Faithful fun value => value / ratio where
  grows := tendsto_id.atTop_div_const positive
  apart := by
    refine ⟨0, ?_⟩
    intro first _ second _ same
    exact (div_left_inj' positive.ne').mp same

theorem Faithful.sub (amount : Rat) : Faithful fun value => max closeFloor (value - amount) where
  grows := by
    refine tendsto_atTop_mono (fun value => le_max_right closeFloor (value - amount)) ?_
    simp only [sub_eq_add_neg]
    exact tendsto_atTop_add_const_right atTop (-amount) tendsto_id
  apart := by
    refine ⟨closeFloor + amount, ?_⟩
    intro first firstLarge second secondLarge same
    have firstAbove : closeFloor ≤ first - amount := le_sub_iff_add_le.mpr firstLarge
    have secondAbove : closeFloor ≤ second - amount := le_sub_iff_add_le.mpr secondLarge
    have equal : first - amount = second - amount := by
      rw [← max_eq_right firstAbove, ← max_eq_right secondAbove]
      exact same
    exact sub_left_inj.mp equal

theorem CorporateActionRecord.Valid.faithful {action : CorporateActionRecord}
    (valid : action.Valid) (eventTime : Instant) :
    Faithful fun value => effectAt eventTime value action := by
  by_cases early : action.effectiveTime ≤ eventTime
  · simp only [effectAt, if_pos early]
    exact Faithful.id
  · simp only [effectAt, if_neg early]
    cases valid.effect with
    | none value =>
        simp only [value]
        exact Faithful.id
    | rescale ratio positive _ value =>
        simp only [value]
        exact Faithful.div positive
    | payOut amount _ _ value =>
        simp only [value]
        exact Faithful.sub amount

theorem foldl_faithful {actions : List CorporateActionRecord}
    (valid : forall action, action ∈ actions -> action.Valid) (eventTime : Instant) :
    Faithful fun value => actions.foldl (effectAt eventTime) value := by
  induction actions with
  | nil => exact Faithful.id
  | cons action rest ih =>
      exact (ih fun other member => valid other (List.mem_cons_of_mem _ member)).comp
        ((valid action List.mem_cons_self).faithful eventTime)

/-! ## When the order matters -/

section Divergence

variable {eventTime : Instant} {actions : List CorporateActionRecord}

/-- A split and a dividend are told apart by their order on every large value. -/
theorem exchange_diverges {ratio amount : Rat} (ratioPositive : 0 < ratio) (scales : ratio ≠ 1)
    (amountPositive : 0 < amount) {value : Rat} (large : closeFloor + amount ≤ value)
    (scaledLarge : closeFloor + amount ≤ value / ratio) :
    max closeFloor (value / ratio - amount) ≠ max closeFloor (value - amount) / ratio := by
  rw [max_eq_right (le_sub_iff_add_le.mpr scaledLarge), max_eq_right (le_sub_iff_add_le.mpr large),
    sub_div]
  intro same
  have equal : amount = amount / ratio := sub_right_injective same
  have product : amount * ratio = amount * 1 := by
    rw [mul_one]
    exact (eq_div_iff ratioPositive.ne').mp equal
  exact scales (mul_left_cancel₀ amountPositive.ne' product)

def emptyBar : HistoricalBarRecord where
  symbol := ""
  interval := "1d"
  eventTime := 0
  publicationTime := 0
  effectiveTime := 0
  retrievalTime := 0
  openPrice := 100
  high := 100
  low := 100
  closePrice := 100
  adjustedClose := 100
  volume := 0
  adjustmentStatus := "unadjusted"
  version := 1
  checksum := ""
  rawMetadata := none

/-- A split and a dividend of one instant, in either order, between the same actions. -/
theorem order_diverges {split dividend : CorporateActionRecord} {rest : List CorporateActionRecord}
    (valid : forall action, action ∈ split :: dividend :: rest -> action.Valid)
    (rescales : split.Rescales) (pays : dividend.PaysOut)
    (same : split.effectiveTime = dividend.effectiveTime) (late : ¬ split.effectiveTime ≤ eventTime) :
    exists start, forall bar : HistoricalBarRecord, bar.eventTime = eventTime ->
      start ≤ bar.closePrice ->
        adjustedCloseFor bar (split :: dividend :: rest) ≠
          adjustedCloseFor bar (dividend :: split :: rest) := by
  rcases sortedBy_neighbours CorporateActionRecord.effectiveTime same rest with
    ⟨lower, upper, splitFirst, dividendFirst⟩
  have validSort : forall action, action ∈ lower ++ split :: dividend :: upper -> action.Valid := by
    intro action member
    rw [← splitFirst] at member
    exact valid action (mem_sortedBy.mp member)
  have validOther : forall action, action ∈ dividend :: split :: rest -> action.Valid :=
    fun action member => valid action ((List.Perm.swap split dividend rest).mem_iff.mp member)
  have front := foldl_faithful (fun action member =>
    validSort action (List.mem_append_left _ member)) eventTime
  have back := foldl_faithful (fun action member => validSort action (List.mem_append_right _
    (List.mem_cons_of_mem _ (List.mem_cons_of_mem _ member)))) eventTime
  rcases (valid split List.mem_cons_self).split rescales.1 with
    ⟨ratio, found, ratioPositive, splitValue⟩
  have scales : ratio ≠ 1 := fun one => rescales.2 (found.trans (congrArg some one))
  rcases (valid dividend (List.mem_cons_of_mem _ List.mem_cons_self)).dividend pays.1 pays.2 with
    ⟨amount, amountPositive, dividendValue⟩
  rcases back.apart with ⟨distinct, apart⟩
  have splitThen := (Faithful.sub amount).comp (Faithful.div ratioPositive)
  have dividendThen := (Faithful.div ratioPositive).comp (Faithful.sub amount)
  -- Far enough out, the actions before keep the value large, and those after tell it apart.
  have eventually : ∀ᶠ close in atTop,
      distinct ≤ max closeFloor (lower.foldl (effectAt eventTime) close / ratio - amount) ∧
        distinct ≤ max closeFloor (lower.foldl (effectAt eventTime) close - amount) / ratio ∧
        closeFloor + amount ≤ lower.foldl (effectAt eventTime) close ∧
        closeFloor + amount ≤ lower.foldl (effectAt eventTime) close / ratio :=
    ((splitThen.comp front).grows.eventually_ge_atTop distinct).and
      (((dividendThen.comp front).grows.eventually_ge_atTop distinct).and
        ((front.grows.eventually_ge_atTop (closeFloor + amount)).and
          (((Faithful.div ratioPositive).comp front).grows.eventually_ge_atTop
            (closeFloor + amount))))
  rcases eventually_atTop.mp eventually with ⟨start, far⟩
  refine ⟨start, fun bar at_ large same_ => ?_⟩
  subst at_
  rcases far bar.closePrice large with ⟨splitFar, dividendFar, whole, scaled⟩
  have dividendLate : ¬ dividend.effectiveTime ≤ bar.eventTime := same ▸ late
  have atSplit : forall value, effectAt bar.eventTime value split = value / ratio := by
    intro value
    rw [effectAt, if_neg late, splitValue]
  have atDividend : forall value,
      effectAt bar.eventTime value dividend = max closeFloor (value - amount) := by
    intro value
    rw [effectAt, if_neg dividendLate, dividendValue]
  rw [adjustedCloseFor_valid bar valid, adjustedCloseFor_valid bar validOther, splitFirst,
    dividendFirst] at same_
  have folds := Except.ok.inj same_
  simp only [List.foldl_append, List.foldl_cons, atSplit, atDividend] at folds
  exact exchange_diverges ratioPositive scales amountPositive whole scaled
    (apart splitFar dividendFar folds)

/-- The adjusted closes of the bars at an instant, with closes however large, are free of the
order of valid actions exactly when no later instant has a split and a dividend. -/
theorem adjustedClose_orderFree_iff (eventTime : Instant) (least : Rat)
    (actions : List CorporateActionRecord)
    (valid : forall action, action ∈ actions -> action.Valid) :
    (forall bar : HistoricalBarRecord, bar.eventTime = eventTime -> least ≤ bar.closePrice ->
        OrderFree bar actions) <->
      Separated eventTime actions := by
  constructor
  · intro free split splitMember rescales dividend dividendMember pays same
    by_contra late
    have different : dividend ≠ split := by
      intro equal
      exact not_split_of_dividend pays.1 (equal ▸ rescales.1)
    have perm : (split :: dividend :: (actions.erase split).erase dividend).Perm actions :=
      (((List.perm_cons_erase ((List.mem_erase_of_ne different).mpr dividendMember)).cons
        split).symm).trans (List.perm_cons_erase splitMember).symm
    have swapped := (List.Perm.swap split dividend ((actions.erase split).erase dividend)).trans perm
    rcases order_diverges (fun action member => valid action (perm.mem_iff.mp member)) rescales pays
      same late with ⟨start, diverges⟩
    let bar : HistoricalBarRecord := { emptyBar with
      eventTime := eventTime
      closePrice := max start least }
    have orderFree := free bar rfl (le_max_right start least)
    exact diverges bar rfl (le_max_left start least)
      ((orderFree _ perm).trans (orderFree _ swapped).symm)
  · intro separated bar at_ _
    exact separated.orderFree valid at_

end Divergence

/-! ## A dividend on the day of a split -/

def splitInTwo : CorporateActionRecord where
  symbol := ""
  actionType := "split"
  effectiveTime := 1
  publicationTime := 0
  retrievalTime := 0
  ratio := some 2
  amount := none
  currency := none
  oldSymbol := none
  newSymbol := none
  version := 1
  checksum := ""

def dividendOfTen : CorporateActionRecord :=
  { splitInTwo with
    actionType := "dividend"
    ratio := none
    amount := some 10
    currency := some "USD" }

theorem sameDay_orders :
    adjustedCloseFor emptyBar [splitInTwo, dividendOfTen] = .ok 40 ∧
      adjustedCloseFor emptyBar [dividendOfTen, splitInTwo] = .ok 45 := by
  decide +kernel

theorem sameDay_valid : forall action, action ∈ [splitInTwo, dividendOfTen] -> action.Valid := by
  intro action member
  rcases List.mem_cons.mp member with split | dividend
  · subst split
    decide
  · rw [List.mem_singleton.mp dividend]
    decide

/-- A valid split and a valid dividend of one day, and a close of 100. -/
theorem adjustedClose_order_matters :
    ¬ forall (bar : HistoricalBarRecord) (actions : List CorporateActionRecord),
      (forall action, action ∈ actions -> action.Valid) -> OrderFree bar actions := by
  intro free
  have same := free emptyBar [splitInTwo, dividendOfTen] sameDay_valid
    [dividendOfTen, splitInTwo] (List.Perm.swap _ _ _)
  rw [sameDay_orders.1, sameDay_orders.2] at same
  revert same
  decide +kernel

/-- A day apart, the order in which they are given does not matter. -/
theorem nextDay_orderFree : Separated 0 [splitInTwo, { dividendOfTen with effectiveTime := 2 }] ∧
    (forall bar : HistoricalBarRecord, bar.eventTime = 0 -> 0 ≤ bar.closePrice ->
      OrderFree bar [splitInTwo, { dividendOfTen with effectiveTime := 2 }]) := by
  have valid : forall action,
      action ∈ [splitInTwo, { dividendOfTen with effectiveTime := 2 }] -> action.Valid := by
    intro action member
    rcases List.mem_cons.mp member with split | dividend
    · subst split
      decide
    · rw [List.mem_singleton.mp dividend]
      decide
  have separated : Separated 0 [splitInTwo, { dividendOfTen with effectiveTime := 2 }] := by
    rw [Separated]
    decide
  exact ⟨separated, (adjustedClose_orderFree_iff 0 0 _ valid).mpr separated⟩

end MarketData
end MarketIntelligence
