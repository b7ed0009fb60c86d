import MarketIntelligence.Payloads.Types
import Mathlib.Tactic.Linarith

namespace MarketIntelligence
namespace Payloads

open Foundations
open Foundations.CalendarDates
open Foundations.DecimalText
open Foundations.Outcomes

/-!
# What a bar has to be

The prices of a bar are finite and positive, the low and the high are around the open and the
close, and the volume is a whole number that is not negative.  The comparisons of the parsers say
so of numbers that are finite.

A parser fails closed when it returns only such bars, and raises only errors of a provider.
-/

/-! ## Prices -/

def Positive (price : Decimal) : Prop :=
  price.isFinite = true ∧ 0 < price.value

instance (price : Decimal) : Decidable (Positive price) :=
  inferInstanceAs (Decidable (_ ∧ _))

structure Prices.Positive (prices : Prices) : Prop where
  openPrice : Payloads.Positive prices.openPrice
  high : Payloads.Positive prices.high
  low : Payloads.Positive prices.low
  closePrice : Payloads.Positive prices.closePrice

/-- The low and the high are around the open and the close. -/
structure Prices.Ordered (prices : Prices) : Prop where
  low_open : prices.low.value ≤ prices.openPrice.value
  low_close : prices.low.value ≤ prices.closePrice.value
  open_high : prices.openPrice.value ≤ prices.high.value
  close_high : prices.closePrice.value ≤ prices.high.value

section Comparisons

variable {first second : Decimal}

theorem less_eq (left : first.isFinite = true) (right : second.isFinite = true) :
    less first second = .ok (decide (first.value < second.value)) :=
  congrArg compared (Decimal.less_finite left right)

theorem zero_value : zero.value = 0 := by
  simp only [zero, Decimal.value, Bool.false_eq_true, if_false, Nat.cast_zero, zero_mul]

theorem atMost_zero (number : first.isFinite = true) :
    atMost first zero = .ok (!decide (0 < first.value)) := by
  rw [atMost, less_eq rfl number, zero_value]
  rfl

theorem refused_eq (price : Decimal) : refused price = .ok (!decide (Positive price)) := by
  rw [refused]
  by_cases number : price.isFinite = true
  · rw [if_pos number, atMost_zero number]
    have same : (Positive price) = (0 < price.value) :=
      propext ⟨fun positive => positive.2, fun positive => ⟨number, positive⟩⟩
    simp only [same]
  · rw [if_neg number, decide_eq_false fun positive => number positive.1]
    rfl

theorem not_decide_eq_false {holds : Prop} [Decidable holds] :
    (!decide holds) = false <-> holds := by
  rw [Bool.not_eq_false', decide_eq_true_iff]

/-- The prices are refused when one of them is. -/
theorem anyRefused_eq (prices : Prices) :
    exists answer, prices.anyRefused = .ok answer ∧ (answer = false <-> prices.Positive) := by
  rw [Prices.anyRefused, refused_eq, refused_eq, refused_eq, refused_eq]
  by_cases openPrice : Positive prices.openPrice
  · by_cases high : Positive prices.high
    · by_cases low : Positive prices.low
      · refine ⟨!decide (Positive prices.closePrice), ?_, ?_⟩
        · rw [decide_eq_true openPrice, decide_eq_true high, decide_eq_true low]
          rfl
        · rw [not_decide_eq_false]
          exact ⟨fun closePrice => ⟨openPrice, high, low, closePrice⟩, fun all => all.closePrice⟩
      · refine ⟨true, ?_, iff_of_false Bool.false_ne_true.symm fun all => low all.low⟩
        rw [decide_eq_true openPrice, decide_eq_true high, decide_eq_false low]
        rfl
    · refine ⟨true, ?_, iff_of_false Bool.false_ne_true.symm fun all => high all.high⟩
      rw [decide_eq_true openPrice, decide_eq_false high]
      rfl
  · refine ⟨true, ?_, iff_of_false Bool.false_ne_true.symm fun all => openPrice all.openPrice⟩
    rw [decide_eq_false openPrice]
    rfl

theorem maximum_finite (left : first.isFinite = true) (right : second.isFinite = true) :
    exists greatest, maximum first second = .ok greatest ∧ greatest.isFinite = true ∧
      greatest.value = max first.value second.value := by
  rw [maximum, less_eq left right]
  by_cases below : first.value < second.value
  · refine ⟨second, ?_, right, (max_eq_right below.le).symm⟩
    rw [decide_eq_true below]
    rfl
  · refine ⟨first, ?_, left, (max_eq_left (not_lt.mp below)).symm⟩
    rw [decide_eq_false below]
    rfl

theorem minimum_finite (left : first.isFinite = true) (right : second.isFinite = true) :
    exists least, minimum first second = .ok least ∧ least.isFinite = true ∧
      least.value = min first.value second.value := by
  rw [minimum, less_eq right left]
  by_cases below : second.value < first.value
  · refine ⟨second, ?_, right, (min_eq_right below.le).symm⟩
    rw [decide_eq_true below]
    rfl
  · refine ⟨first, ?_, left, (min_eq_left (not_lt.mp below)).symm⟩
    rw [decide_eq_false below]
    rfl

/-- Positive prices are found inconsistent when they are not ordered. -/
theorem inconsistent_eq {prices : Prices} (positive : prices.Positive) :
    exists answer, prices.inconsistent = .ok answer ∧ (answer = false <-> prices.Ordered) := by
  rcases maximum_finite positive.openPrice.1 positive.closePrice.1 with ⟨greatest, above, upper, most⟩
  rcases minimum_finite positive.openPrice.1 positive.closePrice.1 with ⟨least, below, lower, fewest⟩
  rw [Prices.inconsistent, Loops.except_bind_eq above, less_eq positive.high.1 upper,
    Loops.except_bind_eq below, less_eq lower positive.low.1, most, fewest]
  by_cases high : prices.high.value < max prices.openPrice.value prices.closePrice.value
  · refine ⟨true, ?_, iff_of_false Bool.false_ne_true.symm fun ordered => absurd high ?_⟩
    · rw [decide_eq_true high]
      rfl
    · exact not_lt.mpr (max_le ordered.open_high ordered.close_high)
  · refine ⟨decide (min prices.openPrice.value prices.closePrice.value < prices.low.value), ?_, ?_⟩
    · rw [decide_eq_false high]
      rfl
    · have around := max_le_iff.mp (not_lt.mp high)
      rw [decide_eq_false_iff_not, not_lt, le_min_iff]
      exact ⟨fun low => ⟨low.1, low.2, around.1, around.2⟩,
        fun ordered => ⟨ordered.low_open, ordered.low_close⟩⟩

end Comparisons

/-! ## Volumes -/

/-- A volume that is a whole number and not negative. -/
structure Whole (volume : Decimal) : Prop where
  finite : volume.isFinite = true
  nonneg : 0 ≤ volume.value
  integral : volume.toIntegralValue.value = volume.value

theorem toIntegralValue_finite {value : Decimal} (number : value.isFinite = true) :
    value.toIntegralValue.isFinite = true := by
  cases value with
  | finite negative coefficient exponent =>
      rw [Decimal.toIntegralValue]
      split <;> rfl
  | infinity _ => cases number
  | notANumber _ => cases number

theorem intOfDecimal_finite {value : Decimal} (number : value.isFinite = true) :
    intOfDecimal value = .ok (truncate value.value) := by
  cases value with
  | finite _ _ _ => rfl
  | infinity _ => cases number
  | notANumber _ => cases number

theorem truncate_nonneg {value : Rat} (nonneg : 0 ≤ value) : 0 ≤ truncate value := by
  rw [truncate, if_pos nonneg]
  exact Int.floor_nonneg.mpr nonneg

theorem less_zero {value : Decimal} (number : value.isFinite = true) :
    less value zero = .ok (decide (value.value < 0)) := by
  rw [less_eq number rfl, zero_value]

theorem differs_eq {first second : Decimal} (left : first.isFinite = true)
    (right : second.isFinite = true) :
    differs first second = .ok (!decide (first.value = second.value)) := by
  rw [differs, Decimal.same_finite left right]
  rfl

theorem negativeOrFractional_finite {volume : Decimal} (number : volume.isFinite = true) :
    exists answer, negativeOrFractional volume = .ok answer ∧ (answer = false <-> Whole volume) := by
  rw [negativeOrFractional, less_zero number, differs_eq number (toIntegralValue_finite number)]
  by_cases negative : volume.value < 0
  · refine ⟨true, ?_, iff_of_false Bool.false_ne_true.symm fun whole => ?_⟩
    · rw [decide_eq_true negative]
      rfl
    · exact absurd negative (not_lt.mpr whole.nonneg)
  · refine ⟨!decide (volume.value = volume.toIntegralValue.value), ?_, ?_⟩
    · rw [decide_eq_false negative]
      rfl
    · rw [not_decide_eq_false]
      exact ⟨fun integral => ⟨number, not_lt.mp negative, integral.symm⟩,
        fun whole => whole.integral.symm⟩

/-! ## Times -/

theorem closeTime_within (library : Library) (date : Date) :
    Within (sessionWall date - library.newYork (sessionWall date)) := by
  have west := library.newYork_west (sessionWall date)
  have first := date.ordinal_pos
  have last := date.ordinal_le
  simp only [Within, sessionWall, dayMicroseconds, hourMicroseconds] at west ⊢
  constructor
  · omega
  · omega

/-- The time that `sessionClose` finds. -/
def closeTime (library : Library) (date : Date) : DateTime :=
  ⟨sessionWall date - library.newYork (sessionWall date), some 0, closeTime_within library date⟩

theorem sessionClose_eq (library : Library) (date : Date) :
    sessionClose library date = .ok (closeTime library date) :=
  dif_pos (closeTime_within library date)

/-- A later date has a later close. -/
theorem closeTime_injective {library : Library} {first second : Date}
    (same : (closeTime library first).instant = (closeTime library second).instant) :
    first = second := by
  have west := library.newYork_west (sessionWall first)
  have other := library.newYork_west (sessionWall second)
  apply Date.ordinal_injective
  simp only [DateTime.instant, closeTime, Option.getD_some, sessionWall, dayMicroseconds,
    hourMicroseconds] at same west other
  omega

theorem toUtc_aware {time result : DateTime} (done : time.toUtc = .ok result) :
    result.offset = some 0 ∧ result.wall = time.instant := by
  rw [DateTime.toUtc] at done
  split at done
  · cases done
    exact ⟨rfl, rfl⟩
  · cases done

/-! ## Failing closed -/

/-- A bar as the parsers may return it. -/
structure BarRecord.Sound (record : BarRecord) : Prop where
  positive : record.prices.Positive
  ordered : record.prices.Ordered
  volume : 0 ≤ record.volume
  aware : record.eventTime.offset.isSome = true

/-- An exception that is no error of a provider. -/
def Raised.Foreign : Raised -> Prop
  | .provider _ _ => False
  | .python _ => True

/-- Some exception escapes that is no error of a provider. -/
abbrev Escapes {α : Type} (outcome : Except Raised α) : Prop := Stops Raised.Foreign outcome

/-- The exception that escapes. -/
def escaping {α : Type} : Except Raised α -> Option PyException
  | .ok _ => none
  | .error (.provider _ _) => none
  | .error (.python exception) => some exception

theorem escapes_of_escaping {α : Type} {outcome : Except Raised α} {exception : PyException}
    (same : escaping outcome = some exception) : Escapes outcome := by
  cases outcome with
  | ok _ => cases same
  | error raised =>
      cases raised with
      | provider _ _ => cases same
      | python other => exact stops_error_iff.mpr trivial

/-- The parser returns bars that are sound, or raises an error of the provider.  No other
exception escapes it, and no bar that it returns breaks a rule. -/
def FailsClosed (outcome : Except Raised (List BarRecord)) : Prop :=
  ¬ Escapes outcome ∧
    forall records, outcome = .ok records -> forall record, record ∈ records -> record.Sound

section Clauses

variable {α : Type} {caught : List PyException} {kind : ProviderErrorClass} {message : String}
  {outcome : Except PyException α}

theorem not_escapes_raise : ¬ Escapes (raise kind message : Except Raised α) :=
  stops_error_iff.not.mpr id

theorem escapes_excepting_iff :
    Escapes (excepting caught kind message outcome) <->
      exists exception, outcome = .error exception ∧ exception ∉ caught := by
  cases outcome with
  | ok value =>
      constructor
      · exact fun escapes => absurd escapes (not_stops_ok value)
      · rintro ⟨_, impossible, _⟩
        cases impossible
  | error exception =>
      rw [excepting]
      by_cases known : exception ∈ caught
      · rw [if_pos known]
        constructor
        · exact fun escapes => absurd escapes (stops_error_iff.not.mpr id)
        · rintro ⟨_, same, other⟩
          cases same
          exact absurd known other
      · rw [if_neg known]
        exact ⟨fun _ => ⟨exception, rfl, known⟩, fun _ => stops_error_iff.mpr trivial⟩

theorem excepting_ok_iff {value : α} :
    excepting caught kind message outcome = .ok value <-> outcome = .ok value := by
  cases outcome with
  | ok other => exact ⟨fun done => congrArg _ (Except.ok.inj done), fun done =>
      congrArg _ (Except.ok.inj done)⟩
  | error exception =>
      constructor
      · intro done
        rw [excepting] at done
        split at done <;> cases done
      · exact fun impossible => nomatch impossible

theorem escapes_unguarded_iff :
    Escapes (unguarded outcome) <-> exists exception, outcome = .error exception := by
  cases outcome with
  | ok value =>
      constructor
      · exact fun escapes => absurd escapes (not_stops_ok value)
      · rintro ⟨_, impossible⟩
        cases impossible
  | error exception =>
      exact ⟨fun _ => ⟨exception, rfl⟩, fun _ => stops_error_iff.mpr trivial⟩

theorem unguarded_ok_iff {value : α} : unguarded outcome = .ok value <-> outcome = .ok value := by
  cases outcome with
  | ok other => exact ⟨fun done => congrArg _ (Except.ok.inj done), fun done =>
      congrArg _ (Except.ok.inj done)⟩
  | error exception =>
      constructor
      · exact fun impossible => nomatch impossible
      · exact fun impossible => nomatch impossible

end Clauses

section Checks

variable {notPositive inconsistent : String}

theorem Prices.check_ok_iff {prices : Prices} :
    prices.check notPositive inconsistent = .ok () <-> prices.Positive ∧ prices.Ordered := by
  rcases anyRefused_eq prices with ⟨answer, refused, positive⟩
  rw [Prices.check, refused]
  cases answer with
  | true => exact iff_of_false (fun impossible => nomatch impossible) fun fits =>
      Bool.false_ne_true (positive.mpr fits.1).symm
  | false =>
      have fits := positive.mp rfl
      rcases inconsistent_eq fits with ⟨answer, compared, ordered⟩
      rw [compared]
      cases answer with
      | true => exact iff_of_false (fun impossible => nomatch impossible) fun fits =>
          Bool.false_ne_true (ordered.mpr fits.2).symm
      | false => exact iff_of_true rfl ⟨fits, ordered.mp rfl⟩

theorem Prices.check_contained {prices : Prices} :
    ¬ Escapes (prices.check notPositive inconsistent) := by
  rcases anyRefused_eq prices with ⟨answer, refused, positive⟩
  rw [Prices.check, refused]
  cases answer with
  | true => exact not_escapes_raise
  | false =>
      rcases inconsistent_eq (positive.mp rfl) with ⟨answer, compared, _⟩
      rw [compared]
      cases answer with
      | true => exact not_escapes_raise
      | false => exact not_stops_ok _

end Checks

/-! ## What the conversions raise -/

section Conversions

variable {library : Library} {members : List (String × Json)}

theorem str_error {value : Json} {exception : PyException}
    (failed : str library value = .error exception) : exception = .valueError := by
  have given : forall {found : Option Text}, orValueError found = .error exception ->
      exception = .valueError := by
    intro found failed
    cases found with
    | some text => cases failed
    | none => exact (Except.error.inj failed).symm
  cases value with
  | null => cases failed
  | bool _ => cases failed
  | int value =>
      rw [str] at failed
      split at failed
      · exact (Except.error.inj failed).symm
      · cases failed
  | float _ => cases failed
  | infinity _ => cases failed
  | notANumber => cases failed
  | string _ => cases failed
  | list _ => exact given failed
  | object _ => exact given failed

theorem decimal_error {text : Text} {exception : PyException}
    (failed : decimal library text = .error exception) : exception = .invalidOperation := by
  rw [decimal] at failed
  split at failed
  · cases failed
  · exact (Except.error.inj failed).symm

/-- What the conversions of a value can raise when the field is there. -/
def Guarded (exception : PyException) : Prop :=
  exception = .valueError ∨ exception = .invalidOperation

theorem number_guarded {key : String} (present : (member members key).isSome = true) :
    ¬ Stops (fun exception => ¬ Guarded exception) (number library members key) := by
  rcases Option.isSome_iff_exists.mp present with ⟨value, found⟩
  apply not_stops_bind
  · rw [strOf, found]
    rintro ⟨exception, failed, other⟩
    exact other (Or.inl (str_error failed))
  · rintro text _ ⟨exception, failed, other⟩
    exact other (Or.inr (decimal_error failed))

end Conversions

end Payloads
end MarketIntelligence
