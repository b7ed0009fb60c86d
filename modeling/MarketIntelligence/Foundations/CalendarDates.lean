import MarketIntelligence.Foundations.DecimalText

namespace MarketIntelligence
namespace Foundations
namespace CalendarDates

open DecimalText
open TextLines

/-!
# Dates of the calendar

A date is a day of the proleptic Gregorian calendar in the years 1 to 9999.  Its ordinal counts
the days from the first of them, and no two dates share one.

A date is printed with four digits for the year and two for the month and the day.  It is read
more freely: the month and the day may have one digit, a blank may stand before the day, and the
digits may be those of any alphabet.  What is printed is read back.
-/

def leap (year : Nat) : Bool :=
  year % 4 = 0 && (year % 100 ≠ 0 || year % 400 = 0)

def daysInMonth (leap : Bool) : Nat -> Nat
  | 2 => if leap then 29 else 28
  | 4 => 30
  | 6 => 30
  | 9 => 30
  | 11 => 30
  | _ => 31

/-- The days of a year before a month. -/
def daysBeforeMonth (leap : Bool) : Nat -> Nat
  | 0 => 0
  | 1 => 0
  | month + 1 => daysBeforeMonth leap month + daysInMonth leap month

def daysBeforeYear (year : Nat) : Nat :=
  (year - 1) * 365 + (year - 1) / 4 - (year - 1) / 100 + (year - 1) / 400

def Valid (year month day : Nat) : Prop :=
  (1 ≤ year ∧ year ≤ 9999) ∧ (1 ≤ month ∧ month ≤ 12) ∧
    1 ≤ day ∧ day ≤ daysInMonth (leap year) month

instance (year month day : Nat) : Decidable (Valid year month day) :=
  inferInstanceAs (Decidable (_ ∧ _))

structure Date where
  year : Nat
  month : Nat
  day : Nat
  valid : Valid year month day
  deriving DecidableEq, Repr

namespace Date

theorem eq_of_parts {first second : Date} (year : first.year = second.year)
    (month : first.month = second.month) (day : first.day = second.day) : first = second := by
  cases first
  cases second
  cases year
  cases month
  cases day
  rfl

def ofParts (year month day : Nat) : Option Date :=
  if valid : Valid year month day then some ⟨year, month, day, valid⟩ else none

theorem ofParts_self (date : Date) : ofParts date.year date.month date.day = some date :=
  dif_pos date.valid

/-! ## The ordinal -/

def ordinal (date : Date) : Nat :=
  daysBeforeYear date.year + daysBeforeMonth (leap date.year) date.month + date.day

theorem daysBeforeMonth_step (leap : Bool) {month next : Nat} (positive : 1 ≤ month)
    (later : month < next) (last : next ≤ 13) :
    daysBeforeMonth leap month + daysInMonth leap month ≤ daysBeforeMonth leap next := by
  have all : forall leap : Bool, forall next : Fin 14, forall month : Fin next.val,
      1 ≤ month.val ->
        daysBeforeMonth leap month.val + daysInMonth leap month.val ≤
          daysBeforeMonth leap next.val := by decide
  exact all leap ⟨next, by omega⟩ ⟨month, later⟩ positive

theorem daysBeforeMonth_end (leap : Bool) :
    daysBeforeMonth leap 13 = if leap then 366 else 365 := by
  cases leap <;> rfl

theorem leap_iff (year : Nat) :
    leap year = true <-> 4 ∣ year ∧ (¬ 100 ∣ year ∨ 400 ∣ year) := by
  simp only [leap, Bool.and_eq_true, Bool.or_eq_true, decide_eq_true_eq, Nat.dvd_iff_mod_eq_zero]

theorem daysBeforeYear_succ {year : Nat} (positive : 1 ≤ year) :
    daysBeforeYear (year + 1) = daysBeforeYear year + daysBeforeMonth (leap year) 13 := by
  rcases Nat.exists_eq_add_of_le' positive with ⟨previous, same⟩
  subst same
  have hundreds : 100 ∣ previous + 1 -> 4 ∣ previous + 1 := Nat.dvd_trans (by decide)
  have fourths : 400 ∣ previous + 1 -> 100 ∣ previous + 1 := Nat.dvd_trans (by decide)
  have below : previous / 100 ≤ previous := Nat.div_le_self _ _
  have long := leap_iff (previous + 1)
  rw [daysBeforeMonth_end]
  simp only [daysBeforeYear, Nat.add_sub_cancel, Nat.succ_div]
  by_cases four : 4 ∣ previous + 1
  · by_cases hundred : 100 ∣ previous + 1
    · by_cases fourHundred : 400 ∣ previous + 1
      · rw [if_pos four, if_pos hundred, if_pos fourHundred,
          if_pos (long.mpr ⟨four, Or.inr fourHundred⟩)]
        omega
      · rw [if_pos four, if_pos hundred, if_neg fourHundred,
          if_neg fun leaping => (long.mp leaping).2.elim (absurd hundred) fourHundred]
        omega
    · rw [if_pos four, if_neg hundred, if_neg fun multiple => hundred (fourths multiple),
        if_pos (long.mpr ⟨four, Or.inl hundred⟩)]
      omega
  · have hundred : ¬ 100 ∣ previous + 1 := fun multiple => four (hundreds multiple)
    rw [if_neg four, if_neg hundred, if_neg fun multiple => hundred (fourths multiple),
      if_neg fun leaping => four (long.mp leaping).1]
    omega

theorem daysBeforeYear_le {year next : Nat} (later : year ≤ next) :
    daysBeforeYear year ≤ daysBeforeYear next := by
  have step : forall year, daysBeforeYear year ≤ daysBeforeYear (year + 1) := by
    intro year
    cases year with
    | zero => exact Nat.le_refl 0
    | succ year =>
        rw [daysBeforeYear_succ (Nat.succ_pos year)]
        exact Nat.le_add_right _ _
  exact monotone_nat_of_le_succ step later

/-- The days of a year are those between the ordinals around it. -/
theorem ordinal_within (date : Date) :
    daysBeforeYear date.year < date.ordinal ∧ date.ordinal ≤ daysBeforeYear (date.year + 1) := by
  rcases date.valid with ⟨⟨first, _⟩, ⟨january, december⟩, early, late⟩
  have upTo := daysBeforeMonth_step (leap date.year) january
    (Nat.lt_of_le_of_lt december (by decide)) (Nat.le_refl 13)
  have year := daysBeforeYear_succ first
  rw [ordinal]
  constructor
  · omega
  · omega

theorem ordinal_lt_of_year {first second : Date} (earlier : first.year < second.year) :
    first.ordinal < second.ordinal :=
  calc
    first.ordinal ≤ daysBeforeYear (first.year + 1) := first.ordinal_within.2
    _ ≤ daysBeforeYear second.year := daysBeforeYear_le earlier
    _ < second.ordinal := second.ordinal_within.1

theorem ordinal_lt_of_month {first second : Date} (year : first.year = second.year)
    (earlier : first.month < second.month) : first.ordinal < second.ordinal := by
  rcases first.valid with ⟨_, ⟨january, _⟩, _, late⟩
  rcases second.valid with ⟨_, ⟨_, december⟩, early, _⟩
  have step := daysBeforeMonth_step (leap first.year) january earlier (Nat.le_succ_of_le december)
  rw [ordinal, ordinal, ← year]
  omega

theorem ordinal_injective {first second : Date} (same : first.ordinal = second.ordinal) :
    first = second := by
  have year : first.year = second.year := by
    rcases Nat.lt_trichotomy first.year second.year with earlier | equal | later
    · exact absurd same (Nat.ne_of_lt (ordinal_lt_of_year earlier))
    · exact equal
    · exact absurd same (Nat.ne_of_gt (ordinal_lt_of_year later))
  have month : first.month = second.month := by
    rcases Nat.lt_trichotomy first.month second.month with earlier | equal | later
    · exact absurd same (Nat.ne_of_lt (ordinal_lt_of_month year earlier))
    · exact equal
    · exact absurd same (Nat.ne_of_gt (ordinal_lt_of_month year.symm later))
  refine eq_of_parts year month ?_
  rw [ordinal, ordinal, year, month] at same
  exact Nat.add_left_cancel same

theorem ordinal_pos (date : Date) : 1 ≤ date.ordinal :=
  Nat.lt_of_le_of_lt (Nat.zero_le _) date.ordinal_within.1

/-- The ordinal of the last date. -/
def maxOrdinal : Nat := 3652059

theorem ordinal_le (date : Date) : date.ordinal ≤ maxOrdinal :=
  calc
    date.ordinal ≤ daysBeforeYear (date.year + 1) := date.ordinal_within.2
    _ ≤ daysBeforeYear 10000 := daysBeforeYear_le (Nat.succ_le_succ date.valid.1.2)
    _ = maxOrdinal := rfl

/-! ## Printing and reading -/

/-- The digits of a number after as many zeros as the width asks for. -/
def pad (width number : Nat) : List Char :=
  List.replicate (width - (Nat.toDigits 10 number).length) '0' ++ Nat.toDigits 10 number

def isoformat (date : Date) : List Char :=
  pad 4 date.year ++ '-' :: (pad 2 date.month ++ '-' :: pad 2 date.day)

/-- A digit that is not zero. -/
def nonzero (char : Char) : Bool := char.isDigit && char ≠ '0'

def monthPattern : List Char -> Bool
  | ['1', char] => char = '0' || char = '1' || char = '2'
  | ['0', char] => nonzero char
  | [char] => nonzero char
  | _ => false

def dayPattern (digit : Char -> Bool) : List Char -> Bool
  | ['3', char] => char = '0' || char = '1'
  | ['1', char] => digit char
  | ['2', char] => digit char
  | ['0', char] => nonzero char
  | [' ', char] => nonzero char
  | [char] => nonzero char
  | _ => false

/-- The date that a text stands for, where the parts are those of the pattern. -/
def strptime (digits : Digits) (text : List Char) : Option Date :=
  match text with
  | first :: second :: third :: fourth :: '-' :: rest =>
      match rest.dropWhile fun char => char ≠ '-' with
      | '-' :: day =>
          let month := rest.takeWhile fun char => char ≠ '-'
          if monthPattern month && dayPattern (fun char => (digits.value char).isSome) day then
            match Decimal.readDigits digits [first, second, third, fourth] 0,
                Decimal.readDigits digits month 0, Decimal.readDigits digits (strip day) 0 with
            | some year, some month, some day => ofParts year month day
            | _, _, _ => none
          else none
      | _ => none
  | _ => none

theorem pad_digits (width number : Nat) :
    forall char, char ∈ pad width number -> char.isDigit = true := by
  intro char member
  rcases List.mem_append.mp member with zero | digit
  · rw [List.eq_of_mem_replicate zero]
    rfl
  · exact Decimal.digits_toDigits number char digit

theorem pad_value (width number : Nat) : Nat.ofDigitChars 10 (pad width number) 0 = number := by
  rw [pad, Nat.ofDigitChars_append, Nat.ofDigitChars_replicate_zero]
  exact Nat.ofDigitChars_ten_toDigits

theorem pad_length {width number : Nat} (positive : 0 < width) (short : number < 10 ^ width) :
    (pad width number).length = width := by
  have fits : (Nat.toDigits 10 number).length ≤ width :=
    (Nat.length_toDigits_le_iff (by decide) positive).mpr short
  rw [pad, List.length_append, List.length_replicate]
  omega

theorem monthPattern_pad {month : Nat} (positive : 1 ≤ month) (last : month ≤ 12) :
    monthPattern (pad 2 month) = true := by
  have all : forall month : Fin 13, 1 ≤ month.val -> monthPattern (pad 2 month.val) = true := by
    decide
  exact all ⟨month, by omega⟩ positive

/-- The pattern of a day, by its first digit. -/
theorem pad_day : forall day : Fin 32, 1 ≤ day.val ->
    pad 2 day.val = ['0', (pad 2 day.val).getD 1 '0'] ∧
        nonzero ((pad 2 day.val).getD 1 '0') = true ∨
      pad 2 day.val = ['1', (pad 2 day.val).getD 1 '0'] ∨
      pad 2 day.val = ['2', (pad 2 day.val).getD 1 '0'] ∨
      pad 2 day.val = ['3', '0'] ∨ pad 2 day.val = ['3', '1'] := by
  decide

theorem dayPattern_pad {digit : Char -> Bool}
    (wider : forall char : Char, char.isDigit = true -> digit char = true) {day : Nat}
    (positive : 1 ≤ day) (last : day ≤ 31) : dayPattern digit (pad 2 day) = true := by
  have ends : forall first char, pad 2 day = [first, char] -> digit char = true := by
    intro first char printed
    apply wider
    apply pad_digits 2 day
    rw [printed]
    exact List.mem_cons_of_mem _ List.mem_cons_self
  rcases pad_day ⟨day, by omega⟩ positive with ⟨printed, units⟩ | teens | twenties | thirty | last
  · rw [printed]
    exact units
  · rw [teens]
    exact ends _ _ teens
  · rw [twenties]
    exact ends _ _ twenties
  · rw [thirty]
    rfl
  · rw [last]
    rfl

theorem daysInMonth_le (leap : Bool) {month : Nat} (last : month ≤ 12) :
    daysInMonth leap month ≤ 31 := by
  have all : forall leap : Bool, forall month : Fin 13, daysInMonth leap month.val ≤ 31 := by
    decide
  exact all leap ⟨month, by omega⟩

theorem value_digit (digits : Digits) {char : Char} (digit : char.isDigit = true) :
    (digits.value char).isSome = true := by
  have bounds := Decimal.digit_bounds digit
  rw [digits.ascii char (by omega), if_pos digit]
  rfl

/-- What is printed of a date is read as the date. -/
theorem strptime_isoformat (digits : Digits) (date : Date) :
    strptime digits date.isoformat = some date := by
  rcases date.valid with ⟨⟨_, lastYear⟩, ⟨january, december⟩, early, late⟩
  have days := Nat.le_trans late (daysInMonth_le (leap date.year) december)
  have yearLength := @pad_length 4 date.year (by decide) (by omega)
  have yearDigits := pad_digits 4 date.year
  have yearValue := pad_value 4 date.year
  rw [isoformat]
  generalize pad 4 date.year = year at yearLength yearDigits yearValue ⊢
  rcases List.length_eq_four.mp yearLength with ⟨first, second, third, fourth, same⟩
  subst same
  have apart : forall char, char ∈ pad 2 date.month -> decide (char ≠ '-') = true :=
    fun char member => decide_eq_true (Decimal.ne_of_digit (pad_digits 2 _ char member) rfl)
  have front : (pad 2 date.month ++ '-' :: pad 2 date.day).takeWhile (fun char => char ≠ '-') =
      pad 2 date.month := by
    rw [List.takeWhile_append_of_pos apart]
    exact List.append_nil _
  have back : (pad 2 date.month ++ '-' :: pad 2 date.day).dropWhile (fun char => char ≠ '-') =
      '-' :: pad 2 date.day := by
    rw [List.dropWhile_append_of_pos apart]
    rfl
  have bare : strip (pad 2 date.day) = pad 2 date.day :=
    strip_of_none fun char member => Decimal.Numeral.space (Or.inl (pad_digits 2 _ char member))
  have matched : (monthPattern (pad 2 date.month) &&
      dayPattern (fun char => (digits.value char).isSome) (pad 2 date.day)) = true := by
    rw [monthPattern_pad january december,
      dayPattern_pad (fun _ => value_digit digits) early days]
    rfl
  change (match (pad 2 date.month ++ '-' :: pad 2 date.day).dropWhile fun char => char ≠ '-' with
      | '-' :: day => _
      | _ => none) = _
  rw [back]
  simp only [front, matched, if_true, bare, Decimal.readDigits_digits (pad_digits 2 _),
    Decimal.readDigits_digits yearDigits, yearValue, pad_value]
  exact ofParts_self date

end Date

end CalendarDates
end Foundations
end MarketIntelligence
