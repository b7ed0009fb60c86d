import MarketIntelligence.Foundations.DecimalGrid
import MarketIntelligence.Foundations.TextLines

namespace MarketIntelligence
namespace Foundations
namespace DecimalText

open TextLines

/-!
# Decimal numbers as texts

A decimal number is a coefficient with an exponent, an infinity, or not a number.  A text is read
as a number after its blanks and its underscores are left out, and a number is printed in the
scientific notation of the General Decimal Arithmetic.

What is printed of a finite number is read back as the same coefficient and the same exponent.
Which characters are decimal digits is a parameter.
-/

inductive Decimal where
  | finite (negative : Bool) (coefficient : Nat) (exponent : Int)
  | infinity (negative : Bool)
  | notANumber (signaling : Bool)
  deriving DecidableEq, Repr

/-- The decimal digits of an alphabet, among them those of ASCII.  The constructor of decimals
takes the digits of every script. -/
structure Digits where
  value : Char -> Option Nat
  ascii : forall char : Char, char.toNat < 128 ->
    value char = if char.isDigit then some (char.toNat - '0'.toNat) else none

def asciiDigits : Digits where
  value := fun char => if char.isDigit then some (char.toNat - '0'.toNat) else none
  ascii := fun _ _ => rfl

namespace Decimal

/-! ## Values -/

/-- The value of a finite number. -/
def value : Decimal -> Rat
  | .finite negative coefficient exponent =>
      (if negative then -(coefficient : Rat) else coefficient) * (10 : Rat) ^ exponent
  | .infinity _ => 0
  | .notANumber _ => 0

def isFinite : Decimal -> Bool
  | .finite _ _ _ => true
  | .infinity _ => false
  | .notANumber _ => false

/-- Whether a number is less than another, which numbers that are none are not asked. -/
def less : Decimal -> Decimal -> Option Bool
  | .notANumber _, _ => none
  | _, .notANumber _ => none
  | .infinity negative, .infinity other => some (negative && !other)
  | .infinity negative, .finite _ _ _ => some negative
  | .finite _ _ _, .infinity negative => some !negative
  | .finite negative coefficient exponent, .finite other digits shift =>
      some (decide ((finite negative coefficient exponent).value <
        (finite other digits shift).value))

/-- Whether two numbers are the same, of which a signaling one is not asked. -/
def same : Decimal -> Decimal -> Option Bool
  | .notANumber true, _ => none
  | _, .notANumber true => none
  | .notANumber false, _ => some false
  | _, .notANumber false => some false
  | .infinity negative, .infinity other => some (negative = other)
  | .infinity _, .finite _ _ _ => some false
  | .finite _ _ _, .infinity _ => some false
  | .finite negative coefficient exponent, .finite other digits shift =>
      some (decide ((finite negative coefficient exponent).value =
        (finite other digits shift).value))

theorem less_finite {first second : Decimal} (left : first.isFinite = true)
    (right : second.isFinite = true) :
    less first second = some (decide (first.value < second.value)) := by
  cases first with
  | infinity _ => cases left
  | notANumber _ => cases left
  | finite _ _ _ =>
      cases second with
      | infinity _ => cases right
      | notANumber _ => cases right
      | finite _ _ _ => rfl

theorem same_finite {first second : Decimal} (left : first.isFinite = true)
    (right : second.isFinite = true) :
    same first second = some (decide (first.value = second.value)) := by
  cases first with
  | infinity _ => cases left
  | notANumber _ => cases left
  | finite _ _ _ =>
      cases second with
      | infinity _ => cases right
      | notANumber _ => cases right
      | finite _ _ _ => rfl

/-- The nearest whole number, with ties to the even neighbour. -/
def toIntegralValue : Decimal -> Decimal
  | .finite negative coefficient exponent =>
      if 0 ≤ exponent then .finite negative coefficient exponent
      else .finite negative
        (DecimalGrid.halfEven ((coefficient : Rat) * (10 : Rat) ^ exponent)).toNat 0
  | .infinity negative => .infinity negative
  | .notANumber signaling => .notANumber signaling

/-! ## Reading -/

section Reading

variable (digits : Digits)

/-- The value of a row of digits after those that have been read. -/
def readDigits : List Char -> Nat -> Option Nat
  | [], read => some read
  | char :: rest, read =>
      match digits.value char with
      | some digit => readDigits rest (10 * read + digit)
      | none => none

/-- The digits of an exponent, which may have a sign. -/
def readExponent (text : List Char) : Option Int :=
  match text with
  | [] => none
  | '-' :: rest => if rest = [] then none else (readDigits digits rest 0).map fun read : Nat => -read
  | '+' :: rest => if rest = [] then none else (readDigits digits rest 0).map fun read : Nat => read
  | rest => (readDigits digits rest 0).map fun read : Nat => read

/-- The largest exponent of a number with one digit. -/
def maxExponent : Int := 999999999999999999

def minExponent : Int := -1999999999999999997

/-- The limits on the exponents of numbers. -/
def WithinLimits (coefficient : Nat) (exponent : Int) : Prop :=
  minExponent ≤ exponent ∧
    exponent + (Nat.toDigits 10 coefficient).length - 1 ≤ maxExponent

instance (coefficient : Nat) (exponent : Int) : Decidable (WithinLimits coefficient exponent) :=
  inferInstanceAs (Decidable (_ ∧ _))

def marksExponent (char : Char) : Bool := char = 'e' || char = 'E'

def readShift (tail : List Char) : Option Int :=
  match tail with
  | [] => some 0
  | _ :: rest => readExponent digits rest

def readNumber (negative : Bool) (text : List Char) : Option Decimal :=
  let mantissa := text.takeWhile fun char => !marksExponent char
  let whole := mantissa.takeWhile fun char => char ≠ '.'
  let fraction := (mantissa.dropWhile fun char => char ≠ '.').drop 1
  let shift := readShift digits (text.dropWhile fun char => !marksExponent char)
  if whole ++ fraction = [] then none
  else
    match readDigits digits (whole ++ fraction) 0, shift with
    | some coefficient, some shift =>
        if WithinLimits coefficient (shift - fraction.length) then
          some (.finite negative coefficient (shift - fraction.length))
        else none
    | _, _ => none

def readUnsigned (negative : Bool) (text : List Char) : Option Decimal :=
  let lower := text.map Char.toLower
  if lower = "inf".toList ∨ lower = "infinity".toList then some (.infinity negative)
  else if lower.take 3 = "nan".toList ∧ (readDigits digits (text.drop 3) 0).isSome then
    some (.notANumber false)
  else if lower.take 4 = "snan".toList ∧ (readDigits digits (text.drop 4) 0).isSome then
    some (.notANumber true)
  else readNumber digits negative text

/-- The number that a text stands for. -/
def read (text : List Char) : Option Decimal :=
  match (strip text).filter fun char => char ≠ '_' with
  | '-' :: rest => readUnsigned digits true rest
  | '+' :: rest => readUnsigned digits false rest
  | rest => readUnsigned digits false rest

end Reading

/-! ## Printing -/

def printExponent (exponent : Int) : List Char :=
  (if exponent < 0 then '-' else '+') :: Nat.toDigits 10 exponent.natAbs

/-- The digits of a number, without exponent where that is short. -/
def printDigits (coefficient : Nat) (exponent : Int) : List Char :=
  let digits := Nat.toDigits 10 coefficient
  let left : Int := exponent + digits.length
  if exponent ≤ 0 ∧ -6 < left then
    if left ≤ 0 then '0' :: '.' :: (List.replicate (-left).toNat '0' ++ digits)
    else if exponent = 0 then digits
    else digits.take left.toNat ++ '.' :: digits.drop left.toNat
  else if digits.length = 1 then digits ++ 'E' :: printExponent (left - 1)
  else digits.take 1 ++ '.' :: (digits.drop 1 ++ 'E' :: printExponent (left - 1))

def print : Decimal -> List Char
  | .finite negative coefficient exponent =>
      if negative then '-' :: printDigits coefficient exponent
      else printDigits coefficient exponent
  | .infinity negative => if negative then "-Infinity".toList else "Infinity".toList
  | .notANumber signaling => if signaling then "sNaN".toList else "NaN".toList

/-! ## What is printed is read -/

section RoundTrip

theorem digit_bounds {char : Char} (digit : char.isDigit = true) :
    48 ≤ char.toNat ∧ char.toNat ≤ 57 := by
  rw [Char.isDigit, Bool.and_eq_true, decide_eq_true_eq, decide_eq_true_eq] at digit
  exact ⟨digit.1, digit.2⟩

theorem ne_of_digit {char other : Char} (digit : char.isDigit = true)
    (plain : other.isDigit = false) : char ≠ other := by
  intro same
  rw [same, plain] at digit
  cases digit

variable {digits : Digits}

theorem readDigits_digits {text : List Char} (all : forall char, char ∈ text -> char.isDigit = true)
    (read : Nat) : readDigits digits text read = some (Nat.ofDigitChars 10 text read) := by
  induction text generalizing read with
  | nil => rfl
  | cons char rest ih =>
      have digit := all char List.mem_cons_self
      have small : char.toNat < 128 := by
        have bounds := digit_bounds digit
        omega
      have known : digits.value char = some (char.toNat - '0'.toNat) :=
        (digits.ascii char small).trans (if_pos digit)
      rw [readDigits, known, Nat.ofDigitChars_cons]
      exact ih (fun other member => all other (List.mem_cons_of_mem _ member)) _

theorem digits_toDigits (number : Nat) :
    forall char, char ∈ Nat.toDigits 10 number -> char.isDigit = true :=
  fun _ member => Nat.isDigit_of_mem_toDigits (by decide) (by decide) member

theorem readExponent_print (exponent : Int) :
    readExponent digits (printExponent exponent) = some exponent := by
  have nonempty : Nat.toDigits 10 exponent.natAbs ≠ [] := Nat.toDigits_ne_nil
  have known := @readDigits_digits digits _ (digits_toDigits exponent.natAbs) 0
  rw [Nat.ofDigitChars_ten_toDigits] at known
  rw [printExponent]
  by_cases negative : exponent < 0
  · rw [if_pos negative, readExponent, if_neg nonempty, known, Option.map_some]
    have back : -(exponent.natAbs : Int) = exponent := by omega
    rw [back]
  · rw [if_neg negative, readExponent, if_neg nonempty, known, Option.map_some]
    have back : (exponent.natAbs : Int) = exponent := by omega
    rw [back]

/-- The exponent after a mantissa, which may be left out where it is zero. -/
def Shifts (tail : List Char) (shift : Int) : Prop :=
  tail = [] ∧ shift = 0 ∨ tail = 'E' :: printExponent shift

theorem readShift_of_shifts {tail : List Char} {shift : Int} (shifts : Shifts tail shift) :
    readShift digits tail = some shift := by
  rcases shifts with ⟨empty, zero⟩ | full
  · rw [empty, zero]
    rfl
  · rw [full]
    exact readExponent_print shift

/-- The parts of a number, which may have a fraction and an exponent. -/
structure Parts where
  whole : List Char
  fraction : List Char
  dot : List Char
  tail : List Char
  shift : Int
  started : whole ≠ []
  wholes : forall char, char ∈ whole -> char.isDigit = true
  fractions : forall char, char ∈ fraction -> char.isDigit = true
  dotted : dot = [] ∧ fraction = [] ∨ dot = '.' :: fraction
  shifts : Shifts tail shift

def Parts.text (parts : Parts) : List Char := parts.whole ++ parts.dot ++ parts.tail

def Parts.coefficient (parts : Parts) : Nat :=
  Nat.ofDigitChars 10 (parts.whole ++ parts.fraction) 0

def Parts.exponent (parts : Parts) : Int := parts.shift - parts.fraction.length

theorem marksExponent_digit {char : Char} (digit : char.isDigit = true) :
    (!marksExponent char) = true := by
  rw [marksExponent, decide_eq_false (ne_of_digit digit rfl),
    decide_eq_false (ne_of_digit digit rfl)]
  rfl

theorem Parts.unmarked (parts : Parts) :
    forall char, char ∈ parts.whole ++ parts.dot -> (!marksExponent char) = true := by
  intro char member
  rcases List.mem_append.mp member with here | there
  · exact marksExponent_digit (parts.wholes char here)
  · rcases parts.dotted with ⟨empty, _⟩ | full
    · rw [empty] at there
      cases there
    · rw [full] at there
      rcases List.mem_cons.mp there with same | later
      · rw [same]
        rfl
      · exact marksExponent_digit (parts.fractions char later)

theorem Parts.mantissa (parts : Parts) :
    parts.text.takeWhile (fun char => !marksExponent char) = parts.whole ++ parts.dot := by
  have ends : parts.tail.takeWhile (fun char => !marksExponent char) = [] := by
    rcases parts.shifts with ⟨empty, _⟩ | full
    · rw [empty]
      rfl
    · rw [full]
      rfl
  rw [Parts.text, List.takeWhile_append_of_pos parts.unmarked, ends, List.append_nil]

theorem Parts.rest (parts : Parts) :
    parts.text.dropWhile (fun char => !marksExponent char) = parts.tail := by
  have stays : parts.tail.dropWhile (fun char => !marksExponent char) = parts.tail := by
    rcases parts.shifts with ⟨empty, _⟩ | full
    · rw [empty]
      rfl
    · rw [full]
      rfl
  rw [Parts.text, List.dropWhile_append_of_pos parts.unmarked, stays]

theorem Parts.undotted (parts : Parts) :
    forall char, char ∈ parts.whole -> decide (char ≠ '.') = true :=
  fun char member => decide_eq_true (ne_of_digit (parts.wholes char member) rfl)

theorem Parts.front (parts : Parts) :
    (parts.whole ++ parts.dot).takeWhile (fun char => char ≠ '.') = parts.whole := by
  rw [List.takeWhile_append_of_pos parts.undotted]
  rcases parts.dotted with ⟨empty, _⟩ | full
  · rw [empty]
    exact List.append_nil _
  · rw [full]
    exact List.append_nil _

theorem Parts.back (parts : Parts) :
    ((parts.whole ++ parts.dot).dropWhile fun char => char ≠ '.').drop 1 = parts.fraction := by
  rw [List.dropWhile_append_of_pos parts.undotted]
  rcases parts.dotted with ⟨empty, none⟩ | full
  · rw [empty, none]
    rfl
  · rw [full]
    rfl

theorem Parts.readDigits (parts : Parts) :
    Decimal.readDigits digits (parts.whole ++ parts.fraction) 0 = some parts.coefficient := by
  apply readDigits_digits
  intro char member
  exact (List.mem_append.mp member).elim (parts.wholes char) (parts.fractions char)

/-- The parts of a number are read. -/
theorem readNumber_parts {negative : Bool} (parts : Parts)
    (limits : WithinLimits parts.coefficient parts.exponent) :
    readNumber digits negative parts.text =
      some (.finite negative parts.coefficient parts.exponent) := by
  have nonempty : parts.whole ++ parts.fraction ≠ [] := fun empty =>
    parts.started (List.append_eq_nil_iff.mp empty).1
  simp only [readNumber, parts.mantissa, parts.rest, parts.front, parts.back,
    readShift_of_shifts parts.shifts, if_neg nonempty, parts.readDigits]
  exact if_pos limits

theorem readUnsigned_digit {negative : Bool} {char : Char} {rest : List Char}
    (digit : char.isDigit = true) :
    readUnsigned digits negative (char :: rest) = readNumber digits negative (char :: rest) := by
  have same : char.toLower = char := by
    refine dif_neg ?_
    rintro ⟨upper, _⟩
    have above : 65 ≤ char.toNat := upper
    have bounds := digit_bounds digit
    omega
  have infinite : ¬ ((char :: rest).map Char.toLower = "inf".toList ∨
      (char :: rest).map Char.toLower = "infinity".toList) := by
    rw [List.map_cons, same]
    rintro (found | found)
    · exact ne_of_digit digit (by decide) (List.cons.inj found).1
    · exact ne_of_digit digit (by decide) (List.cons.inj found).1
  have quiet : ((char :: rest).map Char.toLower).take 3 ≠ "nan".toList := by
    rw [List.map_cons, same]
    intro found
    exact ne_of_digit digit (by decide) (List.cons.inj found).1
  have signaling : ((char :: rest).map Char.toLower).take 4 ≠ "snan".toList := by
    rw [List.map_cons, same]
    intro found
    exact ne_of_digit digit (by decide) (List.cons.inj found).1
  simp only [readUnsigned, if_neg infinite, quiet, signaling, false_and, if_false]

/-- The list is the text of a number with this coefficient and exponent. -/
def Spells (text : List Char) (coefficient : Nat) (exponent : Int) : Prop :=
  exists parts : Parts, parts.text = text ∧ parts.coefficient = coefficient ∧
    parts.exponent = exponent

section Forms

variable {text : List Char} {exponent : Int}

/-- A number below one is spelled with zeros between the point and its digits. -/
theorem spells_zeros (all : forall char, char ∈ text -> char.isDigit = true)
    (small : exponent + (text.length : Int) ≤ 0) :
    Spells ('0' :: '.' :: (List.replicate (-(exponent + text.length)).toNat '0' ++ text))
      (Nat.ofDigitChars 10 text 0) exponent := by
  refine ⟨⟨['0'], List.replicate (-(exponent + text.length)).toNat '0' ++ text,
    '.' :: (List.replicate (-(exponent + text.length)).toNat '0' ++ text), [], 0,
    List.cons_ne_nil _ _, ?_, ?_, Or.inr rfl, Or.inl ⟨rfl, rfl⟩⟩, List.append_nil _, ?_, ?_⟩
  · intro char member
    rw [List.mem_singleton.mp member]
    rfl
  · intro char member
    rcases List.mem_append.mp member with zero | later
    · rw [List.eq_of_mem_replicate zero]
      rfl
    · exact all char later
  · change Nat.ofDigitChars 10 (List.replicate 1 '0' ++ (List.replicate _ '0' ++ text)) 0 = _
    rw [Nat.ofDigitChars_append, Nat.ofDigitChars_replicate_zero, Nat.ofDigitChars_append,
      Nat.ofDigitChars_replicate_zero, mul_zero, mul_zero]
  · change (0 : Int) - (List.replicate _ '0' ++ text).length = exponent
    rw [List.length_append, List.length_replicate]
    omega

/-- Digits alone, with or without an exponent behind them. -/
theorem spells_digits (all : forall char, char ∈ text -> char.isDigit = true) (nonempty : text ≠ [])
    {tail : List Char} (shifts : Shifts tail exponent) :
    Spells (text ++ tail) (Nat.ofDigitChars 10 text 0) exponent := by
  refine ⟨⟨text, [], [], tail, exponent, nonempty, all, fun _ none => absurd none List.not_mem_nil,
    Or.inl ⟨rfl, rfl⟩, shifts⟩, ?_, ?_, sub_zero exponent⟩
  · change text ++ [] ++ tail = _
    rw [List.append_nil]
  · change Nat.ofDigitChars 10 (text ++ []) 0 = _
    rw [List.append_nil]

/-- A point after the first digits, with or without an exponent behind the others. -/
theorem spells_pointed (all : forall char, char ∈ text -> char.isDigit = true) {count : Nat}
    (started : 0 < count) (nonempty : text ≠ []) {tail : List Char}
    (shifts : Shifts tail (exponent + (text.length - count : Nat))) :
    Spells (text.take count ++ '.' :: text.drop count ++ tail) (Nat.ofDigitChars 10 text 0)
      exponent := by
  refine ⟨⟨text.take count, text.drop count, '.' :: text.drop count, tail, _, ?_,
    fun char member => all char (List.mem_of_mem_take member),
    fun char member => all char (List.mem_of_mem_drop member), Or.inr rfl, shifts⟩, rfl, ?_, ?_⟩
  · intro empty
    rcases List.take_eq_nil_iff.mp empty with none | none
    · omega
    · exact nonempty none
  · change Nat.ofDigitChars 10 (text.take count ++ text.drop count) 0 = _
    rw [List.take_append_drop]
  · change exponent + ((text.length - count : Nat) : Int) - (text.drop count).length = exponent
    rw [List.length_drop]
    omega

end Forms

theorem printDigits_spells (coefficient : Nat) (exponent : Int) :
    Spells (printDigits coefficient exponent) coefficient exponent := by
  have all := digits_toDigits coefficient
  have nonempty : Nat.toDigits 10 coefficient ≠ [] := Nat.toDigits_ne_nil
  have known := @Nat.ofDigitChars_ten_toDigits coefficient
  have positive := List.length_pos_iff.mpr nonempty
  rw [printDigits]
  generalize Nat.toDigits 10 coefficient = text at all nonempty known positive ⊢
  subst known
  by_cases short : exponent ≤ 0 ∧ -6 < exponent + text.length
  · rw [if_pos short]
    by_cases small : exponent + (text.length : Int) ≤ 0
    · rw [if_pos small]
      exact spells_zeros all small
    · rw [if_neg small]
      by_cases zero : exponent = 0
      · rw [if_pos zero, zero]
        have spelled := spells_digits all nonempty (Or.inl ⟨rfl, rfl⟩)
        rwa [List.append_nil] at spelled
      · rw [if_neg zero]
        have none : exponent + ((text.length - (exponent + text.length).toNat : Nat) : Int) = 0 := by
          omega
        have spelled := spells_pointed all (by omega) nonempty (Or.inl ⟨rfl, none⟩)
        rwa [List.append_nil] at spelled
  · rw [if_neg short]
    by_cases single : text.length = 1
    · rw [if_pos single]
      have shift : exponent + (text.length : Int) - 1 = exponent := by omega
      rw [shift]
      exact spells_digits all nonempty (Or.inr rfl)
    · rw [if_neg single]
      have shift : exponent + (text.length : Int) - 1 =
          exponent + ((text.length - 1 : Nat) : Int) := by omega
      rw [shift, ← List.cons_append, ← List.append_assoc]
      exact spells_pointed all Nat.one_pos nonempty (Or.inr rfl)

/-- A character that occurs in the print of a finite number. -/
def Numeral (char : Char) : Prop :=
  char.isDigit = true ∨ char = '.' ∨ char = 'E' ∨ char = '+' ∨ char = '-'

theorem printExponent_numeral {exponent : Int} {char : Char}
    (member : char ∈ printExponent exponent) : Numeral char := by
  rw [printExponent] at member
  rcases List.mem_cons.mp member with sign | digit
  · rw [sign]
    by_cases negative : exponent < 0
    · rw [if_pos negative]
      exact Or.inr (Or.inr (Or.inr (Or.inr rfl)))
    · rw [if_neg negative]
      exact Or.inr (Or.inr (Or.inr (Or.inl rfl)))
  · exact Or.inl (digits_toDigits _ char digit)

theorem Parts.numeral (parts : Parts) {char : Char} (member : char ∈ parts.text) :
    Numeral char := by
  rcases List.mem_append.mp member with mantissa | tail
  · rcases List.mem_append.mp mantissa with whole | dot
    · exact Or.inl (parts.wholes char whole)
    · rcases parts.dotted with ⟨empty, _⟩ | full
      · rw [empty] at dot
        cases dot
      · rw [full] at dot
        rcases List.mem_cons.mp dot with same | fraction
        · exact Or.inr (Or.inl same)
        · exact Or.inl (parts.fractions char fraction)
  · rcases parts.shifts with ⟨empty, _⟩ | full
    · rw [empty] at tail
      cases tail
    · rw [full] at tail
      rcases List.mem_cons.mp tail with same | exponent
      · exact Or.inr (Or.inr (Or.inl same))
      · exact printExponent_numeral exponent

theorem print_numeral {coefficient : Nat} {exponent : Int} {char : Char}
    (member : char ∈ print (.finite false coefficient exponent)) : Numeral char := by
  rcases printDigits_spells coefficient exponent with ⟨parts, text, _, _⟩
  have inside : char ∈ parts.text := by
    rw [text]
    exact member
  exact parts.numeral inside

theorem Numeral.space {char : Char} (numeral : Numeral char) : TextLines.space char = false := by
  rcases numeral with digit | rfl | rfl | rfl | rfl
  · have bounds := digit_bounds digit
    simp only [TextLines.space, Bool.or_eq_false_iff, Bool.and_eq_false_iff,
      decide_eq_false_iff_not]
    omega
  all_goals rfl

theorem Numeral.plain {char : Char} (numeral : Numeral char) : char ≠ '_' := by
  rcases numeral with digit | rfl | rfl | rfl | rfl
  · exact ne_of_digit digit rfl
  all_goals decide

/-- What is printed of a number that is not negative is read as the number. -/
theorem read_print {coefficient : Nat} {exponent : Int}
    (limits : WithinLimits coefficient exponent) :
    read digits (print (.finite false coefficient exponent)) =
      some (.finite false coefficient exponent) := by
  have numeral := @print_numeral coefficient exponent
  change forall {char : Char}, char ∈ printDigits coefficient exponent -> Numeral char at numeral
  change read digits (printDigits coefficient exponent) = _
  rcases printDigits_spells coefficient exponent with ⟨parts, text, same, shift⟩
  rw [← text] at numeral ⊢
  have bare : strip parts.text = parts.text :=
    strip_of_none fun char member => (numeral member).space
  have kept : parts.text.filter (fun char => char ≠ '_') = parts.text :=
    List.filter_eq_self.mpr fun char member => decide_eq_true (numeral member).plain
  rw [read, bare, kept]
  have first : exists char rest, parts.text = char :: rest ∧ char.isDigit = true := by
    rcases List.exists_cons_of_ne_nil parts.started with ⟨char, rest, whole⟩
    refine ⟨char, rest ++ parts.dot ++ parts.tail, ?_, parts.wholes char ?_⟩
    · rw [Parts.text, whole]
      rfl
    · rw [whole]
      exact List.mem_cons_self
  rcases first with ⟨char, rest, front, digit⟩
  have found := @readNumber_parts digits false parts (by rw [same, shift]; exact limits)
  rw [same, shift, front] at found
  rw [front]
  have unsigned := (@readUnsigned_digit digits false char rest digit).trans found
  split
  · rename_i tail cons
    exact absurd (List.cons.inj cons).1 (ne_of_digit digit rfl)
  · rename_i tail cons
    exact absurd (List.cons.inj cons).1 (ne_of_digit digit rfl)
  · exact unsigned

end RoundTrip

end Decimal

end DecimalText
end Foundations
end MarketIntelligence
