import MarketIntelligence.Foundations.CalendarDates
import MarketIntelligence.Foundations.Outcomes

namespace MarketIntelligence
namespace Payloads

open Foundations
open Foundations.CalendarDates
open Foundations.DecimalText

/-!
# Answers of the providers and the bars in them

The parsers turn what a provider has answered into bars, or raise.  Among what they can raise are
the errors of a provider, which the import knows, and the exceptions of the conversions, which it
does not.

Strings have no lone surrogates.  The text that `repr` and `json.dumps` make, the digest, the case
of letters outside ASCII, `int` of a string, `datetime.fromtimestamp`, `datetime.fromisoformat` and
the offset of New York are parameters.
-/

abbrev Text := List Char

/-- Texts are looked for in lists by one proof everywhere. -/
instance lawfulTexts : LawfulBEq Text := inferInstance

/-! ## Values of JSON -/

/-- What `json.loads` makes.  The finite floats are taken as the rationals they stand for. -/
inductive Json where
  | null
  | bool (value : Bool)
  | int (value : Int)
  | float (value : Rat)
  | infinity (negative : Bool)
  | notANumber
  | string (value : Text)
  | list (values : List Json)
  | object (members : List (String × Json))

/-- `row.get(key)`, and `row[key]` where the key is there. -/
def member (members : List (String × Json)) (key : String) : Option Json :=
  members.lookup key

/-! ## Exceptions -/

inductive PyException where
  | valueError
  | typeError
  | keyError
  | overflowError
  | osError
  | recursionError
  | jsonDecodeError
  | unicodeDecodeError
  | invalidOperation
  deriving DecidableEq, Repr

/-- The subclasses of `ProviderError`. -/
inductive ProviderErrorClass where
  | disabled
  | temporary
  | network
  | rateLimit
  | contentType
  | accessDenied
  | rejectedRequest
  | encoding
  | htmlResponse
  | noData
  | unsupportedSymbol
  | invalidDateRange
  | schema
  | data
  | responseTooLarge
  deriving DecidableEq, Repr

inductive Raised where
  | provider (kind : ProviderErrorClass) (message : String)
  | python (exception : PyException)
  deriving DecidableEq, Repr

/-- A conversion under an `except` clause that raises an error of the provider instead. -/
def excepting {α : Type} (caught : List PyException) (kind : ProviderErrorClass)
    (message : String) : Except PyException α -> Except Raised α
  | .ok value => .ok value
  | .error exception =>
      if exception ∈ caught then .error (.provider kind message) else .error (.python exception)

/-- A conversion that no clause guards. -/
def unguarded {α : Type} : Except PyException α -> Except Raised α
  | .ok value => .ok value
  | .error exception => .error (.python exception)

def raise {α : Type} (kind : ProviderErrorClass) (message : String) : Except Raised α :=
  .error (.provider kind message)

/-! ## Times -/

def hourMicroseconds : Int := 3600000000

def dayMicroseconds : Int := 24 * hourMicroseconds

/-- The microseconds on a clock from the first to the last date. -/
def Within (wall : Int) : Prop :=
  dayMicroseconds ≤ wall ∧ wall < (Date.maxOrdinal + 1) * dayMicroseconds

instance (wall : Int) : Decidable (Within wall) :=
  inferInstanceAs (Decidable (_ ∧ _))

/-- A `datetime`: what the clock shows, and how far the clock is ahead of UTC where that is
known. -/
structure DateTime where
  wall : Int
  offset : Option Int
  within : Within wall
  deriving DecidableEq, Repr

/-- The instant that an aware one stands for. -/
def DateTime.instant (time : DateTime) : Int := time.wall - time.offset.getD 0

/-- The ordinal of `date()`. -/
def DateTime.day (time : DateTime) : Int := time.wall / dayMicroseconds

/-- `astimezone(UTC)` of an aware one. -/
def DateTime.toUtc (time : DateTime) : Except PyException DateTime :=
  if within : Within time.instant then .ok ⟨time.instant, some 0, within⟩
  else .error .overflowError

/-! ## The conversions -/

def Ascii (text : Text) : Prop :=
  forall char, char ∈ text -> char.toNat < 128

structure Library where
  digits : Digits
  upper : Text -> Text
  lower : Text -> Text
  /-- `int` of a string, which not every string is. -/
  parseInt : Text -> Option Int
  /-- `repr` of a finite float. -/
  floatRepr : Rat -> Text
  /-- `repr` of a list or an object, which raises `ValueError` on an integer that is too long. -/
  repr : Json -> Option Text
  /-- `json.dumps`, which raises `ValueError` on an integer that is too long. -/
  dumps : Json -> Option Text
  sha256 : Text -> String
  /-- `datetime.fromtimestamp(milliseconds / 1000, UTC)`. -/
  fromTimestamp : Int -> Except PyException DateTime
  fromisoformat : Text -> Option DateTime
  /-- How far New York is ahead of UTC, by its clock. -/
  newYork : Int -> Int
  upper_ascii : forall text, Ascii text -> upper text = text.map Char.toUpper
  lower_ascii : forall text, Ascii text -> lower text = text.map Char.toLower
  dumps_texts : forall members : List (String × Text),
    (dumps (.object (members.map fun pair => (pair.1, .string pair.2)))).isSome = true
  fromTimestamp_utc : forall milliseconds time,
    fromTimestamp milliseconds = .ok time -> time.offset = some 0
  newYork_west : forall wall,
    -(5 * hourMicroseconds) ≤ newYork wall ∧ newYork wall ≤ -(4 * hourMicroseconds)

section Conversions

variable (library : Library)

/-- The digits of the longest integer that is converted to or from a string. -/
def maxStrDigits : Nat := 4300

def intText (value : Int) : Text :=
  if value < 0 then '-' :: Nat.toDigits 10 value.natAbs else Nat.toDigits 10 value.natAbs

/-- A text that could not be made for a too long integer. -/
def orValueError {α : Type} : Option α -> Except PyException α
  | some value => .ok value
  | none => .error .valueError

/-- `str(value)`. -/
def str : Json -> Except PyException Text
  | .null => .ok "None".toList
  | .bool value => .ok (if value then "True".toList else "False".toList)
  | .int value =>
      if maxStrDigits < (Nat.toDigits 10 value.natAbs).length then .error .valueError
      else .ok (intText value)
  | .float value => .ok (library.floatRepr value)
  | .infinity negative => .ok (if negative then "-inf".toList else "inf".toList)
  | .notANumber => .ok "nan".toList
  | .string value => .ok value
  | .list values => orValueError (library.repr (.list values))
  | .object members => orValueError (library.repr (.object members))

def truncate (value : Rat) : Int :=
  if 0 ≤ value then value.floor else value.ceil

/-- `int(value)`. -/
def intOf : Json -> Except PyException Int
  | .null => .error .typeError
  | .bool value => .ok (if value then 1 else 0)
  | .int value => .ok value
  | .float value => .ok (truncate value)
  | .infinity _ => .error .overflowError
  | .notANumber => .error .valueError
  | .string value => orValueError (library.parseInt value)
  | .list _ => .error .typeError
  | .object _ => .error .typeError

/-- `Decimal(text)`. -/
def decimal (text : Text) : Except PyException Decimal :=
  match Decimal.read library.digits text with
  | some value => .ok value
  | none => .error .invalidOperation

/-- `str(row[key])`. -/
def strOf (members : List (String × Json)) (key : String) : Except PyException Text :=
  match member members key with
  | some value => str library value
  | none => .error .keyError

/-- `Decimal(str(row[key]))`. -/
def number (members : List (String × Json)) (key : String) : Except PyException Decimal := do
  decimal library (← strOf library members key)

/-- `datetime.strptime(text, "%Y-%m-%d").date()`. -/
def strptime (text : Text) : Except PyException Date :=
  orValueError (Date.strptime library.digits text)

end Conversions

/-! ## Comparisons -/

def zero : Decimal := .finite false 0 0

/-- A comparison, which a number that is none does not take part in. -/
def compared : Option Bool -> Except PyException Bool
  | some answer => .ok answer
  | none => .error .invalidOperation

def less (first second : Decimal) : Except PyException Bool :=
  compared (Decimal.less first second)

def atMost (first second : Decimal) : Except PyException Bool :=
  (less second first).map not

def differs (first second : Decimal) : Except PyException Bool :=
  (compared (Decimal.same first second)).map not

/-- `max(first, second)`. -/
def maximum (first second : Decimal) : Except PyException Decimal := do
  if ← less first second then pure second else pure first

/-- `min(first, second)`. -/
def minimum (first second : Decimal) : Except PyException Decimal := do
  if ← less second first then pure second else pure first

/-- `int(value)` of a decimal number. -/
def intOfDecimal : Decimal -> Except PyException Int
  | .finite negative coefficient exponent =>
      .ok (truncate (Decimal.finite negative coefficient exponent).value)
  | .infinity _ => .error .overflowError
  | .notANumber _ => .error .valueError

/-- `volume < 0 or volume != volume.to_integral_value()`. -/
def negativeOrFractional (volume : Decimal) : Except PyException Bool := do
  if ← less volume zero then pure true
  else differs volume volume.toIntegralValue

structure Prices where
  openPrice : Decimal
  high : Decimal
  low : Decimal
  closePrice : Decimal
  deriving DecidableEq, Repr

/-- `not value.is_finite() or value <= 0`. -/
def refused (price : Decimal) : Except PyException Bool :=
  if price.isFinite then atMost price zero else .ok true

def Prices.anyRefused (prices : Prices) : Except PyException Bool := do
  if ← refused prices.openPrice then pure true
  else if ← refused prices.high then pure true
  else if ← refused prices.low then pure true
  else refused prices.closePrice

/-- The high below the open or the close, or the low above one of them. -/
def Prices.inconsistent (prices : Prices) : Except PyException Bool := do
  if ← less prices.high (← maximum prices.openPrice prices.closePrice) then pure true
  else less (← minimum prices.openPrice prices.closePrice) prices.low

/-- The checks of the prices, with what is said when one fails. -/
def Prices.check (notPositive inconsistent : String) (prices : Prices) : Except Raised Unit := do
  if ← unguarded prices.anyRefused then raise .data notPositive
  else if ← unguarded prices.inconsistent then raise .data inconsistent
  else pure ()

/-! ## Bars -/

/-- A `HistoricalBarRecord` with its prices as they were read. -/
structure BarRecord where
  symbol : Text
  interval : String
  eventTime : DateTime
  publicationTime : DateTime
  effectiveTime : DateTime
  retrievalTime : DateTime
  openPrice : Decimal
  high : Decimal
  low : Decimal
  closePrice : Decimal
  adjustedClose : Decimal
  volume : Int
  adjustmentStatus : String
  checksum : String
  providerSymbol : Text
  rawMetadata : Json

def BarRecord.prices (record : BarRecord) : Prices :=
  ⟨record.openPrice, record.high, record.low, record.closePrice⟩

/-- Four in the afternoon of a date in New York. -/
def sessionWall (date : Date) : Int := date.ordinal * dayMicroseconds + 16 * hourMicroseconds

theorem sessionWall_within (date : Date) : Within (sessionWall date) := by
  have first := date.ordinal_pos
  have last := date.ordinal_le
  simp only [Within, sessionWall, dayMicroseconds, hourMicroseconds]
  constructor
  · omega
  · omega

/-- The close of the session of a date, in UTC. -/
def sessionClose (library : Library) (date : Date) : Except PyException DateTime :=
  DateTime.toUtc ⟨sessionWall date, some (library.newYork (sessionWall date)),
    sessionWall_within date⟩

end Payloads
end MarketIntelligence
