import MarketIntelligence.Foundations.DecimalGrid
import Mathlib.Tactic.NormNum

namespace MarketIntelligence

open Foundations

/-!
# Values shared by the packages

Amounts are decimal numbers, taken as exact rationals: only the places where
the source quantizes lose digits.  Instants are aware datetimes on one time
line, counted in microseconds.  Row identifiers are opaque.
-/

/-- A `datetime` in UTC, in microseconds. -/
abbrev Instant := Int

/-- A `UUID`. -/
abbrev Identifier := Nat

inductive Side where
  | buy
  | sell
  deriving DecidableEq, Repr

/-- A Python `float`.  The finite values are read through `Decimal(str(value))`,
which is how the engine consumes them. -/
inductive FloatValue where
  | finite (value : Rat)
  | positiveInfinity
  | negativeInfinity
  | notANumber
  deriving DecidableEq, Repr

/-- The unit of `MONEY`, six decimal places. -/
def moneyUnit : Rat := 1 / 1000000

/-- The unit of `SHARES` and of `PRICE`, eight decimal places. -/
def shareUnit : Rat := 1 / 100000000

theorem moneyUnit_pos : 0 < moneyUnit := by
  unfold moneyUnit
  norm_num

theorem shareUnit_pos : 0 < shareUnit := by
  unfold shareUnit
  norm_num

/-- `value.quantize(MONEY)`, under the default rounding of the decimal context. -/
def money (value : Rat) : Rat :=
  DecimalGrid.roundTo moneyUnit value

theorem money_nonneg {value : Rat} (nonneg : 0 ≤ value) : 0 ≤ money value :=
  DecimalGrid.roundTo_nonneg moneyUnit_pos nonneg

end MarketIntelligence
