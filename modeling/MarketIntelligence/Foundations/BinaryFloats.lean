import MarketIntelligence.Foundations.DecimalGrid
import Mathlib.Data.Int.Log

namespace MarketIntelligence
namespace Foundations
namespace BinaryFloats

/-!
# Binary floating point

The finite values of the 64-bit format, as rational numbers.  An operation gives the float nearest
to its exact result, ties to the even one.  The distance of neighbouring floats is that of the
binade, down to the smallest subnormal.  Results out of the range of the format are not modelled.
-/

/-- The distance of the floats around a number: 53 binary digits, and no less than the smallest
subnormal. -/
def spacing (value : Rat) : Rat :=
  2 ^ max (Int.log 2 |value| - 52) (-1074)

/-- The float nearest to a number. -/
def nearest (value : Rat) : Rat :=
  DecimalGrid.roundTo (spacing value) value

theorem spacing_pos (value : Rat) : 0 < spacing value :=
  zpow_pos (by norm_num) _

theorem nearest_nonneg {value : Rat} (nonneg : 0 ≤ value) : 0 ≤ nearest value :=
  DecimalGrid.roundTo_nonneg (spacing_pos value) nonneg

example : nearest (1 / 10) = 3602879701896397 / 36028797018963968 := by decide +kernel

/-! ## Sums -/

/-- `first + second` -/
def add (first second : Rat) : Rat := nearest (first + second)

/-- A total and what its roundings have left out. -/
structure Total where
  high : Rat
  correction : Rat
  deriving DecidableEq, Repr

/-- One term of a compensated sum: the smaller of the two operands is what loses digits. -/
def Total.add (total : Total) (value : Rat) : Total :=
  let next := BinaryFloats.add total.high value
  let lost :=
    if |value| ≤ |total.high| then
      BinaryFloats.add (BinaryFloats.add total.high (-next)) value
    else BinaryFloats.add (BinaryFloats.add value (-next)) total.high
  { high := next, correction := BinaryFloats.add total.correction lost }

/-- `sum(values)`, which compensates the roundings of its additions. -/
def sum (values : List Rat) : Rat :=
  let total := values.foldl Total.add ⟨0, 0⟩
  if total.correction = 0 then total.high else add total.high total.correction

end BinaryFloats
end Foundations
end MarketIntelligence
