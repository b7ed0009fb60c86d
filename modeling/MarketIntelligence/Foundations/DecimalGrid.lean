import Mathlib.Data.Rat.Floor
import Mathlib.Tactic.Linarith
import Mathlib.Tactic.Ring
import Mathlib.Tactic.Positivity
import Mathlib.Tactic.FieldSimp

namespace MarketIntelligence
namespace Foundations
namespace DecimalGrid

/-!
# Rounding to the multiples of a unit

A fixed-point amount is a multiple of some positive unit.  Three rules bring an
arbitrary value onto the multiples: the nearest multiple with ties to the even
neighbour, the nearest multiple with ties away from zero, and truncation towards
zero.  All of them are executable over a field with a floor.

The laws below are the ones an accounting proof needs.  A value bounded by a
multiple stays bounded by it after rounding, whichever rule is used, while a
bound that is not itself a multiple may be crossed by less than one unit.  When
one amount is added to two totals and each total is rounded on its own, the
rounding moves both alike unless the amount is a tie that ends on different
sides of zero.
-/

variable {K : Type*} [Field K]

/-- The exact multiples of the unit.  They are what a decimal column of so many places can hold,
and what rounding leaves as it is. -/
def OnGrid (unit value : K) : Prop :=
  exists count : Int, value = count * unit

section Rounding

variable [LinearOrder K] [FloorRing K]

/-- The nearest integer, with ties to the even neighbour. -/
def halfEven (value : K) : Int :=
  if Int.fract value < 1 / 2 then ⌊value⌋
  else if 1 / 2 < Int.fract value then ⌊value⌋ + 1
  else if ⌊value⌋ % 2 = 0 then ⌊value⌋
  else ⌊value⌋ + 1

/-- The nearest integer, with ties to the neighbour further from zero. -/
def halfAway (value : K) : Int :=
  if 0 ≤ value then ⌊value + 1 / 2⌋ else ⌈value - 1 / 2⌉

/-- The integer part, dropping the fraction of a negative value as well. -/
def towardZero (value : K) : Int :=
  if 0 ≤ value then ⌊value⌋ else ⌈value⌉

def roundTo (unit value : K) : K :=
  (halfEven (value / unit) : K) * unit

def roundAway (unit value : K) : K :=
  (halfAway (value / unit) : K) * unit

def truncateTo (unit value : K) : K :=
  (towardZero (value / unit) : K) * unit

end Rounding

/-- Halfway between two multiples of the unit, where the rules for ties differ. -/
def OnTie (unit value : K) : Prop :=
  exists count : Int, value = (count + 1 / 2) * unit

/-! ## Sums and finer grids -/

section Finer

variable {unit first second : K}

theorem OnGrid.zero (unit : K) : OnGrid unit 0 :=
  ⟨0, by simp⟩

theorem OnGrid.add (left : OnGrid unit first) (right : OnGrid unit second) :
    OnGrid unit (first + second) := by
  rcases left with ⟨leftCount, leftEq⟩
  rcases right with ⟨rightCount, rightEq⟩
  refine ⟨leftCount + rightCount, ?_⟩
  rw [leftEq, rightEq]
  push_cast
  ring

theorem OnGrid.neg (member : OnGrid unit first) : OnGrid unit (-first) := by
  rcases member with ⟨count, equal⟩
  refine ⟨-count, ?_⟩
  rw [equal]
  push_cast
  ring

theorem OnGrid.sub (left : OnGrid unit first) (right : OnGrid unit second) :
    OnGrid unit (first - second) := by
  rw [sub_eq_add_neg]
  exact left.add right.neg

/-- Multiples of a coarser unit lie on every grid that divides it. -/
theorem OnGrid.refine {coarse : K} (member : OnGrid coarse first) (finer : OnGrid unit coarse) :
    OnGrid unit first := by
  rcases member with ⟨count, equal⟩
  rcases finer with ⟨scale, scaleEq⟩
  refine ⟨count * scale, ?_⟩
  rw [equal, scaleEq]
  push_cast
  ring

end Finer

/-! ## Nearest rounding -/

section Nearest

variable [LinearOrder K] [FloorRing K]

theorem floor_le_halfEven (value : K) : ⌊value⌋ ≤ halfEven value := by
  unfold halfEven
  split
  · exact le_refl _
  · split
    · exact Int.le_add_one (le_refl _)
    · split
      · exact le_refl _
      · exact Int.le_add_one (le_refl _)

theorem le_halfEven_of_le {value : K} {bound : Int} (above : (bound : K) ≤ value) :
    bound ≤ halfEven value :=
  (Int.le_floor.mpr above).trans (floor_le_halfEven value)

/-- Rounding up happens only from the upper half of the unit interval. -/
theorem halfEven_cases (value : K) :
    (halfEven value = ⌊value⌋ ∧ Int.fract value ≤ 1 / 2) ∨
      (halfEven value = ⌊value⌋ + 1 ∧ 1 / 2 ≤ Int.fract value) := by
  unfold halfEven
  by_cases below : Int.fract value < 1 / 2
  · exact Or.inl ⟨if_pos below, le_of_lt below⟩
  · have upper : 1 / 2 ≤ Int.fract value := not_lt.mp below
    rw [if_neg below]
    by_cases above : 1 / 2 < Int.fract value
    · exact Or.inr ⟨if_pos above, upper⟩
    · rw [if_neg above]
      by_cases even : ⌊value⌋ % 2 = 0
      · exact Or.inl ⟨if_pos even, not_lt.mp above⟩
      · exact Or.inr ⟨if_neg even, upper⟩

variable [IsStrictOrderedRing K]

/-- An integer bound survives rounding to the nearest integer. -/
theorem halfEven_le_of_le {value : K} {bound : Int} (below : value ≤ bound) :
    halfEven value ≤ bound := by
  rcases halfEven_cases value with ⟨equal, _⟩ | ⟨equal, upper⟩
  · rw [equal]
    exact_mod_cast (Int.floor_le value).trans below
  · rw [equal]
    -- A value in the upper half is not an integer, so its floor is strictly below the bound.
    have fraction : Int.fract value = value - ⌊value⌋ := rfl
    have strict : (⌊value⌋ : K) < bound := by
      have half : (0 : K) < 1 / 2 := by positivity
      linarith
    exact Int.add_one_le_of_lt (by exact_mod_cast strict)

theorem abs_halfEven_sub_le (value : K) : |(halfEven value : K) - value| ≤ 1 / 2 := by
  have fraction : Int.fract value = value - ⌊value⌋ := rfl
  have nonneg := Int.fract_nonneg value
  have below := Int.fract_lt_one value
  rw [abs_le]
  rcases halfEven_cases value with ⟨equal, lower⟩ | ⟨equal, upper⟩
  · rw [equal]
    constructor <;> linarith
  · rw [equal]
    push_cast
    constructor <;> linarith

variable {unit value bound : K}

/-- A bound on the grid survives rounding to the grid. -/
theorem roundTo_le_of_onGrid (positive : 0 < unit) (member : OnGrid unit bound)
    (below : value ≤ bound) : roundTo unit value ≤ bound := by
  rcases member with ⟨count, equal⟩
  have scaled : value / unit ≤ count := by
    rw [div_le_iff₀ positive, ← equal]
    exact below
  have rounded : (halfEven (value / unit) : K) ≤ count := by
    exact_mod_cast halfEven_le_of_le scaled
  rw [equal]
  exact mul_le_mul_of_nonneg_right rounded (le_of_lt positive)

theorem le_roundTo_of_onGrid (positive : 0 < unit) (member : OnGrid unit bound)
    (above : bound ≤ value) : bound ≤ roundTo unit value := by
  rcases member with ⟨count, equal⟩
  have scaled : (count : K) ≤ value / unit := by
    rw [le_div_iff₀ positive, ← equal]
    exact above
  have rounded : (count : K) ≤ halfEven (value / unit) := by
    exact_mod_cast le_halfEven_of_le scaled
  rw [equal]
  exact mul_le_mul_of_nonneg_right rounded (le_of_lt positive)

/-- Rounding moves a value by half a unit at most. -/
theorem abs_roundTo_sub_le (positive : 0 < unit) (value : K) :
    |roundTo unit value - value| ≤ unit / 2 := by
  have scaled : roundTo unit value - value =
      ((halfEven (value / unit) : K) - value / unit) * unit := by
    unfold roundTo
    rw [sub_mul, div_mul_cancel₀ _ positive.ne']
  rw [scaled, abs_mul, abs_of_pos positive]
  calc
    |(halfEven (value / unit) : K) - value / unit| * unit ≤ 1 / 2 * unit :=
      mul_le_mul_of_nonneg_right (abs_halfEven_sub_le _) positive.le
    _ = unit / 2 := by ring

theorem roundTo_nonneg (positive : 0 < unit) (nonneg : 0 ≤ value) : 0 ≤ roundTo unit value :=
  le_roundTo_of_onGrid positive (OnGrid.zero unit) nonneg

end Nearest

/-! ## Ties away from zero -/

section Away

variable [LinearOrder K] [FloorRing K] {unit value : K}

theorem onGrid_roundTo (unit value : K) : OnGrid unit (roundTo unit value) :=
  ⟨halfEven (value / unit), rfl⟩

theorem onGrid_roundAway (unit value : K) : OnGrid unit (roundAway unit value) :=
  ⟨halfAway (value / unit), rfl⟩

variable [IsStrictOrderedRing K]

/-- Rounding a whole number and an amount moves the amount by the rule of their common sign. -/
theorem halfAway_add (count : Int) (amount : K) :
    halfAway (count + amount) =
      count + if 0 ≤ count + amount then ⌊amount + 1 / 2⌋ else ⌈amount - 1 / 2⌉ := by
  unfold halfAway
  split
  · rw [add_assoc, Int.floor_intCast_add]
  · rw [add_sub_assoc, Int.ceil_intCast_add]

theorem halfAway_intCast (count : Int) : halfAway (count : K) = count := by
  have half : (0 : K) ≤ 1 / 2 := by positivity
  have below : (1 / 2 : K) < 1 := by linarith [(one_pos : (0 : K) < 1)]
  have added := halfAway_add count (0 : K)
  rw [add_zero] at added
  rw [added]
  have floored : ⌊(0 : K) + 1 / 2⌋ = 0 := by
    rw [Int.floor_eq_zero_iff, zero_add]
    exact ⟨half, below⟩
  have ceiled : ⌈(0 : K) - 1 / 2⌉ = 0 := by
    rw [Int.ceil_eq_zero_iff, zero_sub]
    exact ⟨neg_lt_neg below, neg_nonpos.mpr half⟩
  rw [floored, ceiled, ite_self, add_zero]

/-- The two ways of rounding a half part company exactly at a tie. -/
theorem floor_half_eq_ceil_half_iff (amount : K) :
    ⌊amount + 1 / 2⌋ = ⌈amount - 1 / 2⌉ <-> ¬ exists count : Int, amount = count + 1 / 2 := by
  have half : (1 / 2 : K) + 1 / 2 = 1 := add_halves 1
  constructor
  · rintro same ⟨count, rfl⟩
    have floored : ⌊(count : K) + 1 / 2 + 1 / 2⌋ = count + 1 := by
      rw [add_assoc, half, Int.floor_intCast_add, Int.floor_one]
    have ceiled : ⌈(count : K) + 1 / 2 - 1 / 2⌉ = count := by
      rw [add_sub_cancel_right, Int.ceil_intCast]
    rw [floored, ceiled] at same
    omega
  · intro apart
    refine le_antisymm ?_ ?_
    · refine Int.le_of_lt_add_one (Int.floor_lt.mpr ?_)
      have above := Int.le_ceil (amount - 1 / 2)
      have strict : amount ≠ ⌈amount - 1 / 2⌉ + 1 / 2 := fun same => apart ⟨_, same⟩
      have below : amount < ⌈amount - 1 / 2⌉ + 1 / 2 :=
        lt_of_le_of_ne (by linarith) strict
      push_cast
      linarith
    · refine Int.ceil_le.mpr ?_
      have below := Int.lt_floor_add_one (amount + 1 / 2)
      linarith

theorem roundAway_of_onGrid (positive : 0 < unit) (member : OnGrid unit value) :
    roundAway unit value = value := by
  rcases member with ⟨count, equal⟩
  have scaled : value / unit = count := by
    rw [equal, mul_div_assoc, div_self positive.ne', mul_one]
  unfold roundAway
  rw [scaled, halfAway_intCast, ← equal]

/-- An amount added to two totals on the grid is rounded alike in both, unless it is a tie and
the totals end on different sides of zero. -/
theorem roundAway_alike_iff (positive : 0 < unit) {first second : K} (left : OnGrid unit first)
    (right : OnGrid unit second) (value : K) :
    roundAway unit (first + value) - first = roundAway unit (second + value) - second <->
      ¬ (OnTie unit value ∧ ¬ (0 ≤ first + value <-> 0 ≤ second + value)) := by
  have rounded : forall {total : K}, OnGrid unit total ->
      roundAway unit (total + value) - total =
        ((if 0 ≤ total + value then ⌊value / unit + 1 / 2⌋ else ⌈value / unit - 1 / 2⌉ : Int) : K) *
          unit := by
    rintro total ⟨count, equal⟩
    have scaled : (total + value) / unit = count + value / unit := by
      rw [equal, add_div, mul_div_assoc, div_self positive.ne', mul_one]
    have sign : 0 ≤ (count : K) + value / unit <-> 0 ≤ total + value := by
      rw [← scaled, le_div_iff₀ positive, zero_mul]
    unfold roundAway
    rw [scaled, halfAway_add, equal, ← equal]
    simp only [sign]
    rw [equal]
    push_cast
    ring
  have tie : OnTie unit value <-> exists count : Int, value / unit = count + 1 / 2 := by
    refine exists_congr fun count => ?_
    rw [div_eq_iff positive.ne']
  have units : forall {one other : Int}, (one : K) * unit = other * unit <-> one = other := by
    intro one other
    rw [mul_left_inj' positive.ne', Int.cast_inj]
  rw [rounded left, rounded right, units, tie]
  have parts := floor_half_eq_ceil_half_iff (value / unit)
  by_cases one : 0 ≤ first + value <;> by_cases other : 0 ≤ second + value
  · simp only [one, other, if_true, iff_self, not_true, and_false, not_false_eq_true]
  · simp only [one, other, if_true, if_false, iff_false, not_true, not_false_eq_true, and_true]
    exact parts
  · simp only [one, other, if_true, if_false, false_iff, not_true, not_false_eq_true, and_true]
    rw [eq_comm]
    exact parts
  · simp only [one, other, if_false, iff_self, not_true, and_false, not_false_eq_true]

end Away

/-! ## Truncation -/

section Truncation

variable [LinearOrder K] [FloorRing K] [IsStrictOrderedRing K] {unit value : K}

theorem truncateTo_nonneg (positive : 0 < unit) (nonneg : 0 ≤ value) :
    0 ≤ truncateTo unit value := by
  have scaled : 0 ≤ value / unit := div_nonneg nonneg (le_of_lt positive)
  unfold truncateTo towardZero
  rw [if_pos scaled]
  have floored : (0 : K) ≤ (⌊value / unit⌋ : K) := by
    exact_mod_cast Int.floor_nonneg.mpr scaled
  exact mul_nonneg floored (le_of_lt positive)

theorem truncateTo_le (positive : 0 < unit) (nonneg : 0 ≤ value) :
    truncateTo unit value ≤ value := by
  have scaled : 0 ≤ value / unit := div_nonneg nonneg (le_of_lt positive)
  unfold truncateTo towardZero
  rw [if_pos scaled]
  calc
    (⌊value / unit⌋ : K) * unit ≤ value / unit * unit :=
      mul_le_mul_of_nonneg_right (Int.floor_le _) (le_of_lt positive)
    _ = value := div_mul_cancel₀ value (ne_of_gt positive)

end Truncation

end DecimalGrid
end Foundations
end MarketIntelligence
