import Mathlib.Algebra.Field.Basic
import Mathlib.Algebra.Order.Ring.Defs
import Mathlib.Algebra.BigOperators.Group.List.Basic
import Mathlib.Tactic.FieldSimp
import Mathlib.Tactic.Ring
import Mathlib.Tactic.Linarith

namespace MarketIntelligence
namespace Foundations
namespace AverageCost

/-!
# Holdings at average cost

A purchase adds its cost to the book value of a holding and spreads the sum over
the units.  A sale takes units out at the average, and closes the holding when
what is left is no more than some small residual.  The book value then changes
by the cost of what came in, or by the average cost of what went out, the
residual included.
-/

variable {K : Type*} [Field K]

structure Holding (K : Type*) where
  quantity : K
  averageCost : K

namespace Holding

def bookValue (holding : Holding K) : K :=
  holding.quantity * holding.averageCost

def acquire (holding : Holding K) (quantity cost : K) : Holding K where
  quantity := holding.quantity + quantity
  averageCost := (holding.bookValue + cost) / (holding.quantity + quantity)

theorem bookValue_acquire (holding : Holding K) {quantity : K} (cost : K)
    (held : holding.quantity + quantity ≠ 0) :
    (holding.acquire quantity cost).bookValue = holding.bookValue + cost := by
  simp only [bookValue, acquire]
  exact mul_div_cancel₀ _ held

section Disposal

variable [LinearOrder K]

/-- What a sale leaves behind and gives up, because it is no more than the residual. -/
def writtenOff (residual : K) (holding : Holding K) (quantity : K) : K :=
  if holding.quantity - quantity ≤ residual then holding.quantity - quantity else 0

def dispose (residual : K) (holding : Holding K) (quantity : K) : Holding K :=
  if holding.quantity - quantity ≤ residual then { quantity := 0, averageCost := 0 }
  else { quantity := holding.quantity - quantity, averageCost := holding.averageCost }

variable {residual quantity : K} (holding : Holding K)

theorem quantity_dispose :
    (holding.dispose residual quantity).quantity =
      holding.quantity - quantity - holding.writtenOff residual quantity := by
  unfold dispose writtenOff
  split <;> simp

theorem bookValue_dispose :
    (holding.dispose residual quantity).bookValue =
      holding.bookValue - quantity * holding.averageCost -
        holding.writtenOff residual quantity * holding.averageCost := by
  unfold dispose writtenOff bookValue
  split
  · ring
  · ring

theorem writtenOff_le (nonneg : 0 ≤ residual) :
    holding.writtenOff residual quantity ≤ residual := by
  unfold writtenOff
  split
  · assumption
  · exact nonneg

theorem writtenOff_nonneg [IsStrictOrderedRing K] (covered : quantity ≤ holding.quantity) :
    0 ≤ holding.writtenOff residual quantity := by
  unfold writtenOff
  split
  · exact sub_nonneg.mpr covered
  · exact le_refl 0

end Disposal

end Holding

/-! ## A total over several accounts -/

/-- Writing one account changes the total by what it changes in that account. -/
theorem sum_replace {κ : Type*} [DecidableEq κ] {accounts : List κ} (distinct : accounts.Nodup)
    {written : κ} (known : written ∈ accounts) {before after : κ -> K}
    (others : forall account, account ≠ written -> after account = before account) :
    (accounts.map after).sum = (accounts.map before).sum + (after written - before written) := by
  induction accounts with
  | nil => cases known
  | cons head tail ih =>
      rcases List.nodup_cons.mp distinct with ⟨fresh, rest⟩
      simp only [List.map_cons, List.sum_cons]
      by_cases here : head = written
      · have same : tail.map after = tail.map before := by
          apply List.map_congr_left
          intro account member
          exact others account fun equal => fresh (by rw [here, ← equal]; exact member)
        rw [same, here]
        ring
      · have later : written ∈ tail := (List.mem_cons.mp known).resolve_left (Ne.symm here)
        rw [ih rest later, others head here]
        ring

end AverageCost
end Foundations
end MarketIntelligence
