import Mathlib.Algebra.BigOperators.Ring.List
import Mathlib.Algebra.Order.Field.Rat
import Mathlib.Data.List.Count
import Mathlib.Order.Basic
import Mathlib.Tactic.Linarith
import Mathlib.Tactic.Ring

namespace MarketIntelligence
namespace Foundations
namespace FractionalRanks

/-!
# Fractional ranks

The rank of a value in a list counts the smaller values, and the equal ones by half.  Values
that tie share the mean of the places that they take in a sort, so the ranks have the total
of the places.
-/

universe u v

variable {α : Type u} {β : Type v}

/-! ## Counting pairs -/

section Pairs

theorem countP_eq_sum (selected : α -> Bool) (values : List α) :
    values.countP selected = (values.map fun value => if selected value then 1 else 0).sum := by
  induction values with
  | nil => rfl
  | cons head tail ih =>
      rw [List.countP_cons, ih, List.map_cons, List.sum_cons, Nat.add_comm]

/-- Related pairs can be counted from either side. -/
theorem sum_countP_comm (related : α -> β -> Bool) (firsts : List α) (seconds : List β) :
    (firsts.map fun first => seconds.countP (related first)).sum =
      (seconds.map fun second => firsts.countP fun first => related first second).sum := by
  induction firsts with
  | nil => simp
  | cons first rest ih =>
      rw [List.map_cons, List.sum_cons, ih,
        countP_eq_sum (related first), ← List.sum_map_add]
      congr 1
      apply List.map_congr_left
      intro second _
      rw [List.countP_cons, Nat.add_comm]

end Pairs

/-! ## Ranks -/

section Ranks

variable [LinearOrder α]

/-- The smaller values, and half of one more than the equal ones. -/
def fractionalRank (values : List α) (value : α) : Rat :=
  (values.countP (fun other => other < value) : Nat) + ((values.count value : Nat) + 1) / 2

theorem fractionalRank_perm {values others : List α} (perm : values.Perm others) (value : α) :
    fractionalRank values value = fractionalRank others value := by
  rw [fractionalRank, fractionalRank, perm.countP_eq, perm.count_eq]

/-- Every value is smaller, equal or larger. -/
theorem length_eq_count (values : List α) (value : α) :
    values.length = values.countP (fun other => other < value) + values.count value +
      values.countP fun other => value < other := by
  induction values with
  | nil => rfl
  | cons head tail ih =>
      rw [List.length_cons, ih, List.countP_cons, List.count_cons,
        List.countP_cons]
      rcases lt_trichotomy head value with smaller | same | larger
      · simp [smaller, smaller.ne, smaller.not_gt]
        omega
      · subst same
        simp
        omega
      · simp [larger, larger.ne', larger.not_gt]
        omega

theorem sum_counts (values : List α) :
    2 * (values.map fun value => values.countP fun other => other < value).sum +
      (values.map fun value => values.count value).sum = values.length * values.length := by
  have exchanged : (values.map fun value => values.countP fun other => value < other).sum =
      (values.map fun value => values.countP fun other => other < value).sum :=
    sum_countP_comm (fun value other => decide (value < other)) values values
  have whole : (values.map fun _ => values.length).sum =
      (values.map fun value => values.countP (fun other => other < value) + values.count value +
        values.countP fun other => value < other).sum := by
    congr 1
    apply List.map_congr_left
    intro value _
    exact length_eq_count values value
  rw [List.sum_map_add, List.sum_map_add, exchanged, List.map_const', List.sum_replicate,
    Nat.nsmul_eq_mul] at whole
  omega

theorem sum_ranks (values items : List α) :
    (items.map (fractionalRank values)).sum =
      ((items.map fun value => values.countP fun other => other < value).sum : Nat) +
        (((items.map fun value => values.count value).sum : Nat) + items.length) / 2 := by
  induction items with
  | nil => simp
  | cons item rest ih =>
      rw [List.map_cons, List.sum_cons, ih, fractionalRank, List.map_cons,
        List.sum_cons, List.map_cons, List.sum_cons, List.length_cons]
      push_cast
      ring

/-- The ranks have the total of the places from one on. -/
theorem sum_fractionalRank (values : List α) :
    (values.map (fractionalRank values)).sum =
      (values.length : Rat) * (values.length + 1) / 2 := by
  have counts : (2 * ((values.map fun value => values.countP fun other => other < value).sum : Nat) +
      ((values.map fun value => values.count value).sum : Nat) : Rat) =
        values.length * values.length := by
    exact_mod_cast sum_counts values
  rw [sum_ranks]
  linarith

end Ranks

end FractionalRanks
end Foundations
end MarketIntelligence
