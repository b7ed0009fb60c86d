import MarketIntelligence.Backtesting.Engine
import Mathlib.Order.Basic

namespace MarketIntelligence
namespace Backtesting

/-!
# The execution index of a signal

A signal executes at the first bar that is both past the configured delay and
strictly later than the signal time.  Bars appended to the timeline can only
give an index to a signal that had none.
-/

/-! ## The search for a later bar -/

theorem firstLater_ge {signalTime : Instant} {times : List Instant} {candidate index : Nat}
    (found : firstLater signalTime times candidate = some index) : candidate ≤ index := by
  induction times generalizing candidate with
  | nil => cases found
  | cons time rest ih =>
      unfold firstLater at found
      split at found
      · exact Nat.le_of_succ_le (ih found)
      · exact le_of_eq (Option.some.inj found)

theorem firstLater_lt {signalTime : Instant} {times : List Instant} {candidate index : Nat}
    (found : firstLater signalTime times candidate = some index) :
    index < candidate + times.length := by
  induction times generalizing candidate with
  | nil => cases found
  | cons time rest ih =>
      rw [List.length_cons]
      unfold firstLater at found
      split at found
      · have later := ih found
        omega
      · have equal := Option.some.inj found
        omega

/-- The bar found is later than the signal. -/
theorem firstLater_later {signalTime : Instant} {times : List Instant} {candidate index : Nat}
    (found : firstLater signalTime times candidate = some index) :
    exists time, times[index - candidate]? = some time ∧ signalTime < time := by
  induction times generalizing candidate with
  | nil => cases found
  | cons time rest ih =>
      unfold firstLater at found
      split at found
      · have bound := firstLater_ge found
        rcases ih found with ⟨later, looked, after⟩
        refine ⟨later, ?_, after⟩
        rw [show index - candidate = index - (candidate + 1) + 1 by omega]
        exact looked
      · rename_i after
        cases found
        rw [Nat.sub_self]
        exact ⟨time, rfl, not_le.mp after⟩

/-- The index respects the delay and the signal time. -/
theorem eligibleExecutionIndex_spec {times : List Instant} {signalIndex delay index : Nat}
    {signalTime : Instant}
    (found : eligibleExecutionIndex times signalIndex signalTime delay = some index) :
    signalIndex + delay ≤ index ∧
      exists time, times[index]? = some time ∧ signalTime < time := by
  have bound := firstLater_ge found
  rcases firstLater_later found with ⟨time, looked, after⟩
  rw [List.getElem?_drop, Nat.add_sub_cancel' bound] at looked
  exact ⟨bound, time, looked, after⟩

/-! ## Bars appended to the timeline -/

theorem firstLater_append (signalTime : Instant) (front back : List Instant) (candidate : Nat) :
    firstLater signalTime (front ++ back) candidate =
      (firstLater signalTime front candidate).or
        (firstLater signalTime back (candidate + front.length)) := by
  induction front generalizing candidate with
  | nil => rfl
  | cons time rest ih =>
      simp only [List.cons_append, firstLater]
      split
      · rw [ih, List.length_cons, Nat.add_right_comm, Nat.add_assoc]
      · rfl

/-- What follows a segment does not decide whether a signal executes inside it. -/
theorem eligibleExecutionIndex_filter (front back : List Instant) (index : Nat)
    (signalTime : Instant) (delay : Nat) :
    (eligibleExecutionIndex (front ++ back) index signalTime delay).filter (· < front.length) =
      eligibleExecutionIndex front index signalTime delay := by
  unfold eligibleExecutionIndex
  generalize index + delay = start
  rw [List.drop_append, firstLater_append]
  cases inside : firstLater signalTime (front.drop start) start with
  | some found =>
      have lower := firstLater_ge inside
      have upper := firstLater_lt inside
      rw [List.length_drop] at upper
      have early : found < front.length := by omega
      simp only [Option.some_or, Option.filter, early, decide_true, if_true]
  | none =>
      rw [Option.none_or]
      cases outside : firstLater signalTime (back.drop (start - front.length))
          (start + (front.drop start).length) with
      | none => rfl
      | some found =>
          have bound := firstLater_ge outside
          rw [List.length_drop] at bound
          have late : ¬ found < front.length := by omega
          simp only [Option.filter, late, decide_false, Bool.false_eq_true, if_false]

theorem schedule_filter (config : BacktestConfig) (front back : List Instant) (index : Nat)
    (batch : SignalBatch) :
    (schedule config (front ++ back) index batch).filter
        (fun item => item.executionIndex < front.length) =
      schedule config front index batch := by
  unfold schedule
  cases batch.signalTimes.max? with
  | none => rfl
  | some signalTime =>
      dsimp only
      rw [← eligibleExecutionIndex_filter front back index signalTime config.executionDelay]
      cases eligibleExecutionIndex (front ++ back) index signalTime config.executionDelay with
      | none => rfl
      | some found =>
          by_cases early : found < front.length
          · simp only [Option.filter, early, decide_true, if_true]
            exact List.filter_cons_of_pos (decide_eq_true early)
          · simp only [Option.filter, early, decide_false, Bool.false_eq_true, if_false]
            exact List.filter_cons_of_neg (by simpa using early)

end Backtesting
end MarketIntelligence
