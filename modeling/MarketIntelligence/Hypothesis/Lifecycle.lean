import MarketIntelligence.Foundations.Enumerations
import Mathlib.Data.List.Nodup
import Mathlib.Order.Basic

namespace MarketIntelligence
namespace Hypothesis

open Foundations
open StrEnum

/-!
# Lifecycles of hypotheses

A hypothesis moves along the transitions of its status.  Its promotion is checked
against a stage that the caller supplies.  A member of an enumeration is the text
of its value wherever a text is accepted.
-/

/-! ## Statuses -/

inductive HypothesisStatus where
  | draft
  | evidenceRequired
  | readyForImplementation
  | implemented
  | testing
  | rejected
  | promising
  | validated
  | retired
  deriving DecidableEq, Repr

namespace HypothesisStatus

def text : HypothesisStatus -> String
  | draft => "DRAFT"
  | evidenceRequired => "EVIDENCE_REQUIRED"
  | readyForImplementation => "READY_FOR_IMPLEMENTATION"
  | implemented => "IMPLEMENTED"
  | testing => "TESTING"
  | rejected => "REJECTED"
  | promising => "PROMISING"
  | validated => "VALIDATED"
  | retired => "RETIRED"

instance strEnum : StrEnum HypothesisStatus where
  members := [draft, evidenceRequired, readyForImplementation, implemented, testing, rejected,
    promising, validated, retired]
  value := text
  mem_members := by
    intro member
    cases member <;> simp
  value_injective := by
    intro first second same
    cases first <;> cases second <;> first | rfl | (simp [text] at same)

end HypothesisStatus

/-- `HYPOTHESIS_TRANSITIONS`. -/
def hypothesisTransitions : HypothesisStatus -> List HypothesisStatus
  | .draft => [.evidenceRequired, .readyForImplementation]
  | .evidenceRequired => [.readyForImplementation, .rejected]
  | .readyForImplementation => [.implemented, .rejected]
  | .implemented => [.testing, .rejected]
  | .testing => [.rejected, .promising]
  | .promising => [.validated, .rejected, .retired]
  | .validated => [.retired]
  | .rejected => [.retired]
  | .retired => []

/-- The status that the hypothesis takes. -/
def transitionHypothesis (current : HypothesisStatus) (target : String) :
    Except ValueError HypothesisStatus := do
  let requested : HypothesisStatus ← ofValue target
  if requested ∉ hypothesisTransitions current then
    .error (.refused s!"invalid hypothesis transition: {value current} -> {value requested}")
  else .ok requested

theorem transitionHypothesis_eq_ok {current requested : HypothesisStatus} {target : String} :
    transitionHypothesis current target = .ok requested <->
      target = value requested ∧ requested ∈ hypothesisTransitions current := by
  rw [← ofValue_eq_ok]
  unfold transitionHypothesis
  cases parsed : (ofValue target : Except ValueError HypothesisStatus) with
  | error _ => simp [bind, Except.bind]
  | ok wanted =>
      by_cases listed : wanted ∈ hypothesisTransitions current
      · simp only [bind, Except.bind, listed, not_true_eq_false, if_false, Except.ok.injEq]
        constructor
        · rintro rfl
          exact ⟨rfl, listed⟩
        · exact And.left
      · simp only [bind, Except.bind, listed, not_false_eq_true, if_true, Except.ok.injEq,
          reduceCtorEq, false_iff]
        rintro ⟨rfl, permitted⟩
        exact listed permitted

/-! ## Promotion stages -/

inductive PromotionStage where
  | draft
  | evidenceChecked
  | implemented
  | leakageChecked
  | backtested
  | walkForwardPassed
  | robustnessPassed
  | oosPassed
  | paperEligible
  | rejected
  deriving DecidableEq, Repr

namespace PromotionStage

def text : PromotionStage -> String
  | draft => "DRAFT"
  | evidenceChecked => "EVIDENCE_CHECKED"
  | implemented => "IMPLEMENTED"
  | leakageChecked => "LEAKAGE_CHECKED"
  | backtested => "BACKTESTED"
  | walkForwardPassed => "WALK_FORWARD_PASSED"
  | robustnessPassed => "ROBUSTNESS_PASSED"
  | oosPassed => "OOS_PASSED"
  | paperEligible => "PAPER_ELIGIBLE"
  | rejected => "REJECTED"

instance strEnum : StrEnum PromotionStage where
  members := [draft, evidenceChecked, implemented, leakageChecked, backtested, walkForwardPassed,
    robustnessPassed, oosPassed, paperEligible, rejected]
  value := text
  mem_members := by
    intro member
    cases member <;> simp
  value_injective := by
    intro first second same
    cases first <;> cases second <;> first | rfl | (simp [text] at same)

end PromotionStage

/-- `PROMOTION_ORDER`. -/
def promotionOrder : List PromotionStage :=
  [.draft, .evidenceChecked, .implemented, .leakageChecked, .backtested, .walkForwardPassed,
    .robustnessPassed, .oosPassed, .paperEligible]

theorem promotionOrder_nodup : promotionOrder.Nodup := by decide

theorem rejected_notMem_promotionOrder : PromotionStage.rejected ∉ promotionOrder := by decide

def validatePromotionTransition (current : Option String) (target : String) :
    Except ValueError PromotionStage := do
  let requested : PromotionStage ← ofValue target
  if requested = .rejected then .ok requested
  else
    match current with
    | none =>
        if requested ≠ .draft then .error (.refused "promotion must begin at DRAFT")
        else .ok requested
    | some current => do
        let existing : PromotionStage ← ofValue current
        if existing = .rejected then .error (.refused "rejected research cannot be promoted")
        else
          let expectedIndex := promotionOrder.idxOf existing + 1
          if expectedIndex ≥ promotionOrder.length ∨
              promotionOrder[expectedIndex]? ≠ some requested then
            .error (.refused
              s!"invalid promotion transition: {value existing} -> {value requested}")
          else .ok requested

/-- The second stage stands right after the first one in the order of promotion. -/
def Follows (existing requested : PromotionStage) : Prop :=
  promotionOrder[promotionOrder.idxOf existing + 1]? = some requested

instance decidableFollows (existing requested : PromotionStage) :
    Decidable (Follows existing requested) :=
  inferInstanceAs (Decidable (_ = _))

/-- A rejection is always accepted; every other stage is checked against the supplied one. -/
inductive Permitted (current : Option String) : PromotionStage -> Prop where
  | rejects : Permitted current .rejected
  | begins (absent : current = none) : Permitted current .draft
  | advances {existing requested : PromotionStage} (supplied : current = some (value existing))
      (follows : Follows existing requested) : Permitted current requested

theorem Follows.existing_ne_rejected {existing requested : PromotionStage}
    (follows : Follows existing requested) : existing ≠ .rejected := by
  rintro rfl
  have beyond : ¬ exists stage, Follows .rejected stage := by
    rintro ⟨stage, next⟩
    cases next
  exact beyond ⟨requested, follows⟩

/-- The order itself has no place for a rejection. -/
theorem Follows.ne_rejected {existing requested : PromotionStage}
    (follows : Follows existing requested) : requested ≠ .rejected := by
  rintro rfl
  exact rejected_notMem_promotionOrder (List.mem_of_getElem? follows)

theorem draft_not_follows {existing : PromotionStage} : ¬ Follows existing .draft := by
  cases existing <;> decide

/-- What is accepted is the stage that the target names. -/
theorem validatePromotionTransition_value {current : Option String} {target : String}
    {requested : PromotionStage}
    (accepted : validatePromotionTransition current target = .ok requested) :
    target = value requested := by
  rw [← ofValue_eq_ok]
  unfold validatePromotionTransition at accepted
  cases parsed : (ofValue target : Except ValueError PromotionStage) with
  | error raised =>
      rw [parsed] at accepted
      cases accepted
  | ok wanted =>
      simp only [parsed, bind, Except.bind] at accepted
      split at accepted
      · exact accepted
      · split at accepted
        · split at accepted
          · cases accepted
          · exact accepted
        · split at accepted
          · cases accepted
          · split at accepted
            · cases accepted
            · split at accepted
              · cases accepted
              · exact accepted

theorem validatePromotionTransition_advance {existing requested : PromotionStage}
    (pending : requested ≠ .rejected) :
    validatePromotionTransition (some (value existing)) (value requested) = .ok requested <->
      Follows existing requested := by
  unfold validatePromotionTransition
  simp only [ofValue_value, bind, Except.bind, if_neg pending]
  by_cases rejected : existing = .rejected
  · rw [if_pos rejected]
    refine iff_of_false (fun accepted => by cases accepted) ?_
    exact fun follows => follows.existing_ne_rejected rejected
  · rw [if_neg rejected]
    by_cases follows : Follows existing requested
    · have within : promotionOrder.idxOf existing + 1 < promotionOrder.length :=
        (List.getElem?_eq_some_iff.mp follows).1
      have next : ¬ (promotionOrder.idxOf existing + 1 ≥ promotionOrder.length ∨
          promotionOrder[promotionOrder.idxOf existing + 1]? ≠ some requested) := by
        rintro (beyond | differs)
        · omega
        · exact differs follows
      rw [if_neg next]
      exact iff_of_true rfl follows
    · have refused : promotionOrder.idxOf existing + 1 ≥ promotionOrder.length ∨
          promotionOrder[promotionOrder.idxOf existing + 1]? ≠ some requested := Or.inr follows
      rw [if_pos refused]
      exact iff_of_false (fun accepted => by cases accepted) follows

theorem validatePromotionTransition_eq_ok {current : Option String} {target : String}
    {requested : PromotionStage} :
    validatePromotionTransition current target = .ok requested <->
      target = value requested ∧ Permitted current requested := by
  constructor
  · intro accepted
    have named := validatePromotionTransition_value accepted
    refine ⟨named, ?_⟩
    subst named
    by_cases rejects : requested = .rejected
    · exact rejects ▸ .rejects
    · cases current with
      | none =>
          unfold validatePromotionTransition at accepted
          simp only [ofValue_value, bind, Except.bind, if_neg rejects] at accepted
          split at accepted
          · cases accepted
          · next begins => exact not_not.mp begins ▸ .begins rfl
      | some supplied =>
          cases parsed : (ofValue supplied : Except ValueError PromotionStage) with
          | error raised =>
              unfold validatePromotionTransition at accepted
              simp only [ofValue_value, bind, Except.bind, if_neg rejects, parsed] at accepted
              cases accepted
          | ok existing =>
              have supplies := ofValue_eq_ok.mp parsed
              subst supplies
              exact .advances rfl ((validatePromotionTransition_advance rejects).mp accepted)
  · rintro ⟨rfl, permitted⟩
    cases permitted with
    | rejects => rfl
    | begins absent =>
        subst absent
        rfl
    | advances supplied follows =>
        subst supplied
        exact (validatePromotionTransition_advance follows.ne_rejected).mpr follows

end Hypothesis
end MarketIntelligence
