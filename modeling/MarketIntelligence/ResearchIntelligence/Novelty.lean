import MarketIntelligence.ResearchIntelligence.Memory

namespace MarketIntelligence
namespace ResearchIntelligence

open Foundations
open Hypothesis

/-!
# Novelty at the time of a hypothesis

A hypothesis is classified by every lesson that matches it, whenever the lesson became
known.  Two memories that agree on the lessons of its time lead to the same outcome
exactly when their later lessons, as far as they match, cannot be told apart by it.
-/

/-- The lesson was known at the time of the hypothesis. -/
def ClassificationRequest.knows (request : ClassificationRequest)
    (entry : ResearchMemoryEntry) : Bool :=
  entry.simulationEligibleTime ≤ request.hypothesis.simulationEligibleTime

/-- The memories have the same lessons up to the time of the hypothesis, in whatever order, and
differ only in later ones. -/
def AgreeUntil (request : ClassificationRequest) (first second : List ResearchMemoryEntry) :
    Prop :=
  (first.filter request.knows).Perm (second.filter request.knows)

/-- The same classification, the same decision, and the same lessons matched, in whatever order
the memories list them. -/
structure SameOutcome (first second : HypothesisMemoryDecision) : Prop where
  classification : first.classification = second.classification
  decision : first.decision = second.decision
  matched : first.matchedMemoryIds.Perm second.matchedMemoryIds

/-- The matching lessons that were known, and those that were not. -/
def knownMatches (request : ClassificationRequest) (entries : List ResearchMemoryEntry) :
    List ResearchMemoryEntry :=
  (entries.filter request.knows).filter request.selects

def lateMatches (request : ClassificationRequest) (entries : List ResearchMemoryEntry) :
    List ResearchMemoryEntry :=
  (entries.filter fun entry => !request.knows entry).filter request.selects

/-- The late matches are the same lessons, and they have a conclusion that no known match
has on both sides or on neither. -/
structure LateAlike (request : ClassificationRequest) (first second : List ResearchMemoryEntry) :
    Prop where
  matched : ((lateMatches request first).map ResearchMemoryEntry.id).Perm
    ((lateMatches request second).map ResearchMemoryEntry.id)
  conclusions : forall conclusion, conclusion = "NEGATIVE" ∨ conclusion = "POSITIVE" ->
    concludes conclusion (knownMatches request first) = false ->
      concludes conclusion (lateMatches request first) =
        concludes conclusion (lateMatches request second)

section Matches

variable {request : ClassificationRequest} {entries first second : List ResearchMemoryEntry}

theorem matches_perm (request : ClassificationRequest) (entries : List ResearchMemoryEntry) :
    (entries.filter request.selects).Perm
      (knownMatches request entries ++ lateMatches request entries) := by
  unfold knownMatches lateMatches
  rw [← List.filter_append]
  exact (List.filter_append_perm request.knows entries).symm.filter request.selects

theorem concludes_perm {conclusion : String} (perm : first.Perm second) :
    concludes conclusion first = concludes conclusion second :=
  Bool.eq_iff_iff.mpr (by
    unfold concludes
    rw [List.any_eq_true, List.any_eq_true]
    constructor
    · rintro ⟨entry, member, holds⟩
      exact ⟨entry, perm.mem_iff.mp member, holds⟩
    · rintro ⟨entry, member, holds⟩
      exact ⟨entry, perm.mem_iff.mpr member, holds⟩)

theorem concludes_matches (conclusion : String) :
    concludes conclusion (entries.filter request.selects) =
      (concludes conclusion (knownMatches request entries) ||
        concludes conclusion (lateMatches request entries)) := by
  rw [concludes_perm (matches_perm request entries)]
  exact List.any_append

theorem AgreeUntil.knownMatches (agree : AgreeUntil request first second) :
    (knownMatches request first).Perm (knownMatches request second) :=
  agree.filter request.selects

/-- The four classifications tell the two kinds of conclusions apart. -/
theorem classification_inj {negative positive otherNegative otherPositive : Bool} :
    classification negative positive = classification otherNegative otherPositive <->
      negative = otherNegative ∧ positive = otherPositive := by
  cases negative <;> cases positive <;> cases otherNegative <;> cases otherPositive <;> decide

theorem sameOutcome_iff :
    SameOutcome (classifyHypothesis first request) (classifyHypothesis second request) <->
      (forall conclusion, conclusion = "NEGATIVE" ∨ conclusion = "POSITIVE" ->
        concludes conclusion (first.filter request.selects) =
          concludes conclusion (second.filter request.selects)) ∧
      ((first.filter request.selects).map ResearchMemoryEntry.id).Perm
        ((second.filter request.selects).map ResearchMemoryEntry.id) := by
  constructor
  · intro same
    rcases classification_inj.mp same.classification with ⟨negative, positive⟩
    refine ⟨?_, same.matched⟩
    rintro conclusion (rfl | rfl)
    · exact negative
    · exact positive
  · rintro ⟨conclusions, matched⟩
    have verdict : (classifyHypothesis first request).classification =
        (classifyHypothesis second request).classification :=
      classification_inj.mpr
        ⟨conclusions "NEGATIVE" (Or.inl rfl), conclusions "POSITIVE" (Or.inr rfl)⟩
    refine ⟨verdict, ?_, matched⟩
    simp only [classifyHypothesis] at verdict ⊢
    rw [verdict]

theorem matched_iff (agree : AgreeUntil request first second) :
    ((first.filter request.selects).map ResearchMemoryEntry.id).Perm
        ((second.filter request.selects).map ResearchMemoryEntry.id) <->
      ((lateMatches request first).map ResearchMemoryEntry.id).Perm
        ((lateMatches request second).map ResearchMemoryEntry.id) := by
  have left := (matches_perm request first).map ResearchMemoryEntry.id
  have right := (matches_perm request second).map ResearchMemoryEntry.id
  have known := agree.knownMatches.map ResearchMemoryEntry.id
  rw [List.map_append] at left right
  constructor
  · intro same
    have whole := left.symm.trans (same.trans right)
    exact (List.perm_append_left_iff _).mp (whole.trans (known.symm.append_right _))
  · intro late
    exact left.trans ((known.append late).trans right.symm)

theorem conclusions_iff (agree : AgreeUntil request first second) (conclusion : String) :
    concludes conclusion (first.filter request.selects) =
        concludes conclusion (second.filter request.selects) <->
      (concludes conclusion (knownMatches request first) = false ->
        concludes conclusion (lateMatches request first) =
          concludes conclusion (lateMatches request second)) := by
  rw [concludes_matches, concludes_matches, ← concludes_perm agree.knownMatches]
  cases concludes conclusion (knownMatches request first) <;> simp

end Matches

/-- Two memories that differ only in lessons later than the hypothesis lead to the same
outcome exactly when their late matches are alike. -/
theorem classifyHypothesis_iff_lateAlike (request : ClassificationRequest)
    (first second : List ResearchMemoryEntry) (agree : AgreeUntil request first second) :
    SameOutcome (classifyHypothesis first request) (classifyHypothesis second request) <->
      LateAlike request first second := by
  rw [sameOutcome_iff, matched_iff agree]
  constructor
  · rintro ⟨conclusions, matched⟩
    exact ⟨matched, fun conclusion kind =>
      (conclusions_iff agree conclusion).mp (conclusions conclusion kind)⟩
  · intro alike
    exact ⟨fun conclusion kind =>
      (conclusions_iff agree conclusion).mpr (alike.conclusions conclusion kind), alike.matched⟩

/-- A lesson for a feature of the reference research, learned at an instant. -/
def droughtLesson (id : Identifier) (featureKey : String) (learned : Instant) :
    ResearchMemoryEntry where
  id := id
  workspaceId := 1
  hypothesisId := 1
  experimentId := 1
  subjectEntityId := 1
  hypothesisVersion := 1
  hypothesisChecksum := "h"
  mechanismChecksum := "m"
  featureKey := featureKey
  featureVersion := 1
  outcomeKey := "margin"
  conclusion := "NEGATIVE"
  status := .active
  graphPath := "[]"
  datasets := []
  featureDomains := []
  applicability := "{}"
  regimeContext := []
  periodContext := { experiment := (0, 1), folds := [] }
  resultSummary :=
    { walkForward := [], oos := [], robustness := [], multipleTesting := []
      negativeControls := [] }
  failureReasons := []
  successConditions := []
  failureConditions := []
  confidence := 90 / 100
  provenance :=
    { manifestId := none, experimentChecksum := "e", immutableHistoricalRecord := true }
  schemaVersion := 1
  firstLearnedAt := learned
  lastConfirmedAt := learned
  simulationEligibleTime := learned
  checksum := "c"

def droughtRequest : ClassificationRequest where
  hypothesis :=
    { id := 2, workspaceId := 1, subjectEntityId := 1, version := 1, checksum := "h"
      machineReadableMechanism := "{}", requiredDatasets := [], simulationEligibleTime := 5
      status := .draft }
  featureKey := "drought"
  outcomeKey := "margin"
  mechanismChecksum := "m"
  overrideAuthorized := false

/-- A later lesson about another feature changes nothing. -/
theorem otherFeature_sameOutcome :
    SameOutcome (classifyHypothesis [] droughtRequest)
      (classifyHypothesis [droughtLesson 7 "rainfall" 10] droughtRequest) := by
  have agree : AgreeUntil droughtRequest [] [droughtLesson 7 "rainfall" 10] := by
    unfold AgreeUntil
    decide
  refine (classifyHypothesis_iff_lateAlike droughtRequest [] [droughtLesson 7 "rainfall" 10]
    agree).mpr ⟨by decide, ?_⟩
  rintro conclusion (rfl | rfl) _
  · decide
  · decide

/-- A failure that is learned after the hypothesis suppresses it. -/
theorem laterFailure_suppresses :
    AgreeUntil droughtRequest [] [droughtLesson 7 "drought" 10] ∧
      (classifyHypothesis [] droughtRequest).classification = .new ∧
      (classifyHypothesis [] droughtRequest).decision = "SCHEDULE_ALLOWED" ∧
      (classifyHypothesis [droughtLesson 7 "drought" 10] droughtRequest).classification =
        .knownFailure ∧
      (classifyHypothesis [droughtLesson 7 "drought" 10] droughtRequest).decision =
        "SUPPRESSED" ∧
      ¬ SameOutcome (classifyHypothesis [] droughtRequest)
        (classifyHypothesis [droughtLesson 7 "drought" 10] droughtRequest) := by
  refine ⟨by unfold AgreeUntil; decide, by decide, by decide, by decide, by decide, ?_⟩
  intro same
  cases same.classification

end ResearchIntelligence
end MarketIntelligence
