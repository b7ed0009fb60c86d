import MarketIntelligence.Core.Values
import MarketIntelligence.Hypothesis.Lifecycle

namespace MarketIntelligence
namespace Hypothesis

open Foundations

/-!
# Experiments

An experiment tests a hypothesis.  Its completion closes the experiment first and then
moves the hypothesis, so a hypothesis that may not take the step raises when the fields
of the experiment are written already.
-/

/-- A stored JSON value, as its canonical text. -/
abbrev Json := String

structure ResearchHypothesis where
  id : Identifier
  workspaceId : Identifier
  subjectEntityId : Identifier
  version : Nat
  checksum : String
  machineReadableMechanism : Json
  requiredDatasets : List String
  simulationEligibleTime : Instant
  status : HypothesisStatus
  deriving DecidableEq, Repr

inductive ExperimentStatus where
  | draft
  | scheduled
  | running
  | completed
  | failed
  | rejected
  deriving DecidableEq, Repr

structure FactorExperiment where
  id : Identifier
  workspaceId : Identifier
  candidateFeatureSpecId : Identifier
  outcomeDefinitionId : Identifier
  periodStart : Instant
  periodEnd : Instant
  status : ExperimentStatus
  conclusion : Option String
  completedAt : Option Instant
  warnings : List String
  checksum : String
  deriving DecidableEq, Repr

def FactorExperiment.closed (experiment : FactorExperiment) (accepted : Bool)
    (reasons : List String) (now : Instant) : FactorExperiment :=
  { experiment with
    status := if accepted then .completed else .rejected
    conclusion := some (if accepted then "PROMISING" else "REJECTED")
    completedAt := some now
    warnings := experiment.warnings ++ reasons }

/-- The experiment as it is left in the session, and what becomes of the hypothesis. -/
def completeExperiment (experiment : FactorExperiment) (hypothesis : ResearchHypothesis)
    (accepted : Bool) (reasons : List String) (now : Instant) :
    FactorExperiment × Except ValueError ResearchHypothesis :=
  (experiment.closed accepted reasons now,
    (transitionHypothesis hypothesis.status
      (StrEnum.value (if accepted then HypothesisStatus.promising else .rejected))).map
        fun status => { hypothesis with status := status })

end Hypothesis
end MarketIntelligence
