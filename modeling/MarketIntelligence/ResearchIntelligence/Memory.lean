import MarketIntelligence.Foundations.SortedLists
import MarketIntelligence.Foundations.Tables
import MarketIntelligence.Hypothesis.Experiments
import MarketIntelligence.Hypothesis.Promotion
import Mathlib.Data.Prod.Lex

namespace MarketIntelligence
namespace ResearchIntelligence

open Foundations
open Hypothesis

/-!
# Research memory

A lesson is built from a finished experiment and from the hypothesis that it has tested.
Later hypotheses are classified by the lessons that match them.  The digest of a document
is a parameter.
-/

/-! ## Rows -/

inductive MemoryStatus where
  | active
  | weak
  | contradicted
  | superseded
  | retired
  deriving DecidableEq, Repr

structure FoldWindow where
  train : Instant × Instant
  validation : Instant × Instant
  finalOos : Instant × Instant
  deriving DecidableEq, Repr

structure PeriodContext where
  experiment : Instant × Instant
  folds : List FoldWindow
  deriving DecidableEq, Repr

structure ControlSummary where
  type : String
  methodologyValid : Bool
  persistentPower : Bool
  deriving DecidableEq, Repr

structure ResultSummary where
  walkForward : List Json
  oos : List Json
  robustness : List Json
  multipleTesting : List (Rat × Bool)
  negativeControls : List ControlSummary
  deriving DecidableEq, Repr

structure Provenance where
  manifestId : Option Identifier
  experimentChecksum : String
  immutableHistoricalRecord : Bool
  deriving DecidableEq, Repr

structure ResearchMemoryEntry where
  id : Identifier
  workspaceId : Identifier
  hypothesisId : Identifier
  experimentId : Identifier
  subjectEntityId : Identifier
  hypothesisVersion : Nat
  hypothesisChecksum : String
  mechanismChecksum : String
  featureKey : String
  featureVersion : Nat
  outcomeKey : String
  conclusion : String
  status : MemoryStatus
  graphPath : Json
  datasets : List String
  featureDomains : List String
  applicability : Json
  regimeContext : List String
  periodContext : PeriodContext
  resultSummary : ResultSummary
  failureReasons : List String
  successConditions : List String
  failureConditions : List String
  confidence : Rat
  provenance : Provenance
  schemaVersion : Nat
  firstLearnedAt : Instant
  lastConfirmedAt : Instant
  simulationEligibleTime : Instant
  checksum : String
  deriving DecidableEq, Repr

structure CandidateFeatureSpec where
  id : Identifier
  featureKey : String
  implementationVersion : Nat
  deriving DecidableEq, Repr

structure ResearchOutcomeDefinition where
  id : Identifier
  key : String
  deriving DecidableEq, Repr

/-- The partition is the one that the model statistics name. -/
structure FactorExperimentFold where
  experimentId : Identifier
  foldNumber : Int
  window : FoldWindow
  factorStatistics : Json
  modelStatistics : Json
  modelPartition : Option String
  deriving DecidableEq, Repr

structure HypothesisMechanism where
  hypothesisId : Identifier
  relationshipPath : Json
  deriving DecidableEq, Repr

structure ExperimentManifest where
  id : Identifier
  experimentId : Identifier
  deriving DecidableEq, Repr

structure RobustnessResult where
  experimentId : Identifier
  statistics : Json
  deriving DecidableEq, Repr

structure MultipleTestingResult where
  experimentId : Identifier
  adjustedPValue : Rat
  rejectedNull : Bool
  deriving DecidableEq, Repr

structure NegativeControlResult where
  experimentId : Identifier
  controlType : String
  methodologyValid : Bool
  persistentPowerDetected : Bool
  deriving DecidableEq, Repr

/-- The rows beside the experiment and the hypothesis that a lesson is built from. -/
structure Evidence where
  features : List CandidateFeatureSpec
  outcomes : List ResearchOutcomeDefinition
  folds : List FactorExperimentFold
  mechanisms : List HypothesisMechanism
  manifests : List ExperimentManifest
  promotions : List ResearchPromotionEvent
  robustness : List RobustnessResult
  multipleTesting : List MultipleTestingResult
  negativeControls : List NegativeControlResult

/-- What `_digest` is taken of. -/
inductive Document where
  | lesson (experiment : Identifier) (hypothesis : String) (conclusion : String)
      (eligible : Instant)
  | mechanism (payload : Json)
  deriving DecidableEq, Repr

/-! ## Lessons of experiments -/

/-- The applicability of a lesson is passed by the caller. -/
structure Applicability where
  payload : Json
  featureDomains : List String
  deriving DecidableEq, Repr

/-- What has to be there before a lesson is built: the end of the experiment, its feature and
outcome, and its folds, one of them the final one out of sample. -/
structure LessonInputs where
  completedAt : Instant
  feature : CandidateFeatureSpec
  outcome : ResearchOutcomeDefinition
  folds : List FactorExperimentFold
  deriving DecidableEq, Repr

def lessonInputs (experiment : FactorExperiment) (evidence : Evidence) :
    Except ValueError LessonInputs :=
  match experiment.completedAt with
  | none =>
      .error (.refused "only completed or rejected experiments can create research memory")
  | some completedAt =>
      if experiment.status ≠ .completed ∧ experiment.status ≠ .rejected then
        .error (.refused "only completed or rejected experiments can create research memory")
      else
        match Tables.lookup CandidateFeatureSpec.id experiment.candidateFeatureSpecId
            evidence.features,
          Tables.lookup ResearchOutcomeDefinition.id experiment.outcomeDefinitionId
            evidence.outcomes with
        | some feature, some outcome =>
            let folds := SortedLists.sortedBy FactorExperimentFold.foldNumber
              (evidence.folds.filter fun fold => fold.experimentId = experiment.id)
            if folds.any fun fold => fold.modelPartition = some "FINAL_OUT_OF_SAMPLE" then
              .ok
                { completedAt := completedAt
                  feature := feature
                  outcome := outcome
                  folds := folds }
            else .error (.refused "TRAIN-only research cannot become research memory")
        | _, _ => .error (.refused "experiment research inputs are unavailable")

/-- The conclusion is read from the hypothesis. -/
def lessonConclusion (hypothesis : ResearchHypothesis) : String :=
  if hypothesis.status = .rejected then "NEGATIVE" else "POSITIVE"

section Lessons

variable (digest : Document -> String)

def lessonChecksum (hypothesis : ResearchHypothesis) (experiment : FactorExperiment)
    (inputs : LessonInputs) : String :=
  digest (.lesson experiment.id hypothesis.checksum (lessonConclusion hypothesis)
    inputs.completedAt)

def resultSummary (experiment : FactorExperiment) (evidence : Evidence)
    (folds : List FactorExperimentFold) : ResultSummary where
  walkForward := folds.map FactorExperimentFold.factorStatistics
  oos := folds.map FactorExperimentFold.modelStatistics
  robustness := (evidence.robustness.filter fun item => item.experimentId = experiment.id).map
    RobustnessResult.statistics
  multipleTesting := (evidence.multipleTesting.filter fun item =>
    item.experimentId = experiment.id).map fun item => (item.adjustedPValue, item.rejectedNull)
  negativeControls := (evidence.negativeControls.filter fun item =>
    item.experimentId = experiment.id).map fun item =>
      { type := item.controlType
        methodologyValid := item.methodologyValid
        persistentPower := item.persistentPowerDetected }

def failureReasons (experiment : FactorExperiment) (evidence : Evidence) : List String :=
  (evidence.promotions.filter fun event =>
    event.experimentId = some experiment.id ∧ event.toStage = .rejected).flatMap
      ResearchPromotionEvent.reasons

/-- The row that is inserted, with the identifier that is drawn for it. -/
def lesson (hypothesis : ResearchHypothesis) (experiment : FactorExperiment)
    (evidence : Evidence) (applicability : Applicability) (regimeContext : List String)
    (inputs : LessonInputs) (id : Identifier) : ResearchMemoryEntry :=
  let mechanism := evidence.mechanisms.find? fun row => row.hypothesisId = hypothesis.id
  let conclusion := lessonConclusion hypothesis
  { id := id
    workspaceId := experiment.workspaceId
    hypothesisId := hypothesis.id
    experimentId := experiment.id
    subjectEntityId := hypothesis.subjectEntityId
    hypothesisVersion := hypothesis.version
    hypothesisChecksum := hypothesis.checksum
    mechanismChecksum := digest (.mechanism
      ((mechanism.map HypothesisMechanism.relationshipPath).getD
        hypothesis.machineReadableMechanism))
    featureKey := inputs.feature.featureKey
    featureVersion := inputs.feature.implementationVersion
    outcomeKey := inputs.outcome.key
    conclusion := conclusion
    status := .active
    graphPath := (mechanism.map HypothesisMechanism.relationshipPath).getD "[]"
    datasets := hypothesis.requiredDatasets
    featureDomains := applicability.featureDomains
    applicability := applicability.payload
    regimeContext := regimeContext
    periodContext :=
      { experiment := (experiment.periodStart, experiment.periodEnd)
        folds := inputs.folds.map FactorExperimentFold.window }
    resultSummary := resultSummary experiment evidence inputs.folds
    failureReasons := failureReasons experiment evidence
    successConditions :=
      if conclusion = "POSITIVE" then
        ["validated OOS, robustness, and negative-control gates"]
      else []
    failureConditions := failureReasons experiment evidence
    confidence := if conclusion = "POSITIVE" then 85 / 100 else 90 / 100
    provenance :=
      { manifestId := (evidence.manifests.find? fun row =>
          row.experimentId = experiment.id).map ExperimentManifest.id
        experimentChecksum := experiment.checksum
        immutableHistoricalRecord := true }
    schemaVersion := 1
    firstLearnedAt := inputs.completedAt
    lastConfirmedAt := inputs.completedAt
    simulationEligibleTime := inputs.completedAt
    checksum := lessonChecksum digest hypothesis experiment inputs }

/-- A lesson whose checksum the workspace has already is not stored again. -/
def storedLesson (entries : List ResearchMemoryEntry) (workspaceId : Identifier)
    (checksum : String) : Option ResearchMemoryEntry :=
  entries.find? fun entry => entry.workspaceId = workspaceId && entry.checksum = checksum

/-- The lesson, and the memory that holds it. -/
def createMemoryFromExperiment (hypothesis : ResearchHypothesis) (experiment : FactorExperiment)
    (evidence : Evidence) (applicability : Applicability) (regimeContext : List String)
    (id : Identifier) (entries : List ResearchMemoryEntry) :
    Except ValueError (ResearchMemoryEntry × List ResearchMemoryEntry) := do
  let inputs ← lessonInputs experiment evidence
  match storedLesson entries experiment.workspaceId
      (lessonChecksum digest hypothesis experiment inputs) with
  | some existing => return (existing, entries)
  | none =>
      let result := lesson digest hypothesis experiment evidence applicability regimeContext
        inputs id
      return (result, entries ++ [result])

end Lessons

/-! ## Classification of hypotheses -/

inductive Classification where
  | new
  | retest
  | variant
  | duplicate
  | knownFailure
  | knownSuccess
  | contradicted
  deriving DecidableEq, Repr

structure HypothesisMemoryDecision where
  workspaceId : Identifier
  hypothesisId : Identifier
  classification : Classification
  matchedMemoryIds : List Identifier
  decision : String
  reason : String
  overrideAuthorized : Bool
  policyVersion : String
  deriving DecidableEq, Repr

structure ClassificationRequest where
  hypothesis : ResearchHypothesis
  featureKey : String
  outcomeKey : String
  mechanismChecksum : String
  overrideAuthorized : Bool
  deriving DecidableEq, Repr

def ClassificationRequest.selects (request : ClassificationRequest)
    (entry : ResearchMemoryEntry) : Bool :=
  entry.workspaceId = request.hypothesis.workspaceId &&
    entry.mechanismChecksum = request.mechanismChecksum &&
    entry.featureKey = request.featureKey && entry.outcomeKey = request.outcomeKey &&
    entry.status ∈ [MemoryStatus.active, .weak, .contradicted]

def classification (negative positive : Bool) : Classification :=
  if negative && positive then .contradicted
  else if negative then .knownFailure
  else if positive then .knownSuccess
  else .new

def concludes (conclusion : String) (matched : List ResearchMemoryEntry) : Bool :=
  matched.any fun entry => entry.conclusion = conclusion

def classifyHypothesis (entries : List ResearchMemoryEntry) (request : ClassificationRequest) :
    HypothesisMemoryDecision :=
  let matched := entries.filter request.selects
  let verdict := classification (concludes "NEGATIVE" matched) (concludes "POSITIVE" matched)
  let suppressed := (verdict = .knownFailure ∨ verdict = .duplicate) ∧
    request.overrideAuthorized = false
  { workspaceId := request.hypothesis.workspaceId
    hypothesisId := request.hypothesis.id
    classification := verdict
    matchedMemoryIds := matched.map ResearchMemoryEntry.id
    decision := if suppressed then "SUPPRESSED" else "SCHEDULE_ALLOWED"
    reason :=
      if suppressed then "A materially equivalent robust rejection is already recorded"
      else "No automatic suppression applies; normal validation gates remain required"
    overrideAuthorized := request.overrideAuthorized
    policyVersion := "memory-policy-v1" }

end ResearchIntelligence
end MarketIntelligence
