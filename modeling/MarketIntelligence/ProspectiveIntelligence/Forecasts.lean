import MarketIntelligence.Core.Values
import MarketIntelligence.Foundations.Statements

namespace MarketIntelligence
namespace ProspectiveIntelligence

open Foundations
open Foundations.Statements

/-!
# Forecasts, outcomes and scores

A forecast is posted, locked before its outcome is eligible, observed once or
several times, and scored against its latest observation.  A request reads in
statements of its own and ends with one commit; the statements of different
requests are executed in any order.

Values are JSON documents.  How Python reads a number, a pair or an array off a
document, the logarithm and the rank correlation are kept as parameters.
-/

/-! ## Types -/

inductive EvaluationMode where
  | prospective
  | historicalReplay
  | fixture
  deriving DecidableEq, Repr

inductive ForecastType where
  | directional
  | probability
  | continuous
  | interval
  | rank
  | scenarioConditional
  deriving DecidableEq, Repr

/-- The values the constraint on `state` admits. -/
inductive ForecastState where
  | opened
  | locked
  | invalidated
  deriving DecidableEq, Repr

/-- `float(value)` of what is no number, or a pair that is none. -/
inductive ScoreError where
  | typeError
  | valueError
  deriving DecidableEq, Repr

inductive Metric where
  | number (value : Rat)
  | flag (value : Bool)
  deriving DecidableEq, Repr

abbrev Metrics := List (String × Metric)

structure HTTPException where
  statusCode : Nat
  detail : String
  deriving DecidableEq, Repr

/-- The operations on documents and the numerical functions of other packages. -/
structure Numerics (δ : Type) where
  /-- `document.get("value", document)`. -/
  value : δ -> δ
  float : δ -> Except ScoreError Rat
  /-- `map(float, document)`. -/
  floats : δ -> Except ScoreError (List Rat)
  /-- `np.asarray(document, dtype=float)`. -/
  asarray : δ -> Except ScoreError (List Rat)
  log : Rat -> Rat
  spearmanr : List Rat -> List Rat -> Except ScoreError Rat

/-! ## Scoring -/

section Scoring

variable {δ : Type} (numerics : Numerics δ)

/-- `1e-15`. -/
def probabilityFloor : Rat := 1 / 1000000000000000

def scoreProbability (forecast realized : δ) : Except ScoreError Metrics := do
  let probability := min (1 - probabilityFloor) (max probabilityFloor (<- numerics.float forecast))
  let outcome <- numerics.float realized
  return [("brier_score", .number ((probability - outcome) ^ 2)),
    ("log_loss", .number (-(outcome * numerics.log probability +
      (1 - outcome) * numerics.log (1 - probability))))]

def scoreInterval (alpha : Rat) (forecast realized : δ) : Except ScoreError Metrics := do
  match <- numerics.floats forecast with
  | [lower, upper] =>
      let actual <- numerics.float realized
      let width := upper - lower
      let penalty := 2 / alpha *
        (if actual < lower then lower - actual else if actual > upper then actual - upper else 0)
      return [("covered", .flag (decide (lower ≤ actual ∧ actual ≤ upper))),
        ("interval_width", .number width), ("interval_score", .number (width + penalty))]
  | _ => throw .valueError

/-- `score_forecast`, with the default `alpha`. -/
def scoreForecast (kind : ForecastType) (forecast realized : δ) : Except ScoreError Metrics :=
  match kind with
  | .directional | .scenarioConditional => do
      let predicted <- numerics.float forecast
      let actual <- numerics.float realized
      return [("directionally_correct", .flag (decide (predicted * actual > 0)))]
  | .probability => scoreProbability numerics forecast realized
  | .continuous => do
      let predicted <- numerics.float forecast
      let actual <- numerics.float realized
      let error := predicted - actual
      return [("absolute_error", .number |error|), ("squared_error", .number (error ^ 2)),
        ("signed_bias", .number error)]
  | .interval => scoreInterval numerics (5 / 100) forecast realized
  | .rank => do
      let predicted <- numerics.asarray forecast
      let actual <- numerics.asarray realized
      let correlation <- numerics.spearmanr predicted actual
      return [("spearman_rank", .number correlation), ("rank_ic", .number correlation)]

end Scoring

/-! ## Aggregation -/

/-- A record of `aggregate_scores`. -/
structure ScoreRecord where
  metrics : Metrics
  evaluationMode : EvaluationMode
  observedAt : Instant
  deriving DecidableEq, Repr

inductive SampleStatus where
  | insufficientSample
  | preliminary
  | establishing
  | usable
  deriving DecidableEq, Repr

structure AggregateScores where
  evaluationMode : EvaluationMode
  sampleCount : Nat
  status : SampleStatus
  meanBrierScore : Option Rat
  asOfTime : Option Instant
  methodologyVersion : String
  deriving DecidableEq, Repr

def sampleStatus (count minimumSample : Nat) : SampleStatus :=
  if count < minimumSample then .insufficientSample
  else if count < 50 then .preliminary
  else if count < 100 then .establishing
  else .usable

/-- `float(record["brier_score"])` where the record has one. -/
def brierScore (record : ScoreRecord) : Option Rat :=
  match record.metrics.lookup "brier_score" with
  | some (.number value) => some value
  | some (.flag value) => some (if value then 1 else 0)
  | none => none

/-- `mean`, of what is not empty. -/
def mean (values : List Rat) : Option Rat :=
  if values.isEmpty then none else some (values.sum / values.length)

def selectedRecord (mode : EvaluationMode) (asOf : Option Instant) (record : ScoreRecord) : Bool :=
  decide (record.evaluationMode = mode) && asOf.all fun time => decide (record.observedAt ≤ time)

/-- `aggregate_scores`. -/
def aggregateScores (records : List ScoreRecord) (mode : EvaluationMode) (asOf : Option Instant)
    (minimumSample : Nat) : AggregateScores :=
  let selected := records.filter (selectedRecord mode asOf)
  { evaluationMode := mode
    sampleCount := selected.length
    status := sampleStatus selected.length minimumSample
    meanBrierScore := mean (selected.filterMap brierScore)
    asOfTime := asOf
    methodologyVersion := "calibration-v1" }

/-! ## Rows -/

structure ForecastTargetDefinition where
  id : Identifier
  workspaceId : Identifier
  key : String
  version : Nat
  outcomeType : String
  specification : List (String × String)
  deriving DecidableEq, Repr

structure ResearchForecast (δ : Type) where
  id : Identifier
  workspaceId : Identifier
  targetDefinitionId : Identifier
  researchCaseId : Option Identifier
  forecastType : ForecastType
  forecastValue : δ
  evaluationMode : EvaluationMode
  state : ForecastState
  asOfTime : Instant
  targetStartTime : Instant
  targetEndTime : Instant
  outcomeEligibleTime : Instant
  manifest : List (String × String)
  checksum : String
  lockedAt : Option Instant

structure ForecastOutcomeObservation (δ : Type) where
  id : Identifier
  workspaceId : Identifier
  forecastId : Identifier
  version : Nat
  realizedValue : δ
  observedAt : Instant
  sourceManifest : δ
  outcomeChecksum : String

structure ForecastScore where
  id : Identifier
  workspaceId : Identifier
  forecastId : Identifier
  observationId : Identifier
  evaluationMode : EvaluationMode
  metrics : Metrics
  scoredAt : Instant
  checksum : String

structure Desk (δ : Type) where
  targets : List ForecastTargetDefinition
  forecasts : List (ResearchForecast δ)
  observations : List (ForecastOutcomeObservation δ)
  scores : List ForecastScore

/-! ## Requests -/

structure ForecastCreate (δ : Type) where
  targetKey : String
  forecastType : ForecastType
  forecastValue : δ
  evaluationMode : EvaluationMode
  asOfTime : Instant
  targetStartTime : Instant
  targetEndTime : Instant
  outcomeEligibleTime : Instant
  researchCaseId : Option Identifier
  manifest : List (String × String)

structure OutcomeCreate (δ : Type) where
  realizedValue : δ
  observedAt : Instant
  sourceManifest : δ

/-- What `digest` is taken of. -/
inductive Digested (δ : Type) where
  | forecast (body : ForecastCreate δ) (workspaceId : Identifier) (manifest : List (String × String))
  | outcome (forecastId : Identifier) (body : OutcomeCreate δ) (version : Nat)
  | score (forecast outcome : String) (metrics : Metrics)

inductive Request (δ : Type) where
  | postForecast (workspaceId newId newTargetId : Identifier) (body : ForecastCreate δ)
  | lockForecast (workspaceId forecastId : Identifier) (now : Instant)
  | postOutcome (workspaceId forecastId newId : Identifier) (body : OutcomeCreate δ)
  | getScore (workspaceId forecastId newId : Identifier) (now : Instant)

/-- The writes the requests commit. -/
inductive Write (δ : Type) where
  | postForecast (target : Option ForecastTargetDefinition) (forecast : ResearchForecast δ)
  | lockForecast (forecastId : Identifier) (now : Instant)
  | postOutcome (observation : ForecastOutcomeObservation δ)
  | getScore (score : ForecastScore)

/-- How a request ends without a write: an answer of the API, an exception of the scoring, or the
score that is there already. -/
inductive Ended where
  | refused (error : HTTPException)
  | scoring (error : ScoreError)
  | returned (score : ForecastScore)

section Requests

variable {δ : Type}

/-- The specification of a target that a forecast is the first to name. -/
def defaultSpecification : List (String × String) :=
  [("source", "point-in-time"), ("transformation", "identity"), ("horizon", "explicit"),
   ("benchmark_policy", "frozen"), ("corporate_action_policy", "adjusted"),
   ("missing_data_policy", "invalidate"), ("timestamp_eligibility", "publication_time"),
   ("units", "declared")]

/-- `{**body.manifest, "paper_only": True, "software_version": "0.14.1"}`. -/
def stampManifest (manifest : List (String × String)) : List (String × String) :=
  Tables.put Prod.fst ("software_version", "0.14.1")
    (Tables.put Prod.fst ("paper_only", "True") manifest)

/-- The forecast of a workspace with an identifier. -/
def findForecast (desk : Desk δ) (workspaceId forecastId : Identifier) :
    Option (ResearchForecast δ) :=
  desk.forecasts.find? fun row => row.id = forecastId && row.workspaceId = workspaceId

/-- The row with the largest version, the first of them. -/
def latestVersion {α : Type} (version : α -> Nat) : List α -> Option α
  | [] => none
  | head :: tail =>
      match latestVersion version tail with
      | none => some head
      | some best => if version head < version best then some best else some head

def latestTarget (desk : Desk δ) (workspaceId : Identifier) (key : String) :
    Option ForecastTargetDefinition :=
  latestVersion (·.version)
    (desk.targets.filter fun row => row.workspaceId = workspaceId && row.key = key)

def observationsOf (desk : Desk δ) (forecastId : Identifier) :
    List (ForecastOutcomeObservation δ) :=
  desk.observations.filter fun row => row.forecastId = forecastId

def lockRow (forecastId : Identifier) (now : Instant) (row : ResearchForecast δ) :
    ResearchForecast δ :=
  if row.id = forecastId then { row with state := .locked, lockedAt := some now } else row

/-- The desk after a write, unless a unique constraint refuses it. -/
def applyWrite (write : Write δ) (desk : Desk δ) : Option (Desk δ) :=
  match write with
  | .postForecast target forecast =>
      if desk.forecasts.any (fun row => row.id = forecast.id || row.checksum = forecast.checksum) ||
          target.any (fun new => desk.targets.any fun row => row.id = new.id ||
            (row.workspaceId = new.workspaceId && row.key = new.key &&
              row.version = new.version)) then none
      else some
        { desk with
          targets := desk.targets ++ target.toList
          forecasts := desk.forecasts ++ [forecast] }
  | .lockForecast forecastId now =>
      some { desk with forecasts := desk.forecasts.map (lockRow forecastId now) }
  | .postOutcome observation =>
      if desk.observations.any (fun row => row.id = observation.id ||
          (row.forecastId = observation.forecastId && row.version = observation.version) ||
          row.outcomeChecksum = observation.outcomeChecksum) then none
      else some { desk with observations := desk.observations ++ [observation] }
  | .getScore score =>
      if desk.scores.any (fun row => row.id = score.id ||
          row.observationId = score.observationId || row.checksum = score.checksum) then none
      else some { desk with scores := desk.scores ++ [score] }

variable (numerics : Numerics δ) (digest : Digested δ -> String)

/-- The row `post_forecast` adds. -/
def newForecast (workspaceId newId targetId : Identifier) (body : ForecastCreate δ) :
    ResearchForecast δ :=
  let manifest := stampManifest body.manifest
  { id := newId
    workspaceId := workspaceId
    targetDefinitionId := targetId
    researchCaseId := body.researchCaseId
    forecastType := body.forecastType
    forecastValue := body.forecastValue
    evaluationMode := body.evaluationMode
    state := .opened
    asOfTime := body.asOfTime
    targetStartTime := body.targetStartTime
    targetEndTime := body.targetEndTime
    outcomeEligibleTime := body.outcomeEligibleTime
    manifest := manifest
    checksum := digest (.forecast body workspaceId manifest)
    lockedAt := none }

abbrev Steps (δ : Type) := Transaction (Desk δ) (Write δ) Ended

/-- `post_forecast`. -/
def postForecast (workspaceId newId newTargetId : Identifier) (body : ForecastCreate δ) : Steps δ :=
  if body.targetStartTime < body.asOfTime || body.outcomeEligibleTime < body.targetEndTime then
    .raise (.refused ⟨422, "Invalid point-in-time target boundary"⟩)
  else .query fun desk =>
    match latestTarget desk workspaceId body.targetKey with
    | some target => .commit (.postForecast none (newForecast digest workspaceId newId target.id body))
    | none =>
        .commit (.postForecast
          (some ⟨newTargetId, workspaceId, body.targetKey, 1, "VALIDATED_INTERMEDIATE_OUTCOME",
            defaultSpecification⟩)
          (newForecast digest workspaceId newId newTargetId body))

/-- `lock_forecast`. -/
def lockForecast (workspaceId forecastId : Identifier) (now : Instant) : Steps δ :=
  .query fun desk =>
    match findForecast desk workspaceId forecastId with
    | none => .raise (.refused ⟨404, "Forecast was not found"⟩)
    | some item =>
        if item.state ≠ .opened || now > item.outcomeEligibleTime then
          .raise (.refused ⟨409, "Forecast cannot be locked"⟩)
        else .commit (.lockForecast item.id now)

/-- The row `post_outcome` adds after so many previous ones. -/
def newOutcome (item : ResearchForecast δ) (newId : Identifier) (body : OutcomeCreate δ)
    (previous : Nat) : ForecastOutcomeObservation δ :=
  { id := newId
    workspaceId := item.workspaceId
    forecastId := item.id
    version := previous + 1
    realizedValue := body.realizedValue
    observedAt := body.observedAt
    sourceManifest := body.sourceManifest
    outcomeChecksum := digest (.outcome item.id body (previous + 1)) }

/-- `post_outcome`. -/
def postOutcome (workspaceId forecastId newId : Identifier) (body : OutcomeCreate δ) : Steps δ :=
  .query fun desk =>
    match findForecast desk workspaceId forecastId with
    | none => .raise (.refused ⟨404, "Forecast was not found"⟩)
    | some item =>
        if item.lockedAt.isNone || body.observedAt < item.outcomeEligibleTime then
          .raise (.refused ⟨409, "Outcome is not mature"⟩)
        else .query fun desk =>
          .commit (.postOutcome
            (newOutcome digest item newId body (observationsOf desk item.id).length))

/-- The row `get_score` adds. -/
def newScore (forecast : ResearchForecast δ) (outcome : ForecastOutcomeObservation δ)
    (newId : Identifier) (metrics : Metrics) (now : Instant) : ForecastScore :=
  { id := newId
    workspaceId := forecast.workspaceId
    forecastId := forecast.id
    observationId := outcome.id
    evaluationMode := forecast.evaluationMode
    metrics := metrics
    scoredAt := now
    checksum := digest (.score forecast.checksum outcome.outcomeChecksum metrics) }

/-- The metrics of a forecast against an observation. -/
def metricsOf (forecast : ResearchForecast δ) (outcome : ForecastOutcomeObservation δ) :
    Except ScoreError Metrics :=
  scoreForecast numerics forecast.forecastType (numerics.value forecast.forecastValue)
    (numerics.value outcome.realizedValue)

/-- `get_score`. -/
def getScore (workspaceId forecastId newId : Identifier) (now : Instant) : Steps δ :=
  .query fun desk =>
    match findForecast desk workspaceId forecastId with
    | none => .raise (.refused ⟨404, "Forecast was not found"⟩)
    | some forecast => .query fun desk =>
        match latestVersion (·.version) (observationsOf desk forecast.id) with
        | none => .raise (.refused ⟨409, "No mature outcome is available"⟩)
        | some outcome =>
            match metricsOf numerics forecast outcome with
            | .error error => .raise (.scoring error)
            | .ok metrics => .query fun desk =>
                match desk.scores.find? fun row => row.observationId = outcome.id with
                | some score => .raise (.returned score)
                | none => .commit (.getScore (newScore digest forecast outcome newId metrics now))

def steps : Request δ -> Steps δ
  | .postForecast workspaceId newId newTargetId body =>
      postForecast digest workspaceId newId newTargetId body
  | .lockForecast workspaceId forecastId now => lockForecast workspaceId forecastId now
  | .postOutcome workspaceId forecastId newId body =>
      postOutcome digest workspaceId forecastId newId body
  | .getScore workspaceId forecastId newId now =>
      getScore numerics digest workspaceId forecastId newId now

/-- Any number of requests, whose statements are executed in any order. -/
def interleave : Server (Desk δ) (Write δ) Ended -> Action (Request δ) ->
    Server (Desk δ) (Write δ) Ended :=
  step applyWrite (steps numerics digest)

/-- The rows `calibration` joins: the scores of a workspace with their observations. -/
def scoreRecords (desk : Desk δ) (workspaceId : Identifier) (mode : EvaluationMode) :
    List ScoreRecord :=
  (desk.scores.filter fun score =>
      score.workspaceId = workspaceId && score.evaluationMode = mode).flatMap fun score =>
    (desk.observations.filter fun outcome => outcome.id = score.observationId).map fun outcome =>
      ⟨score.metrics, score.evaluationMode, outcome.observedAt⟩

/-- `calibration`. -/
def calibration (desk : Desk δ) (workspaceId : Identifier) (mode : EvaluationMode)
    (asOf : Option Instant) : AggregateScores :=
  aggregateScores (scoreRecords desk workspaceId mode) mode asOf 20

end Requests

end ProspectiveIntelligence
end MarketIntelligence
