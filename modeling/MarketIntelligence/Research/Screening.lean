import MarketIntelligence.Foundations.Enumerations
import MarketIntelligence.Research.FeatureStore

namespace MarketIntelligence
namespace Research

open Foundations
open SortedLists

/-!
# Screening

A run of the screening scores the members of a universe as of an instant, ranks them and
gives each the level of its rank.  The candidate states of the ranked entities are
inserted or updated; a run whose checksum is stored already is returned as it is.

The digest of a document and the reading of a decimal from a text are parameters.
-/

/-! ## Rows -/

inductive Level where
  | level0
  | level1
  | level2
  | level3
  | level4
  deriving DecidableEq, Repr

namespace Level

def text : Level -> String
  | level0 => "LEVEL_0"
  | level1 => "LEVEL_1"
  | level2 => "LEVEL_2"
  | level3 => "LEVEL_3"
  | level4 => "LEVEL_4"

def number : Level -> Nat
  | level0 => 0
  | level1 => 1
  | level2 => 2
  | level3 => 3
  | level4 => 4

instance strEnum : StrEnum Level where
  members := [level0, level1, level2, level3, level4]
  value := text
  mem_members := by
    intro member
    cases member <;> simp
  value_injective := by
    intro first second same
    cases first <;> cases second <;> first | rfl | (simp [text] at same)

end Level

structure ResearchResolutionPolicy where
  id : Identifier
  version : String
  checksum : String
  deriving DecidableEq, Repr

structure ResearchBudget where
  id : Identifier
  limits : List (String × Int)
  costClass : String
  deriving DecidableEq, Repr

/-- The manifest of a snapshot, without its constant entries. -/
structure Manifest where
  universeVersionId : Identifier
  featureSetId : Identifier
  asOfTime : Instant
  entityIds : List Identifier
  featureValueIds : List Identifier
  applicationSha : String
  migrationHead : String
  resolutionPolicy : String
  deriving DecidableEq, Repr

structure RankedPayload where
  snapshot : String
  policy : String
  ranked : List (Identifier × Rat)
  deriving DecidableEq, Repr

/-- What `_checksum` is taken of. -/
inductive Document where
  | manifest (content : Manifest)
  | screening (content : RankedPayload)
  deriving DecidableEq, Repr

structure FeatureSnapshot where
  workspaceId : Identifier
  manifest : Manifest
  checksum : String
  deriving DecidableEq, Repr

/-- A snapshot and a run are referred to by their checksums, which are unique. -/
structure ResearchScreeningRun where
  workspaceId : Identifier
  universeVersionId : Identifier
  featureSnapshot : String
  policyId : Identifier
  asOfTime : Instant
  totalCandidates : Nat
  promoted : Nat
  deferred : Nat
  demoted : Nat
  rejected : Nat
  budgetUsage : List (String × List (String × Int))
  reasonDistribution : List (String × Nat)
  checksum : String
  deriving DecidableEq, Repr

structure ResearchBudgetUsage where
  budgetId : Identifier
  screeningRun : String
  level : String
  candidateLimit : Option Int
  costClass : String
  decision : String
  deriving DecidableEq, Repr

structure ScreeningComponents where
  dataCompleteness : Rat
  transparentAnomaly : Rat
  driverEvidence : Rat
  freshness : Rat
  deriving DecidableEq, Repr

structure ResearchScreeningDecision where
  screeningRun : String
  entityId : Identifier
  score : Rat
  scoreComponents : ScreeningComponents
  recommendation : String
  reasonCodes : List String
  missingInformation : List String
  level : Level
  costClass : String
  deriving DecidableEq, Repr

structure ResearchCandidateState where
  workspaceId : Identifier
  universeId : Identifier
  entityId : Identifier
  policyId : Identifier
  currentLevel : Level
  previousLevel : Option Level
  enteredAt : Instant
  promotionReason : Option String
  demotionReason : Option String
  supportingSnapshot : String
  rank : Nat
  nextReviewTime : Instant
  deriving DecidableEq, Repr

def ResearchCandidateState.key (state : ResearchCandidateState) :
    Identifier × Identifier × Identifier × Identifier :=
  (state.workspaceId, state.universeId, state.entityId, state.policyId)

/-! ## Scores -/

structure ScreeningScore where
  entityId : Identifier
  score : Rat
  components : ScreeningComponents
  reasonCodes : List String
  missingInformation : List String
  deriving DecidableEq, Repr

inductive ScreeningError where
  | research (raised : ResearchError)
  | invalidDecimal (text : String)
  deriving DecidableEq, Repr

section Scores

variable (decimal : String -> Option Rat)

/-- `Decimal(str(row.get(key) or "0"))` -/
def decimalCell (row : List (String × Option Content)) (key : String) :
    Except ScreeningError Rat :=
  match (Tables.lookup Prod.fst key row).bind Prod.snd with
  | none => .ok 0
  | some (.number value) => .ok value
  | some (.text text) =>
      if text = "" then .ok 0
      else (decimal text).elim (.error (.invalidDecimal text)) .ok

def numericCells (row : List (String × Option Content)) : List Rat :=
  row.filterMap fun cell =>
    match cell.2 with
    | some (.number value) => some value
    | _ => none

/-- The body of the loop of `score_matrix`. -/
def scoreEntity (matrix : FeatureMatrix) (entityId : Identifier) :
    Except ScreeningError ScreeningScore := do
  let row := ((Tables.lookup Prod.fst entityId matrix.values).map Prod.snd).getD []
  let missing := ((Tables.lookup Prod.fst entityId matrix.missing).map Prod.snd).getD []
  let numeric := numericCells row
  let completeness : Rat :=
    (((row.length : Int) - missing.length : Int) : Rat) / (max 1 row.length : Nat)
  let anomaly : Rat := min 1 ((numeric.map (|·|)).sum / (max 1 numeric.length : Nat))
  let driver ← decimalCell decimal row "driver_evidence_strength"
  let freshness ← decimalCell decimal row "source_freshness_score"
  let score := completeness * (35 / 100) + anomaly * (25 / 100) + driver * (25 / 100) +
    freshness * (15 / 100)
  return {
    entityId := entityId
    score := DecimalGrid.roundTo shareUnit score
    components :=
      { dataCompleteness := completeness
        transparentAnomaly := anomaly
        driverEvidence := driver
        freshness := freshness }
    reasonCodes :=
      (if completeness = 1 then "DATA_COMPLETE" else "MISSING_INFORMATION") ::
        (if 6 / 10 ≤ driver then ["EVIDENCE_BACKED_DRIVER"] else [])
    missingInformation := missing }

/-- The best score first, and equal scores by the entity. -/
def scoreMatrix (matrix : FeatureMatrix) : Except ScreeningError (List ScreeningScore) := do
  let scores ← matrix.entityIds.mapM (scoreEntity decimal matrix)
  return sortedBy (fun item : ScreeningScore =>
    toLex (OrderDual.toDual item.score, item.entityId)) scores

end Scores

/-! ## Budgets -/

def limitOf (budget : ResearchBudget) (name : String) : Option Int :=
  (Tables.lookup Prod.fst name budget.limits).map Prod.snd

/-! ## A run -/

/-- The tables that a run reads and writes. -/
structure Desk where
  snapshots : List FeatureSnapshot
  runs : List ResearchScreeningRun
  usages : List ResearchBudgetUsage
  decisions : List ResearchScreeningDecision
  states : List ResearchCandidateState
  states_nodup : (states.map ResearchCandidateState.key).Nodup

def Desk.empty : Desk where
  snapshots := []
  runs := []
  usages := []
  decisions := []
  states := []
  states_nodup := List.nodup_nil

/-- The arguments of a call and the store that it reads.  A version of a universe has
one membership for each entity. -/
structure ScreeningCall where
  store : FeatureStore
  workspaceId : Identifier
  researchUniverse : ResearchUniverse
  featureSet : FeatureSet
  policy : ResearchResolutionPolicy
  budgets : List (String × ResearchBudget)
  asOfTime : Instant
  applicationSha : String
  migrationHead : String
  members_nodup : (store.universeMemberships.map fun row =>
    (row.universeVersionId, row.entityId)).Nodup

def ScreeningCall.request (call : ScreeningCall) : MatrixRequest where
  featureSet := .row call.featureSet
  researchUniverse := .row call.researchUniverse
  asOf := call.asOfTime
  workspaceId := call.workspaceId

def ScreeningCall.budget (call : ScreeningCall) (level : Level) : Option ResearchBudget :=
  (Tables.lookup Prod.fst (StrEnum.value level) call.budgets).map Prod.snd

def thresholds : List (Nat × Level) :=
  [(3, .level4), (8, .level3), (20, .level2), (50, .level1)]

/-- The level of the first threshold that the rank is under. -/
def levelAt (rank : Nat) : Level :=
  (thresholds.find? fun threshold => rank < threshold.1).elim .level0 Prod.snd

def ScreeningCall.manifest (call : ScreeningCall) (matrix : FeatureMatrix) : Manifest where
  universeVersionId := matrix.universeVersionId
  featureSetId := call.featureSet.id
  asOfTime := matrix.asOfTime
  entityIds := sortedBy id matrix.entityIds
  featureValueIds := sortedBy id matrix.featureValueIds
  applicationSha := call.applicationSha
  migrationHead := call.migrationHead
  resolutionPolicy := call.policy.version

section Runs

variable (digest : Document -> String)

/-- `create_snapshot`: the snapshot, and the table that holds it. -/
def createSnapshot (call : ScreeningCall) (matrix : FeatureMatrix)
    (snapshots : List FeatureSnapshot) : FeatureSnapshot × List FeatureSnapshot :=
  let checksum := digest (.manifest (call.manifest matrix))
  match Tables.lookup FeatureSnapshot.checksum checksum snapshots with
  | some existing => (existing, snapshots)
  | none =>
      let snapshot : FeatureSnapshot :=
        { workspaceId := call.workspaceId
          manifest := call.manifest matrix
          checksum := checksum }
      (snapshot, snapshots ++ [snapshot])

def rankedPayload (call : ScreeningCall) (snapshot : FeatureSnapshot)
    (ranked : List ScreeningScore) : RankedPayload where
  snapshot := snapshot.checksum
  policy := call.policy.checksum
  ranked := ranked.map fun item => (item.entityId, item.score)

/-- `Counter.update` over the reason codes of the ranking. -/
def reasonDistribution (ranked : List ScreeningScore) : List (String × Nat) :=
  (ranked.flatMap ScreeningScore.reasonCodes).foldl (fun reasons code =>
    assign reasons code (((Tables.lookup Prod.fst code reasons).map Prod.snd).getD 0 + 1)) []

def screeningRun (call : ScreeningCall) (matrix : FeatureMatrix) (snapshot : FeatureSnapshot)
    (ranked : List ScreeningScore) (checksum : String) : ResearchScreeningRun where
  workspaceId := call.workspaceId
  universeVersionId := matrix.universeVersionId
  featureSnapshot := snapshot.checksum
  policyId := call.policy.id
  asOfTime := call.asOfTime
  totalCandidates := ranked.length
  promoted := min 50 ranked.length
  deferred := ranked.length - 50
  demoted := 0
  rejected := 0
  budgetUsage := call.budgets.map fun entry => (entry.1, entry.2.limits)
  reasonDistribution := reasonDistribution ranked
  checksum := checksum

def budgetUsages (call : ScreeningCall) (checksum : String) : List ResearchBudgetUsage :=
  call.budgets.map fun entry =>
    { budgetId := entry.2.id
      screeningRun := checksum
      level := entry.1
      candidateLimit := limitOf entry.2 "candidate_limit"
      costClass := entry.2.costClass
      decision := "accepted" }

def screeningDecision (call : ScreeningCall) (checksum : String) (item : ScreeningScore)
    (rank : Nat) : ResearchScreeningDecision where
  screeningRun := checksum
  entityId := item.entityId
  score := item.score
  scoreComponents := item.components
  recommendation := if levelAt rank ≠ .level0 then "promote" else "defer"
  reasonCodes := item.reasonCodes
  missingInformation := item.missingInformation
  level := levelAt rank
  costClass := ((call.budget (levelAt rank)).map ResearchBudget.costClass).getD "free"

def days (count : Nat) : Instant := count * 86400000000

/-- The state of a ranked entity, given the one that is stored for it. -/
def candidateState (call : ScreeningCall) (snapshot : FeatureSnapshot) (item : ScreeningScore)
    (rank : Nat) : Option ResearchCandidateState -> ResearchCandidateState
  | none =>
      { workspaceId := call.workspaceId
        universeId := call.researchUniverse.id
        entityId := item.entityId
        policyId := call.policy.id
        currentLevel := levelAt rank
        previousLevel := none
        enteredAt := call.asOfTime
        promotionReason :=
          if levelAt rank ≠ .level0 then some (", ".intercalate item.reasonCodes) else none
        demotionReason := none
        supportingSnapshot := snapshot.checksum
        rank := rank + 1
        nextReviewTime := call.asOfTime + days 30 }
  | some state =>
      { state with
        previousLevel := some state.currentLevel
        currentLevel := levelAt rank
        supportingSnapshot := snapshot.checksum }

def ScreeningCall.stateKey (call : ScreeningCall) (entityId : Identifier) :
    Identifier × Identifier × Identifier × Identifier :=
  (call.workspaceId, call.researchUniverse.id, entityId, call.policy.id)

/-- One pass of the loop over the ranking. -/
def writeCandidate (call : ScreeningCall) (snapshot : FeatureSnapshot)
    (states : List ResearchCandidateState) (ranked : ScreeningScore × Nat) :
    List ResearchCandidateState :=
  Tables.put ResearchCandidateState.key
    (candidateState call snapshot ranked.1 ranked.2
      (Tables.lookup ResearchCandidateState.key (call.stateKey ranked.1.entityId) states)) states

def writeCandidates (call : ScreeningCall) (snapshot : FeatureSnapshot)
    (ranked : List ScreeningScore) (states : List ResearchCandidateState) :
    List ResearchCandidateState :=
  ranked.zipIdx.foldl (writeCandidate call snapshot) states

theorem writeCandidates_nodup (call : ScreeningCall) (snapshot : FeatureSnapshot)
    (ranked : List ScreeningScore) {states : List ResearchCandidateState}
    (distinct : (states.map ResearchCandidateState.key).Nodup) :
    ((writeCandidates call snapshot ranked states).map ResearchCandidateState.key).Nodup := by
  unfold writeCandidates
  generalize ranked.zipIdx = pairs
  induction pairs generalizing states with
  | nil => exact distinct
  | cons pair rest ih =>
      exact ih (Tables.nodup_put distinct)

variable (decimal : String -> Option Rat)

def rankMembers (call : ScreeningCall) :
    Except ScreeningError (FeatureMatrix × List ScreeningScore) := do
  let matrix ← (getFeatureMatrixAsOf call.store call.request).mapError ScreeningError.research
  let ranked ← scoreMatrix decimal matrix
  return (matrix, ranked)

def storeRun (call : ScreeningCall) (matrix : FeatureMatrix) (ranked : List ScreeningScore)
    (desk : Desk) : Desk :=
  let (snapshot, snapshots) := createSnapshot digest call matrix desk.snapshots
  let checksum := digest (.screening (rankedPayload call snapshot ranked))
  if checksum ∈ desk.runs.map ResearchScreeningRun.checksum then
    { desk with snapshots := snapshots }
  else
    { snapshots := snapshots
      runs := desk.runs ++ [screeningRun call matrix snapshot ranked checksum]
      usages := desk.usages ++ budgetUsages call checksum
      decisions := desk.decisions ++
        ranked.zipIdx.map fun pair => screeningDecision call checksum pair.1 pair.2
      states := writeCandidates call snapshot ranked desk.states
      states_nodup := writeCandidates_nodup call snapshot ranked desk.states_nodup }

/-- A call that raises leaves the tables as they are. -/
def runScreening (call : ScreeningCall) (desk : Desk) : Except ScreeningError Desk := do
  let (matrix, ranked) ← rankMembers decimal call
  return storeRun digest call matrix ranked desk

end Runs

end Research
end MarketIntelligence
