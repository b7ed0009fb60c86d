import MarketIntelligence.EconomicGraph.Service
import MarketIntelligence.Foundations.Tables

namespace MarketIntelligence
namespace EconomicGraph

open Foundations

/-!
# Identifiers and their resolution

An identifier belongs to an entity when it is attached, or when a candidate for it is
confirmed.  An operation returns what it returns or raises, and leaves the registry that
its session then holds.  A row that a constraint refuses rolls the session back.

Case mapping and the classes of characters are parameters.
-/

/-! ## Normalized values -/

structure PythonText where
  isSpace : Char -> Bool
  isDigit : Char -> Bool
  casefold : String -> String
  upper : String -> String

/-- `IDENTIFIER_NAMESPACES` -/
def identifierNamespaces : List String :=
  ["asset_id", "ticker", "exchange", "cik", "lei", "figi", "iso_country", "region", "fips",
   "provider_series", "facility_source_id"]

section Normalization

variable (text : PythonText)

def PythonText.strip (value : List Char) : List Char :=
  ((value.dropWhile text.isSpace).reverse.dropWhile text.isSpace).reverse

/-- `value.removeprefix(start)` -/
def removePrefix (start value : List Char) : List Char :=
  if start.isPrefixOf value then value.drop start.length else value

/-- `value.zfill(width)` of a value that has no sign. -/
def zfill (width : Nat) (value : List Char) : List Char :=
  List.replicate (width - value.length) '0' ++ value

def normalizeIdentifier (space value : String) : Except ServiceError String :=
  if space ∉ identifierNamespaces then
    .error (.value s!"unsupported identifier namespace: {space}")
  else
    let cleaned := text.strip value.toList
    if cleaned = [] then .error (.value "identifier value is required")
    else if space = "cik" then
      let digits := (removePrefix "CIK".toList cleaned).filter (· ≠ '-')
      if digits = [] ∨ digits.all text.isDigit = false ∨ 10 < digits.length then
        .error (.value "CIK must contain at most ten digits")
      else .ok (String.ofList (zfill 10 digits))
    else if space ∈ ["ticker", "exchange", "lei", "figi", "iso_country", "fips"] then
      .ok (text.upper (String.ofList (cleaned.filter fun char => !text.isSpace char)))
    else if space = "provider_series" then
      let provider := cleaned.takeWhile (· ≠ ':')
      let seriesId := (cleaned.dropWhile (· ≠ ':')).drop 1
      if ':' ∉ cleaned ∨ provider = [] ∨ seriesId = [] then
        .error (.value "provider_series identifiers use provider:series-id")
      else
        .ok (text.casefold (String.ofList provider) ++ ":" ++
          String.ofList (text.strip seriesId))
    else .ok (text.casefold (String.ofList cleaned))

end Normalization

/-! ## Rows -/

/-- A workspace, a namespace and a normalized value. -/
structure NameKey where
  workspaceId : Identifier
  space : String
  normalizedValue : String
  deriving DecidableEq, Repr

structure EntityIdentifier where
  name : NameKey
  entityId : Identifier
  value : String
  mappingMethod : String
  confidence : Rat
  source : String
  evidenceReference : Option String
  resolverVersion : String
  resolvedAt : Instant
  validFrom : Instant
  validTo : Option Instant
  simulationEligibleTime : Instant
  deriving DecidableEq, Repr

inductive ResolutionStatus where
  | candidate
  | confirmed
  | rejected
  | ambiguous
  deriving DecidableEq, Repr

/-- What a candidate maps, and to which entity.  No two candidates have the same, which the
unique constraint sees to. -/
structure CandidateKey where
  name : NameKey
  candidateEntityId : Identifier
  deriving DecidableEq, Repr

structure EntityResolutionCandidate where
  key : CandidateKey
  value : String
  method : String
  confidence : Rat
  source : String
  conflictsWithEntityId : Option Identifier
  resolverVersion : String
  status : ResolutionStatus
  resolvedAt : Instant
  validFrom : Instant
  validTo : Option Instant
  simulationEligibleTime : Instant
  deriving DecidableEq, Repr

inductive FinalDecision where
  | confirmed
  | rejected
  deriving DecidableEq, Repr

def FinalDecision.status : FinalDecision -> ResolutionStatus
  | confirmed => .confirmed
  | rejected => .rejected

def readDecision : String -> Option FinalDecision
  | "confirmed" => some .confirmed
  | "rejected" => some .rejected
  | _ => none

structure EntityResolutionDecision where
  candidate : CandidateKey
  decision : FinalDecision
  reason : String
  decidedByUserId : Identifier
  deriving DecidableEq, Repr

structure GraphQualityIssue where
  name : NameKey
  issueType : String
  entityId : Identifier
  deriving DecidableEq, Repr

/-- The tables of the operations, and the users that a decision may refer to. -/
structure Registry where
  identifiers : List EntityIdentifier
  candidates : List EntityResolutionCandidate
  decisions : List EntityResolutionDecision
  issues : List GraphQualityIssue
  users : List Identifier

/-! ## Operations -/

structure IdentifierRequest where
  entity : EconomicEntity
  space : String
  value : String
  method : String
  confidence : Rat
  source : String
  resolverVersion : String
  resolvedAt : Instant
  validFrom : Instant
  simulationEligibleTime : Instant
  evidenceReference : Option String
  deriving DecidableEq, Repr

def IdentifierRequest.name (request : IdentifierRequest) (normalized : String) : NameKey :=
  ⟨request.entity.workspaceId, request.space, normalized⟩

def IdentifierRequest.identifier (request : IdentifierRequest) (normalized : String) :
    EntityIdentifier where
  name := request.name normalized
  entityId := request.entity.id
  value := request.value
  mappingMethod := request.method
  confidence := request.confidence
  source := request.source
  evidenceReference := request.evidenceReference
  resolverVersion := request.resolverVersion
  resolvedAt := request.resolvedAt
  validFrom := request.validFrom
  validTo := none
  simulationEligibleTime := request.simulationEligibleTime

def IdentifierRequest.candidate (request : IdentifierRequest) (normalized : String)
    (status : ResolutionStatus) (conflict : Option Identifier) : EntityResolutionCandidate where
  key := ⟨request.name normalized, request.entity.id⟩
  value := request.value
  method := request.method
  confidence := request.confidence
  source := request.source
  conflictsWithEntityId := conflict
  resolverVersion := request.resolverVersion
  status := status
  resolvedAt := request.resolvedAt
  validFrom := request.validFrom
  validTo := none
  simulationEligibleTime := request.simulationEligibleTime

/-- The check constraint on confidences. -/
def inRange (confidence : Rat) : Bool :=
  0 ≤ confidence && confidence ≤ 1

section Operations

variable (text : PythonText)

def createResolutionCandidate (request : IdentifierRequest) (status : ResolutionStatus)
    (conflict : Option Identifier) (registry : Registry) :
    Except ServiceError EntityResolutionCandidate × Registry :=
  match normalizeIdentifier text request.space request.value with
  | .error raised => (.error raised, registry)
  | .ok normalized =>
      match Tables.lookup EntityResolutionCandidate.key
          ⟨request.name normalized, request.entity.id⟩ registry.candidates with
      | some existing => (.ok existing, registry)
      | none =>
          if inRange request.confidence then
            let item := request.candidate normalized status conflict
            (.ok item, { registry with candidates := registry.candidates ++ [item] })
          else (.error (.integrity "confidence_range"), registry)

/-- The identifier, or the candidate that a conflict leaves. -/
def attachIdentifier (request : IdentifierRequest) (registry : Registry) :
    Except ServiceError (EntityIdentifier ⊕ EntityResolutionCandidate) × Registry :=
  match normalizeIdentifier text request.space request.value with
  | .error raised => (.error raised, registry)
  | .ok normalized =>
      match Tables.lookup EntityIdentifier.name (request.name normalized)
          registry.identifiers with
      | some existing =>
          if existing.entityId = request.entity.id then (.ok (.inl existing), registry)
          else
            match createResolutionCandidate text request .ambiguous (some existing.entityId)
                registry with
            | (.error raised, left) => (.error raised, left)
            | (.ok candidate, left) =>
                (.ok (.inr candidate),
                  { left with
                    issues := left.issues ++
                      [{ name := request.name normalized
                         issueType := "ambiguous_identifier"
                         entityId := request.entity.id }] })
      | none =>
          if inRange request.confidence then
            let item := request.identifier normalized
            (.ok (.inl item), { registry with identifiers := registry.identifiers ++ [item] })
          else (.error (.integrity "entity_identifier_confidence_range"), registry)

structure DecisionRequest where
  candidate : CandidateKey
  decision : String
  reason : String
  userId : Identifier
  now : Instant
  deriving DecidableEq, Repr

/-- The identifier of a candidate that is confirmed. -/
def EntityResolutionCandidate.identifier (candidate : EntityResolutionCandidate)
    (now : Instant) : EntityIdentifier where
  name := candidate.key.name
  entityId := candidate.key.candidateEntityId
  value := candidate.value
  mappingMethod := "manual_confirmation"
  confidence := candidate.confidence
  source := candidate.source
  evidenceReference := none
  resolverVersion := candidate.resolverVersion
  resolvedAt := now
  validFrom := candidate.validFrom
  validTo := candidate.validTo
  simulationEligibleTime := candidate.simulationEligibleTime

/-- The identifiers once a decision is taken. -/
def decidedIdentifiers (candidate : EntityResolutionCandidate) (decision : FinalDecision)
    (now : Instant) (identifiers : List EntityIdentifier) :
    Except ServiceError (List EntityIdentifier) :=
  match decision with
  | .rejected => .ok identifiers
  | .confirmed =>
      match Tables.lookup EntityIdentifier.name candidate.key.name identifiers with
      | some conflict =>
          if conflict.entityId ≠ candidate.key.candidateEntityId then
            .error (.value
              "identifier remains mapped to a different entity; resolve conflict first")
          else .ok identifiers
      | none => .ok (identifiers ++ [candidate.identifier now])

/-- The rows of a decision.  Its user has to exist when they are flushed. -/
def storeDecision (candidate : EntityResolutionCandidate) (request : DecisionRequest)
    (decision : FinalDecision) (identifiers : List EntityIdentifier) (registry : Registry) :
    Except ServiceError EntityResolutionDecision × Registry :=
  if request.userId ∈ registry.users then
    let item : EntityResolutionDecision :=
      { candidate := candidate.key
        decision := decision
        reason := request.reason
        decidedByUserId := request.userId }
    (.ok item,
      { registry with
        identifiers := identifiers
        candidates := Tables.put EntityResolutionCandidate.key
          { candidate with status := decision.status } registry.candidates
        decisions := registry.decisions ++ [item] })
  else (.error (.integrity "entity_resolution_decisions_decided_by_user_id_fkey"), registry)

def decideResolution (candidate : EntityResolutionCandidate) (request : DecisionRequest)
    (registry : Registry) : Except ServiceError EntityResolutionDecision × Registry :=
  match readDecision request.decision with
  | none =>
      (.error (.value "resolution decision must be confirmed or rejected"), registry)
  | some decision =>
      if candidate.status = .confirmed ∨ candidate.status = .rejected then
        match Tables.lookup EntityResolutionDecision.candidate candidate.key
            registry.decisions with
        | some existing =>
            if existing.decision ≠ decision then
              (.error (.value "resolution candidate already has a different final decision"),
                registry)
            else (.ok existing, registry)
        | none =>
            (.error (.value "resolution candidate already has a different final decision"),
              registry)
      else
        match decidedIdentifiers candidate decision request.now registry.identifiers with
        | .error raised => (.error raised, registry)
        | .ok identifiers => storeDecision candidate request decision identifiers registry

inductive ResolutionOperation where
  | attach (request : IdentifierRequest)
  | propose (request : IdentifierRequest) (status : ResolutionStatus)
      (conflict : Option Identifier)
  | decide (request : DecisionRequest)

/-- A decision is taken on a stored candidate. -/
def Registry.step (registry : Registry) : ResolutionOperation -> Registry
  | .attach request => (attachIdentifier text request registry).2
  | .propose request status conflict =>
      (createResolutionCandidate text request status conflict registry).2
  | .decide request =>
      (Tables.lookup EntityResolutionCandidate.key request.candidate registry.candidates).elim
        registry fun candidate => (decideResolution candidate request registry).2

end Operations

def Registry.empty (users : List Identifier) : Registry where
  identifiers := []
  candidates := []
  decisions := []
  issues := []
  users := users

end EconomicGraph
end MarketIntelligence
