import MarketIntelligence.EconomicGraph.Traversal
import MarketIntelligence.Foundations.Runs

namespace MarketIntelligence
namespace EconomicGraph

open Foundations
open SortedLists

/-!
# Relationships created and expired

The operations of the service on relationships.  An exception rolls the session back, so
that an operation either raises or returns with the rows it has flushed.
-/

/-! ## Confidence -/

inductive ServiceError where
  | value (message : String)
  | components (missing extra : List String)
  | integrity (constraint : String)
  deriving DecidableEq, Repr

def confidenceFormulaVersion : String := "graph-confidence-v1"

/-- `CONFIDENCE_WEIGHTS` -/
def confidenceWeights : List (String × Rat) :=
  [("source_reliability", 20 / 100), ("identifier_confidence", 20 / 100),
   ("temporal_validity", 15 / 100), ("evidence_agreement", 15 / 100),
   ("extraction_confidence", 10 / 100), ("relationship_specificity", 10 / 100),
   ("recency", 10 / 100)]

/-- The nearest integer, with ties away from zero. -/
def halfUp (value : Rat) : Int :=
  if 0 ≤ value then ⌊value + 1 / 2⌋ else ⌈value - 1 / 2⌉

/-- The components are a dictionary in its order. -/
def aggregateConfidence (components : List (String × Rat)) : Except ServiceError Rat :=
  let missing := (confidenceWeights.map Prod.fst).filter (· ∉ components.map Prod.fst)
  let extra := (components.map Prod.fst).filter (· ∉ confidenceWeights.map Prod.fst)
  if missing ≠ [] ∨ extra ≠ [] then
    .error (.components (sortedBy id missing) (sortedBy id extra))
  else
    match components.find? fun component => component.2 < 0 || 1 < component.2 with
    | some component =>
        .error (.value ("confidence component " ++ component.1 ++ " must be between 0 and 1"))
    | none =>
        let score := (confidenceWeights.map fun weight =>
          ((components.lookup weight.1).getD 0) * weight.2).sum
        .ok (halfUp (score * 100000) / 100000)

/-! ## Operations -/

/-- `RELATIONSHIP_TYPES` -/
def relationshipTypes : List String :=
  ["OWNS", "OPERATES", "HAS_SECURITY", "HAS_SEGMENT", "PRODUCES", "USES", "SUPPLIES",
   "BUYS_FROM", "SELLS_TO", "COMPETES_WITH", "LOCATED_IN", "EXPOSED_TO", "DEPENDS_ON",
   "REGULATED_BY", "CONSUMES", "SHIPS_THROUGH", "USES_TECHNOLOGY", "AFFECTED_BY",
   "TRACKED_BY_SERIES"]

/-- A text of `VALID_RELATIONSHIP_STATUSES`. -/
def readStatus : String -> Option GraphStatus
  | "candidate" => some .candidate
  | "verified" => some .verified
  | "disputed" => some .disputed
  | "expired" => some .expired
  | "rejected" => some .rejected
  | _ => none

structure EvidenceRecord where
  id : Identifier
  simulationEligibleTime : Instant
  deriving DecidableEq, Repr

/-- An item of the argument `evidence`. -/
structure EvidenceItem where
  record : EvidenceRecord
  direction : String
  weight : Rat
  deriving DecidableEq, Repr

/-- The arguments of `create_relationship`, with the identifier that is drawn for the row. -/
structure RelationshipRequest where
  newId : Identifier
  subject : EconomicEntity
  predicate : String
  objectEntity : EconomicEntity
  validFrom : Instant
  simulationEligibleTime : Instant
  method : String
  methodVersion : String
  components : List (String × Rat)
  evidence : List EvidenceItem
  status : String
  strength : Option Rat
  validTo : Option Instant
  deriving DecidableEq, Repr

def RelationshipRequest.supporting (request : RelationshipRequest) : List EvidenceItem :=
  request.evidence.filter fun item => item.direction = "supporting"

/-- `evidence_floor` -/
def RelationshipRequest.evidenceFloor (request : RelationshipRequest) : Instant :=
  match request.supporting with
  | [] => request.simulationEligibleTime
  | first :: rest =>
      rest.foldl (fun latest item => max latest item.record.simulationEligibleTime)
        first.record.simulationEligibleTime

/-- The constraints of the table that an insertion can break. -/
def checkRelationship (graph : Graph) (item : EconomicRelationship) : Except ServiceError PUnit :=
  if graph.relationships.any (·.id = item.id) then .error (.integrity "pk_economic_relationships")
  else if item.strength.any fun strength => strength < 0 || 1 < strength then
    .error (.integrity "economic_relationship_strength_range")
  else if item.validTo.any fun validTo => validTo ≤ item.validFrom then
    .error (.integrity "economic_relationship_valid_range")
  else .ok ⟨⟩

def checkEvidence (links : List RelationshipEvidence) : Except ServiceError PUnit :=
  if ¬ (links.map fun link => (link.evidenceId, link.direction)).Nodup then
    .error (.integrity "uq_relationship_evidence_link")
  else if links.any fun link => link.weight < 0 || 1 < link.weight then
    .error (.integrity "relationship_evidence_weight_range")
  else .ok ⟨⟩

def RelationshipRequest.row (request : RelationshipRequest) (confidence : Rat)
    (status : GraphStatus) : EconomicRelationship where
  id := request.newId
  workspaceId := request.subject.workspaceId
  subjectEntityId := request.subject.id
  predicate := request.predicate
  objectEntityId := request.objectEntity.id
  confidence := confidence
  strength := request.strength
  validFrom := request.validFrom
  validTo := request.validTo
  discoveredAt := request.simulationEligibleTime
  lastVerifiedAt := request.simulationEligibleTime
  simulationEligibleTime := request.simulationEligibleTime
  method := request.method
  methodVersion := request.methodVersion
  status := status

/-- The row and what is written beside it. -/
def insertRelationship (graph : Graph) (request : RelationshipRequest)
    (item : EconomicRelationship) : Except ServiceError (EconomicRelationship × Bool × Graph) := do
  checkRelationship graph item
  if request.evidence.any fun entry => entry.direction ∉ ["supporting", "contradicting"] then
    throw (.value "evidence direction must be supporting or contradicting")
  else
    let links := request.evidence.map fun entry =>
      (⟨item.id, entry.record.id, entry.direction, entry.weight⟩ : RelationshipEvidence)
    checkEvidence links
    return (item, true,
      { graph with
        relationships := graph.relationships ++ [item]
        components := graph.components ++ request.components.map fun component =>
          ⟨item.id, confidenceFormulaVersion, component.1, component.2⟩
        evidence := graph.evidence ++ links })

def createRelationship (graph : Graph) (request : RelationshipRequest) :
    Except ServiceError (EconomicRelationship × Bool × Graph) :=
  if request.subject.workspaceId ≠ request.objectEntity.workspaceId then
    .error (.value "cross-workspace relationships are forbidden")
  else if request.subject.id = request.objectEntity.id then
    .error (.value "self relationships are forbidden")
  else if request.predicate ∉ relationshipTypes then
    .error (.value ("unsupported relationship type: " ++ request.predicate))
  else
    match readStatus request.status with
    | none => .error (.value ("unsupported relationship status: " ++ request.status))
    | some status =>
        if status = .verified ∧ request.supporting = [] then
          .error (.value "verified relationships require supporting evidence")
        else if request.simulationEligibleTime < request.evidenceFloor then
          .error (.value "relationship eligibility cannot precede supporting evidence")
        else do
          let confidence ← aggregateConfidence request.components
          match graph.relationships.find? fun row =>
              row.workspaceId = request.subject.workspaceId &&
                row.subjectEntityId = request.subject.id &&
                row.predicate = request.predicate &&
                row.objectEntityId = request.objectEntity.id &&
                row.validFrom = request.validFrom with
          | some existing => return (existing, false, graph)
          | none => insertRelationship graph request (request.row confidence status)

/-- The row is changed in place. -/
def expireRelationship (relationship : EconomicRelationship) (validTo : Instant) :
    Except ServiceError EconomicRelationship :=
  if validTo ≤ relationship.validFrom then
    .error (.value "relationship expiry must follow valid_from")
  else .ok { relationship with validTo := some validTo, status := .expired }

inductive GraphOperation where
  | create (request : RelationshipRequest)
  | expire (relationshipId : Identifier) (validTo : Instant)
  deriving DecidableEq, Repr

/-- An operation in a session of its own. -/
def operate (graph : Graph) : GraphOperation -> Graph
  | .create request =>
      match createRelationship graph request with
      | .ok (_, _, written) => written
      | .error _ => graph
  | .expire relationshipId validTo =>
      match Tables.lookup EconomicRelationship.id relationshipId graph.relationships with
      | none => graph
      | some relationship =>
          match expireRelationship relationship validTo with
          | .ok expired =>
              { graph with
                relationships :=
                  Tables.put EconomicRelationship.id expired graph.relationships }
          | .error _ => graph

/-! ## What an operation does to the rows -/

section Writes

variable {graph after : Graph}

/-- A creation finds the row there, or adds one that begins and is eligible when the
request says. -/
theorem createRelationship_ok {request : RelationshipRequest} {item : EconomicRelationship}
    {created : Bool}
    (done : createRelationship graph request = .ok (item, created, after)) :
    after = graph ∨
      (after.entities = graph.entities ∧ after.relationships = graph.relationships ++ [item] ∧
        item.validFrom = request.validFrom) := by
  unfold createRelationship at done
  split at done
  · cases done
  split at done
  · cases done
  split at done
  · cases done
  cases parsed : readStatus request.status with
  | none =>
      rw [parsed] at done
      cases done
  | some status =>
      rw [parsed] at done
      dsimp only at done
      split at done
      · cases done
      split at done
      · cases done
      cases aggregated : aggregateConfidence request.components with
      | error raised =>
          rw [aggregated] at done
          cases done
      | ok confidence =>
          rw [aggregated] at done
          dsimp only [bind, Except.bind] at done
          split at done
          · cases done
            exact Or.inl rfl
          · refine Or.inr ?_
            unfold insertRelationship at done
            cases checked : checkRelationship graph (request.row confidence status) with
            | error raised =>
                rw [checked] at done
                cases done
            | ok passed =>
                rw [checked] at done
                dsimp only [bind, Except.bind] at done
                split at done
                · cases done
                · split at done
                  · cases done
                  · cases done
                    exact ⟨rfl, rfl, rfl⟩

end Writes

end EconomicGraph
end MarketIntelligence
