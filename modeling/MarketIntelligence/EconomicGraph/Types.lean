import MarketIntelligence.Core.Values

namespace MarketIntelligence
namespace EconomicGraph

/-!
# Entities and relationships

The rows of the graph, and what the service writes beside them.  Text that no function
below reads is left out.
-/

/-- The statuses that the check constraints permit. -/
inductive GraphStatus where
  | candidate
  | verified
  | disputed
  | expired
  | rejected
  deriving DecidableEq, Repr

structure EconomicEntity where
  id : Identifier
  workspaceId : Identifier
  entityType : String
  canonicalName : String
  status : GraphStatus
  validFrom : Instant
  validTo : Option Instant
  simulationEligibleTime : Instant
  confidence : Rat
  deriving DecidableEq, Repr

structure EconomicRelationship where
  id : Identifier
  workspaceId : Identifier
  subjectEntityId : Identifier
  predicate : String
  objectEntityId : Identifier
  confidence : Rat
  strength : Option Rat
  validFrom : Instant
  validTo : Option Instant
  discoveredAt : Instant
  lastVerifiedAt : Instant
  simulationEligibleTime : Instant
  method : String
  methodVersion : String
  status : GraphStatus
  deriving DecidableEq, Repr

structure RelationshipConfidenceComponent where
  relationshipId : Identifier
  formulaVersion : String
  component : String
  value : Rat
  deriving DecidableEq, Repr

structure RelationshipEvidence where
  relationshipId : Identifier
  evidenceId : Identifier
  direction : String
  weight : Rat
  deriving DecidableEq, Repr

structure Graph where
  entities : List EconomicEntity
  relationships : List EconomicRelationship
  components : List RelationshipConfidenceComponent
  evidence : List RelationshipEvidence
  deriving DecidableEq, Repr

end EconomicGraph
end MarketIntelligence
