import MarketIntelligence.EconomicGraph.Types
import MarketIntelligence.Foundations.Expansion
import MarketIntelligence.Foundations.SortedLists
import MarketIntelligence.Foundations.Tables
import Mathlib.Data.List.Lex
import Mathlib.Data.Prod.Lex
import Mathlib.Data.String.Basic

namespace MarketIntelligence
namespace EconomicGraph

open Foundations
open SortedLists

/-!
# The two traversals

The graph around an entity at an instant is read by a search in Python, and by a
recursive query on PostgreSQL.
-/

/-! ## What is visible -/

/-- `_entity_visible` -/
def entityVisible (asOf : Instant) (entity : EconomicEntity) : Bool :=
  entity.simulationEligibleTime ≤ asOf && entity.validFrom ≤ asOf &&
    (match entity.validTo with
      | none => true
      | some validTo => asOf < validTo) &&
    entity.status ∈ [.verified, .disputed]

/-- `_relationship_visible` -/
def relationshipVisible (asOf : Instant) (relationship : EconomicRelationship) : Bool :=
  relationship.simulationEligibleTime ≤ asOf && relationship.validFrom ≤ asOf &&
    (match relationship.validTo with
      | none => true
      | some validTo => asOf < validTo) &&
    relationship.status ∈ [.verified, .disputed]

structure GraphQuery where
  workspaceId : Identifier
  startEntityId : Identifier
  asOf : Instant
  maxDepth : Int
  maxNodes : Int
  timeoutMs : Int
  predicates : Option (List String)
  deriving DecidableEq, Repr

def visibleEntity (graph : Graph) (query : GraphQuery) (entityId : Identifier) :
    Option EconomicEntity :=
  graph.entities.find? fun entity =>
    entity.id = entityId && entity.workspaceId = query.workspaceId &&
      entityVisible query.asOf entity

/-- The end of a relationship that is not the entity. -/
def EconomicRelationship.otherEnd (relationship : EconomicRelationship) (entityId : Identifier) :
    Identifier :=
  if relationship.subjectEntityId = entityId then relationship.objectEntityId
  else relationship.subjectEntityId

/-! ## Walks -/

/-- An item of the queue, and a row of `graph_walk`: an entity with the path that has led to it,
which does not visit an entity twice. -/
structure Walk where
  entityId : Identifier
  depth : Nat
  entityPath : List Identifier
  relationshipPath : List Identifier
  deriving DecidableEq, Repr

def Walk.begins (entityId : Identifier) : Walk := ⟨entityId, 0, [entityId], []⟩

def Walk.extend (walk : Walk) (relationship : EconomicRelationship) : Walk where
  entityId := relationship.otherEnd walk.entityId
  depth := walk.depth + 1
  entityPath := walk.entityPath ++ [relationship.otherEnd walk.entityId]
  relationshipPath := walk.relationshipPath ++ [relationship.id]

/-! ## The search -/

structure GraphPath where
  entityIds : List Identifier
  relationshipIds : List Identifier
  depth : Nat
  deriving DecidableEq, Repr

def Walk.path (walk : Walk) : GraphPath :=
  ⟨walk.entityPath, walk.relationshipPath, walk.depth⟩

inductive GraphError where
  | value (message : String)
  | lookup (message : String)
  | limit (message : String)
  | runtime (message : String)
  deriving DecidableEq, Repr

/-- The variables of the loop: `turns` counts the readings of the clock. -/
structure Findings where
  turns : Nat
  entities : List EconomicEntity
  relationships : List EconomicRelationship
  paths : List GraphPath
  deriving DecidableEq, Repr

/-- The `edge_query` of an entity. -/
def edgesOf (graph : Graph) (query : GraphQuery) (entityId : Identifier) :
    List EconomicRelationship :=
  sortedBy (fun edge => toLex (edge.predicate, toLex (edge.subjectEntityId,
      toLex (edge.objectEntityId, edge.id))))
    (graph.relationships.filter fun edge =>
      edge.workspaceId = query.workspaceId &&
        (edge.subjectEntityId = entityId || edge.objectEntityId = entityId) &&
        relationshipVisible query.asOf edge &&
        (match query.predicates with
          | none => true
          | some predicates => predicates.isEmpty || edge.predicate ∈ predicates))

/-- The body of `for edge in edges`, with the items it has put into the queue. -/
def followEdge (graph : Graph) (query : GraphQuery) (walk : Walk) :
    Findings × List Walk -> EconomicRelationship -> Except GraphError (Findings × List Walk)
  | (found, items), edge =>
      let nextId := edge.otherEnd walk.entityId
      if nextId ∈ walk.entityPath then .ok (found, items)
      else
        match visibleEntity graph query nextId with
        | none => .ok (found, items)
        | some nextEntity =>
            if (Tables.lookup EconomicEntity.id nextId found.entities).isNone ∧
                query.maxNodes ≤ found.entities.length then
              .error (.limit "graph traversal exceeded node limit")
            else
              let next := walk.extend edge
              .ok ({ found with
                      entities := Tables.put EconomicEntity.id nextEntity found.entities
                      relationships :=
                        Tables.put EconomicRelationship.id edge found.relationships
                      paths := found.paths ++ [next.path] },
                items ++ [next])

/-- The body of `while queue`.  The clock gives the milliseconds since the start at
each of its readings. -/
def expandWalk (graph : Graph) (query : GraphQuery) (clock : Nat -> Rat) (found : Findings)
    (walk : Walk) : Except GraphError (Findings × List Walk) :=
  if query.timeoutMs < clock found.turns then
    .error (.limit "graph traversal exceeded timeout")
  else
    let found := { found with turns := found.turns + 1 }
    if query.maxDepth ≤ walk.depth then .ok (found, [])
    else (edgesOf graph query walk.entityId).foldlM (followEdge graph query walk) (found, [])

structure EntityView where
  id : Identifier
  entityType : String
  canonicalName : String
  status : GraphStatus
  validFrom : Instant
  validTo : Option Instant
  simulationEligibleTime : Instant
  confidence : Rat
  deriving DecidableEq, Repr

structure RelationshipView where
  id : Identifier
  subjectEntityId : Identifier
  predicate : String
  objectEntityId : Identifier
  status : GraphStatus
  validFrom : Instant
  validTo : Option Instant
  simulationEligibleTime : Instant
  confidence : Rat
  deriving DecidableEq, Repr

/-- `_serialize_entity` -/
def serializeEntity (item : EconomicEntity) : EntityView :=
  ⟨item.id, item.entityType, item.canonicalName, item.status, item.validFrom, item.validTo,
    item.simulationEligibleTime, item.confidence⟩

/-- `_serialize_relationship` -/
def serializeRelationship (item : EconomicRelationship) : RelationshipView :=
  ⟨item.id, item.subjectEntityId, item.predicate, item.objectEntityId, item.status,
    item.validFrom, item.validTo, item.simulationEligibleTime, item.confidence⟩

structure Neighborhood where
  asOf : Instant
  maxDepth : Int
  maxNodes : Int
  nodes : List EntityView
  relationships : List RelationshipView
  paths : List GraphPath
  truncated : Bool
  deriving DecidableEq, Repr

/-- The answer, with `_entity_key` and `_relationship_key`. -/
def neighborhood (casefold : String -> String) (query : GraphQuery) (found : Findings) :
    Neighborhood where
  asOf := query.asOf
  maxDepth := query.maxDepth
  maxNodes := query.maxNodes
  nodes := (sortedBy (fun item : EconomicEntity =>
    toLex (item.entityType, toLex (casefold item.canonicalName, item.id)))
      found.entities).map serializeEntity
  relationships := (sortedBy (fun item : EconomicRelationship =>
    toLex (item.predicate, toLex (item.subjectEntityId, toLex (item.objectEntityId, item.id))))
      found.relationships).map serializeRelationship
  paths := sortedBy (fun path : GraphPath => toLex (path.depth, path.entityIds)) found.paths
  truncated := false

/-- A bound on the number of items that the queue can ever hold. -/
def turnLimit (graph : Graph) (query : GraphQuery) : Nat :=
  Expansion.treeSize graph.relationships.length query.maxDepth.toNat

/-- `bounded_graph_as_of`; `none` would be a search that does not end. -/
def boundedGraphAsOf (casefold : String -> String) (clock : Nat -> Rat) (graph : Graph)
    (query : GraphQuery) : Option (Except GraphError Neighborhood) :=
  if ¬ (1 ≤ query.maxDepth ∧ query.maxDepth ≤ 5) then
    some (.error (.value "max_depth must be between 1 and 5"))
  else if ¬ (1 ≤ query.maxNodes ∧ query.maxNodes ≤ 500) then
    some (.error (.value "max_nodes must be between 1 and 500"))
  else if ¬ (10 ≤ query.timeoutMs ∧ query.timeoutMs ≤ 5000) then
    some (.error (.value "timeout_ms must be between 10 and 5000"))
  else
    match visibleEntity graph query query.startEntityId with
    | none => some (.error (.lookup "start entity is not visible at the requested time"))
    | some start =>
        (Expansion.search (expandWalk graph query clock) (turnLimit graph query)
          ⟨0, [start], [], []⟩ [Walk.begins start.id]).map (Except.map (neighborhood casefold query))

/-! ## The recursive query -/

/-- The recursive term of `graph_walk` for one row of the working table. -/
def walkTerm (graph : Graph) (query : GraphQuery) (walk : Walk) : List Walk :=
  if walk.depth < query.maxDepth then
    (graph.relationships.filter fun relationship =>
      relationship.workspaceId = query.workspaceId &&
        (relationship.subjectEntityId = walk.entityId ||
          relationship.objectEntityId = walk.entityId) &&
        relationship.status ∈ [.verified, .disputed] &&
        relationship.simulationEligibleTime ≤ query.asOf &&
        relationship.validFrom ≤ query.asOf &&
        (match relationship.validTo with
          | none => true
          | some validTo => query.asOf < validTo) &&
        relationship.otherEnd walk.entityId ∉ walk.entityPath).map walk.extend
  else []

/-- The rows of `graph_walk`. -/
def graphWalk (graph : Graph) (query : GraphQuery) : Option (List Walk) :=
  Expansion.recursive (walkTerm graph query) (query.maxDepth.toNat + 1)
    [Walk.begins query.startEntityId]

/-- `postgres_recursive_neighborhood`; `none` would be a query that does not end. -/
def postgresRecursiveNeighborhood (dialectName : Option String) (graph : Graph)
    (query : GraphQuery) : Option (Except GraphError (List Walk)) :=
  if dialectName ≠ some "postgresql" then
    some (.error (.runtime "recursive CTE plan is PostgreSQL-only"))
  else if query.maxNodes < 0 then some (.error (.runtime "LIMIT must not be negative"))
  else
    (graphWalk graph query).map fun rows =>
      .ok ((sortedBy (fun row : Walk => toLex (row.depth, row.entityPath)) rows).take
        query.maxNodes.toNat)

end EconomicGraph
end MarketIntelligence
