import MarketIntelligence.EconomicGraph.Traversal

namespace MarketIntelligence
namespace EconomicGraph

open Foundations
open SortedLists
open Expansion

/-!
# The two traversals compared

Both extend walks by visible relationships that lead to entities the walk has not met.
The search looks at the next entity as well and goes only into visible ones; the
recursive query does not look at entities.  The two give the same paths exactly when
every entity that the visible relationships lead to is visible.
-/

/-! ## One extension of a walk -/

section Steps

variable (graph : Graph) (query : GraphQuery)

/-- What the search puts into the queue for one edge. -/
def nextWalk (walk : Walk) (edge : EconomicRelationship) : Option Walk :=
  if edge.otherEnd walk.entityId ∈ walk.entityPath then none
  else (visibleEntity graph query (edge.otherEnd walk.entityId)).map fun _ => walk.extend edge

def searchTerm (walk : Walk) : List Walk :=
  if query.maxDepth ≤ walk.depth then []
  else (edgesOf graph query walk.entityId).filterMap (nextWalk graph query walk)

/-- A visible relationship of the workspace leads from one entity to the other. -/
def Joins (entityId otherId : Identifier) : Prop :=
  exists edge, edge ∈ graph.relationships ∧ edge.workspaceId = query.workspaceId ∧
    (edge.subjectEntityId = entityId ∨ edge.objectEntityId = entityId) ∧
    relationshipVisible query.asOf edge = true ∧ otherId = edge.otherEnd entityId

variable {graph query}

theorem followEdges_ok {walk : Walk} {edges : List EconomicRelationship}
    {found next : Findings} {items further : List Walk}
    (followed : edges.foldlM (followEdge graph query walk) (found, items) = .ok (next, further)) :
    further = items ++ edges.filterMap (nextWalk graph query walk) ∧
      next.paths = found.paths ++ (edges.filterMap (nextWalk graph query walk)).map Walk.path := by
  induction edges generalizing found items with
  | nil =>
      cases followed
      simp
  | cons edge rest ih =>
      rw [List.foldlM_cons] at followed
      by_cases met : edge.otherEnd walk.entityId ∈ walk.entityPath
      · have skipped : followEdge graph query walk (found, items) edge = .ok (found, items) := by
          simp only [followEdge, if_pos met]
        have dropped : nextWalk graph query walk edge = none := if_pos met
        rw [skipped] at followed
        rw [List.filterMap_cons_none dropped]
        exact ih followed
      · cases seen : visibleEntity graph query (edge.otherEnd walk.entityId) with
        | none =>
            have skipped : followEdge graph query walk (found, items) edge =
                .ok (found, items) := by
              simp only [followEdge, if_neg met, seen]
            have dropped : nextWalk graph query walk edge = none := by
              simp only [nextWalk, if_neg met, seen, Option.map_none]
            rw [skipped] at followed
            rw [List.filterMap_cons_none dropped]
            exact ih followed
        | some entity =>
            have kept : nextWalk graph query walk edge = some (walk.extend edge) := by
              simp only [nextWalk, if_neg met, seen, Option.map_some]
            rw [List.filterMap_cons_some kept]
            simp only [followEdge, if_neg met, seen] at followed
            split at followed
            · cases followed
            · rcases ih followed with ⟨queued, recorded⟩
              rw [queued, recorded]
              simp

theorem expandWalk_ok {clock : Nat -> Rat} {found next : Findings} {walk : Walk}
    {items : List Walk}
    (expanded : expandWalk graph query clock found walk = .ok (next, items)) :
    items = searchTerm graph query walk ∧
      next.paths = found.paths ++ (searchTerm graph query walk).map Walk.path := by
  simp only [expandWalk] at expanded
  split at expanded
  · cases expanded
  · by_cases deep : query.maxDepth ≤ walk.depth
    · rw [if_pos deep] at expanded
      cases expanded
      simp only [searchTerm, if_pos deep, List.map_nil, List.append_nil, and_self]
    · rw [if_neg deep] at expanded
      rcases followEdges_ok expanded with ⟨queued, recorded⟩
      simp only [searchTerm, if_neg deep]
      exact ⟨queued, recorded⟩

theorem mem_walkTerm {walk next : Walk} :
    next ∈ walkTerm graph query walk <->
      walk.depth < query.maxDepth ∧
        exists edge, edge ∈ graph.relationships ∧ edge.workspaceId = query.workspaceId ∧
          (edge.subjectEntityId = walk.entityId ∨ edge.objectEntityId = walk.entityId) ∧
          relationshipVisible query.asOf edge = true ∧
          edge.otherEnd walk.entityId ∉ walk.entityPath ∧ next = walk.extend edge := by
  unfold walkTerm
  split
  · rename_i shallow
    rw [List.mem_map]
    constructor
    · rintro ⟨edge, listed, same⟩
      rw [List.mem_filter] at listed
      simp only [Bool.and_eq_true, Bool.or_eq_true, decide_eq_true_eq] at listed
      rcases listed with ⟨member, ⟨⟨⟨⟨⟨here, joined⟩, status⟩, eligible⟩, begun⟩, valid⟩, unmet⟩
      refine ⟨shallow, edge, member, here, joined, ?_, unmet, same.symm⟩
      simp only [relationshipVisible, Bool.and_eq_true, decide_eq_true_eq]
      exact ⟨⟨⟨eligible, begun⟩, valid⟩, status⟩
    · rintro ⟨_, edge, member, here, joined, visible, unmet, same⟩
      refine ⟨edge, ?_, same.symm⟩
      simp only [relationshipVisible, Bool.and_eq_true, decide_eq_true_eq] at visible
      rcases visible with ⟨⟨⟨eligible, begun⟩, valid⟩, status⟩
      rw [List.mem_filter]
      simp only [Bool.and_eq_true, Bool.or_eq_true, decide_eq_true_eq]
      exact ⟨member, ⟨⟨⟨⟨⟨here, joined⟩, status⟩, eligible⟩, begun⟩, valid⟩, unmet⟩
  · rename_i deep
    exact iff_of_false List.not_mem_nil (fun shallow => deep shallow.1)

/-- Without a predicate filter, the search goes where the query goes, if the entity is
visible. -/
theorem mem_searchTerm (unfiltered : query.predicates.getD [] = []) {walk next : Walk} :
    next ∈ searchTerm graph query walk <->
      next ∈ walkTerm graph query walk ∧
        (visibleEntity graph query next.entityId).isSome = true := by
  rw [mem_walkTerm]
  unfold searchTerm
  by_cases deep : query.maxDepth ≤ walk.depth
  · rw [if_pos deep]
    exact iff_of_false List.not_mem_nil (fun reached => absurd reached.1.1 (not_lt.mpr deep))
  · rw [if_neg deep, List.mem_filterMap]
    constructor
    · rintro ⟨edge, listed, kept⟩
      rw [edgesOf, mem_sortedBy, List.mem_filter] at listed
      simp only [Bool.and_eq_true, Bool.or_eq_true, decide_eq_true_eq] at listed
      rcases listed with ⟨member, ⟨⟨here, joined⟩, visible⟩, _⟩
      unfold nextWalk at kept
      split at kept
      · cases kept
      · rename_i unmet
        rcases Option.map_eq_some_iff.mp kept with ⟨entity, seen, same⟩
        subst same
        exact ⟨⟨not_le.mp deep, edge, member, here, joined, visible, unmet, rfl⟩,
          Option.isSome_iff_exists.mpr ⟨entity, seen⟩⟩
    · rintro ⟨⟨_, edge, member, here, joined, visible, unmet, same⟩, seen⟩
      subst same
      rcases Option.isSome_iff_exists.mp seen with ⟨entity, found⟩
      refine ⟨edge, ?_, ?_⟩
      · rw [edgesOf, mem_sortedBy, List.mem_filter]
        simp only [Bool.and_eq_true, Bool.or_eq_true, decide_eq_true_eq]
        refine ⟨member, ⟨⟨here, joined⟩, visible⟩, ?_⟩
        cases wanted : query.predicates with
        | none => rfl
        | some predicates =>
            rw [wanted] at unfiltered
            simp only [Option.getD_some] at unfiltered
            simp [unfiltered]
      · have seen : visibleEntity graph query (edge.otherEnd walk.entityId) = some entity := found
        simp only [nextWalk, if_neg unmet, seen, Option.map_some]

end Steps

/-! ## Walks end where they say -/

section Walks

variable {graph : Graph} {query : GraphQuery} {walk : Walk}

/-- What the query finds from the start of the request. -/
abbrev Walked (graph : Graph) (query : GraphQuery) (walk : Walk) : Prop :=
  Found (walkTerm graph query) (Walk.begins query.startEntityId) walk

abbrev Searched (graph : Graph) (query : GraphQuery) (walk : Walk) : Prop :=
  Found (searchTerm graph query) (Walk.begins query.startEntityId) walk

/-- The last entity of the path is where the walk is. -/
theorem Walked.last (walked : Walked graph query walk) :
    walk.entityPath.getLast? = some walk.entityId := by
  refine walked.preserves (motive := fun walk => walk.entityPath.getLast? = some walk.entityId)
    ?_ rfl
  intro item next _ expanded
  rcases mem_walkTerm.mp expanded with ⟨_, edge, _, _, _, _, _, same⟩
  subst same
  exact List.getLast?_concat

theorem Walked.length (walked : Walked graph query walk) :
    walk.relationshipPath.length = walk.depth := by
  refine walked.preserves (motive := fun walk => walk.relationshipPath.length = walk.depth) ?_ rfl
  intro item next counted expanded
  rcases mem_walkTerm.mp expanded with ⟨_, edge, _, _, _, _, _, same⟩
  subst same
  simp only [Walk.extend, List.length_append, List.length_singleton, counted]

theorem Walked.positive (walked : Walked graph query walk) : 0 < walk.depth := by
  rcases Relation.TransGen.tail'_iff.mp walked with ⟨before, _, last⟩
  rcases mem_walkTerm.mp last with ⟨_, edge, _, _, _, _, _, same⟩
  subst same
  exact Nat.succ_pos _

/-- A row of the query has a relationship exactly when it is not the first one. -/
theorem Walked.relationshipPath_ne_nil (walked : Walked graph query walk) :
    walk.relationshipPath ≠ [] := by
  have counted := walked.length
  have positive := walked.positive
  intro empty
  rw [empty, List.length_nil] at counted
  omega

theorem Searched.walked (unfiltered : query.predicates.getD [] = [])
    (searched : Searched graph query walk) : Walked graph query walk := by
  induction searched with
  | single first => exact Relation.TransGen.single ((mem_searchTerm unfiltered).mp first).1
  | tail before last ih =>
      exact ih.tail ((mem_searchTerm unfiltered).mp last).1

theorem Searched.visible (unfiltered : query.predicates.getD [] = [])
    (searched : Searched graph query walk) :
    (visibleEntity graph query walk.entityId).isSome = true := by
  rcases Relation.TransGen.tail'_iff.mp searched with ⟨_, _, last⟩
  exact ((mem_searchTerm unfiltered).mp last).2

/-- Where every entity that the query finds is visible, the search finds what it finds. -/
theorem Walked.searched (unfiltered : query.predicates.getD [] = [])
    (visible : forall other, Walked graph query other ->
      (visibleEntity graph query other.entityId).isSome = true)
    (walked : Walked graph query walk) : Searched graph query walk := by
  induction walked with
  | single first =>
      exact Relation.TransGen.single
        ((mem_searchTerm unfiltered).mpr ⟨first, visible _ (Relation.TransGen.single first)⟩)
  | tail before last ih =>
      exact Relation.TransGen.tail ih
        ((mem_searchTerm unfiltered).mpr ⟨last, visible _ (Relation.TransGen.tail before last)⟩)

end Walks

/-! ## What the visible relationships lead to -/

/-- The entity can be reached from the start by at most so many visible relationships, through
whatever entities, visible or not: the recursive query looks at the relationships only. -/
inductive Within (graph : Graph) (query : GraphQuery) : Nat -> Identifier -> Prop where
  | start : Within graph query 0 query.startEntityId
  | stays {steps : Nat} {entityId : Identifier} (within : Within graph query steps entityId) :
      Within graph query (steps + 1) entityId
  | joins {steps : Nat} {entityId otherId : Identifier}
      (within : Within graph query steps entityId) (joined : Joins graph query entityId otherId) :
      Within graph query (steps + 1) otherId

section Within

variable {graph : Graph} {query : GraphQuery}

theorem Within.mono {fewer more : Nat} {entityId : Identifier}
    (within : Within graph query fewer entityId) (le : fewer ≤ more) :
    Within graph query more entityId := by
  induction le with
  | refl => exact within
  | step _ ih => exact .stays ih

theorem mem_walkTerm_joins {walk next : Walk} (expanded : next ∈ walkTerm graph query walk) :
    Joins graph query walk.entityId next.entityId := by
  rcases mem_walkTerm.mp expanded with ⟨_, edge, member, here, joined, visible, _, same⟩
  subst same
  exact ⟨edge, member, here, joined, visible, rfl⟩

theorem Walked.within {walk : Walk} (walked : Walked graph query walk) :
    Within graph query walk.depth walk.entityId ∧ walk.depth ≤ query.maxDepth.toNat := by
  have kept : Within graph query walk.depth walk.entityId := by
    refine walked.preserves
      (motive := fun walk => Within graph query walk.depth walk.entityId) ?_ .start
    intro item next within expanded
    have joined := mem_walkTerm_joins expanded
    rcases mem_walkTerm.mp expanded with ⟨_, edge, _, _, _, _, _, same⟩
    subst same
    exact .joins within joined
  rcases Relation.TransGen.tail'_iff.mp walked with ⟨before, _, last⟩
  rcases mem_walkTerm.mp last with ⟨shallow, edge, _, _, _, _, _, same⟩
  subst same
  refine ⟨kept, ?_⟩
  simp only [Walk.extend]
  omega

/-- A shortest way is a walk of the query: it meets no entity twice. -/
theorem Within.shortest {steps : Nat} {entityId : Identifier}
    (within : Within graph query steps entityId)
    (least : forall fewer, fewer < steps -> ¬ Within graph query fewer entityId)
    (allowed : steps ≤ query.maxDepth.toNat) :
    exists walk,
      Relation.ReflTransGen (Expands (walkTerm graph query)) (Walk.begins query.startEntityId)
        walk ∧
      walk.entityId = entityId ∧ walk.depth = steps ∧
      forall met, met ∈ walk.entityPath -> Within graph query steps met := by
  induction within with
  | start =>
      refine ⟨Walk.begins query.startEntityId, Relation.ReflTransGen.refl, rfl, rfl, ?_⟩
      intro met member
      rw [List.mem_singleton.mp member]
      exact .start
  | stays within => exact absurd within (least _ (Nat.lt_succ_self _))
  | @joins steps entityId otherId within joined ih =>
      have nearest : forall fewer, fewer < steps -> ¬ Within graph query fewer entityId :=
        fun fewer less sooner => least (fewer + 1) (Nat.succ_lt_succ less) (.joins sooner joined)
      rcases ih nearest (Nat.le_of_succ_le allowed) with
        ⟨walk, reached, same, deep, met⟩
      subst same
      rcases joined with ⟨edge, member, here, ends, visible, other⟩
      subst other
      have unmet : edge.otherEnd walk.entityId ∉ walk.entityPath :=
        fun earlier => least steps (Nat.lt_succ_self _) (met _ earlier)
      have shallow : (walk.depth : Int) < query.maxDepth := by omega
      refine ⟨walk.extend edge, reached.tail
        (mem_walkTerm.mpr ⟨shallow, edge, member, here, ends, visible, unmet, rfl⟩), rfl, ?_, ?_⟩
      · exact congrArg (· + 1) deep
      · intro other known
        rcases List.mem_append.mp known with earlier | last
        · exact .stays (met other earlier)
        · rw [List.mem_singleton.mp last]
          exact .joins within ⟨edge, member, here, ends, visible, rfl⟩

/-- The entities that the query finds are those within the depth. -/
theorem walked_visible_iff
    (start : (visibleEntity graph query query.startEntityId).isSome = true) :
    (forall walk, Walked graph query walk ->
      (visibleEntity graph query walk.entityId).isSome = true) <->
      forall entityId, Within graph query query.maxDepth.toNat entityId ->
        (visibleEntity graph query entityId).isSome = true := by
  constructor
  · intro visible entityId within
    classical
    have somewhere : exists steps, Within graph query steps entityId := ⟨_, within⟩
    have near : Nat.find somewhere ≤ query.maxDepth.toNat := Nat.find_min' somewhere within
    rcases Within.shortest (Nat.find_spec somewhere)
      (fun fewer less => Nat.find_min somewhere less) near with ⟨walk, reached, same, _, _⟩
    rcases Relation.reflTransGen_iff_eq_or_transGen.mp reached with first | walked
    · subst first
      exact same ▸ start
    · exact same ▸ visible walk walked
  · intro visible walk walked
    rcases walked.within with ⟨within, shallow⟩
    exact visible _ (within.mono shallow)

end Within

/-! ## Both traversals end -/

section Ends

variable (graph : Graph) (query : GraphQuery)

/-- What is left of the depth. -/
def depthLeft (walk : Walk) : Nat := query.maxDepth.toNat - walk.depth

theorem searchTerm_ranked : Ranked (searchTerm graph query) (depthLeft query) := by
  intro walk next expanded
  unfold searchTerm at expanded
  split at expanded
  · cases expanded
  · rename_i shallow
    rcases List.mem_filterMap.mp expanded with ⟨edge, _, kept⟩
    unfold nextWalk at kept
    split at kept
    · cases kept
    · rcases Option.map_eq_some_iff.mp kept with ⟨_, _, same⟩
      subst same
      simp only [depthLeft, Walk.extend]
      omega

theorem searchTerm_length (walk : Walk) :
    (searchTerm graph query walk).length ≤ graph.relationships.length := by
  unfold searchTerm
  split
  · exact Nat.zero_le _
  · calc ((edgesOf graph query walk.entityId).filterMap (nextWalk graph query walk)).length
        ≤ (edgesOf graph query walk.entityId).length := List.length_filterMap_le _ _
      _ ≤ graph.relationships.length := by
          rw [edgesOf, length_sortedBy]
          exact List.length_filter_le _ _

theorem boundedGraphAsOf_ends (casefold : String -> String) (clock : Nat -> Rat) :
    exists outcome, boundedGraphAsOf casefold clock graph query = some outcome := by
  unfold boundedGraphAsOf
  split
  · exact ⟨_, rfl⟩
  · split
    · exact ⟨_, rfl⟩
    · split
      · exact ⟨_, rfl⟩
      · cases visibleEntity graph query query.startEntityId with
        | none => exact ⟨_, rfl⟩
        | some start =>
            have enough : pending (depthLeft query) graph.relationships.length
                [Walk.begins start.id] ≤ turnLimit graph query := by
              simp [pending, depthLeft, turnLimit, Walk.begins]
            have expands : forall found walk next items,
                expandWalk graph query clock found walk = .ok (next, items) ->
                  items = searchTerm graph query walk :=
              fun _ _ _ _ expanded => (expandWalk_ok expanded).1
            have ends : exists outcome,
                search (expandWalk graph query clock) (turnLimit graph query)
                  ⟨0, [start], [], []⟩ [Walk.begins start.id] = some outcome :=
              search_ends (searchTerm_ranked graph query) (searchTerm_length graph query) expands
                enough
            rcases ends with ⟨outcome, searched⟩
            exact ⟨outcome.map (neighborhood casefold query), by simp only [searched, Option.map_some]⟩

end Ends

/-! ## The paths of both -/

/-- The paths of at least one relationship are the same in both answers, entities and
relationships in order.  The empty path of the start is left aside, since only one of them lists
it. -/
def SamePaths (answer : Neighborhood) (rows : List Walk) : Prop :=
  forall entityPath relationshipPath,
    (exists row, row ∈ rows ∧ row.relationshipPath ≠ [] ∧ row.entityPath = entityPath ∧
      row.relationshipPath = relationshipPath) <->
    exists path, path ∈ answer.paths ∧ path.entityIds = entityPath ∧
      path.relationshipIds = relationshipPath

section Paths

variable {casefold : String -> String} {clock : Nat -> Rat} {graph : Graph} {query : GraphQuery}
  {answer : Neighborhood} {rows walks : List Walk}

theorem visibleEntity_id {entityId : Identifier} {entity : EconomicEntity}
    (seen : visibleEntity graph query entityId = some entity) : entity.id = entityId := by
  have matching := List.find?_some seen
  simp only [Bool.and_eq_true, decide_eq_true_eq] at matching
  exact matching.1.1

/-- The paths of an answer are those of the walks that the search finds. -/
theorem boundedGraphAsOf_paths
    (searched : boundedGraphAsOf casefold clock graph query = some (.ok answer)) :
    (visibleEntity graph query query.startEntityId).isSome = true ∧
      forall path, path ∈ answer.paths <->
        exists walk, Searched graph query walk ∧ walk.path = path := by
  unfold boundedGraphAsOf at searched
  split at searched
  · cases searched
  split at searched
  · cases searched
  split at searched
  · cases searched
  cases seen : visibleEntity graph query query.startEntityId with
  | none =>
      rw [seen] at searched
      cases searched
  | some start =>
      rw [seen] at searched
      have same : start.id = query.startEntityId := visibleEntity_id seen
      rcases Option.map_eq_some_iff.mp searched with ⟨outcome, ran, answers⟩
      cases outcome with
      | error raised => cases answers
      | ok found =>
          cases answers
          refine ⟨rfl, fun path => ?_⟩
          have recorded := mem_search
            (fun state item next items expanded => expandWalk_ok expanded) ran path
          simp only [neighborhood, mem_sortedBy]
          rw [recorded]
          constructor
          · rintro (impossible | ⟨item, walk, listed, finds, shown⟩)
            · cases impossible
            · rw [List.mem_singleton.mp listed, same] at finds
              exact ⟨walk, finds, shown⟩
          · rintro ⟨walk, finds, shown⟩
            refine Or.inr ⟨_, walk, List.mem_singleton_self _, ?_, shown⟩
            rw [same]
            exact finds

/-- Where the limit is not reached, the rows are the first one and what the query finds. -/
theorem postgresRecursiveNeighborhood_rows {dialectName : Option String}
    (walked : postgresRecursiveNeighborhood dialectName graph query = some (.ok rows))
    (whole : graphWalk graph query = some walks) (few : walks.length ≤ query.maxNodes)
    (row : Walk) :
    row ∈ rows <-> row = Walk.begins query.startEntityId ∨ Walked graph query row := by
  unfold postgresRecursiveNeighborhood at walked
  split at walked
  · cases walked
  split at walked
  · cases walked
  rw [whole] at walked
  cases walked
  have all : walks.length ≤ query.maxNodes.toNat := by omega
  rw [List.take_of_length_le (by rw [length_sortedBy]; exact all),
    mem_sortedBy, mem_recursive whole]
  simp only [List.mem_singleton, exists_eq_left]

/-- The two traversals give the same paths exactly when every entity that the visible
relationships lead to within the depth is visible. -/
theorem samePaths_iff {dialectName : Option String}
    (searched : boundedGraphAsOf casefold clock graph query = some (.ok answer))
    (walked : postgresRecursiveNeighborhood dialectName graph query = some (.ok rows))
    (unfiltered : query.predicates.getD [] = [])
    (whole : graphWalk graph query = some walks) (few : walks.length ≤ query.maxNodes) :
    SamePaths answer rows <->
      forall entityId, Within graph query query.maxDepth.toNat entityId ->
        (visibleEntity graph query entityId).isSome = true := by
  rcases boundedGraphAsOf_paths searched with ⟨start, found⟩
  have listed := postgresRecursiveNeighborhood_rows walked whole few
  rw [← walked_visible_iff start]
  constructor
  · intro same walk reached
    rcases (same walk.entityPath walk.relationshipPath).mp
      ⟨walk, (listed walk).mpr (Or.inr reached), reached.relationshipPath_ne_nil, rfl, rfl⟩ with
      ⟨path, member, entities, _⟩
    rcases (found path).mp member with ⟨other, finds, shown⟩
    subst shown
    have ends : walk.entityId = other.entityId := by
      apply Option.some.inj
      rw [← reached.last, ← (finds.walked unfiltered).last]
      exact congrArg List.getLast? entities.symm
    rw [ends]
    exact finds.visible unfiltered
  · intro visible entityPath relationshipPath
    constructor
    · rintro ⟨row, member, further, rfl, rfl⟩
      rcases (listed row).mp member with first | reached
      · subst first
        exact absurd rfl further
      · exact ⟨row.path, (found row.path).mpr ⟨row, reached.searched unfiltered visible, rfl⟩,
          rfl, rfl⟩
    · rintro ⟨path, member, rfl, rfl⟩
      rcases (found path).mp member with ⟨walk, finds, rfl⟩
      have reached := finds.walked unfiltered
      exact ⟨walk, (listed walk).mpr (Or.inr reached), reached.relationshipPath_ne_nil, rfl, rfl⟩

end Paths

/-! ## A supplier that is not verified -/

def acme : EconomicEntity where
  id := 1
  workspaceId := 0
  entityType := "Company"
  canonicalName := "Acme"
  status := .verified
  validFrom := 0
  validTo := none
  simulationEligibleTime := 0
  confidence := 1

def supplier (status : GraphStatus) : EconomicEntity :=
  { acme with id := 2, entityType := "Supplier", canonicalName := "Parts", status := status }

def supplies : EconomicRelationship where
  id := 9
  workspaceId := 0
  subjectEntityId := 2
  predicate := "SUPPLIES"
  objectEntityId := 1
  confidence := 1
  strength := none
  validFrom := 0
  validTo := none
  discoveredAt := 0
  lastVerifiedAt := 0
  simulationEligibleTime := 0
  method := "filing"
  methodVersion := "1"
  status := .verified

def supplyGraph (status : GraphStatus) : Graph :=
  ⟨[acme, supplier status], [supplies], [], []⟩

def supplyQuery : GraphQuery where
  workspaceId := 0
  startEntityId := 1
  asOf := 5
  maxDepth := 1
  maxNodes := 100
  timeoutMs := 500
  predicates := none

def supplyWalk : Walk := ⟨2, 1, [1, 2], [9]⟩

def supplyAnswer (nodes : List EntityView) (relationships : List RelationshipView)
    (paths : List GraphPath) : Neighborhood :=
  ⟨5, 1, 100, nodes, relationships, paths, false⟩

/-- The supplier is verified, and the paths are the same. -/
theorem verifiedSupplier_samePaths :
    boundedGraphAsOf id (fun _ => 0) (supplyGraph .verified) supplyQuery =
        some (.ok (supplyAnswer [serializeEntity acme, serializeEntity (supplier .verified)]
          [serializeRelationship supplies] [⟨[1, 2], [9], 1⟩])) ∧
      (SamePaths (supplyAnswer [serializeEntity acme, serializeEntity (supplier .verified)]
          [serializeRelationship supplies] [⟨[1, 2], [9], 1⟩]) [Walk.begins 1, supplyWalk] <->
        forall entityId, Within (supplyGraph .verified) supplyQuery 1 entityId ->
          (visibleEntity (supplyGraph .verified) supplyQuery entityId).isSome = true) := by
  have searched : boundedGraphAsOf id (fun _ => 0) (supplyGraph .verified) supplyQuery =
      some (.ok (supplyAnswer [serializeEntity acme, serializeEntity (supplier .verified)]
        [serializeRelationship supplies] [⟨[1, 2], [9], 1⟩])) := by
    decide +kernel
  have walked : postgresRecursiveNeighborhood (some "postgresql") (supplyGraph .verified)
      supplyQuery = some (.ok [Walk.begins 1, supplyWalk]) := by
    decide +kernel
  have whole : graphWalk (supplyGraph .verified) supplyQuery =
      some [Walk.begins 1, supplyWalk] := by
    decide +kernel
  exact ⟨searched, samePaths_iff searched walked rfl whole (by decide)⟩

/-- The supplier is a candidate: the query goes to it, and the search does not. -/
theorem candidateSupplier_differs :
    boundedGraphAsOf id (fun _ => 0) (supplyGraph .candidate) supplyQuery =
        some (.ok (supplyAnswer [serializeEntity acme] [] [])) ∧
      postgresRecursiveNeighborhood (some "postgresql") (supplyGraph .candidate) supplyQuery =
        some (.ok [Walk.begins 1, supplyWalk]) ∧
      ¬ SamePaths (supplyAnswer [serializeEntity acme] [] []) [Walk.begins 1, supplyWalk] := by
  refine ⟨by decide +kernel, by decide +kernel, fun same => ?_⟩
  rcases (same [1, 2] [9]).mp
    ⟨supplyWalk, List.mem_cons_of_mem _ (List.mem_singleton_self _), by decide, rfl, rfl⟩ with
    ⟨path, impossible, _⟩
  cases impossible

end EconomicGraph
end MarketIntelligence
