import MarketIntelligence.EconomicGraph.Parity
import MarketIntelligence.Foundations.Loops
import Mathlib.Data.Finset.Card

namespace MarketIntelligence
namespace EconomicGraph

open Foundations
open SortedLists
open Expansion

/-!
# What the search finds

The search keeps a queue of walks, and for each walk the entities it has met.  The paths
of its answer are the simple paths through visible entities along visible relationships,
each of them once, unless more entities lie on such paths than the request permits.
-/

/-! ## Simple paths -/

/-- The request follows the relationship: it is in the workspace, visible at the instant, and of
a predicate that is asked for. -/
structure EconomicRelationship.Usable (query : GraphQuery) (edge : EconomicRelationship) :
    Prop where
  here : edge.workspaceId = query.workspaceId
  visible : relationshipVisible query.asOf edge = true
  wanted : query.predicates.getD [] = [] ∨ edge.predicate ∈ query.predicates.getD []

/-- The relationship has these two ends, in either direction. -/
def EconomicRelationship.Links (edge : EconomicRelationship) (entityId otherId : Identifier) :
    Prop :=
  (edge.subjectEntityId = entityId ∧ edge.objectEntityId = otherId) ∨
    (edge.subjectEntityId = otherId ∧ edge.objectEntityId = entityId)

/-- A usable relationship of this id links the two entities. -/
def Linked (graph : Graph) (query : GraphQuery) (relationshipId entityId otherId : Identifier) :
    Prop :=
  exists edge, edge ∈ graph.relationships ∧ edge.id = relationshipId ∧ edge.Usable query ∧
    edge.Links entityId otherId

/-- A path from the start, of at most the depth that the request permits.  The path of no
relationships is one of them. -/
structure SimplePath (graph : Graph) (query : GraphQuery) (path : GraphPath) : Prop where
  starts : path.entityIds.head? = some query.startEntityId
  simple : path.entityIds.Nodup
  visible : forall entityId, entityId ∈ path.entityIds ->
    (visibleEntity graph query entityId).isSome = true
  counted : path.depth = path.relationshipIds.length
  ends : path.entityIds.length = path.depth + 1
  linked : forall (index : Nat) (entityId otherId relationshipId : Identifier),
    path.entityIds[index]? = some entityId -> path.entityIds[index + 1]? = some otherId ->
      path.relationshipIds[index]? = some relationshipId ->
        Linked graph query relationshipId entityId otherId
  bounded : path.depth ≤ query.maxDepth

/-- The entity lies on such a path. -/
def Lies (graph : Graph) (query : GraphQuery) (entityId : Identifier) : Prop :=
  exists path, SimplePath graph query path ∧ entityId ∈ path.entityIds

/-- More entities lie on such paths than the request permits.  The set of entities stands for the
nodes that the search has counted. -/
def TooMany (graph : Graph) (query : GraphQuery) : Prop :=
  exists entityIds : Finset Identifier, query.maxNodes < entityIds.card ∧
    forall entityId, entityId ∈ entityIds -> Lies graph query entityId

section Paths

variable {graph : Graph} {query : GraphQuery}

theorem simplePath_nil (start : (visibleEntity graph query query.startEntityId).isSome = true)
    (deep : 1 ≤ query.maxDepth) :
    SimplePath graph query ⟨[query.startEntityId], [], 0⟩ where
  starts := rfl
  simple := List.nodup_singleton _
  visible := by
    intro entityId member
    rw [List.mem_singleton.mp member]
    exact start
  counted := rfl
  ends := rfl
  linked := by
    intro index entityId otherId relationshipId _ _ impossible
    cases impossible
  bounded := by
    change (0 : Int) ≤ query.maxDepth
    omega

/-- A path goes on to an entity that it has not met. -/
theorem SimplePath.extend {entityIds relationshipIds : List Identifier} {depth : Nat}
    {last next relationshipId : Identifier}
    (path : SimplePath graph query ⟨entityIds, relationshipIds, depth⟩)
    (ends : entityIds.getLast? = some last) (shallow : (depth : Int) < query.maxDepth)
    (unmet : next ∉ entityIds) (seen : (visibleEntity graph query next).isSome = true)
    (linked : Linked graph query relationshipId last next) :
    SimplePath graph query ⟨entityIds ++ [next], relationshipIds ++ [relationshipId], depth + 1⟩ := by
  have counted : depth = relationshipIds.length := path.counted
  have length : entityIds.length = depth + 1 := path.ends
  constructor
  · have starts : entityIds.head? = some query.startEntityId := path.starts
    rw [List.head?_append, starts, Option.some_or]
  · refine List.nodup_append.mpr ⟨path.simple, List.nodup_singleton _, ?_⟩
    intro entityId member other single same
    subst same
    exact unmet (List.mem_singleton.mp single ▸ member)
  · intro entityId member
    rcases List.mem_append.mp member with earlier | new
    · exact path.visible entityId earlier
    · rw [List.mem_singleton.mp new]
      exact seen
  · simp only [List.length_append, List.length_singleton, counted]
  · simp only [List.length_append, List.length_singleton, length]
  · intro index entityId otherId link first second third
    rcases Nat.lt_trichotomy index depth with before | here | after
    · rw [List.getElem?_append_left (by omega)] at first second third
      exact path.linked index entityId otherId link first second third
    · subst here
      have lastOf : entityIds[index]? = some last := by
        rw [List.getLast?_eq_getElem?, length] at ends
        exact ends
      rw [List.getElem?_append_left (by omega), lastOf] at first
      rw [← length, List.getElem?_concat_length] at second
      rw [counted, List.getElem?_concat_length] at third
      cases first
      cases second
      cases third
      exact linked
    · rw [List.getElem?_eq_none (by simp; omega)] at third
      cases third
  · change ((depth + 1 : Nat) : Int) ≤ query.maxDepth
    omega

/-- What a path was before its last relationship. -/
theorem SimplePath.initial {entityIds relationshipIds : List Identifier} {depth : Nat}
    {next relationshipId : Identifier}
    (path : SimplePath graph query
      ⟨entityIds ++ [next], relationshipIds ++ [relationshipId], depth + 1⟩) :
    SimplePath graph query ⟨entityIds, relationshipIds, depth⟩ ∧
      exists last, entityIds.getLast? = some last ∧ (depth : Int) < query.maxDepth ∧
        next ∉ entityIds ∧ (visibleEntity graph query next).isSome = true ∧
        Linked graph query relationshipId last next := by
  have counted : depth + 1 = (relationshipIds ++ [relationshipId]).length := path.counted
  have length : (entityIds ++ [next]).length = depth + 1 + 1 := path.ends
  have bounded : ((depth + 1 : Nat) : Int) ≤ query.maxDepth := path.bounded
  rw [List.length_append, List.length_singleton] at counted length
  have simple : (entityIds ++ [next]).Nodup := path.simple
  rcases List.nodup_append.mp simple with ⟨front, _, apart⟩
  have before : depth = relationshipIds.length := by omega
  have longer : entityIds.length = depth + 1 := by omega
  have shallow : (depth : Int) < query.maxDepth := by omega
  have somewhere : exists last, entityIds[depth]? = some last :=
    ⟨_, List.getElem?_eq_getElem (by omega)⟩
  rcases somewhere with ⟨last, lastOf⟩
  refine ⟨⟨?_, front, ?_, before, longer, ?_, le_of_lt shallow⟩, last, ?_,
    shallow, ?_, path.visible next (List.mem_append_right _ (List.mem_singleton_self _)), ?_⟩
  · have starts := path.starts
    cases entityIds with
    | nil =>
        simp only [List.length_nil] at length
        omega
    | cons first rest => exact starts
  · intro entityId member
    exact path.visible entityId (List.mem_append_left _ member)
  · intro index entityId otherId link first second third
    have inside : index + 1 < entityIds.length := (List.getElem?_eq_some_iff.mp second).1
    have within : index < relationshipIds.length := (List.getElem?_eq_some_iff.mp third).1
    refine path.linked index entityId otherId link ?_ ?_ ?_
    · exact (List.getElem?_append_left (by omega)).trans first
    · exact (List.getElem?_append_left inside).trans second
    · exact (List.getElem?_append_left within).trans third
  · rw [List.getLast?_eq_getElem?, longer]
    exact lastOf
  · intro member
    exact apart next member next (List.mem_singleton_self _) rfl
  · refine path.linked depth last next relationshipId ?_ ?_ ?_
    · exact (List.getElem?_append_left (by omega)).trans lastOf
    · rw [← longer]
      exact List.getElem?_concat_length
    · rw [before]
      exact List.getElem?_concat_length

end Paths

/-! ## Walks and their paths -/

section Walks

variable {graph : Graph} {query : GraphQuery}

theorem links_iff {edge : EconomicRelationship} {entityId otherId : Identifier} :
    edge.Links entityId otherId <->
      (edge.subjectEntityId = entityId ∨ edge.objectEntityId = entityId) ∧
        edge.otherEnd entityId = otherId := by
  unfold EconomicRelationship.Links EconomicRelationship.otherEnd
  by_cases subject : edge.subjectEntityId = entityId
  · rw [if_pos subject]
    constructor
    · rintro (⟨_, same⟩ | ⟨other, object⟩)
      · exact ⟨Or.inl subject, same⟩
      · exact ⟨Or.inl subject, object.trans (subject.symm.trans other)⟩
    · rintro ⟨_, same⟩
      exact Or.inl ⟨subject, same⟩
  · rw [if_neg subject]
    constructor
    · rintro (⟨same, _⟩ | ⟨same, object⟩)
      · exact absurd same subject
      · exact ⟨Or.inr object, same⟩
    · rintro ⟨first | object, same⟩
      · exact absurd first subject
      · exact Or.inr ⟨same, object⟩

theorem mem_edgesOf {edge : EconomicRelationship} {entityId : Identifier} :
    edge ∈ edgesOf graph query entityId <->
      edge ∈ graph.relationships ∧ edge.Usable query ∧
        (edge.subjectEntityId = entityId ∨ edge.objectEntityId = entityId) := by
  rw [edgesOf, mem_sortedBy, List.mem_filter]
  simp only [Bool.and_eq_true, Bool.or_eq_true, decide_eq_true_eq]
  constructor
  · rintro ⟨member, ⟨⟨here, joined⟩, visible⟩, listed⟩
    refine ⟨member, ⟨here, visible, ?_⟩, joined⟩
    cases wanted : query.predicates with
    | none => exact Or.inl rfl
    | some predicates =>
        rw [wanted] at listed
        simpa using listed
  · rintro ⟨member, ⟨here, visible, listed⟩, joined⟩
    refine ⟨member, ⟨⟨here, joined⟩, visible⟩, ?_⟩
    cases wanted : query.predicates with
    | none => rfl
    | some predicates =>
        rw [wanted] at listed
        simpa using listed

theorem nextWalk_eq_some {walk next : Walk} {edge : EconomicRelationship} :
    nextWalk graph query walk edge = some next <->
      edge.otherEnd walk.entityId ∉ walk.entityPath ∧
        (visibleEntity graph query (edge.otherEnd walk.entityId)).isSome = true ∧
        walk.extend edge = next := by
  unfold nextWalk
  split
  · rename_i met
    exact iff_of_false (fun impossible => by cases impossible) (fun unmet => unmet.1 met)
  · rename_i unmet
    rw [Option.map_eq_some_iff]
    constructor
    · rintro ⟨entity, seen, same⟩
      exact ⟨unmet, Option.isSome_iff_exists.mpr ⟨entity, seen⟩, same⟩
    · rintro ⟨_, seen, same⟩
      rcases Option.isSome_iff_exists.mp seen with ⟨entity, found⟩
      exact ⟨entity, found, same⟩

theorem mem_searchTerm_iff {walk next : Walk} :
    next ∈ searchTerm graph query walk <->
      walk.depth < query.maxDepth ∧ exists edge, edge ∈ edgesOf graph query walk.entityId ∧
        nextWalk graph query walk edge = some next := by
  unfold searchTerm
  split
  · rename_i deep
    exact iff_of_false List.not_mem_nil (fun shallow => absurd shallow.1 (not_lt.mpr deep))
  · rename_i shallow
    rw [List.mem_filterMap, and_iff_right (not_le.mp shallow)]

/-- The walk is at the end of its path, which is a simple one. -/
def Traced (graph : Graph) (query : GraphQuery) (walk : Walk) : Prop :=
  walk.entityPath.getLast? = some walk.entityId ∧ SimplePath graph query walk.path

theorem Traced.ext {left right : Walk} (leftTraced : Traced graph query left)
    (rightTraced : Traced graph query right) (same : left.path = right.path) : left = right := by
  rcases left with ⟨leftId, leftDepth, leftEntities, leftRelationships⟩
  rcases right with ⟨rightId, rightDepth, rightEntities, rightRelationships⟩
  cases same
  have ends : some leftId = some rightId := leftTraced.1.symm.trans rightTraced.1
  cases ends
  rfl

theorem Traced.step {walk next : Walk} (traced : Traced graph query walk)
    (expanded : next ∈ searchTerm graph query walk) : Traced graph query next := by
  rcases mem_searchTerm_iff.mp expanded with ⟨shallow, edge, listed, kept⟩
  rcases mem_edgesOf.mp listed with ⟨member, usable, joined⟩
  rcases nextWalk_eq_some.mp kept with ⟨unmet, seen, same⟩
  subst same
  exact ⟨List.getLast?_concat, traced.2.extend traced.1 shallow unmet seen
    ⟨edge, member, rfl, usable, links_iff.mpr ⟨joined, rfl⟩⟩⟩

theorem traced_begins (start : (visibleEntity graph query query.startEntityId).isSome = true)
    (deep : 1 ≤ query.maxDepth) : Traced graph query (Walk.begins query.startEntityId) :=
  ⟨rfl, simplePath_nil start deep⟩

/-- Every simple path is that of a walk. -/
theorem SimplePath.walked {path : GraphPath} (simple : SimplePath graph query path) :
    exists walk, walk.path = path ∧ walk.entityPath.getLast? = some walk.entityId ∧
      Relation.ReflTransGen (Expands (searchTerm graph query))
        (Walk.begins query.startEntityId) walk := by
  rcases path with ⟨entityIds, relationshipIds, depth⟩
  induction relationshipIds using List.reverseRecOn generalizing entityIds depth with
  | nil =>
      have counted : depth = 0 := simple.counted
      have length : entityIds.length = depth + 1 := simple.ends
      rw [counted] at length
      rcases List.length_eq_one_iff.mp length with ⟨only, same⟩
      have starts := simple.starts
      subst counted
      subst same
      cases starts
      exact ⟨Walk.begins query.startEntityId, rfl, rfl, Relation.ReflTransGen.refl⟩
  | append_singleton earlier relationshipId ih =>
      have counted : depth = (earlier ++ [relationshipId]).length := simple.counted
      have length : entityIds.length = depth + 1 := simple.ends
      rw [List.length_append, List.length_singleton] at counted
      subst counted
      rcases List.eq_nil_or_concat' entityIds with empty | ⟨front, next, same⟩
      · rw [empty] at length
        cases length
      · subst same
        rcases simple.initial with ⟨before, last, ends, shallow, unmet, seen, edge, member, named,
          usable, linked⟩
        rcases ih front earlier.length before with ⟨walk, shown, traced, reached⟩
        rcases walk with ⟨entityId, depth, entityPath, relationshipPath⟩
        simp only [Walk.path, GraphPath.mk.injEq] at shown
        rcases shown with ⟨entities, relationships, deep⟩
        subst entities
        subst relationships
        subst deep
        have here : entityId = last := Option.some.inj (traced.symm.trans ends)
        subst here
        rcases links_iff.mp linked with ⟨joined, other⟩
        subst other
        subst named
        refine ⟨Walk.extend ⟨entityId, _, entityPath, relationshipPath⟩ edge, rfl,
          List.getLast?_concat, reached.tail ?_⟩
        exact mem_searchTerm_iff.mpr ⟨shallow, edge, mem_edgesOf.mpr ⟨member, usable, joined⟩,
          nextWalk_eq_some.mpr ⟨unmet, seen, rfl⟩⟩

end Walks

/-! ## Each path once -/

section Distinct

variable {graph : Graph} {query : GraphQuery}

theorem searchTerm_nodup (keyed : (graph.relationships.map EconomicRelationship.id).Nodup)
    (walk : Walk) : (searchTerm graph query walk).Nodup := by
  unfold searchTerm
  split
  · exact List.nodup_nil
  · have distinct : (edgesOf graph query walk.entityId).Pairwise fun left right =>
        left.id ≠ right.id := by
      rw [← List.pairwise_map]
      refine ((List.perm_insertionSort _ _).map EconomicRelationship.id).nodup_iff.mpr ?_
      exact keyed.sublist ((List.filter_sublist).map EconomicRelationship.id)
    refine List.pairwise_filterMap.mpr (distinct.imp ?_)
    intro left right different first kept second also same
    subst same
    rcases nextWalk_eq_some.mp kept with ⟨_, _, here⟩
    rcases nextWalk_eq_some.mp also with ⟨_, _, there⟩
    have equal : (walk.extend left).relationshipPath = (walk.extend right).relationshipPath :=
      congrArg Walk.relationshipPath (here.trans there.symm)
    simp only [Walk.extend, List.append_cancel_left_eq, List.cons.injEq, and_true] at equal
    exact different equal

/-- A walk is found from one walk only. -/
theorem searchTerm_parent {left right next : Walk} (leftTraced : Traced graph query left)
    (rightTraced : Traced graph query right) (first : next ∈ searchTerm graph query left)
    (second : next ∈ searchTerm graph query right) : left = right := by
  rcases mem_searchTerm_iff.mp first with ⟨_, leftEdge, _, leftKept⟩
  rcases mem_searchTerm_iff.mp second with ⟨_, rightEdge, _, rightKept⟩
  rcases nextWalk_eq_some.mp leftKept with ⟨_, _, leftSame⟩
  rcases nextWalk_eq_some.mp rightKept with ⟨_, _, rightSame⟩
  have same := leftSame.trans rightSame.symm
  simp only [Walk.extend, Walk.mk.injEq, Nat.add_right_cancel_iff] at same
  rcases same with ⟨_, deep, entities, relationships⟩
  have front := (List.append_inj' entities rfl).1
  have earlier := (List.append_inj' relationships rfl).1
  exact leftTraced.ext rightTraced (by simp only [Walk.path, front, earlier, deep])

theorem begins_not_found {walk : Walk} :
    Walk.begins query.startEntityId ∉ searchTerm graph query walk := by
  intro expanded
  rcases mem_searchTerm_iff.mp expanded with ⟨_, edge, _, kept⟩
  have deep := congrArg Walk.depth (nextWalk_eq_some.mp kept).2.2
  cases deep

end Distinct

/-! ## The entities that are counted -/

/-- The state of the search beside its queue. -/
structure Recorded (graph : Graph) (query : GraphQuery) (found : Findings) (queue : List Walk) :
    Prop where
  keyed : (found.entities.map EconomicEntity.id).Nodup
  lies : forall entityId, entityId ∈ found.entities.map EconomicEntity.id ->
    Lies graph query entityId
  few : found.entities.length ≤ query.maxNodes
  started : query.startEntityId ∈ found.entities.map EconomicEntity.id
  recorded : forall path, path ∈ found.paths -> forall entityId, entityId ∈ path.entityIds ->
    entityId ∈ found.entities.map EconomicEntity.id
  traced : forall walk, walk ∈ queue -> Traced graph query walk
  met : forall walk, walk ∈ queue -> forall entityId, entityId ∈ walk.entityPath ->
    entityId ∈ found.entities.map EconomicEntity.id

section Counting

variable {graph : Graph} {query : GraphQuery} {found next : Findings} {walk : Walk}

/-- The entities that lie on paths are more than permitted once one more is found. -/
theorem Recorded.tooMany {queue : List Walk} {entityId : Identifier}
    (recorded : Recorded graph query found queue)
    (new : entityId ∉ found.entities.map EconomicEntity.id) (lies : Lies graph query entityId)
    (full : query.maxNodes ≤ found.entities.length) : TooMany graph query := by
  classical
  refine ⟨insert entityId (found.entities.map EconomicEntity.id).toFinset, ?_, ?_⟩
  · rw [Finset.card_insert_of_notMem (by rwa [List.mem_toFinset]),
      List.toFinset_card_of_nodup recorded.keyed, List.length_map]
    omega
  · intro other member
    rcases Finset.mem_insert.mp member with same | known
    · exact same ▸ lies
    · exact recorded.lies other (List.mem_toFinset.mp known)

/-- One edge, while the walk is not yet expanded altogether. -/
theorem Recorded.follow {rest items further : List Walk} {edge : EconomicRelationship}
    (recorded : Recorded graph query found (walk :: rest ++ items))
    (shallow : walk.depth < query.maxDepth) (listed : edge ∈ edgesOf graph query walk.entityId)
    (followed : followEdge graph query walk (found, items) edge = .ok (next, further)) :
    Recorded graph query next (walk :: rest ++ further) := by
  simp only [followEdge] at followed
  split at followed
  · cases followed
    exact recorded
  · rename_i unmet
    cases seen : visibleEntity graph query (edge.otherEnd walk.entityId) with
    | none =>
        rw [seen] at followed
        cases followed
        exact recorded
    | some entity =>
        rw [seen] at followed
        simp only at followed
        split at followed
        · cases followed
        · rename_i room
          cases followed
          have named : entity.id = edge.otherEnd walk.entityId := visibleEntity_id seen
          have reached : walk.extend edge ∈ searchTerm graph query walk :=
            mem_searchTerm_iff.mpr ⟨shallow, edge, listed, nextWalk_eq_some.mpr
              ⟨unmet, Option.isSome_iff_exists.mpr ⟨entity, seen⟩, rfl⟩⟩
          have here : walk ∈ walk :: rest ++ items := List.mem_cons_self
          have traced := (recorded.traced walk here).step reached
          have known : forall entityId, entityId ∈ (walk.extend edge).entityPath ->
              entityId ∈ (Tables.put EconomicEntity.id entity found.entities).map
                EconomicEntity.id := by
            intro entityId member
            rw [Tables.mem_map_put]
            rcases List.mem_append.mp member with earlier | last
            · exact Or.inr (recorded.met walk here entityId earlier)
            · exact Or.inl ((List.mem_singleton.mp last).trans named.symm)
          constructor
          · exact Tables.nodup_put recorded.keyed
          · intro entityId member
            rcases Tables.mem_map_put.mp member with same | old
            · rw [same, named]
              exact ⟨_, traced.2, List.mem_append_right _ (List.mem_singleton_self _)⟩
            · exact recorded.lies entityId old
          · have few := recorded.few
            change ((Tables.put EconomicEntity.id entity found.entities).length : Int) ≤ _
            rw [Tables.length_put]
            rw [← named] at room
            split
            · rename_i absent
              have smaller : ¬ query.maxNodes ≤ found.entities.length :=
                fun full => room ⟨absent, full⟩
              omega
            · exact few
          · exact Tables.mem_map_put.mpr (Or.inr recorded.started)
          · intro path listed entityId member
            rcases List.mem_append.mp listed with old | new
            · exact Tables.mem_map_put.mpr (Or.inr (recorded.recorded path old entityId member))
            · rw [List.mem_singleton.mp new] at member
              exact known entityId member
          · intro other queued
            rw [← List.append_assoc] at queued
            rcases List.mem_append.mp queued with old | new
            · exact recorded.traced other old
            · rw [List.mem_singleton.mp new]
              exact traced
          · intro other queued entityId member
            rw [← List.append_assoc] at queued
            rcases List.mem_append.mp queued with old | new
            · exact Tables.mem_map_put.mpr (Or.inr (recorded.met other old entityId member))
            · rw [List.mem_singleton.mp new] at member
              exact known entityId member

/-- What is left of the queue without the walk that is expanded. -/
theorem Recorded.tail {rest : List Walk} (recorded : Recorded graph query found (walk :: rest)) :
    Recorded graph query found rest :=
  { recorded with
    traced := fun other queued => recorded.traced other (List.mem_cons_of_mem _ queued)
    met := fun other queued => recorded.met other (List.mem_cons_of_mem _ queued) }

theorem Recorded.turn {queue : List Walk} (recorded : Recorded graph query found queue) :
    Recorded graph query { found with turns := found.turns + 1 } queue :=
  { recorded with }

theorem Recorded.expand {clock : Nat -> Rat} {rest items : List Walk}
    (recorded : Recorded graph query found (walk :: rest))
    (expanded : expandWalk graph query clock found walk = .ok (next, items)) :
    Recorded graph query next (rest ++ items) := by
  simp only [expandWalk] at expanded
  split at expanded
  · cases expanded
  split at expanded
  · cases expanded
    rw [List.append_nil]
    exact recorded.turn.tail
  · rename_i shallow
    have kept := Loops.foldlM_invariant
      (motive := fun state : Findings × List Walk =>
        Recorded graph query state.1 (walk :: rest ++ state.2))
      (fun edge listed start finish holds followed =>
        holds.follow (not_le.mp shallow) listed followed)
      (by simpa using recorded.turn) expanded
    exact kept.tail

/-- The search gives up only when more entities lie on the paths than permitted. -/
theorem Recorded.fails {clock : Nat -> Rat} (timely : forall turn, clock turn ≤ query.timeoutMs)
    {rest : List Walk} {raised : GraphError}
    (recorded : Recorded graph query found (walk :: rest))
    (stopped : expandWalk graph query clock found walk = .error raised) :
    raised = .limit "graph traversal exceeded node limit" ∧ TooMany graph query := by
  simp only [expandWalk] at stopped
  split at stopped
  · rename_i late
    exact absurd (timely found.turns) (not_le.mpr late)
  split at stopped
  · cases stopped
  · rename_i shallow
    refine Loops.foldlM_error
      (motive := fun state : Findings × List Walk =>
        Recorded graph query state.1 (walk :: rest ++ state.2))
      (fun raised => raised = .limit "graph traversal exceeded node limit" ∧ TooMany graph query)
      (fun edge listed start finish holds followed =>
        holds.follow (not_le.mp shallow) listed followed)
      ?_ (by simpa using recorded.turn) stopped
    intro edge listed start failure holds followed
    simp only [followEdge] at followed
    split at followed
    · cases followed
    · rename_i unmet
      cases seen : visibleEntity graph query (edge.otherEnd walk.entityId) with
      | none =>
          rw [seen] at followed
          cases followed
      | some entity =>
          rw [seen] at followed
          simp only at followed
          split at followed
          · rename_i full
            cases followed
            have reached : walk.extend edge ∈ searchTerm graph query walk :=
              mem_searchTerm_iff.mpr ⟨not_le.mp shallow, edge, listed, nextWalk_eq_some.mpr
                ⟨unmet, Option.isSome_iff_exists.mpr ⟨entity, seen⟩, rfl⟩⟩
            have traced := (holds.traced walk List.mem_cons_self).step reached
            exact ⟨rfl, holds.tooMany (Tables.lookup_isNone_iff.mp full.1)
              ⟨_, traced.2, List.mem_append_right _ (List.mem_singleton_self _)⟩ full.2⟩
          · cases followed

theorem recorded_begins {start : EconomicEntity}
    (seen : visibleEntity graph query query.startEntityId = some start)
    (deep : 1 ≤ query.maxDepth) (wide : 1 ≤ query.maxNodes) :
    Recorded graph query ⟨0, [start], [], []⟩ [Walk.begins query.startEntityId] := by
  have named : start.id = query.startEntityId := visibleEntity_id seen
  have visible : (visibleEntity graph query query.startEntityId).isSome = true :=
    Option.isSome_iff_exists.mpr ⟨start, seen⟩
  have listed : query.startEntityId ∈ [start].map EconomicEntity.id :=
    List.mem_singleton.mpr named.symm
  constructor
  · exact List.nodup_singleton _
  · intro entityId member
    rw [List.mem_singleton.mp member, named]
    exact ⟨_, simplePath_nil visible deep, List.mem_singleton_self _⟩
  · exact wide
  · exact listed
  · intro path impossible
    cases impossible
  · intro walk queued
    rw [List.mem_singleton.mp queued]
    exact traced_begins visible deep
  · intro walk queued entityId member
    rw [List.mem_singleton.mp queued] at member
    rw [List.mem_singleton.mp member]
    exact listed

end Counting

/-! ## The answer -/

/-- The answer of a traversal: its paths are the simple paths of at least one relationship,
each of them once. -/
def Exact (graph : Graph) (query : GraphQuery) (answer : Neighborhood) : Prop :=
  answer.paths.Nodup ∧
    forall path, path ∈ answer.paths <-> SimplePath graph query path ∧ 0 < path.depth

section Answers

variable {casefold : String -> String} {clock : Nat -> Rat} {graph : Graph} {query : GraphQuery}

/-- What the search finds are the simple paths. -/
theorem searched_iff (start : (visibleEntity graph query query.startEntityId).isSome = true)
    (deep : 1 ≤ query.maxDepth) {path : GraphPath} :
    (exists walk, Searched graph query walk ∧ walk.path = path) <->
      SimplePath graph query path ∧ 0 < path.depth := by
  constructor
  · rintro ⟨walk, searched, same⟩
    subst same
    have traced : Traced graph query walk := searched.preserves
      (motive := Traced graph query) (fun _ _ holds expanded => holds.step expanded)
      (traced_begins start deep)
    rcases Relation.TransGen.tail'_iff.mp searched with ⟨before, _, last⟩
    rcases mem_searchTerm_iff.mp last with ⟨_, edge, _, kept⟩
    rcases nextWalk_eq_some.mp kept with ⟨_, _, same⟩
    subst same
    exact ⟨traced.2, Nat.succ_pos _⟩
  · rintro ⟨simple, positive⟩
    rcases simple.walked with ⟨walk, shown, _, reached⟩
    rcases Relation.reflTransGen_iff_eq_or_transGen.mp reached with first | searched
    · subst first
      subst shown
      exact absurd positive (Nat.lt_irrefl 0)
    · exact ⟨walk, searched, shown⟩

/-- With the clock left aside, the traversal is exact: it gives up when more entities lie on
the simple paths than the request permits, and only then. -/
theorem boundedGraph_exact (keyed : (graph.relationships.map EconomicRelationship.id).Nodup)
    (depth : 1 ≤ query.maxDepth ∧ query.maxDepth ≤ 5)
    (nodes : 1 ≤ query.maxNodes ∧ query.maxNodes ≤ 500)
    (timeout : 10 ≤ query.timeoutMs ∧ query.timeoutMs ≤ 5000)
    (timely : forall turn, clock turn ≤ query.timeoutMs)
    (start : (visibleEntity graph query query.startEntityId).isSome = true) :
    (TooMany graph query ∧ boundedGraphAsOf casefold clock graph query =
        some (.error (.limit "graph traversal exceeded node limit"))) ∨
      (¬ TooMany graph query ∧ exists answer,
        boundedGraphAsOf casefold clock graph query = some (.ok answer) ∧
          Exact graph query answer) := by
  rcases Option.isSome_iff_exists.mp start with ⟨entity, seen⟩
  have named : entity.id = query.startEntityId := visibleEntity_id seen
  have initial := recorded_begins seen depth.1 nodes.1
  rcases boundedGraphAsOf_ends graph query casefold clock with ⟨outcome, ends⟩
  have ran := ends
  simp only [boundedGraphAsOf, not_true_eq_false, depth, nodes, timeout, seen, named,
    and_self, if_false] at ran
  rcases Option.map_eq_some_iff.mp ran with ⟨result, searched, answers⟩
  cases result with
  | error raised =>
      cases answers
      have failed : raised = .limit "graph traversal exceeded node limit" ∧
          TooMany graph query :=
        search_error (motive := Recorded graph query)
          (fun raised =>
            raised = .limit "graph traversal exceeded node limit" ∧ TooMany graph query)
          (fun _ _ _ _ _ holds expanded => holds.expand expanded)
          (fun _ _ _ _ holds stopped => holds.fails timely stopped) initial searched
      rcases failed with ⟨same, tooMany⟩
      subst same
      exact Or.inl ⟨tooMany, ends⟩
  | ok found =>
      cases answers
      have recorded := search_ok (motive := Recorded graph query)
        (fun _ _ _ _ _ holds expanded => holds.expand expanded) initial searched
      have exactly : forall path, path ∈ (neighborhood casefold query found).paths <->
          SimplePath graph query path ∧ 0 < path.depth :=
        fun path => ((boundedGraphAsOf_paths ends).2 path).trans (searched_iff start depth.1)
      refine Or.inr ⟨?_, _, ends, ?_, exactly⟩
      · rintro ⟨entityIds, more, lie⟩
        have known : entityIds ⊆ (found.entities.map EconomicEntity.id).toFinset := by
          intro entityId member
          rw [List.mem_toFinset]
          rcases lie entityId member with ⟨path, simple, on⟩
          rcases Nat.eq_zero_or_pos path.depth with empty | positive
          · have length := simple.ends
            rw [empty] at length
            rcases List.length_eq_one_iff.mp length with ⟨only, same⟩
            have starts := simple.starts
            rw [same] at starts on
            cases starts
            rw [List.mem_singleton.mp on]
            exact recorded.started
          · have listed := (exactly path).mpr ⟨simple, positive⟩
            rw [neighborhood, mem_sortedBy] at listed
            exact recorded.recorded path listed entityId on
        have fewer := Finset.card_le_card known
        have counted := List.toFinset_card_le (found.entities.map EconomicEntity.id)
        have few := recorded.few
        rw [List.length_map] at counted
        omega
      · rw [neighborhood, nodup_sortedBy]
        have visited : exists walks : List Walk, found.paths = [] ++ walks.map Walk.path ∧
            ([] ++ [Walk.begins query.startEntityId] ++ walks).Nodup ∧
            forall walk, walk ∈ walks -> Traced graph query walk :=
          search_distinct (motive := Traced graph query)
            (fun _ _ _ _ expanded => expandWalk_ok expanded)
            (fun _ _ holds expanded => holds.step expanded)
            (fun walk _ => searchTerm_nodup keyed walk)
            (fun _ _ _ left right first second => searchTerm_parent left right first second)
            searched
            (fun walk queued => initial.traced walk queued)
            (List.nodup_singleton _)
            (by
              intro walk source queued _ expanded
              rw [List.mem_singleton.mp queued] at expanded
              exact absurd expanded begins_not_found)
        rcases visited with ⟨walks, shown, distinct, traced⟩
        rw [shown, List.nil_append]
        have once : walks.Nodup := (List.nodup_append.mp distinct).2.1
        exact once.map_on fun left leftListed right rightListed same =>
          (traced left leftListed).ext (traced right rightListed) same

end Answers

/-! ## Two companies that supply each other -/

def suppliedBy : EconomicRelationship :=
  { supplies with id := 10, subjectEntityId := 1, objectEntityId := 2 }

def mutualGraph : Graph :=
  ⟨[acme, supplier .disputed], [supplies, suppliedBy], [], []⟩

def mutualQuery : GraphQuery := { supplyQuery with maxDepth := 2, predicates := some ["SUPPLIES"] }

def mutualAnswer : Neighborhood where
  asOf := 5
  maxDepth := 2
  maxNodes := 100
  nodes := [serializeEntity acme, serializeEntity (supplier .disputed)]
  relationships := [serializeRelationship suppliedBy, serializeRelationship supplies]
  paths := [⟨[1, 2], [10], 1⟩, ⟨[1, 2], [9], 1⟩]
  truncated := false

/-- Each of the two relationships is a path of its own. -/
theorem mutualGraph_exact :
    boundedGraphAsOf id (fun _ => 0) mutualGraph mutualQuery = some (.ok mutualAnswer) ∧
      Exact mutualGraph mutualQuery mutualAnswer := by
  have answered : boundedGraphAsOf id (fun _ => 0) mutualGraph mutualQuery =
      some (.ok mutualAnswer) := by
    decide +kernel
  refine ⟨answered, ?_⟩
  rcases @boundedGraph_exact id (fun _ => 0) mutualGraph mutualQuery (by decide) (by decide)
    (by decide) (by decide)
    (by
      intro _
      decide)
    (by decide) with
    ⟨_, stopped⟩ | ⟨_, answer, same, exactly⟩
  · rw [answered] at stopped
    cases stopped
  · rw [answered] at same
    cases same
    exact exactly

end EconomicGraph
end MarketIntelligence
