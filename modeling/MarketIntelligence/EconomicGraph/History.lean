import MarketIntelligence.EconomicGraph.Parity
import MarketIntelligence.EconomicGraph.Service
import MarketIntelligence.Foundations.SortedLists

namespace MarketIntelligence
namespace EconomicGraph

open Foundations
open SortedLists
open Expansion

/-!
# The graph at an instant of the past

The answer for an instant reads the visible entities and the visible relationships
between them.  A relationship that is created later is not visible at the instant.  One
that is expired loses its status as well, and with it its place in every earlier answer.
-/

/-! ## What an answer depends on -/

/-- The entity is visible at the instant. -/
def entitySeen (graph : Graph) (asOf : Instant) (workspaceId entityId : Identifier) : Bool :=
  graph.entities.any fun entity =>
    entity.id = entityId && entity.workspaceId = workspaceId && entityVisible asOf entity

/-- The relationship is visible at the instant, and so are the entities it joins. -/
def relationshipSeen (graph : Graph) (asOf : Instant) (edge : EconomicRelationship) : Bool :=
  relationshipVisible asOf edge &&
    (entitySeen graph asOf edge.workspaceId edge.subjectEntityId &&
      entitySeen graph asOf edge.workspaceId edge.objectEntityId)

/-- The same entities, and the same relationships to be seen at the instant. -/
structure SameAt (asOf : Instant) (graph other : Graph) : Prop where
  entities : graph.entities = other.entities
  relationships : graph.relationships.filter (relationshipSeen graph asOf) =
    other.relationships.filter (relationshipSeen other asOf)

section Answers

variable {graph other : Graph} {query : GraphQuery}

theorem isSome_visibleEntity (entityId : Identifier) :
    (visibleEntity graph query entityId).isSome =
      entitySeen graph query.asOf query.workspaceId entityId := by
  rw [Bool.eq_iff_iff, visibleEntity, List.find?_isSome, entitySeen, List.any_eq_true]

/-- An edge that is not seen leads from a visible entity to one that is not. -/
theorem visibleEntity_unseen {entityId : Identifier} {edge : EconomicRelationship}
    (here : (visibleEntity graph query entityId).isSome = true)
    (listed : edge ∈ edgesOf graph query entityId)
    (unseen : relationshipSeen graph query.asOf edge = false) :
    visibleEntity graph query (edge.otherEnd entityId) = none := by
  rw [edgesOf, mem_sortedBy, List.mem_filter] at listed
  simp only [Bool.and_eq_true, Bool.or_eq_true, decide_eq_true_eq] at listed
  rcases listed with ⟨_, ⟨⟨workspace, joined⟩, visible⟩, _⟩
  rw [isSome_visibleEntity] at here
  rw [← Option.not_isSome_iff_eq_none, isSome_visibleEntity]
  intro beyond
  simp only [relationshipSeen, visible, workspace, Bool.true_and] at unseen
  unfold EconomicRelationship.otherEnd at beyond
  by_cases subject : edge.subjectEntityId = entityId
  · rw [if_pos subject] at beyond
    rw [subject, here, beyond] at unseen
    cases unseen
  · rw [if_neg subject] at beyond
    rw [joined.resolve_left subject, here, beyond] at unseen
    cases unseen

/-- Edges to entities that are not visible are passed over. -/
theorem followEdges_filter {walk : Walk} {edges : List EconomicRelationship}
    {kept : EconomicRelationship -> Bool}
    (dropped : forall edge, edge ∈ edges -> kept edge = false ->
      visibleEntity graph query (edge.otherEnd walk.entityId) = none)
    (found : Findings × List Walk) :
    edges.foldlM (followEdge graph query walk) found =
      (edges.filter kept).foldlM (followEdge graph query walk) found := by
  induction edges generalizing found with
  | nil => rfl
  | cons edge rest ih =>
      have later := ih fun other member =>
        dropped other (List.mem_cons_of_mem _ member)
      cases keep : kept edge with
      | true =>
          rw [List.filter_cons_of_pos keep, List.foldlM_cons, List.foldlM_cons]
          exact congrArg _ (funext fun next => later next)
      | false =>
          have skipped : followEdge graph query walk found edge = .ok found := by
            rcases found with ⟨found, items⟩
            simp only [followEdge, dropped edge List.mem_cons_self keep, ite_self]
          rw [List.filter_cons_of_neg (by simp [keep]), List.foldlM_cons, skipped]
          exact later found

theorem SameAt.visibleEntity (same : SameAt query.asOf graph other) (entityId : Identifier) :
    visibleEntity graph query entityId = EconomicGraph.visibleEntity other query entityId := by
  simp only [EconomicGraph.visibleEntity, same.entities]

/-- The edges that are seen are the same. -/
theorem SameAt.edgesOf (same : SameAt query.asOf graph other) (entityId : Identifier) :
    (EconomicGraph.edgesOf graph query entityId).filter (relationshipSeen graph query.asOf) =
      (EconomicGraph.edgesOf other query entityId).filter (relationshipSeen other query.asOf) := by
  simp only [EconomicGraph.edgesOf]
  rw [sortedBy_filter, sortedBy_filter,
    List.filter_comm (relationshipSeen graph query.asOf),
    List.filter_comm (relationshipSeen other query.asOf), same.relationships]

theorem SameAt.expandWalk (same : SameAt query.asOf graph other) {clock : Nat -> Rat}
    {found : Findings} {walk : Walk}
    (here : (EconomicGraph.visibleEntity graph query walk.entityId).isSome = true) :
    expandWalk graph query clock found walk =
      EconomicGraph.expandWalk other query clock found walk := by
  have follows : followEdge graph query walk = followEdge other query walk := by
    funext found edge
    rcases found with ⟨found, items⟩
    simp only [followEdge, same.visibleEntity]
  have there : (EconomicGraph.visibleEntity other query walk.entityId).isSome = true := by
    rw [← same.visibleEntity]
    exact here
  simp only [EconomicGraph.expandWalk]
  rw [followEdges_filter fun edge listed unseen => visibleEntity_unseen here listed unseen,
    followEdges_filter fun edge listed unseen => visibleEntity_unseen there listed unseen,
    same.edgesOf, follows]

/-- The search goes into visible entities only. -/
theorem searchTerm_visible {walk next : Walk} (expanded : next ∈ searchTerm graph query walk) :
    (visibleEntity graph query next.entityId).isSome = true := by
  unfold searchTerm at expanded
  split at expanded
  · cases expanded
  · rcases List.mem_filterMap.mp expanded with ⟨edge, _, kept⟩
    unfold nextWalk at kept
    split at kept
    · cases kept
    · rcases Option.map_eq_some_iff.mp kept with ⟨entity, seen, same⟩
      subst same
      exact Option.isSome_iff_exists.mpr ⟨entity, seen⟩

/-- An answer is determined by what is to be seen at its instant. -/
theorem SameAt.boundedGraphAsOf (same : SameAt query.asOf graph other)
    (casefold : String -> String) (clock : Nat -> Rat) :
    boundedGraphAsOf casefold clock graph query =
      EconomicGraph.boundedGraphAsOf casefold clock other query := by
  have ends := boundedGraphAsOf_ends graph query casefold clock
  have otherEnds := boundedGraphAsOf_ends other query casefold clock
  unfold EconomicGraph.boundedGraphAsOf at ends otherEnds ⊢
  rw [← same.visibleEntity] at otherEnds ⊢
  split
  · rfl
  · rename_i deep
    rw [if_neg deep] at ends otherEnds
    split
    · rfl
    · rename_i wide
      rw [if_neg wide] at ends otherEnds
      split
      · rfl
      · rename_i late
        rw [if_neg late] at ends otherEnds
        cases seen : EconomicGraph.visibleEntity graph query query.startEntityId with
        | none => rfl
        | some start =>
            rw [seen] at ends otherEnds
            have startId : start.id = query.startEntityId := visibleEntity_id seen
            have agrees : forall fuel,
                search (EconomicGraph.expandWalk graph query clock) fuel ⟨0, [start], [], []⟩
                    [Walk.begins start.id] =
                  search (EconomicGraph.expandWalk other query clock) fuel ⟨0, [start], [], []⟩
                    [Walk.begins start.id] := by
              intro fuel
              apply search_congr (motive := fun walk =>
                (EconomicGraph.visibleEntity graph query walk.entityId).isSome = true)
              · exact fun found walk here => same.expandWalk here
              · intro found walk next items here expanded further listed
                rw [(expandWalk_ok expanded).1] at listed
                exact searchTerm_visible listed
              · intro walk listed
                rw [List.mem_singleton.mp listed, Walk.begins, startId, seen]
                rfl
            rcases ends with ⟨_, ends⟩
            rcases otherEnds with ⟨_, otherEnds⟩
            rcases Option.map_eq_some_iff.mp ends with ⟨outcome, searched, _⟩
            rcases Option.map_eq_some_iff.mp otherEnds with ⟨otherOutcome, otherSearched, _⟩
            have both : some outcome = some otherOutcome := by
              rw [← search_mono searched (Nat.le_max_left _ (turnLimit other query)),
                ← search_mono otherSearched (Nat.le_max_right (turnLimit graph query) _), agrees]
            cases both
            dsimp only
            rw [searched, otherSearched]

end Answers

/-! ## Later operations -/

/-- The effective and eligibility times of the operation are later than the instant. -/
def Later (asOf : Instant) : GraphOperation -> Prop
  | .create request => asOf < request.validFrom ∧ asOf < request.simulationEligibleTime
  | .expire _ validTo => asOf < validTo

instance (asOf : Instant) : DecidablePred (Later asOf)
  | .create request =>
      inferInstanceAs (Decidable (asOf < request.validFrom ∧ asOf < request.simulationEligibleTime))
  | .expire _ validTo => inferInstanceAs (Decidable (asOf < validTo))

/-- The operation expires a relationship that is to be seen at the instant. -/
def Forgets (asOf : Instant) (graph : Graph) : GraphOperation -> Prop
  | .create _ => False
  | .expire relationshipId _ =>
      exists relationship,
        Tables.lookup EconomicRelationship.id relationshipId graph.relationships =
          some relationship ∧
        relationshipSeen graph asOf relationship = true

section Operations

variable {graph : Graph} {asOf : Instant}

theorem relationshipSeen_later {edge : EconomicRelationship} (later : asOf < edge.validFrom) :
    relationshipSeen graph asOf edge = false := by
  have early : decide (edge.validFrom ≤ asOf) = false := decide_eq_false (not_le.mpr later)
  simp only [relationshipSeen, relationshipVisible, early, Bool.and_false, Bool.false_and]

theorem relationshipSeen_expired {edge : EconomicRelationship} (expired : edge.status = .expired) :
    relationshipSeen graph asOf edge = false := by
  have gone : decide (edge.status ∈ [GraphStatus.verified, GraphStatus.disputed]) = false := by
    rw [expired]
    decide
  simp only [relationshipSeen, relationshipVisible, gone, Bool.and_false, Bool.false_and]

theorem relationshipSeen_congr {other : Graph} (entities : graph.entities = other.entities) :
    relationshipSeen graph asOf = relationshipSeen other asOf := by
  funext edge
  simp only [relationshipSeen, entitySeen, entities]

theorem expireRelationship_ok {relationship expired : EconomicRelationship} {validTo : Instant}
    (done : expireRelationship relationship validTo = .ok expired) :
    expired = { relationship with validTo := some validTo, status := .expired } := by
  unfold expireRelationship at done
  split at done
  · cases done
  · exact (Except.ok.inj done).symm

/-- The step lemma: a later operation leaves what is to be seen at the instant as it was,
unless it expires a part of it. -/
theorem operate_sameAt {operation : GraphOperation} (later : Later asOf operation)
    (spared : ¬ Forgets asOf graph operation) : SameAt asOf (operate graph operation) graph := by
  cases operation with
  | create request =>
      simp only [operate]
      cases done : createRelationship graph request with
      | error raised => exact ⟨rfl, rfl⟩
      | ok outcome =>
          rcases outcome with ⟨item, created, written⟩
          rcases createRelationship_ok done with same | ⟨entities, relationships, begins⟩
          · exact same ▸ ⟨rfl, rfl⟩
          · have hidden : relationshipSeen graph asOf item = false :=
              relationshipSeen_later (begins ▸ later.1)
            refine ⟨entities, ?_⟩
            dsimp only
            rw [relationshipSeen_congr entities, relationships, List.filter_append,
              List.filter_cons_of_neg (by simp [hidden]), List.filter_nil, List.append_nil]
  | expire relationshipId validTo =>
      simp only [operate]
      cases found : Tables.lookup EconomicRelationship.id relationshipId graph.relationships with
      | none => exact ⟨rfl, rfl⟩
      | some relationship =>
          dsimp only
          cases done : expireRelationship relationship validTo with
          | error raised => exact ⟨rfl, rfl⟩
          | ok expired =>
              have hidden : relationshipSeen graph asOf relationship = false := by
                by_contra seen
                exact spared ⟨relationship, found, by simpa using seen⟩
              have written := expireRelationship_ok done
              have sameId : expired.id = relationshipId := by
                rw [written]
                exact (Tables.lookup_some found).2
              refine ⟨rfl, ?_⟩
              exact Tables.filter_put (sameId ▸ found) hidden
                (relationshipSeen_expired (written ▸ rfl))

/-- While no operation expires what is to be seen at the instant, the answers for the
instant stay as they are. -/
theorem answers_kept {operations : List GraphOperation}
    (later : forall operation, operation ∈ operations -> Later asOf operation)
    (spared : Runs.Along operate (fun graph operation => ¬ Forgets asOf graph operation) graph
      operations) :
    forall visited, visited ∈ Runs.states operate graph operations ->
      forall casefold clock query, query.asOf = asOf ->
        boundedGraphAsOf casefold clock visited query =
          boundedGraphAsOf casefold clock graph query := by
  intro visited member casefold clock query here
  have same : SameAt asOf visited graph := by
    refine (spared.and_labels later).preserves (motive := fun state => SameAt asOf state graph)
      ?_ ⟨rfl, rfl⟩ visited member
    intro state operation permitted before
    have step := operate_sameAt permitted.2 permitted.1
    exact ⟨step.entities.trans before.entities, step.relationships.trans before.relationships⟩
  subst here
  exact same.boundedGraphAsOf casefold clock

end Operations

/-! ## A supplier that will be lost -/

/-- A relationship with another entity, from a later time on. -/
def laterRequest : RelationshipRequest where
  newId := 10
  subject := supplier .verified
  predicate := "OPERATES"
  objectEntity := acme
  validFrom := 20
  simulationEligibleTime := 30
  method := "filing"
  methodVersion := "1"
  components := confidenceWeights.map fun weight => (weight.1, 1)
  evidence := [⟨⟨50, 25⟩, "supporting", 1⟩]
  status := "verified"
  strength := none
  validTo := none

/-- It is created and expired, and the earlier answer stays. -/
theorem laterRequest_kept :
    (operate (supplyGraph .verified) (.create laterRequest)).relationships.map (·.id) = [9, 10] ∧
      forall visited, visited ∈ Runs.states operate (supplyGraph .verified)
          [.create laterRequest, .expire 10 40] ->
        forall casefold clock query, query.asOf = 5 ->
          boundedGraphAsOf casefold clock visited query =
            boundedGraphAsOf casefold clock (supplyGraph .verified) query := by
  refine ⟨by decide +kernel, answers_kept ?_ ?_⟩
  · intro operation member
    rcases List.mem_cons.mp member with first | second
    · subst first
      decide
    · rw [List.mem_singleton.mp second]
      decide
  · refine ⟨fun forgets => forgets, ?_, trivial⟩
    rintro ⟨relationship, found, seen⟩
    have there : (Tables.lookup EconomicRelationship.id 10
        (operate (supplyGraph .verified) (.create laterRequest)).relationships).any
          (relationshipSeen (operate (supplyGraph .verified) (.create laterRequest)) 5) =
        false := by
      decide +kernel
    rw [found] at there
    exact absurd (there.symm.trans seen) (by decide)

/-- The relationship is to end at 100, and is missing from the answer for 5. -/
theorem supplyExpiry_forgotten :
    ¬ forall operations : List GraphOperation,
      (forall operation, operation ∈ operations -> Later 5 operation) ->
      boundedGraphAsOf id (fun _ => 0) (operations.foldl operate (supplyGraph .verified))
          supplyQuery =
        boundedGraphAsOf id (fun _ => 0) (supplyGraph .verified) supplyQuery := by
  intro kept
  have same := kept [.expire 9 100] (by decide)
  exact absurd same (by decide +kernel)

end EconomicGraph
end MarketIntelligence
