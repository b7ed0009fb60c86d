import MarketIntelligence.AdversarialIntelligence.Reachability

namespace MarketIntelligence
namespace AdversarialIntelligence

open Foundations
open BreadthFirst
open Loops

/-!
# Several shocks, and the order of the edges

The first shock on a target is the one that spreads.  The impacts of two lists of shocks
are those of the first list and, from the targets that it leaves alone, those of the second.

Which of several shortest chains an impact follows depends on the order of the edges.  What
is reached, and how far away it is, does not.
-/

section Laws

variable {V : Type} {operations : FloatOperations V} {edges reordered : List (Edge V)}
  {shocks others : List (Shock V)} {depth : Nat}

/-- What a chain of edges makes of a shock, as an impact. -/
def impactOf (operations : FloatOperations V) (walk : ScenarioWalk V) :
    Except ValueError (Impact V) :=
  (itemOf operations walk).map (QueueItem.impact operations)

theorem mapM_impactOf (found : List (ScenarioWalk V)) :
    (found.mapM (itemOf operations)).map (List.map (QueueItem.impact operations)) =
      found.mapM (impactOf operations) := by
  induction found with
  | nil => rfl
  | cons walk rest ih =>
      cases here : itemOf operations walk with
      | error raised =>
          have stopped : impactOf operations walk = .error raised := by
            unfold impactOf
            rw [here]
            rfl
          rw [mapM_cons_error here, mapM_cons_error stopped]
          rfl
      | ok item =>
          have passed : impactOf operations walk = .ok (item.impact operations) := by
            unfold impactOf
            rw [here]
            rfl
          rw [mapM_cons_ok here, mapM_cons_ok passed, ← ih]
          cases rest.mapM (itemOf operations) <;> rfl

def outcome (operations : FloatOperations V) (shocks : List (Shock V)) (edges : List (Edge V))
    (maxDepth : Int) : Except ValueError (List (Impact V)) :=
  if 1 ≤ maxDepth ∧ maxDepth ≤ 8 then
    (scenarioWalks operations edges shocks maxDepth.toNat).mapM (impactOf operations)
  else .error (.refused "max_depth must be between 1 and 8")

theorem propagateScenario_outcome (shocks : List (Shock V)) (edges : List (Edge V))
    (maxDepth : Int) :
    propagateScenario operations shocks edges maxDepth =
      some (outcome operations shocks edges maxDepth) := by
  unfold outcome
  by_cases within : 1 ≤ maxDepth ∧ maxDepth ≤ 8
  · rw [if_pos within, propagateScenario_eq shocks edges within, mapM_impactOf]
  · rw [if_neg within]
    unfold propagateScenario
    exact if_pos within

theorem outcome_ok {maxDepth : Int} {impacts : List (Impact V)}
    (done : propagateScenario operations shocks edges maxDepth = some (.ok impacts)) :
    (1 ≤ maxDepth ∧ maxDepth ≤ 8) ∧
      (scenarioWalks operations edges shocks maxDepth.toNat).mapM (impactOf operations) =
        .ok impacts := by
  rw [propagateScenario_outcome] at done
  have result := Option.some.inj done
  unfold outcome at result
  by_cases within : 1 ≤ maxDepth ∧ maxDepth ≤ 8
  · rw [if_pos within] at result
    exact ⟨within, result⟩
  · rw [if_neg within] at result
    cases result

/-! ## Two lists of shocks -/

/-- The shocks of the second list on targets that the first leaves alone. -/
def notIn (shocks others : List (Shock V)) : List (Shock V) :=
  others.filter fun shock => shock.target ∉ shocks.map Shock.target

/-- No target of both lists has a supported edge.  A target that has none transmits nothing, so
it does not matter which of its shocks is kept. -/
def Apart (operations : FloatOperations V) (edges : List (Edge V))
    (shocks others : List (Shock V)) : Prop :=
  forall shock, shock ∈ shocks -> forall other, other ∈ others -> shock.target = other.target ->
    adjacency operations edges shock.target = []

theorem outcome_unites {second : List (Shock V)} {maxDepth : Int}
    (perm : (scenarioWalks operations edges (shocks ++ others) maxDepth.toNat).Perm
      (scenarioWalks operations edges shocks maxDepth.toNat ++
        scenarioWalks operations edges second maxDepth.toNat)) :
    Unites (outcome operations shocks edges maxDepth) (outcome operations second edges maxDepth)
      (outcome operations (shocks ++ others) edges maxDepth) := by
  unfold outcome
  by_cases within : 1 ≤ maxDepth ∧ maxDepth ≤ 8
  · rw [if_pos within, if_pos within, if_pos within]
    exact (mapM_append_unites _ _ _).rearrange (mapM_perm perm)
  · rw [if_neg within, if_neg within, if_neg within]
    exact .left _ _ _

theorem outcome_append (operations : FloatOperations V) (edges : List (Edge V)) (maxDepth : Int)
    (shocks others : List (Shock V)) :
    Unites (outcome operations shocks edges maxDepth)
      (outcome operations (notIn shocks others) edges maxDepth)
      (outcome operations (shocks ++ others) edges maxDepth) := by
  refine outcome_unites ?_
  have chosen := @walks_filter _ _ _ (scenarioGraph operations edges) Shock.target _
    (fun node => decide (node ∉ shocks.map Shock.target)) maxDepth.toNat others
  unfold notIn scenarioWalks
  rw [← chosen]
  exact walks_append_perm maxDepth.toNat shocks others

theorem outcome_append_apart {maxDepth : Int} (apart : Apart operations edges shocks others) :
    Unites (outcome operations shocks edges maxDepth) (outcome operations others edges maxDepth)
      (outcome operations (shocks ++ others) edges maxDepth) := by
  by_cases deep : 1 ≤ maxDepth
  · have split : maxDepth.toNat = (maxDepth.toNat - 1) + 1 := by omega
    refine outcome_unites ?_
    rw [split]
    exact walks_additive_iff.mpr apart
  · unfold outcome
    rw [if_neg (fun within => deep within.1), if_neg (fun within => deep within.1),
      if_neg (fun within => deep within.1)]
    exact .left _ _ _

/-- Where an impact is seen, and from where. -/
def Impact.seen (impact : Impact V) : String × String := (impact.sourceShock, impact.subject)

theorem impactOf_ok {walk : ScenarioWalk V} {impact : Impact V}
    (done : impactOf operations walk = .ok impact) :
    exists item, itemOf operations walk = .ok item ∧ item.impact operations = impact := by
  unfold impactOf at done
  cases made : itemOf operations walk with
  | error raised =>
      rw [made] at done
      cases done
  | ok item =>
      rw [made] at done
      cases done
      exact ⟨item, rfl, rfl⟩

theorem seen_of_outcome {maxDepth : Int} {impacts : List (Impact V)}
    (done : propagateScenario operations shocks edges maxDepth = some (.ok impacts)) :
    impacts.map Impact.seen =
      (scenarioWalks operations edges shocks maxDepth.toNat).map
        (Walk.mark (scenarioGraph operations edges) Shock.target) := by
  refine map_of_mapM (outcome_ok done).2 fun walk member impact own => ?_
  rcases impactOf_ok own with ⟨item, made, same⟩
  subst same
  exact impact_mark member made

/-- The impacts of both lists are those of each one only if no target of both has an edge. -/
theorem apart_of_perm {maxDepth : Int} {first second whole : List (Impact V)}
    (left : propagateScenario operations shocks edges maxDepth = some (.ok first))
    (right : propagateScenario operations others edges maxDepth = some (.ok second))
    (both : propagateScenario operations (shocks ++ others) edges maxDepth = some (.ok whole))
    (perm : whole.Perm (first ++ second)) : Apart operations edges shocks others := by
  intro shock member other otherMember same
  by_contra spreads
  rcases List.exists_mem_of_ne_nil _ spreads with ⟨edge, leaves⟩
  have split : maxDepth.toNat = (maxDepth.toNat - 1) + 1 := by
    have within := (outcome_ok left).1
    omega
  have shown : forall list : List (Shock V), forall start, start ∈ list ->
      start.target = shock.target -> forall impacts,
        propagateScenario operations list edges maxDepth = some (.ok impacts) ->
          (shock.target, edge.target) ∈ impacts.map Impact.seen := by
    intro list start listed own impacts done
    rw [seen_of_outcome done, split, ← own]
    have held : edge ∈ (scenarioGraph operations edges).out start.target := own ▸ leaves
    exact mark_of_edge listed held
  have distinct : ((first ++ second).map Impact.seen).Nodup := by
    refine ((perm.map Impact.seen).nodup_iff).mp ?_
    rw [seen_of_outcome both]
    exact walks_nodup _ _
  rw [List.map_append, List.nodup_append] at distinct
  exact distinct.2.2 _ (shown shocks shock member rfl first left) _
    (shown others other otherMember same.symm second right) rfl

/-! ## Edges in another order -/

/-- Any two shortest chains within the depth from a shock to a node make the same impact, so it
does not matter which of them the queue finds first. -/
def Unambiguous (operations : FloatOperations V) (edges : List (Edge V))
    (shocks : List (Shock V)) (maxDepth : Int) : Prop :=
  forall shock, shock ∈ shocks -> forall first second node,
    Shortest (scenarioGraph operations edges) shock.target first node ->
      Shortest (scenarioGraph operations edges) shock.target second node ->
        first.length ≤ maxDepth -> second.length ≤ maxDepth ->
          impactOf operations ⟨shock, first⟩ = impactOf operations ⟨shock, second⟩

/-- Where no two edges have one source, there is one shortest chain. -/
theorem unambiguous_of_nodup (distinct : (edges.map Edge.source).Nodup) (maxDepth : Int) :
    Unambiguous operations edges shocks maxDepth := by
  intro shock _ first second node shortest other _ _
  have single : forall start edge next, edge ∈ (scenarioGraph operations edges).out start ->
      next ∈ (scenarioGraph operations edges).out start -> edge = next := by
    intro start edge next leaves departs
    rcases List.mem_filter.mp leaves with ⟨listed, kept⟩
    rcases List.mem_filter.mp departs with ⟨nextListed, nextKept⟩
    have own := of_decide_eq_true (Bool.and_eq_true _ _ ▸ kept).2
    have nextOwn := of_decide_eq_true (Bool.and_eq_true _ _ ▸ nextKept).2
    exact List.inj_on_of_nodup_map distinct listed nextListed (own.trans nextOwn.symm)
  rw [shortest.connects.eq_of_single single other.connects (shortest.length_eq other)]

theorem scenarioGraph_reorders (perm : edges.Perm reordered) :
    (scenarioGraph operations edges).Reorders (scenarioGraph operations reordered) :=
  ⟨fun _ => perm.filter _, rfl⟩

theorem mapM_view (found : List (ScenarioWalk V)) :
    found.mapM (impactOf operations) = (found.map (impactOf operations)).mapM id := by
  rw [List.mapM_map]
  rfl

theorem outcome_reorder {maxDepth : Int} (perm : edges.Perm reordered)
    (unambiguous : Unambiguous operations edges shocks maxDepth) :
    Rearranges (outcome operations shocks edges maxDepth)
      (outcome operations shocks reordered maxDepth) := by
  unfold outcome
  by_cases within : 1 ≤ maxDepth ∧ maxDepth ≤ 8
  · rw [if_pos within, if_pos within, mapM_view, mapM_view]
    refine mapM_perm (walks_view_perm (scenarioGraph_reorders perm) ?_)
    intro shock member first second node shortest other short otherShort
    exact unambiguous shock member first second node shortest other (by omega) (by omega)
  · rw [if_neg within, if_neg within]
    exact .raised _ _

/-- Where an impact is seen, from where, and how far away. -/
def Impact.reach (impact : Impact V) : (String × String) × Nat :=
  (impact.seen, impact.transmissionPath.length)

theorem reach_of_outcome {maxDepth : Int} {impacts : List (Impact V)}
    (done : propagateScenario operations shocks edges maxDepth = some (.ok impacts)) :
    impacts.map Impact.reach =
      (scenarioWalks operations edges shocks maxDepth.toNat).map fun walk =>
        (walk.mark (scenarioGraph operations edges) Shock.target, walk.chain.length) := by
  refine map_of_mapM (outcome_ok done).2 fun walk member impact own => ?_
  rcases impactOf_ok own with ⟨item, made, same⟩
  subst same
  have stands := @stands_of_proper _ operations edges item walk.start walk.chain
    (walks_shortest member).1.connects made
  have long := congrArg List.length stands.sources
  rw [List.length_map, List.length_map] at long
  exact Prod.ext (impact_mark member made) long

theorem reach_reorder {maxDepth : Int} {impacts further : List (Impact V)}
    (perm : edges.Perm reordered)
    (done : propagateScenario operations shocks edges maxDepth = some (.ok impacts))
    (again : propagateScenario operations shocks reordered maxDepth = some (.ok further)) :
    (impacts.map Impact.reach).Perm (further.map Impact.reach) := by
  rw [reach_of_outcome done, reach_of_outcome again]
  refine walks_view_perm (scenarioGraph_reorders perm) ?_
  intro shock member first second node shortest other _ _
  unfold Walk.mark
  rw [← connects_unique shortest.connects, ← connects_unique other.connects,
    shortest.length_eq other]

/-- How the impacts depend on the lists of shocks and on the order of the edges.  The first shock
on a target is the one that counts, and the first of several shortest chains; where this makes no
difference, shocks add up and the order does not matter. -/
theorem propagateScenario_laws (operations : FloatOperations V) (edges : List (Edge V))
    (maxDepth : Int) :
    (forall shocks others, exists first second whole,
      propagateScenario operations shocks edges maxDepth = some first ∧
      propagateScenario operations (notIn shocks others) edges maxDepth = some second ∧
      propagateScenario operations (shocks ++ others) edges maxDepth = some whole ∧
      Unites first second whole) ∧
    (forall shocks others, Apart operations edges shocks others -> exists first second whole,
      propagateScenario operations shocks edges maxDepth = some first ∧
      propagateScenario operations others edges maxDepth = some second ∧
      propagateScenario operations (shocks ++ others) edges maxDepth = some whole ∧
      Unites first second whole) ∧
    (forall shocks others first second whole,
      propagateScenario operations shocks edges maxDepth = some (.ok first) ->
      propagateScenario operations others edges maxDepth = some (.ok second) ->
      propagateScenario operations (shocks ++ others) edges maxDepth = some (.ok whole) ->
      whole.Perm (first ++ second) -> Apart operations edges shocks others) ∧
    (forall shocks reordered, edges.Perm reordered -> forall impacts further,
      propagateScenario operations shocks edges maxDepth = some (.ok impacts) ->
      propagateScenario operations shocks reordered maxDepth = some (.ok further) ->
      (impacts.map Impact.reach).Perm (further.map Impact.reach)) ∧
    (forall shocks reordered, edges.Perm reordered ->
      Unambiguous operations edges shocks maxDepth -> exists result other,
        propagateScenario operations shocks edges maxDepth = some result ∧
        propagateScenario operations shocks reordered maxDepth = some other ∧
        Rearranges result other) := by
  refine ⟨?_, ?_, ?_, ?_, ?_⟩
  · intro shocks others
    exact ⟨_, _, _, propagateScenario_outcome _ _ _, propagateScenario_outcome _ _ _,
      propagateScenario_outcome _ _ _, outcome_append operations edges maxDepth shocks others⟩
  · intro shocks others apart
    exact ⟨_, _, _, propagateScenario_outcome _ _ _, propagateScenario_outcome _ _ _,
      propagateScenario_outcome _ _ _, outcome_append_apart apart⟩
  · intro shocks others first second whole left right both perm
    exact apart_of_perm left right both perm
  · intro shocks reordered perm impacts further done again
    exact reach_reorder perm done again
  · intro shocks reordered perm unambiguous
    exact ⟨_, _, propagateScenario_outcome _ _ _, propagateScenario_outcome _ _ _,
      outcome_reorder perm unambiguous⟩

end Laws

/-! ## A target that is shocked twice, and parallel edges -/

def mineEdge (weight : Rat) : Edge Rat := supportedEdge "mine" "smelter" "LINEAR" weight

/-- What the edge of a weight makes of a shock on the mine. -/
def smelterImpact (shock weight : Rat) : Impact Rat :=
  QueueItem.impact exactOperations
    { node := "smelter"
      value := shock * weight
      path := [stepOf exactOperations "mine" (mineEdge weight) (shock * weight)]
      depth := 1
      origin := "mine" }

/-- The second shock on the mine is lost, and the smelter has the weight of the first edge. -/
theorem smelter_depends :
    (exists first second whole,
      propagateScenario exactOperations [⟨"mine", 1⟩] [mineEdge 1] 4 = some (.ok first) ∧
      propagateScenario exactOperations [⟨"mine", 2⟩] [mineEdge 1] 4 = some (.ok second) ∧
      propagateScenario exactOperations ([⟨"mine", 1⟩] ++ [⟨"mine", 2⟩]) [mineEdge 1] 4 =
        some (.ok whole) ∧
      ¬ whole.Perm (first ++ second)) ∧
    (exists impacts further,
      [mineEdge 1, mineEdge 2].Perm [mineEdge 2, mineEdge 1] ∧
      propagateScenario exactOperations [⟨"mine", 1⟩] [mineEdge 1, mineEdge 2] 4 =
        some (.ok impacts) ∧
      propagateScenario exactOperations [⟨"mine", 1⟩] [mineEdge 2, mineEdge 1] 4 =
        some (.ok further) ∧
      ¬ impacts.Perm further) := by
  refine ⟨⟨[smelterImpact 1 1], [smelterImpact 2 1], [smelterImpact 1 1], ?_, ?_, ?_, ?_⟩,
    ⟨[smelterImpact 1 1], [smelterImpact 1 2], .swap _ _ _, ?_, ?_, ?_⟩⟩
  · decide +kernel
  · decide +kernel
  · decide +kernel
  · exact fun perm => absurd perm.length_eq (by decide)
  · decide +kernel
  · decide +kernel
  · decide +kernel

/-- A ring: what leaves the mine comes back to it. -/
def ringEdges : List (Edge Rat) :=
  [supportedEdge "mine" "smelter" "LINEAR" (1 / 2), supportedEdge "smelter" "foundry" "LINEAR" 3,
    supportedEdge "foundry" "mine" "THRESHOLD" 2]

/-- Shocks on two nodes of the ring add up, in any order of its edges.  Two shocks on one node
add up where nothing leaves it, and parallel edges reach the same nodes in either order. -/
theorem propagateScenario_laws_ring :
    (exists first second whole,
      propagateScenario exactOperations [⟨"mine", 1⟩] ringEdges 4 = some first ∧
      propagateScenario exactOperations [⟨"foundry", 2⟩] ringEdges 4 = some second ∧
      propagateScenario exactOperations ([⟨"mine", 1⟩] ++ [⟨"foundry", 2⟩]) ringEdges 4 =
        some whole ∧
      Unites first second whole) ∧
    (exists result other,
      propagateScenario exactOperations [⟨"mine", 1⟩] ringEdges 4 = some result ∧
      propagateScenario exactOperations [⟨"mine", 1⟩] ringEdges.reverse 4 = some other ∧
      Rearranges result other) ∧
    Apart exactOperations [mineEdge 1] [⟨"smelter", 1⟩] [⟨"smelter", 2⟩] ∧
    ([smelterImpact 1 1].map Impact.reach).Perm ([smelterImpact 1 2].map Impact.reach) := by
  have ring := propagateScenario_laws exactOperations ringEdges 4
  have apart : Apart exactOperations ringEdges [⟨"mine", 1⟩] [⟨"foundry", 2⟩] := by
    intro shock member other otherMember same
    rw [List.mem_singleton.mp member, List.mem_singleton.mp otherMember] at same
    exact absurd same (by decide)
  have unambiguous : Unambiguous exactOperations ringEdges [⟨"mine", 1⟩] 4 :=
    unambiguous_of_nodup (by decide) 4
  refine ⟨ring.2.1 _ _ apart,
    ring.2.2.2.2 _ _ (List.reverse_perm ringEdges).symm unambiguous, ?_, ?_⟩
  · exact (propagateScenario_laws exactOperations [mineEdge 1] 4).2.2.1 _ _ [] [] []
      (by decide +kernel) (by decide +kernel) (by decide +kernel) (List.Perm.refl _)
  · exact (propagateScenario_laws exactOperations [mineEdge 1, mineEdge 2] 4).2.2.2.1
      [⟨"mine", 1⟩] _ (.swap _ _ _) _ _ (by decide +kernel) (by decide +kernel)

end AdversarialIntelligence
end MarketIntelligence
