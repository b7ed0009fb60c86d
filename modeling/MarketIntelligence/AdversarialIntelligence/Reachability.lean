import MarketIntelligence.AdversarialIntelligence.Propagation

namespace MarketIntelligence
namespace AdversarialIntelligence

open Foundations
open BreadthFirst
open Loops

/-!
# What a scenario reaches

Every impact is a chain of supported edges from the target of a shock, with the value that
the chain makes of the shock.  Everything within the depth has one impact, by a shortest
chain.
-/

section Chains

variable {V : Type} (operations : FloatOperations V)

/-- The value at the end of a chain. -/
def transmitted (value : V) (chain : List (Edge V)) : Except ValueError V :=
  chain.foldlM (fun value edge =>
    transmissionValue operations edge.kind value (edge.weighted operations)) value

/-- The steps of a chain, each with the value that it passes on. -/
def pathSteps : V -> List (Edge V) -> Except ValueError (List (PathStep V))
  | _, [] => .ok []
  | value, edge :: rest => do
      let next ← transmissionValue operations edge.kind value (edge.weighted operations)
      let steps ← pathSteps next rest
      .ok (stepOf operations edge.source edge next :: steps)

/-- The impact is what a chain of supported edges makes of a shock. -/
structure Traced (edges : List (Edge V)) (maxDepth : Int) (shock : Shock V)
    (chain : List (Edge V)) (impact : Impact V) : Prop where
  source : impact.sourceShock = shock.target
  connects : (scenarioGraph operations edges).Connects shock.target chain impact.subject
  moved : chain ≠ []
  short : chain.length ≤ maxDepth
  value : transmitted operations shock.value chain = .ok impact.value
  path : pathSteps operations shock.value chain = .ok impact.transmissionPath
  range : impact.uncertaintyRange =
    (operations.multiply impact.value operations.fourFifths,
      operations.multiply impact.value operations.sixFifths)

/-- Every impact has its chain, no subject has two from one shock, and what a shock reaches
within the depth has one. -/
structure Reaches (shocks : List (Shock V)) (edges : List (Edge V)) (maxDepth : Int)
    (impacts : List (Impact V)) : Prop where
  sound : forall impact, impact ∈ impacts ->
    exists shock chain, shock ∈ shocks ∧ Traced operations edges maxDepth shock chain impact
  unique : (impacts.map fun impact => (impact.sourceShock, impact.subject)).Nodup
  complete : forall shock, shock ∈ shocks -> forall chain node,
    (scenarioGraph operations edges).Connects shock.target chain node ->
      chain.length ≤ maxDepth -> node ≠ shock.target ->
        exists impact, impact ∈ impacts ∧ impact.sourceShock = shock.target ∧
          impact.subject = node

variable {operations} {edges : List (Edge V)} {walk : ScenarioWalk V} {item : QueueItem V}

theorem pathSteps_concat {value reached next : V} {chain : List (Edge V)} {edge : Edge V}
    {steps : List (PathStep V)} (before : pathSteps operations value chain = .ok steps)
    (arrives : transmitted operations value chain = .ok reached)
    (passes : transmissionValue operations edge.kind reached (edge.weighted operations) =
      .ok next) :
    pathSteps operations value (chain ++ [edge]) =
      .ok (steps ++ [stepOf operations edge.source edge next]) := by
  induction chain generalizing value steps with
  | nil =>
      cases before
      cases arrives
      simp only [List.nil_append, pathSteps]
      rw [except_bind_eq passes]
      rfl
  | cons head tail ih =>
      simp only [pathSteps] at before
      rcases except_bind_ok before with ⟨middle, first, rest⟩
      rcases except_bind_ok rest with ⟨others, later, ends⟩
      cases ends
      have further : transmitted operations middle tail = .ok reached := by
        unfold transmitted at arrives
        rw [List.foldlM_cons, except_bind_eq first] at arrives
        exact arrives
      simp only [List.cons_append, pathSteps]
      rw [except_bind_eq first, except_bind_eq (ih later further)]

/-- The item of a walk has the value and the steps of its chain. -/
theorem item_traced {shock : Shock V} {chain : List (Edge V)}
    (proper : (Walk.mk shock chain).Proper (scenarioGraph operations edges) Shock.target)
    (made : itemOf operations ⟨shock, chain⟩ = .ok item) :
    transmitted operations shock.value chain = .ok item.value ∧
      pathSteps operations shock.value chain = .ok item.path := by
  induction chain using List.reverseRecOn generalizing item with
  | nil =>
      cases made
      exact ⟨rfl, rfl⟩
  | append_singleton before edge ih =>
      rcases itemOf_concat made with ⟨earlier, first, advanced⟩
      rcases proper.of_concat with ⟨ends, leaves⟩
      rcases ih ends first with ⟨value, steps⟩
      rcases advance_ok advanced with ⟨_, _, _, _, passes, path⟩
      have node : earlier.node = edge.source := by
        rw [(stands_of_proper ends first).node]
        exact ((scenarioGraph operations edges).source_out _ _ leaves).symm
      refine ⟨?_, ?_⟩
      · unfold transmitted at value ⊢
        rw [List.foldlM_append, except_bind_eq value, List.foldlM_cons, except_bind_eq passes]
        rfl
      · rw [path, node]
        exact pathSteps_concat steps value passes

/-- The impact of a walk of the search. -/
theorem impact_traced {shocks : List (Shock V)} {maxDepth : Int} (positive : 0 ≤ maxDepth)
    (member : walk ∈ scenarioWalks operations edges shocks maxDepth.toNat)
    (made : itemOf operations walk = .ok item) :
    Traced operations edges maxDepth walk.start walk.chain (item.impact operations) := by
  rcases walks_shortest member with ⟨shortest, _, short⟩
  have stands := @stands_of_proper _ operations edges item walk.start walk.chain
    shortest.connects made
  rcases item_traced shortest.connects made with ⟨value, path⟩
  refine ⟨stands.origin, ?_, shortest.moved, ?_, value, path, rfl⟩
  · have node : (item.impact operations).subject =
        walk.node (scenarioGraph operations edges) Shock.target := stands.node
    rw [node]
    exact shortest.connects
  · exact Int.le_trans (Int.ofNat_le.mpr short) (le_of_eq (Int.toNat_of_nonneg positive))

/-- An impact shows its walk's start node and end. -/
theorem impact_mark {shocks : List (Shock V)} {depth : Nat}
    (member : walk ∈ scenarioWalks operations edges shocks depth)
    (made : itemOf operations walk = .ok item) :
    ((item.impact operations).sourceShock, (item.impact operations).subject) =
      walk.mark (scenarioGraph operations edges) Shock.target := by
  have stands := @stands_of_proper _ operations edges item walk.start walk.chain
    (walks_shortest member).1.connects made
  exact Prod.ext stands.origin stands.node

theorem transmissionValue_known {kind : String} (known : kind ∈ transmissionFunctions)
    (shock : V) (parameters : Parameters V) :
    exists value, transmissionValue operations kind shock parameters = .ok value := by
  unfold transmissionFunctions at known
  simp only [List.mem_cons, List.not_mem_nil, or_false] at known
  rcases known with same | same | same | same | same | same | same | same <;> subst same <;>
    exact ⟨_, rfl⟩

theorem itemOf_known (shock : Shock V) {chain : List (Edge V)}
    (known : forall edge, edge ∈ chain -> edge.kind ∈ transmissionFunctions) :
    exists item, itemOf operations ⟨shock, chain⟩ = .ok item := by
  induction chain using List.reverseRecOn with
  | nil => exact ⟨shock.queued, rfl⟩
  | append_singleton before edge ih =>
      rcases ih fun other member =>
        known other (List.mem_append_left _ member) with ⟨item, first⟩
      rcases transmissionValue_known (known edge (List.mem_append_right _ List.mem_cons_self))
        item.value (edge.weighted operations) with ⟨value, passes⟩
      have advanced : exists next, item.advance operations edge = .ok next := by
        unfold QueueItem.advance
        rw [except_bind_eq passes]
        exact ⟨_, rfl⟩
      rcases advanced with ⟨next, here⟩
      exact ⟨next, (itemOf_extend first edge).trans here⟩

/-- The impacts of the walks of the search are those of what the shocks reach. -/
theorem reaches_of_items {shocks : List (Shock V)} {maxDepth : Int} (positive : 0 ≤ maxDepth)
    {items : List (QueueItem V)}
    (made : (scenarioWalks operations edges shocks maxDepth.toNat).mapM (itemOf operations) =
      .ok items) :
    Reaches operations shocks edges maxDepth (items.map (QueueItem.impact operations)) := by
  have marks : (items.map (QueueItem.impact operations)).map
      (fun impact => (impact.sourceShock, impact.subject)) =
        (scenarioWalks operations edges shocks maxDepth.toNat).map
          (Walk.mark (scenarioGraph operations edges) Shock.target) := by
    rw [List.map_map]
    exact map_of_mapM made fun walk member item own => impact_mark member own
  refine ⟨?_, ?_, ?_⟩
  · intro impact member
    rcases List.mem_map.mp member with ⟨item, listed, same⟩
    have both := forall₂_of_mapM made fun walk member item own => impact_traced positive member own
    rcases exists_of_forall₂ both listed with ⟨walk, searched, traced⟩
    exact ⟨walk.start, walk.chain, (walks_shortest searched).2.1, same ▸ traced⟩
  · rw [marks]
    exact walks_nodup _ _
  · intro shock member chain node connects short away
    have within : chain.length ≤ 0 + maxDepth.toNat := by omega
    rcases explored_start.discovers member connects within away with seen | found
    · cases seen
    · have shown : (shock.target, node) ∈ (items.map (QueueItem.impact operations)).map
          (fun impact => (impact.sourceShock, impact.subject)) := by
        rw [marks]
        exact found
      rcases List.mem_map.mp shown with ⟨impact, listed, same⟩
      exact ⟨impact, listed, congrArg Prod.fst same, congrArg Prod.snd same⟩

/-- With known functions the call ends without an error, whatever the shocks, the edges and the
cycles among them, and gives one impact for each node that a shock reaches within the depth,
along a chain of supported edges. -/
theorem propagateScenario_reaches (operations : FloatOperations V) (shocks : List (Shock V))
    (edges : List (Edge V)) (maxDepth : Int) (within : 1 ≤ maxDepth ∧ maxDepth ≤ 8)
    (known : forall edge, edge ∈ edges -> edge.kind ∈ transmissionFunctions) :
    exists impacts, propagateScenario operations shocks edges maxDepth = some (.ok impacts) ∧
      Reaches operations shocks edges maxDepth impacts := by
  have total : exists items, (scenarioWalks operations edges shocks maxDepth.toNat).mapM
      (itemOf operations) = .ok items := by
    refine mapM_total fun walk member => itemOf_known walk.start fun edge listed => ?_
    exact known edge (connects_edges (walks_shortest member).1.connects edge listed).1
  rcases total with ⟨items, made⟩
  refine ⟨items.map (QueueItem.impact operations), ?_, reaches_of_items (by omega) made⟩
  rw [propagateScenario_eq shocks edges within, made]
  rfl

end Chains

/-! ## A graph with a cycle, a self loop and parallel edges -/

/-- The operations where their results are exact.  The two literals are the nearest floats. -/
def exactOperations : FloatOperations Rat where
  zero := 0
  one := 1
  fourFifths := 3602879701896397 / 4503599627370496
  sixFifths := 5404319552844595 / 4503599627370496
  multiply := fun left right => left * right
  negate := fun value => -value
  absolute := fun value => if 0 ≤ value then value else -value
  maximum := fun left right => if left < right then right else left
  minimum := fun left right => if right < left then right else left
  atLeast := fun left right => decide (right ≤ left)
  exceeds := fun left right => decide (right < left)
  truthy := fun value => decide (value ≠ 0)

/-- A supported edge of confidence one. -/
def supportedEdge (source target function : String) (weight : Rat) : Edge Rat where
  source := source
  target := target
  supported := true
  confidence := some 1
  weight := some weight
  function := some function
  relationship := some "SUPPLIES"
  lag := none
  parameters := []

def circularEdges : List (Edge Rat) :=
  [supportedEdge "mine" "smelter" "LINEAR" (1 / 2), supportedEdge "mine" "smelter" "THRESHOLD" 2,
    supportedEdge "smelter" "smelter" "LAGGED" 1, supportedEdge "smelter" "mine" "LINEAR" 4,
    supportedEdge "smelter" "foundry" "BINARY_DISRUPTION" (1 / 4)]

theorem circularEdges_reaches :
    exists impacts, propagateScenario exactOperations [⟨"mine", -1⟩, ⟨"foundry", 2⟩]
        circularEdges 3 = some (.ok impacts) ∧
      Reaches exactOperations [⟨"mine", -1⟩, ⟨"foundry", 2⟩] circularEdges 3 impacts :=
  propagateScenario_reaches exactOperations _ circularEdges 3 (by decide) (by decide)

end AdversarialIntelligence
end MarketIntelligence
