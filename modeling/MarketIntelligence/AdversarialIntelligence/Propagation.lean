import MarketIntelligence.AdversarialIntelligence.Scenario
import MarketIntelligence.Foundations.BreadthFirst
import MarketIntelligence.Foundations.Loops
import Mathlib.Data.List.Induction
import Mathlib.Data.List.Perm.Subperm
import Mathlib.Data.List.ProdSigma

namespace MarketIntelligence
namespace AdversarialIntelligence

open Foundations
open BreadthFirst
open Loops

/-!
# Propagation as a breadth-first search

Which nodes the queue reaches, and by which edges, does not depend on the values.  The
impacts are the walks of a breadth-first search over the supported edges, each with the
value that its edges make of the shock.
-/

section Graphs

variable {V : Type} (operations : FloatOperations V) (edges : List (Edge V))

def scenarioGraph : BreadthFirst.Graph String (Edge V) where
  out := adjacency operations edges
  source := Edge.source
  target := Edge.target
  source_out := by
    intro node edge member
    have kept := (List.mem_filter.mp member).2
    rw [Bool.and_eq_true] at kept
    exact of_decide_eq_true kept.2

abbrev ScenarioWalk (V : Type) := Walk (Shock V) (Edge V)

/-- The item of the queue that the edges of a walk make of its shock. -/
def itemOf (walk : ScenarioWalk V) : Except ValueError (QueueItem V) :=
  walk.chain.foldlM (QueueItem.advance operations) walk.start.queued

/-- The walks that the queue takes from the shocks. -/
def scenarioWalks (shocks : List (Shock V)) (maxDepth : Nat) : List (ScenarioWalk V) :=
  walks (scenarioGraph operations edges) Shock.target maxDepth shocks

end Graphs

section Items

variable {V : Type} {operations : FloatOperations V} {edges : List (Edge V)}
  {walk : ScenarioWalk V} {item next : QueueItem V} {edge : Edge V}

theorem itemOf_extend (here : itemOf operations walk = .ok item) (edge : Edge V) :
    itemOf operations (walk.extend edge) = item.advance operations edge := by
  unfold itemOf Walk.extend at *
  rw [List.foldlM_append]
  rw [except_bind_eq here]
  rw [List.foldlM_cons]
  exact bind_pure _

/-- The item of a walk is that of the walk without its last edge, advanced along it. -/
theorem itemOf_concat {shock : Shock V} {before : List (Edge V)} {edge : Edge V}
    (made : itemOf operations ⟨shock, before ++ [edge]⟩ = .ok item) :
    exists earlier, itemOf operations ⟨shock, before⟩ = .ok earlier ∧
      earlier.advance operations edge = .ok item := by
  have whole := made
  unfold itemOf at whole
  rw [List.foldlM_append] at whole
  rcases except_bind_ok whole with ⟨earlier, begun, _⟩
  have first : itemOf operations ⟨shock, before⟩ = .ok earlier := begun
  exact ⟨earlier, first, (itemOf_extend first edge).symm.trans made⟩

theorem advance_ok (done : item.advance operations edge = .ok next) :
    next.node = edge.target ∧ next.origin = item.origin ∧ next.depth = item.depth + 1 ∧
      next.path.map PathStep.source = item.path.map PathStep.source ++ [item.node] ∧
      transmissionValue operations edge.kind item.value (edge.weighted operations) =
        .ok next.value ∧
      next.path = item.path ++ [stepOf operations item.node edge next.value] := by
  unfold QueueItem.advance at done
  rcases except_bind_ok done with ⟨transmitted, value, ends⟩
  cases ends
  refine ⟨rfl, rfl, rfl, ?_, value, rfl⟩
  rw [List.map_append]
  rfl

/-- An item stands where its walk does. -/
structure Stands (operations : FloatOperations V) (edges : List (Edge V))
    (walk : ScenarioWalk V) (item : QueueItem V) : Prop where
  made : itemOf operations walk = .ok item
  node : item.node = walk.node (scenarioGraph operations edges) Shock.target
  origin : item.origin = walk.start.target
  depth : item.depth = walk.chain.length
  sources : item.path.map PathStep.source = walk.chain.map Edge.source

theorem stands_start (shock : Shock V) :
    Stands operations edges (Walk.begins shock) shock.queued :=
  ⟨rfl, rfl, rfl, rfl, rfl⟩

theorem Stands.advance (stands : Stands operations edges walk item)
    (leaves : edge ∈ adjacency operations edges item.node)
    (done : item.advance operations edge = .ok next) :
    Stands operations edges (walk.extend edge) next := by
  rcases advance_ok done with ⟨node, origin, depth, sources, _, _⟩
  refine ⟨(itemOf_extend stands.made edge).trans done, ?_, ?_, ?_, ?_⟩
  · rw [node, node_extend]
    rfl
  · exact origin.trans stands.origin
  · unfold Walk.extend
    rw [depth, stands.depth, List.length_append, List.length_singleton]
  · have own := (scenarioGraph operations edges).source_out _ _ leaves
    unfold Walk.extend
    rw [sources, stands.sources, List.map_append, List.map_singleton]
    exact congrArg (fun source => _ ++ [source]) own.symm

/-- The item that the edges of a walk make stands where they lead. -/
theorem stands_of_proper {shock : Shock V} {chain : List (Edge V)}
    (proper : (Walk.mk shock chain).Proper (scenarioGraph operations edges) Shock.target)
    (made : itemOf operations ⟨shock, chain⟩ = .ok item) :
    Stands operations edges ⟨shock, chain⟩ item := by
  induction chain using List.reverseRecOn generalizing item with
  | nil =>
      cases made
      exact stands_start shock
  | append_singleton before edge ih =>
      rcases itemOf_concat made with ⟨earlier, first, advanced⟩
      rcases proper.of_concat with ⟨ends, leaves⟩
      have stands := ih ends first
      refine stands.advance ?_ advanced
      rw [stands.node]
      exact leaves

/-- What is added to the progress for new walks. -/
def extended (operations : FloatOperations V) (edges : List (Edge V)) (progress : Progress V)
    (found : List (ScenarioWalk V)) (items : List (QueueItem V)) : Progress V where
  visited := progress.visited ++
    found.map (Walk.mark (scenarioGraph operations edges) Shock.target)
  outputs := progress.outputs ++ items.map (QueueItem.impact operations)

theorem extended_nil (progress : Progress V) :
    extended operations edges progress [] [] = progress := by
  unfold extended
  rw [List.map_nil, List.map_nil, List.append_nil, List.append_nil]

theorem extended_append (progress : Progress V) (first second : List (ScenarioWalk V))
    (items more : List (QueueItem V)) :
    extended operations edges (extended operations edges progress first items) second more =
      extended operations edges progress (first ++ second) (items ++ more) := by
  unfold extended
  rw [List.map_append, List.map_append, List.append_assoc, List.append_assoc]

end Items

/-! ## The loops -/

section Loops

variable {V : Type} {operations : FloatOperations V} {edges : List (Edge V)}
  {walk : ScenarioWalk V} {item : QueueItem V}

theorem mark_extend (stands : Stands operations edges walk item) (edge : Edge V) :
    (walk.extend edge).mark (scenarioGraph operations edges) Shock.target =
      (item.origin, edge.target) := by
  unfold Walk.mark
  rw [node_extend, stands.origin]
  rfl

/-- The walks that a list of edges adds. -/
def fresh (operations : FloatOperations V) (edges : List (Edge V)) (visited : List (String × String))
    (walk : ScenarioWalk V) (leaving : List (Edge V)) : List (ScenarioWalk V) :=
  Tables.firsts (Walk.mark (scenarioGraph operations edges) Shock.target) visited
    ((leaving.filter fun edge => edge.target ∉ walk.chain.map Edge.source).map walk.extend)

theorem fresh_skip {visited : List (String × String)} {edge : Edge V} {leaving : List (Edge V)}
    (stands : Stands operations edges walk item)
    (skipped : (item.origin, edge.target) ∈ visited ∨
      edge.target ∈ item.path.map PathStep.source) :
    fresh operations edges visited walk (edge :: leaving) =
      fresh operations edges visited walk leaving := by
  unfold fresh
  rw [stands.sources] at skipped
  by_cases left : edge.target ∈ walk.chain.map Edge.source
  · rw [List.filter_cons_of_neg (by simpa using left)]
  · rw [List.filter_cons_of_pos (by simpa using left), List.map_cons, Tables.firsts_cons,
      mark_extend stands, if_pos (skipped.resolve_right left)]

theorem fresh_take {visited : List (String × String)} {edge : Edge V} {leaving : List (Edge V)}
    (stands : Stands operations edges walk item)
    (taken : ¬ ((item.origin, edge.target) ∈ visited ∨
      edge.target ∈ item.path.map PathStep.source)) :
    fresh operations edges visited walk (edge :: leaving) =
      walk.extend edge ::
        fresh operations edges (visited ++ [(item.origin, edge.target)]) walk leaving := by
  unfold fresh
  rw [stands.sources, not_or] at taken
  rw [List.filter_cons_of_pos (by simpa using taken.2), List.map_cons, Tables.firsts_cons_append,
    mark_extend stands, if_neg taken.1]

/-- The loop over the edges of an item. -/
theorem foldlM_followEdge (stands : Stands operations edges walk item) (leaving : List (Edge V))
    (progress : Progress V) (items : List (QueueItem V)) :
    leaving.foldlM (followEdge operations item) (progress, items) =
      ((fresh operations edges progress.visited walk leaving).mapM (itemOf operations)).map
        fun more => (extended operations edges progress
          (fresh operations edges progress.visited walk leaving) more, items ++ more) := by
  induction leaving generalizing progress items with
  | nil =>
      exact congrArg Except.ok
        (Prod.ext (extended_nil progress).symm (List.append_nil items).symm)
  | cons edge rest ih =>
      by_cases skipped : (item.origin, edge.target) ∈ progress.visited ∨
          edge.target ∈ item.path.map PathStep.source
      · have passed : followEdge operations item (progress, items) edge = .ok (progress, items) := by
          unfold followEdge
          exact if_pos skipped
        rw [List.foldlM_cons, except_bind_eq passed, ih, fresh_skip stands skipped]
      · rw [List.foldlM_cons, fresh_take stands skipped]
        have made := itemOf_extend stands.made edge
        cases advanced : item.advance operations edge with
        | error raised =>
            have stopped : followEdge operations item (progress, items) edge = .error raised := by
              unfold followEdge
              simp only
              rw [if_neg skipped, advanced]
              rfl
            rw [stopped, mapM_cons_error (made.trans advanced)]
            rfl
        | ok next =>
            have passed : followEdge operations item (progress, items) edge =
                .ok (extended operations edges progress [walk.extend edge] [next],
                  items ++ [next]) := by
              unfold followEdge
              simp only
              rw [if_neg skipped, advanced]
              unfold extended
              rw [List.map_singleton, mark_extend stands]
              rfl
            have visited : (extended operations edges progress [walk.extend edge]
                [next]).visited = progress.visited ++ [(item.origin, edge.target)] := by
              unfold extended
              rw [List.map_singleton, mark_extend stands]
            rw [except_bind_eq passed, ih, visited,
              mapM_cons_ok (made.trans advanced)]
            cases (fresh operations edges (progress.visited ++ [(item.origin, edge.target)]) walk
              rest).mapM (itemOf operations) with
            | error raised => rfl
            | ok more =>
                refine congrArg Except.ok (Prod.ext ?_ (List.append_assoc _ _ _))
                exact extended_append progress _ _ _ _

variable {maxDepth : Nat}

theorem visitItem_eq (stands : Stands operations edges walk item)
    (shallow : walk.chain.length < maxDepth) (progress : Progress V) :
    visitItem operations edges maxDepth progress item =
      ((level (scenarioGraph operations edges) Shock.target progress.visited [walk]).mapM
        (itemOf operations)).map fun more =>
          (extended operations edges progress
            (level (scenarioGraph operations edges) Shock.target progress.visited [walk]) more,
            more) := by
  have found : level (scenarioGraph operations edges) Shock.target progress.visited [walk] =
      fresh operations edges progress.visited walk (adjacency operations edges item.node) := by
    unfold level
    rw [List.flatMap_singleton, stands.node]
    rfl
  unfold visitItem
  rw [if_neg (by rw [stands.depth]; omega), foldlM_followEdge stands, found]
  rfl

theorem visitItem_deep (stands : Stands operations edges walk item)
    (deep : maxDepth ≤ walk.chain.length) (progress : Progress V) :
    visitItem operations edges maxDepth progress item = .ok (progress, []) := by
  unfold visitItem
  exact if_pos (by rw [stands.depth]; omega)

theorem sweep_eq {frontier : List (ScenarioWalk V)} {items : List (QueueItem V)}
    (all : List.Forall₂ (Stands operations edges) frontier items)
    (shallow : forall walk, walk ∈ frontier -> walk.chain.length < maxDepth)
    (progress : Progress V) :
    Expansion.sweep (visitItem operations edges maxDepth) progress items =
      ((level (scenarioGraph operations edges) Shock.target progress.visited frontier).mapM
        (itemOf operations)).map fun more =>
          (extended operations edges progress
            (level (scenarioGraph operations edges) Shock.target progress.visited frontier) more,
            more) := by
  induction all generalizing progress with
  | nil => exact congrArg Except.ok (Prod.ext (extended_nil progress).symm rfl)
  | @cons walk item frontier items stands rest ih =>
      have here := visitItem_eq stands (shallow walk List.mem_cons_self) progress
      have further := ih fun other member =>
        shallow other (List.mem_cons_of_mem _ member)
      rw [level_cons]
      cases made : (level (scenarioGraph operations edges) Shock.target progress.visited
          [walk]).mapM (itemOf operations) with
      | error raised =>
          rw [made] at here
          rw [Expansion.sweep_cons_error here, mapM_append_error made]
          rfl
      | ok more =>
          rw [made] at here
          have next := further (extended operations edges progress
            (level (scenarioGraph operations edges) Shock.target progress.visited [walk]) more)
          have visited : (extended operations edges progress
              (level (scenarioGraph operations edges) Shock.target progress.visited [walk])
              more).visited = progress.visited ++
                (level (scenarioGraph operations edges) Shock.target progress.visited [walk]).map
                  (Walk.mark (scenarioGraph operations edges) Shock.target) := rfl
          rw [visited] at next
          rw [Expansion.sweep_cons here, mapM_append_ok made, next]
          cases (level (scenarioGraph operations edges) Shock.target (progress.visited ++
            (level (scenarioGraph operations edges) Shock.target progress.visited [walk]).map
              (Walk.mark (scenarioGraph operations edges) Shock.target)) frontier).mapM
                (itemOf operations) with
          | error raised => rfl
          | ok later =>
              refine congrArg Except.ok (Prod.ext ?_ rfl)
              exact extended_append progress _ _ _ _

/-- Nothing is spread from the items of the last level. -/
theorem sweep_deep {frontier : List (ScenarioWalk V)} {items : List (QueueItem V)}
    (all : List.Forall₂ (Stands operations edges) frontier items)
    (deep : forall walk, walk ∈ frontier -> maxDepth ≤ walk.chain.length)
    (progress : Progress V) :
    Expansion.sweep (visitItem operations edges maxDepth) progress items =
      .ok (progress, []) := by
  induction all with
  | nil => rfl
  | @cons walk item frontier items stands rest ih =>
      rw [Expansion.sweep_cons (visitItem_deep stands (deep walk List.mem_cons_self) progress),
        ih fun other member => deep other (List.mem_cons_of_mem _ member)]
      rfl

/-- The queue takes the walks of the search, level by level. -/
theorem search_eq {shocks : List (Shock V)} {depth more fuel : Nat}
    {frontier : List (ScenarioWalk V)} {items : List (QueueItem V)} {progress : Progress V}
    (explored : Explored (scenarioGraph operations edges) Shock.target shocks depth
      progress.visited frontier)
    (all : List.Forall₂ (Stands operations edges) frontier items)
    (levels : depth + more = maxDepth)
    (enough : items.length + (discover (scenarioGraph operations edges) Shock.target more
      progress.visited frontier).length ≤ fuel) :
    Expansion.search (visitItem operations edges maxDepth) fuel progress items =
      some (((discover (scenarioGraph operations edges) Shock.target more progress.visited
        frontier).mapM (itemOf operations)).map (extended operations edges progress
          (discover (scenarioGraph operations edges) Shock.target more progress.visited
            frontier))) := by
  induction more generalizing depth fuel frontier items progress with
  | zero =>
      have deep : forall walk, walk ∈ frontier -> maxDepth ≤ walk.chain.length := by
        intro walk member
        rw [explored.length walk member]
        omega
      have swept := sweep_deep all deep progress
      rcases Nat.exists_eq_add_of_le' (Nat.le_trans (Nat.le_add_right _ _) enough) with
        ⟨less, same⟩
      have searched := @Expansion.search_sweep_ok _ _ _ _ less _ _ _ [] _ swept
      rw [List.append_nil] at searched
      rw [same, searched, List.append_nil, Expansion.search_nil]
      exact congrArg (fun reached => some (Except.ok reached)) (extended_nil progress).symm
  | succ more ih =>
      have shallow : forall walk, walk ∈ frontier -> walk.chain.length < maxDepth := by
        intro walk member
        rw [explored.length walk member]
        omega
      have swept := sweep_eq all shallow progress
      have next := explored.level
      unfold discover at enough ⊢
      rw [List.length_append] at enough
      generalize level (scenarioGraph operations edges) Shock.target progress.visited frontier =
        found at *
      rcases Nat.exists_eq_add_of_le' (Nat.le_trans (Nat.le_add_right _ _) enough) with
        ⟨less, same⟩
      rw [same]
      cases made : found.mapM (itemOf operations) with
      | error raised =>
          rw [made] at swept
          have searched := @Expansion.search_sweep_error _ _ _ _ less _ _ [] _ swept
          rw [List.append_nil] at searched
          rw [searched, mapM_append_error made]
          rfl
      | ok values =>
          rw [made] at swept
          have searched := @Expansion.search_sweep_ok _ _ _ _ less _ _ _ [] _ swept
          rw [List.append_nil, List.nil_append] at searched
          have stand : List.Forall₂ (Stands operations edges) found values :=
            forall₂_of_mapM made fun walk member item own =>
              stands_of_proper (next.proper walk member) own
          have counted := stand.length_eq
          have further := @ih (depth + 1) less found values
            (extended operations edges progress found values) next stand (by omega)
            (by rw [← counted]; change found.length + (discover _ _ more (progress.visited ++
              found.map _) found).length ≤ less; omega)
          rw [searched, further, mapM_append_ok made]
          change some (Except.map _ (List.mapM _ (discover _ _ more (progress.visited ++
            found.map _) found))) = _
          cases (discover (scenarioGraph operations edges) Shock.target more (progress.visited ++
            found.map (Walk.mark (scenarioGraph operations edges) Shock.target)) found).mapM
              (itemOf operations) with
          | error raised => rfl
          | ok later =>
              exact congrArg (fun reached => some (Except.ok reached))
                (extended_append progress _ _ _ _)

end Loops

/-! ## The call -/

section Calls

variable {V : Type} {operations : FloatOperations V} {edges : List (Edge V)}
  {shocks : List (Shock V)} {maxDepth : Nat}

theorem mem_adjacency {node : String} {edge : Edge V} :
    edge ∈ adjacency operations edges node <->
      edge ∈ edges ∧ edge.live operations = true ∧ edge.source = node := by
  unfold adjacency
  rw [List.mem_filter, Bool.and_eq_true, decide_eq_true_eq]

theorem connects_edges {start finish : String} {chain : List (Edge V)}
    (connects : (scenarioGraph operations edges).Connects start chain finish) :
    forall edge, edge ∈ chain -> edge ∈ edges ∧ edge.live operations = true := by
  induction chain generalizing start with
  | nil =>
      intro edge member
      cases member
  | cons head tail ih =>
      intro edge member
      rcases connects with ⟨leaves, further⟩
      rcases List.mem_cons.mp member with first | later
      · rcases mem_adjacency.mp leaves with ⟨listed, live, _⟩
        exact first ▸ ⟨listed, live⟩
      · exact ih further edge later

/-- No more items come into the queue than there are shocks and targets of edges. -/
theorem length_scenarioWalks :
    shocks.length + (scenarioWalks operations edges shocks maxDepth).length ≤
      turnLimit shocks edges := by
  have inside : (scenarioWalks operations edges shocks maxDepth).map
      (Walk.mark (scenarioGraph operations edges) Shock.target) ⊆
        (shocks.map Shock.target).product (edges.map Edge.target) := by
    rintro ⟨origin, node⟩ member
    rcases List.mem_map.mp member with ⟨walk, listed, marked⟩
    rcases walks_shortest listed with ⟨shortest, started, _⟩
    cases marked
    refine List.mem_product.mpr ⟨List.mem_map_of_mem started, ?_⟩
    rcases List.eq_nil_or_concat walk.chain with empty | ⟨before, edge, split⟩
    · exact absurd empty shortest.moved
    · have connects := shortest.connects
      rw [List.concat_eq_append] at split
      rw [split] at connects
      rcases connects_concat.mp connects with ⟨middle, _, leaves, ends⟩
      exact ends ▸ List.mem_map_of_mem (mem_adjacency.mp leaves).1
  have few := ((walks_nodup maxDepth shocks).subperm inside).length_le
  have size : ((shocks.map Shock.target).product (edges.map Edge.target)).length =
      shocks.length * edges.length :=
    (List.length_product _ _).trans (by rw [List.length_map, List.length_map])
  rw [List.length_map, size] at few
  unfold turnLimit
  rw [Nat.mul_succ]
  exact Nat.add_comm _ _ ▸ Nat.add_le_add_right few _

/-- The call gives the impacts of the walks, in the order of the search. -/
theorem propagateScenario_eq (shocks : List (Shock V)) (edges : List (Edge V)) {maxDepth : Int}
    (within : 1 ≤ maxDepth ∧ maxDepth ≤ 8) :
    propagateScenario operations shocks edges maxDepth =
      some (((scenarioWalks operations edges shocks maxDepth.toNat).mapM
        (itemOf operations)).map (List.map (QueueItem.impact operations))) := by
  have depth : (maxDepth.toNat : Int) = maxDepth := Int.toNat_of_nonneg (by omega)
  have all : List.Forall₂ (Stands operations edges) (shocks.map Walk.begins)
      (shocks.map Shock.queued) := by
    induction shocks with
    | nil => exact .nil
    | cons shock rest ih => exact .cons (stands_start shock) ih
  have enough : (shocks.map Shock.queued).length +
      (discover (scenarioGraph operations edges) Shock.target maxDepth.toNat []
        (shocks.map Walk.begins)).length ≤ turnLimit shocks edges := by
    rw [List.length_map]
    exact length_scenarioWalks
  have start : Explored (scenarioGraph operations edges) Shock.target shocks 0
      (Progress.mk [] ([] : List (Impact V))).visited (shocks.map Walk.begins) := explored_start
  have searched := search_eq start all (Nat.zero_add maxDepth.toNat) enough
  unfold propagateScenario
  rw [if_neg (not_not_intro within)]
  rw [depth] at searched
  rw [searched]
  unfold scenarioWalks walks
  cases (discover (scenarioGraph operations edges) Shock.target maxDepth.toNat []
    (shocks.map Walk.begins)).mapM (itemOf operations) with
  | error raised => rfl
  | ok items => rfl

end Calls

end AdversarialIntelligence
end MarketIntelligence
