import MarketIntelligence.Foundations.Tables

namespace MarketIntelligence
namespace Foundations
namespace BreadthFirst

/-!
# Breadth-first walks from several starts

A search keeps one walk for each start and each node that the start leads to.  Level by
level it extends the walks of the frontier by the edges out of their ends, and keeps the
first walk to a node that none from the same start has reached yet.  A walk does not go back
to a node that it has left.

Apart from the start itself, the search reaches the nodes within its depth, each by a
shortest walk.  Which of the shortest walks it keeps depends on the order of the edges.
-/

universe u v w

/-- The edges out of each node, in the order in which a search looks at them.  Two edges may join
the same two nodes. -/
structure Graph (ν : Type u) (ε : Type v) where
  out : ν -> List ε
  source : ε -> ν
  target : ε -> ν
  source_out : forall node edge, edge ∈ out node -> source edge = node

variable {ν : Type u} {ε : Type v} {σ : Type w}

/-- The edges lead from a node to a node, each one out of the node to which the one before has
led. -/
def Graph.Connects (graph : Graph ν ε) : ν -> List ε -> ν -> Prop
  | start, [], finish => start = finish
  | start, edge :: rest, finish =>
      edge ∈ graph.out start ∧ graph.Connects (graph.target edge) rest finish

structure Walk (σ : Type w) (ε : Type v) where
  start : σ
  chain : List ε

def Walk.begins (start : σ) : Walk σ ε := ⟨start, []⟩

def Walk.extend (walk : Walk σ ε) (edge : ε) : Walk σ ε := ⟨walk.start, walk.chain ++ [edge]⟩

section Search

variable (graph : Graph ν ε) (origin : σ -> ν)

def Walk.node (walk : Walk σ ε) : ν :=
  walk.chain.getLast?.elim (origin walk.start) graph.target

def Walk.mark (walk : Walk σ ε) : ν × ν := (origin walk.start, walk.node graph origin)

variable [DecidableEq ν]

/-- The extensions of a walk, but for those back to a node that it has left. -/
def Walk.further (walk : Walk σ ε) : List (Walk σ ε) :=
  ((graph.out (walk.node graph origin)).filter fun edge =>
    graph.target edge ∉ walk.chain.map graph.source).map walk.extend

def level (visited : List (ν × ν)) (frontier : List (Walk σ ε)) : List (Walk σ ε) :=
  Tables.firsts (Walk.mark graph origin) visited (frontier.flatMap (Walk.further graph origin))

/-- The walks of the next levels, each level made of those one edge longer whose end was not
visited before. -/
def discover : Nat -> List (ν × ν) -> List (Walk σ ε) -> List (Walk σ ε)
  | 0, _, _ => []
  | depth + 1, visited, frontier =>
      level graph origin visited frontier ++
        discover depth
          (visited ++ (level graph origin visited frontier).map (Walk.mark graph origin))
          (level graph origin visited frontier)

/-- The walks from the starts, of this many edges at most. -/
def walks (depth : Nat) (starts : List σ) : List (Walk σ ε) :=
  discover graph origin depth [] (starts.map Walk.begins)

end Search

/-! ## Chains of edges -/

section Chains

variable {graph : Graph ν ε}

theorem connects_append {start finish : ν} {first second : List ε} :
    graph.Connects start (first ++ second) finish <->
      exists middle, graph.Connects start first middle ∧ graph.Connects middle second finish := by
  induction first generalizing start with
  | nil =>
      constructor
      · intro connects
        exact ⟨start, rfl, connects⟩
      · rintro ⟨middle, same, connects⟩
        cases same
        exact connects
  | cons edge rest ih =>
      simp only [List.cons_append, Graph.Connects]
      rw [ih]
      constructor
      · rintro ⟨leaves, middle, before, after⟩
        exact ⟨middle, ⟨leaves, before⟩, after⟩
      · rintro ⟨middle, ⟨leaves, before⟩, after⟩
        exact ⟨leaves, middle, before, after⟩

theorem connects_concat {start finish : ν} {chain : List ε} {edge : ε} :
    graph.Connects start (chain ++ [edge]) finish <->
      exists middle, graph.Connects start chain middle ∧ edge ∈ graph.out middle ∧
        graph.target edge = finish := by
  rw [connects_append]
  exact Iff.rfl

/-- Where at most one edge leaves each node, a chain is told by its start and its length. -/
theorem Graph.Connects.eq_of_single
    (single : forall node edge next, edge ∈ graph.out node -> next ∈ graph.out node -> edge = next)
    {start finish other : ν} {first second : List ε} (left : graph.Connects start first finish)
    (right : graph.Connects start second other) (long : first.length = second.length) :
    first = second := by
  induction first generalizing start second with
  | nil => exact (List.eq_nil_of_length_eq_zero long.symm).symm
  | cons edge rest ih =>
      cases second with
      | nil => cases long
      | cons next further =>
          rcases left with ⟨leaves, onward⟩
          rcases right with ⟨departs, beyond⟩
          have same : edge = next := single start edge next leaves departs
          subst same
          rw [ih onward beyond (Nat.succ.inj long)]

/-- A node that the chain leaves is reached by a shorter one. -/
theorem Graph.Connects.of_source {start finish node : ν} {chain : List ε}
    (connects : graph.Connects start chain finish) (member : node ∈ chain.map graph.source) :
    exists shorter, graph.Connects start shorter node ∧ shorter.length < chain.length := by
  induction chain generalizing start with
  | nil => cases member
  | cons edge rest ih =>
      rcases connects with ⟨leaves, further⟩
      rw [List.map_cons, List.mem_cons] at member
      rcases member with here | later
      · refine ⟨[], ?_, Nat.succ_pos _⟩
        exact (graph.source_out start edge leaves).symm.trans here.symm
      · rcases ih further later with ⟨shorter, reaches, less⟩
        exact ⟨edge :: shorter, ⟨leaves, reaches⟩, Nat.succ_lt_succ less⟩

/-- A chain that has left its start has left it by its first edge. -/
theorem Graph.Connects.start_mem {start finish : ν} {chain : List ε}
    (connects : graph.Connects start chain finish) (moved : chain ≠ []) :
    start ∈ chain.map graph.source := by
  cases chain with
  | nil => exact absurd rfl moved
  | cons edge rest =>
      rw [List.map_cons, graph.source_out start edge connects.1]
      exact List.mem_cons_self

end Chains

/-! ## Walks and their extensions -/

section Walks

variable {graph : Graph ν ε} {origin : σ -> ν} {walk next : Walk σ ε} {edge : ε}

/-- The edges of the walk lead from its start to its end. -/
def Walk.Proper (graph : Graph ν ε) (origin : σ -> ν) (walk : Walk σ ε) : Prop :=
  graph.Connects (origin walk.start) walk.chain (walk.node graph origin)

theorem node_begins (start : σ) : (Walk.begins start : Walk σ ε).node graph origin = origin start :=
  rfl

theorem node_extend (walk : Walk σ ε) (edge : ε) :
    (walk.extend edge).node graph origin = graph.target edge := by
  unfold Walk.node Walk.extend
  rw [List.getLast?_concat]
  rfl

theorem Walk.Proper.extend (proper : walk.Proper graph origin)
    (leaves : edge ∈ graph.out (walk.node graph origin)) :
    (walk.extend edge).Proper graph origin := by
  unfold Walk.Proper
  rw [node_extend]
  exact connects_concat.mpr ⟨walk.node graph origin, proper, leaves, rfl⟩

/-- A walk comes back to its start by one edge only. -/
theorem Walk.Proper.chain_nil (proper : walk.Proper graph origin)
    (fresh : origin walk.start ∉ walk.chain.map graph.source) : walk.chain = [] := by
  by_contra moved
  exact fresh (proper.start_mem moved)

/-- A chain ends at the end of its walk. -/
theorem connects_unique {start : σ} {chain : List ε} {finish : ν}
    (connects : graph.Connects (origin start) chain finish) :
    finish = (Walk.mk start chain).node graph origin := by
  rcases List.eq_nil_or_concat chain with empty | ⟨before, edge, split⟩
  · subst empty
    exact Eq.symm connects
  · rw [List.concat_eq_append] at split
    subst split
    rcases connects_concat.mp connects with ⟨_, _, _, ends⟩
    exact ends.symm.trans (node_extend ⟨start, before⟩ edge).symm

/-- A proper walk without its last edge is proper, and the edge leaves the node it is at. -/
theorem Walk.Proper.of_concat {start : σ} {before : List ε} {edge : ε}
    (proper : (Walk.mk start (before ++ [edge])).Proper graph origin) :
    (Walk.mk start before).Proper graph origin ∧
      edge ∈ graph.out ((Walk.mk start before).node graph origin) := by
  rcases connects_concat.mp proper with ⟨middle, reaches, leaves, _⟩
  have there := connects_unique reaches
  subst there
  exact ⟨reaches, leaves⟩

variable [DecidableEq ν]

theorem mem_further :
    next ∈ walk.further graph origin <->
      exists edge, edge ∈ graph.out (walk.node graph origin) ∧
        graph.target edge ∉ walk.chain.map graph.source ∧ walk.extend edge = next := by
  unfold Walk.further
  rw [List.mem_map]
  constructor
  · rintro ⟨edge, member, same⟩
    rcases List.mem_filter.mp member with ⟨leaves, fresh⟩
    exact ⟨edge, leaves, of_decide_eq_true fresh, same⟩
  · rintro ⟨edge, leaves, fresh, same⟩
    exact ⟨edge, List.mem_filter.mpr ⟨leaves, decide_eq_true fresh⟩, same⟩

theorem level_cons (visited : List (ν × ν)) (walk : Walk σ ε) (rest : List (Walk σ ε)) :
    level graph origin visited (walk :: rest) =
      level graph origin visited [walk] ++
        level graph origin
          (visited ++ (level graph origin visited [walk]).map (Walk.mark graph origin)) rest := by
  unfold level
  rw [List.flatMap_cons, List.flatMap_singleton]
  exact Tables.firsts_append visited _ _

theorem mem_level {visited : List (ν × ν)} {frontier : List (Walk σ ε)}
    (member : next ∈ level graph origin visited frontier) :
    next.mark graph origin ∉ visited ∧
      exists walk, walk ∈ frontier ∧ next ∈ walk.further graph origin := by
  rcases Tables.mem_of_mem_firsts member with ⟨listed, fresh⟩
  exact ⟨fresh, List.mem_flatMap.mp listed⟩

/-- What an extension leads to is visited after its level. -/
theorem mark_further {visited : List (ν × ν)} {frontier : List (Walk σ ε)}
    (member : walk ∈ frontier) (extends_ : next ∈ walk.further graph origin) :
    next.mark graph origin ∈
      visited ++ (level graph origin visited frontier).map (Walk.mark graph origin) :=
  List.mem_append.mpr
    (Tables.mem_firsts_or_seen visited (List.mem_flatMap.mpr ⟨walk, member, extends_⟩))

end Walks

/-! ## What the levels reach -/

section Levels

variable {graph : Graph ν ε} {origin : σ -> ν} {starts : List σ}

/-- What has been visited, and the frontier, after some levels. -/
structure Explored (graph : Graph ν ε) (origin : σ -> ν) (starts : List σ) (depth : Nat)
    (visited : List (ν × ν)) (frontier : List (Walk σ ε)) : Prop where
  proper : forall walk, walk ∈ frontier -> walk.Proper graph origin
  started : forall walk, walk ∈ frontier -> walk.start ∈ starts
  length : forall walk, walk ∈ frontier -> walk.chain.length = depth
  complete : forall start, start ∈ starts -> forall chain node,
    graph.Connects (origin start) chain node -> chain.length ≤ depth -> node ≠ origin start ->
      (origin start, node) ∈ visited
  reached : forall start node, (start, node) ∈ visited ->
    exists chain, graph.Connects start chain node ∧ chain.length ≤ depth
  nearest : forall start, start ∈ starts -> forall chain node,
    graph.Connects (origin start) chain node -> chain.length = depth ->
      (forall other, graph.Connects (origin start) other node -> depth ≤ other.length) ->
        exists walk, walk ∈ frontier ∧ walk.mark graph origin = (origin start, node)

theorem explored_start : Explored graph origin starts 0 [] (starts.map Walk.begins) where
  proper := by
    intro walk member
    rcases List.mem_map.mp member with ⟨start, _, same⟩
    rw [← same]
    exact rfl
  started := by
    intro walk member
    rcases List.mem_map.mp member with ⟨start, listed, same⟩
    rw [← same]
    exact listed
  length := by
    intro walk member
    rcases List.mem_map.mp member with ⟨start, _, same⟩
    rw [← same]
    exact rfl
  complete := by
    intro start _ chain node connects short away
    rw [List.eq_nil_of_length_eq_zero (Nat.le_zero.mp short)] at connects
    exact absurd connects.symm away
  reached := by
    intro start node member
    cases member
  nearest := by
    intro start member chain node connects short _
    rw [List.eq_nil_of_length_eq_zero short] at connects
    exact ⟨Walk.begins start, List.mem_map_of_mem member, congrArg (origin start, ·) connects⟩

variable [DecidableEq ν] {depth : Nat} {visited : List (ν × ν)} {frontier : List (Walk σ ε)}
  {next : Walk σ ε}

/-- A node that no shorter chain reaches is visited at the next level. -/
theorem Explored.visits (explored : Explored graph origin starts depth visited frontier)
    {start : σ} (member : start ∈ starts) {chain : List ε} {node : ν}
    (connects : graph.Connects (origin start) chain node) (long : chain.length = depth + 1)
    (far : forall other, graph.Connects (origin start) other node -> depth < other.length) :
    (origin start, node) ∈
      visited ++ (level graph origin visited frontier).map (Walk.mark graph origin) := by
  rcases List.eq_nil_or_concat chain with empty | ⟨before, edge, split⟩
  · rw [empty] at long
    cases long
  rw [List.concat_eq_append] at split
  rw [split] at connects long
  rw [List.length_append, List.length_singleton, Nat.add_right_cancel_iff] at long
  rcases connects_concat.mp connects with ⟨middle, reaches, leaves, ends⟩
  have close : forall other, graph.Connects (origin start) other middle ->
      depth ≤ other.length := by
    intro other connected
    have longer := far (other ++ [edge]) (connects_concat.mpr ⟨middle, connected, leaves, ends⟩)
    rw [List.length_append, List.length_singleton] at longer
    omega
  rcases explored.nearest start member before middle reaches long close with
    ⟨walk, listed, marked⟩
  have here : origin walk.start = origin start := congrArg Prod.fst marked
  have there : walk.node graph origin = middle := congrArg Prod.snd marked
  have fresh : graph.target edge ∉ walk.chain.map graph.source := by
    intro left
    have proper := explored.proper walk listed
    rcases Graph.Connects.of_source proper left with ⟨shorter, connected, less⟩
    rw [ends, here] at connected
    have longer := far shorter connected
    rw [explored.length walk listed] at less
    omega
  have extended : walk.extend edge ∈ walk.further graph origin :=
    mem_further.mpr ⟨edge, there ▸ leaves, fresh, rfl⟩
  have marks : (walk.extend edge).mark graph origin = (origin start, node) := by
    unfold Walk.mark
    rw [node_extend, ends]
    exact congrArg (·, node) here
  exact marks ▸ mark_further listed extended

theorem Explored.level_proper (explored : Explored graph origin starts depth visited frontier)
    (member : next ∈ level graph origin visited frontier) :
    next.Proper graph origin ∧ next.start ∈ starts ∧ next.chain.length = depth + 1 := by
  rcases mem_level member with ⟨_, walk, listed, extends_⟩
  rcases mem_further.mp extends_ with ⟨edge, leaves, _, same⟩
  subst same
  refine ⟨(explored.proper walk listed).extend leaves, explored.started walk listed, ?_⟩
  unfold Walk.extend
  rw [List.length_append, List.length_singleton, explored.length walk listed]

theorem Explored.level (explored : Explored graph origin starts depth visited frontier) :
    Explored graph origin starts (depth + 1)
      (visited ++ (level graph origin visited frontier).map (Walk.mark graph origin))
      (level graph origin visited frontier) where
  proper := fun walk member => (explored.level_proper member).1
  started := fun walk member => (explored.level_proper member).2.1
  length := fun walk member => (explored.level_proper member).2.2
  complete := by
    intro start member chain node connects short away
    by_cases near : exists other, graph.Connects (origin start) other node ∧ other.length ≤ depth
    · rcases near with ⟨other, connected, close⟩
      exact List.mem_append_left _
        (explored.complete start member other node connected close away)
    · have far : forall other, graph.Connects (origin start) other node ->
          depth < other.length := by
        intro other connected
        by_contra close
        exact near ⟨other, connected, not_lt.mp close⟩
      have long := far chain connects
      exact explored.visits member connects (by omega) far
  reached := by
    intro start node member
    rcases List.mem_append.mp member with old | new
    · rcases explored.reached start node old with ⟨chain, connects, short⟩
      exact ⟨chain, connects, Nat.le_succ_of_le short⟩
    · rcases List.mem_map.mp new with ⟨walk, listed, marked⟩
      rcases explored.level_proper listed with ⟨proper, _, long⟩
      cases marked
      exact ⟨walk.chain, proper, le_of_eq long⟩
  nearest := by
    intro start member chain node connects long far
    have visits := explored.visits member connects long far
    rcases List.mem_append.mp visits with old | new
    · rcases explored.reached _ _ old with ⟨other, connected, short⟩
      exact absurd (far other connected) (by omega)
    · rcases List.mem_map.mp new with ⟨walk, listed, marked⟩
      exact ⟨walk, listed, marked⟩

/-- A chain that a search may keep: a shortest one, or one edge from the start to itself. -/
structure Shortest (graph : Graph ν ε) (start : ν) (chain : List ε) (node : ν) : Prop where
  connects : graph.Connects start chain node
  moved : chain ≠ []
  loop : node = start -> chain.length = 1
  least : node ≠ start -> forall other, graph.Connects start other node ->
    chain.length ≤ other.length

/-- All the shortest chains to a node are of one length. -/
theorem Shortest.length_eq {start node : ν} {first second : List ε}
    (shortest : Shortest graph start first node) (other : Shortest graph start second node) :
    first.length = second.length := by
  by_cases home : node = start
  · exact (shortest.loop home).trans (other.loop home).symm
  · exact le_antisymm (shortest.least home second other.connects)
      (other.least home first shortest.connects)

theorem Explored.level_shortest (explored : Explored graph origin starts depth visited frontier)
    (member : next ∈ BreadthFirst.level graph origin visited frontier) :
    Shortest graph (origin next.start) next.chain (next.node graph origin) := by
  rcases explored.level_proper member with ⟨proper, started, long⟩
  rcases mem_level member with ⟨unvisited, walk, listed, extends_⟩
  refine ⟨proper, ?_, ?_, ?_⟩
  · intro empty
    rw [empty] at long
    cases long
  · intro home
    rcases mem_further.mp extends_ with ⟨edge, _, fresh, same⟩
    subst same
    rw [node_extend] at home
    have empty := (explored.proper walk listed).chain_nil (home ▸ fresh)
    unfold Walk.extend
    rw [empty]
    rfl
  · intro away other connected
    rw [long]
    by_contra short
    exact unvisited (explored.complete next.start started other _ connected
      (by omega) away)

end Levels

/-! ## What the search finds -/

section Found

variable {graph : Graph ν ε} {origin : σ -> ν} {starts : List σ} [DecidableEq ν] {depth more : Nat}
  {visited : List (ν × ν)} {frontier : List (Walk σ ε)} {walk : Walk σ ε}

theorem Explored.discovered (explored : Explored graph origin starts depth visited frontier)
    (member : walk ∈ discover graph origin more visited frontier) :
    Shortest graph (origin walk.start) walk.chain (walk.node graph origin) ∧
      walk.start ∈ starts ∧ walk.chain.length ≤ depth + more := by
  induction more generalizing depth visited frontier with
  | zero => cases member
  | succ more ih =>
      rcases List.mem_append.mp member with first | later
      · rcases explored.level_proper first with ⟨_, started, long⟩
        exact ⟨explored.level_shortest first, started, by omega⟩
      · rcases ih explored.level later with ⟨shortest, started, long⟩
        exact ⟨shortest, started, by omega⟩

theorem Explored.discovers (explored : Explored graph origin starts depth visited frontier)
    {start : σ} (member : start ∈ starts) {chain : List ε} {node : ν}
    (connects : graph.Connects (origin start) chain node) (short : chain.length ≤ depth + more)
    (away : node ≠ origin start) :
    (origin start, node) ∈ visited ∨
      (origin start, node) ∈
        (discover graph origin more visited frontier).map (Walk.mark graph origin) := by
  induction more generalizing depth visited frontier with
  | zero => exact Or.inl (explored.complete start member chain node connects short away)
  | succ more ih =>
      unfold discover
      rw [List.map_append, List.mem_append]
      rcases ih explored.level (by omega) with seen | later
      · exact (List.mem_append.mp seen).imp_right Or.inl
      · exact Or.inr (Or.inr later)

/-- No node is reached twice from one start. -/
theorem discover_nodup (more : Nat) (visited : List (ν × ν)) (frontier : List (Walk σ ε)) :
    ((discover graph origin more visited frontier).map (Walk.mark graph origin)).Nodup ∧
      forall mark, mark ∈ (discover graph origin more visited frontier).map
        (Walk.mark graph origin) -> mark ∉ visited := by
  induction more generalizing visited frontier with
  | zero => exact ⟨List.nodup_nil, fun mark member => by cases member⟩
  | succ more ih =>
      rcases ih
        (visited ++ (level graph origin visited frontier).map (Walk.mark graph origin))
        (level graph origin visited frontier) with ⟨distinct, fresh⟩
      unfold discover
      rw [List.map_append]
      refine ⟨?_, ?_⟩
      · refine (Tables.firsts_nodup visited _).append distinct ?_
        intro mark first later
        exact fresh mark later (List.mem_append_right _ first)
      · intro mark member
        rcases List.mem_append.mp member with first | later
        · rcases List.mem_map.mp first with ⟨next, listed, same⟩
          exact same ▸ (mem_level listed).1
        · exact fun seen => fresh mark later (List.mem_append_left _ seen)

theorem walks_nodup (depth : Nat) (starts : List σ) :
    ((walks graph origin depth starts).map (Walk.mark graph origin)).Nodup :=
  (discover_nodup depth [] _).1

theorem walks_shortest (member : walk ∈ walks graph origin depth starts) :
    Shortest graph (origin walk.start) walk.chain (walk.node graph origin) ∧
      walk.start ∈ starts ∧ walk.chain.length ≤ depth := by
  rcases explored_start.discovered member with ⟨shortest, started, short⟩
  exact ⟨shortest, started, by omega⟩

/-- An edge from a start to itself is a walk of the first level. -/
theorem mark_of_edge {start : σ} (member : start ∈ starts) {edge : ε}
    (leaves : edge ∈ graph.out (origin start)) :
    (origin start, graph.target edge) ∈
      (walks graph origin (depth + 1) starts).map (Walk.mark graph origin) := by
  have extended : (Walk.begins start).extend edge ∈
      (Walk.begins start : Walk σ ε).further graph origin :=
    mem_further.mpr ⟨edge, leaves, List.not_mem_nil, rfl⟩
  have visits : ((Walk.begins start).extend edge).mark graph origin ∈
      [] ++ (level graph origin [] (starts.map Walk.begins)).map (Walk.mark graph origin) :=
    mark_further (List.mem_map_of_mem member) extended
  unfold walks discover
  rw [List.map_append]
  exact List.mem_append_left _ visits

/-- The marks of the search do not depend on which of the shortest chains it keeps. -/
theorem mem_marks_iff {start node : ν} :
    (start, node) ∈ (walks graph origin depth starts).map (Walk.mark graph origin) <->
      (exists first, first ∈ starts ∧ origin first = start) ∧
        exists chain, Shortest graph start chain node ∧ chain.length ≤ depth := by
  constructor
  · intro member
    rcases List.mem_map.mp member with ⟨walk, listed, marked⟩
    rcases walks_shortest listed with ⟨shortest, started, short⟩
    cases marked
    exact ⟨⟨walk.start, started, rfl⟩, walk.chain, shortest, short⟩
  · rintro ⟨⟨first, member, same⟩, chain, shortest, short⟩
    subst same
    by_cases home : node = origin first
    · have single := shortest.loop home
      have connects := shortest.connects
      rcases List.length_eq_one_iff.mp single with ⟨edge, only⟩
      subst only
      rcases connects with ⟨leaves, ends⟩
      cases depth with
      | zero => cases short
      | succ depth => exact ends ▸ mark_of_edge member leaves
    · have within : chain.length ≤ 0 + depth := by omega
      rcases explored_start.discovers member shortest.connects within home with seen | found
      · cases seen
      · exact found

end Found

/-! ## Starts at one node -/

section Starts

variable {graph : Graph ν ε} {origin : σ -> ν} {starts : List σ} [DecidableEq ν] {depth : Nat}
  {visited : List (ν × ν)} {frontier : List (Walk σ ε)} {walk : Walk σ ε}

/-- The search extends what is in its frontier. -/
theorem discover_start {motive : σ -> Prop}
    (begun : forall walk, walk ∈ level graph origin visited frontier -> motive walk.start)
    (member : walk ∈ discover graph origin depth visited frontier) : motive walk.start := by
  induction depth generalizing visited frontier with
  | zero => cases member
  | succ depth ih =>
      rcases List.mem_append.mp member with first | later
      · exact begun walk first
      · refine ih (fun next further => ?_) later
        rcases mem_level further with ⟨_, earlier, listed, extends_⟩
        rcases mem_further.mp extends_ with ⟨edge, _, _, same⟩
        exact same ▸ begun earlier listed

/-- Of the starts at one node, the first level extends the first one. -/
theorem level_first (member : walk ∈ level graph origin visited (starts.map Walk.begins)) :
    Tables.lookup origin (origin walk.start) starts = some walk.start := by
  induction starts generalizing visited with
  | nil => cases member
  | cons start rest ih =>
      unfold level at member
      rw [List.map_cons, List.flatMap_cons, Tables.firsts_append] at member
      rw [Tables.lookup_cons]
      rcases List.mem_append.mp member with first | later
      · rcases mem_further.mp (Tables.mem_of_mem_firsts first).1 with ⟨edge, _, _, same⟩
        subst same
        exact if_pos rfl
      · have other : origin start ≠ origin walk.start := by
          intro same
          rcases Tables.mem_of_mem_firsts later with ⟨listed, fresh⟩
          rcases List.mem_flatMap.mp listed with ⟨begun, started, extends_⟩
          rcases List.mem_map.mp started with ⟨second, _, begins⟩
          subst begins
          rcases mem_further.mp extends_ with ⟨edge, leaves, _, extended⟩
          subst extended
          rw [node_begins] at leaves
          have leavesFirst : edge ∈ graph.out (origin start) := by
            rw [same]
            exact leaves
          have own : (Walk.begins start).extend edge ∈ (Walk.begins start).further graph origin :=
            mem_further.mpr ⟨edge, leavesFirst, List.not_mem_nil, rfl⟩
          have marks : ((Walk.begins start).extend edge).mark graph origin =
              ((Walk.begins second).extend edge).mark graph origin := by
            unfold Walk.mark
            rw [node_extend, node_extend]
            exact congrArg (·, graph.target edge) same
          have visits : ((Walk.begins start).extend edge).mark graph origin ∈ visited ∨
              ((Walk.begins start).extend edge).mark graph origin ∈
                (Tables.firsts (Walk.mark graph origin) visited
                  ((Walk.begins start).further graph origin)).map (Walk.mark graph origin) :=
            Tables.mem_firsts_or_seen visited own
          rw [marks] at visits
          exact fresh (List.mem_append.mpr visits)
        rw [if_neg other]
        exact ih later

/-- The walks from a node are those of the first start there. -/
theorem walks_first (member : walk ∈ walks graph origin depth starts) :
    Tables.lookup origin (origin walk.start) starts = some walk.start :=
  discover_start (motive := fun start => Tables.lookup origin (origin start) starts = some start)
    (fun _ listed => level_first listed) member

theorem flatMap_further_filter (selected : ν -> Bool) (frontier : List (Walk σ ε)) :
    (frontier.flatMap (Walk.further graph origin)).filter (fun walk =>
        selected (origin walk.start)) =
      (frontier.filter fun walk => selected (origin walk.start)).flatMap
        (Walk.further graph origin) := by
  induction frontier with
  | nil => rfl
  | cons walk rest ih =>
      rw [List.flatMap_cons, List.filter_append, ih]
      have starts_ : forall next, next ∈ walk.further graph origin ->
          selected (origin next.start) = selected (origin walk.start) := by
        intro next extends_
        rcases mem_further.mp extends_ with ⟨edge, _, _, same⟩
        rw [← same]
        rfl
      cases chosen : selected (origin walk.start) with
      | true =>
          rw [List.filter_cons_of_pos (by simpa using chosen), List.flatMap_cons,
            List.filter_eq_self.mpr fun next member => (starts_ next member).trans chosen]
      | false =>
          rw [List.filter_cons_of_neg (by simp [chosen]), List.filter_eq_nil_iff.mpr
            fun next member => by simp [starts_ next member, chosen], List.nil_append]

/-- The walks from some of the start nodes do not depend on the other starts. -/
theorem discover_filter {selected : ν -> Bool} {other : List (ν × ν)}
    (agree : forall mark : ν × ν, selected mark.1 = true -> (mark ∈ visited <-> mark ∈ other)) :
    (discover graph origin depth visited frontier).filter (fun walk =>
        selected (origin walk.start)) =
      discover graph origin depth other
        (frontier.filter fun walk => selected (origin walk.start)) := by
  induction depth generalizing visited other frontier with
  | zero => rfl
  | succ depth ih =>
      have same : (level graph origin visited frontier).filter (fun walk =>
          selected (origin walk.start)) =
            level graph origin other
              (frontier.filter fun walk => selected (origin walk.start)) := by
        unfold level
        rw [← flatMap_further_filter]
        exact @Tables.filter_firsts _ _ _ (Walk.mark graph origin) (fun mark => selected mark.1)
          visited other agree _
      have further : forall mark : ν × ν, selected mark.1 = true ->
          (mark ∈ visited ++
              (level graph origin visited frontier).map (Walk.mark graph origin) <->
            mark ∈ other ++ (level graph origin other
              (frontier.filter fun walk => selected (origin walk.start))).map
                (Walk.mark graph origin)) := by
        intro mark own
        rw [← same, List.mem_append, List.mem_append, agree mark own]
        refine or_congr_right ?_
        rw [List.mem_map, List.mem_map]
        constructor
        · rintro ⟨walk, listed, marked⟩
          exact ⟨walk, List.mem_filter.mpr ⟨listed, by rw [← marked] at own; exact own⟩, marked⟩
        · rintro ⟨walk, listed, marked⟩
          exact ⟨walk, (List.mem_filter.mp listed).1, marked⟩
      unfold discover
      rw [List.filter_append, same, ih further, same]

theorem walks_filter (selected : ν -> Bool) (depth : Nat) (starts : List σ) :
    (walks graph origin depth starts).filter (fun walk => selected (origin walk.start)) =
      walks graph origin depth (starts.filter fun start => selected (origin start)) := by
  unfold walks
  rw [discover_filter (fun _ _ => Iff.rfl), List.filter_map]
  rfl

/-- A start is left only by the edges out of its node. -/
theorem out_of_walk (member : walk ∈ walks graph origin depth starts) :
    graph.out (origin walk.start) ≠ [] := by
  rcases walks_shortest member with ⟨shortest, _, _⟩
  have connects := shortest.connects
  cases split : walk.chain with
  | nil => exact absurd split shortest.moved
  | cons edge rest =>
      rw [split] at connects
      exact List.ne_nil_of_mem connects.1

end Starts

/-! ## Two lists of starts -/

section Additivity

variable {graph : Graph ν ε} {origin : σ -> ν} {starts others : List σ} [DecidableEq ν]
  {depth : Nat} {walk : Walk σ ε}

/-- A second start at a node adds nothing. -/
theorem level_append_same (known : forall other, other ∈ others ->
      exists start, start ∈ starts ∧ origin start = origin other) :
    level graph origin [] ((starts ++ others).map Walk.begins) =
      level graph origin [] (starts.map Walk.begins) := by
  unfold level
  rw [List.map_append, List.flatMap_append, Tables.firsts_append]
  refine List.append_right_eq_self.mpr (Tables.firsts_eq_nil fun next member => ?_)
  rcases List.mem_flatMap.mp member with ⟨begun, listed, extends_⟩
  rcases List.mem_map.mp listed with ⟨other, otherMember, begins⟩
  subst begins
  rcases mem_further.mp extends_ with ⟨edge, leaves, _, same⟩
  subst same
  rcases known other otherMember with ⟨start, started, same⟩
  have own : (Walk.begins start).extend edge ∈ (Walk.begins start).further graph origin := by
    refine mem_further.mpr ⟨edge, ?_, List.not_mem_nil, rfl⟩
    rw [node_begins] at leaves ⊢
    rw [same]
    exact leaves
  have marks : ((Walk.begins other).extend edge).mark graph origin =
      ((Walk.begins start).extend edge).mark graph origin := by
    unfold Walk.mark
    rw [node_extend, node_extend]
    exact congrArg (·, graph.target edge) same.symm
  rw [marks]
  exact mark_further (List.mem_map_of_mem started) own

theorem walks_append_same (known : forall other, other ∈ others ->
      exists start, start ∈ starts ∧ origin start = origin other) :
    walks graph origin depth (starts ++ others) = walks graph origin depth starts := by
  unfold walks
  cases depth with
  | zero => rfl
  | succ depth =>
      unfold discover
      rw [level_append_same known]

theorem mem_walks_filter {selected : ν -> Bool} (own : selected (origin walk.start) = true) :
    walk ∈ walks graph origin depth starts <->
      walk ∈ walks graph origin depth (starts.filter fun start => selected (origin start)) := by
  rw [← walks_filter selected depth starts, List.mem_filter]
  exact (and_iff_left own).symm

/-- The walks from two lists of starts: from a node of the first list they are its walks. -/
theorem mem_walks_append :
    walk ∈ walks graph origin depth (starts ++ others) <->
      walk ∈ walks graph origin depth starts ∨
        (walk ∈ walks graph origin depth others ∧ origin walk.start ∉ starts.map origin) := by
  have own : decide (origin walk.start = origin walk.start) = true := decide_eq_true rfl
  have here : forall list : List σ, walk ∈ walks graph origin depth list <->
      walk ∈ walks graph origin depth
        (list.filter fun start => decide (origin start = origin walk.start)) :=
    fun list => @mem_walks_filter _ _ _ graph origin list _ depth walk
      (fun node => decide (node = origin walk.start)) own
  rw [here (starts ++ others), List.filter_append]
  by_cases shared : origin walk.start ∈ starts.map origin
  · rcases List.mem_map.mp shared with ⟨start, member, same⟩
    rw [walks_append_same, ← here starts]
    · exact ⟨Or.inl, fun either => either.elim id fun second => absurd shared second.2⟩
    · intro other listed
      have there := of_decide_eq_true (List.mem_filter.mp listed).2
      exact ⟨start, List.mem_filter.mpr ⟨member, decide_eq_true same⟩, same.trans there.symm⟩
  · have none_ : (starts.filter fun start => decide (origin start = origin walk.start)) = [] :=
      List.filter_eq_nil_iff.mpr fun start member same =>
        shared (List.mem_map.mpr ⟨start, member, of_decide_eq_true same⟩)
    rw [none_, List.nil_append, ← here others]
    constructor
    · exact fun member => Or.inr ⟨member, shared⟩
    · rintro (first | second)
      · exact absurd (List.mem_map_of_mem (walks_shortest first).2.1) shared
      · exact second.1

theorem walks_append_perm (depth : Nat) (starts others : List σ) :
    (walks graph origin depth (starts ++ others)).Perm
      (walks graph origin depth starts ++ (walks graph origin depth others).filter fun walk =>
        decide (origin walk.start ∉ starts.map origin)) := by
  refine (List.perm_ext_iff_of_nodup (walks_nodup depth _).of_map ?_).mpr fun walk => ?_
  · refine (walks_nodup depth starts).of_map.append ((walks_nodup depth others).of_map.filter _) ?_
    intro walk first second
    exact of_decide_eq_true (List.mem_filter.mp second).2
      (List.mem_map_of_mem (walks_shortest first).2.1)
  · rw [mem_walks_append, List.mem_append, List.mem_filter, decide_eq_true_eq]

/-- The walks from two lists of starts are those from each of them exactly when no node of
both lists has an edge. -/
theorem walks_additive_iff :
    (walks graph origin (depth + 1) (starts ++ others)).Perm
        (walks graph origin (depth + 1) starts ++ walks graph origin (depth + 1) others) <->
      forall start, start ∈ starts -> forall other, other ∈ others ->
        origin start = origin other -> graph.out (origin start) = [] := by
  constructor
  · intro perm start member other otherMember same
    by_contra edges
    rcases List.exists_mem_of_ne_nil _ edges with ⟨edge, leaves⟩
    have first := @mark_of_edge _ _ _ graph origin starts _ depth start member edge leaves
    have second := @mark_of_edge _ _ _ graph origin others _ depth other otherMember edge
      (same ▸ leaves)
    have distinct := ((perm.map (Walk.mark graph origin)).nodup_iff).mp (walks_nodup _ _)
    rw [List.map_append, List.nodup_append] at distinct
    rw [← same] at second
    exact distinct.2.2 _ first _ second rfl
  · intro apart
    refine (walks_append_perm (depth + 1) starts others).trans ?_
    have all : ((walks graph origin (depth + 1) others).filter fun walk =>
        decide (origin walk.start ∉ starts.map origin)) = walks graph origin (depth + 1) others := by
      refine List.filter_eq_self.mpr fun walk member => decide_eq_true fun shared => ?_
      rcases List.mem_map.mp shared with ⟨start, started, same⟩
      have empty := apart start started walk.start (walks_shortest member).2.1 same
      exact out_of_walk member (same ▸ empty)
    rw [all]

end Additivity

/-! ## The order of the edges -/

section Order

variable {graph other : Graph ν ε} {origin : σ -> ν} {starts : List σ} {depth : Nat}

/-- The same edges in another order.  What a search finds must not depend on it, as no query
promises an order. -/
structure Graph.Reorders (graph other : Graph ν ε) : Prop where
  out : forall node, (graph.out node).Perm (other.out node)
  target : graph.target = other.target

theorem Graph.Reorders.symm (reorders : graph.Reorders other) : other.Reorders graph :=
  ⟨fun node => (reorders.out node).symm, reorders.target.symm⟩

theorem Graph.Reorders.connects (reorders : graph.Reorders other) {start finish : ν}
    {chain : List ε} (connects : graph.Connects start chain finish) :
    other.Connects start chain finish := by
  induction chain generalizing start with
  | nil => exact connects
  | cons edge rest ih =>
      refine ⟨(reorders.out start).subset connects.1, ?_⟩
      rw [← reorders.target]
      exact ih connects.2

theorem Graph.Reorders.shortest (reorders : graph.Reorders other) {start node : ν}
    {chain : List ε} (shortest : Shortest graph start chain node) :
    Shortest other start chain node where
  connects := reorders.connects shortest.connects
  moved := shortest.moved
  loop := shortest.loop
  least := fun away chain connects => shortest.least away chain (reorders.symm.connects connects)

variable [DecidableEq ν]

theorem marks_perm (reorders : graph.Reorders other) :
    ((walks graph origin depth starts).map (Walk.mark graph origin)).Perm
      ((walks other origin depth starts).map (Walk.mark other origin)) := by
  refine (List.perm_ext_iff_of_nodup (walks_nodup depth starts)
    (walks_nodup depth starts)).mpr ?_
  rintro ⟨start, node⟩
  rw [mem_marks_iff, mem_marks_iff]
  refine and_congr_right fun _ => ?_
  constructor
  · rintro ⟨chain, shortest, short⟩
    exact ⟨chain, reorders.shortest shortest, short⟩
  · rintro ⟨chain, shortest, short⟩
    exact ⟨chain, reorders.symm.shortest shortest, short⟩

/-- What is the same for all shortest chains to a node does not depend on the order. -/
theorem walks_view_perm {β : Type*} {view : Walk σ ε -> β} (reorders : graph.Reorders other)
    (agree : forall start, start ∈ starts -> forall first second node,
      Shortest graph (origin start) first node -> Shortest graph (origin start) second node ->
        first.length ≤ depth -> second.length ≤ depth -> view ⟨start, first⟩ = view ⟨start, second⟩) :
    ((walks graph origin depth starts).map view).Perm
      ((walks other origin depth starts).map view) := by
  have nodes : forall walk : Walk σ ε, walk.mark other origin = walk.mark graph origin := by
    intro walk
    unfold Walk.mark Walk.node
    rw [reorders.target]
  have marks := @marks_perm _ _ _ graph other origin starts depth _ reorders
  rw [funext nodes] at marks
  refine Tables.perm_map_of_keys marks ?_
  intro walk member further otherMember same
  rcases walks_shortest member with ⟨shortest, started, short⟩
  rcases walks_shortest otherMember with ⟨otherShortest, _, otherShort⟩
  have here : origin walk.start = origin further.start := congrArg Prod.fst same
  have first := walks_first member
  rw [here, walks_first otherMember] at first
  have start : further.start = walk.start := Option.some.inj first
  have there : walk.node graph origin = further.node graph origin := congrArg Prod.snd same
  have back := reorders.symm.shortest otherShortest
  have ends : further.node other origin = further.node graph origin :=
    congrArg Prod.snd (nodes further)
  rw [ends, ← there, start] at back
  have views := agree walk.start started walk.chain further.chain _ shortest back short otherShort
  calc
    view walk = view ⟨walk.start, further.chain⟩ := views
    _ = view further := by rw [← start]

end Order

end BreadthFirst
end Foundations
end MarketIntelligence
