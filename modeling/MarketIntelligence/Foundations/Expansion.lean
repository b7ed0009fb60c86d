import Mathlib.Algebra.Group.Action.Defs
import Mathlib.Algebra.Order.BigOperators.Group.List
import Mathlib.Data.List.Basic
import Mathlib.Logic.Relation
import Mathlib.Tactic.Ring

namespace MarketIntelligence
namespace Foundations
namespace Expansion

/-!
# Items that are expanded into items

A search takes items from the front of a queue, and puts what it finds behind it.  A
recursive query expands all the items of its working table at once, until none are
left.  Both find the items that can be reached by expansions.

When every item has a rank and expands into items of lower rank, the search comes to an end.
-/

universe u v w

variable {α : Type u} (expand : α -> List α)

def Expands (item next : α) : Prop := next ∈ expand item

abbrev Found : α -> α -> Prop := Relation.TransGen (Expands expand)

/-- Expansions lead to items of lower rank. -/
def Ranked (rank : α -> Nat) : Prop :=
  forall item next, next ∈ expand item -> rank next < rank item

section Steps

variable {expand}

theorem found_iff {item final : α} :
    Found expand item final <->
      final ∈ expand item ∨ exists next, next ∈ expand item ∧ Found expand next final := by
  constructor
  · intro found
    rcases Relation.TransGen.head'_iff.mp found with ⟨next, first, rest⟩
    rcases Relation.reflTransGen_iff_eq_or_transGen.mp rest with same | further
    · exact Or.inl (same ▸ first)
    · exact Or.inr ⟨next, first, further⟩
  · rintro (first | ⟨next, first, rest⟩)
    · exact Relation.TransGen.single first
    · exact Relation.TransGen.head first rest

/-- What every expansion keeps, everything that is found has. -/
theorem Found.preserves {motive : α -> Prop} {item final : α} (found : Found expand item final)
    (keeps : forall item next, motive item -> next ∈ expand item -> motive next)
    (initial : motive item) : motive final := by
  induction found with
  | single first => exact keeps _ _ initial first
  | tail _ last ih => exact keeps _ _ ih last

end Steps

/-! ## A recursive query -/

/-- The rows of `WITH RECURSIVE`: the working table is expanded until it is empty. -/
def recursive : Nat -> List α -> Option (List α)
  | _, [] => some []
  | 0, _ :: _ => none
  | fuel + 1, item :: rest =>
      (recursive fuel ((item :: rest).flatMap expand)).map fun rows => item :: rest ++ rows

section Recursive

variable {expand}

theorem mem_recursive {fuel : Nat} {working rows : List α}
    (evaluated : recursive expand fuel working = some rows) (final : α) :
    final ∈ rows <->
      final ∈ working ∨ exists item, item ∈ working ∧ Found expand item final := by
  induction fuel generalizing working rows with
  | zero =>
      cases working with
      | nil =>
          cases evaluated
          simp
      | cons item rest => cases evaluated
  | succ fuel ih =>
      cases working with
      | nil =>
          cases evaluated
          simp
      | cons item rest =>
          rcases Option.map_eq_some_iff.mp evaluated with ⟨later, evaluates, same⟩
          subst same
          rw [List.mem_append, ih evaluates]
          refine or_congr_right ?_
          constructor
          · rintro (listed | ⟨next, listed, found⟩)
            · rcases List.mem_flatMap.mp listed with ⟨start, member, expanded⟩
              exact ⟨start, member, Relation.TransGen.single expanded⟩
            · rcases List.mem_flatMap.mp listed with ⟨start, member, expanded⟩
              exact ⟨start, member, Relation.TransGen.head expanded found⟩
          · rintro ⟨start, member, found⟩
            rcases found_iff.mp found with first | ⟨next, first, rest⟩
            · exact Or.inl (List.mem_flatMap.mpr ⟨start, member, first⟩)
            · exact Or.inr ⟨next, List.mem_flatMap.mpr ⟨start, member, first⟩, rest⟩

end Recursive

/-! ## A search with a queue -/

section Search

variable {σ : Type v} {ε : Type w} (body : σ -> α -> Except ε (σ × List α))

/-- `while queue`: the body takes the first item, and its items go behind the queue. -/
def search : Nat -> σ -> List α -> Option (Except ε σ)
  | _, state, [] => some (.ok state)
  | 0, _, _ :: _ => none
  | fuel + 1, state, item :: rest =>
      match body state item with
      | .error raised => some (.error raised)
      | .ok (next, items) => search fuel next (rest ++ items)

/-- The items of a queue in their order, with what they put behind it. -/
def sweep : σ -> List α -> Except ε (σ × List α)
  | state, [] => .ok (state, [])
  | state, item :: rest => do
      let (next, items) ← body state item
      let (final, more) ← sweep next rest
      .ok (final, items ++ more)

variable {expand body}

theorem search_nil (fuel : Nat) (state : σ) : search body fuel state [] = some (.ok state) := by
  cases fuel <;> rfl

/-- A search whose body records the items that it expands has recorded what is found. -/
theorem mem_search {β : Type*} {view : α -> β} {recorded : σ -> List β}
    (records : forall state item next items, body state item = .ok (next, items) ->
      items = expand item ∧ recorded next = recorded state ++ (expand item).map view)
    {fuel : Nat} {state final : σ} {queue : List α}
    (searched : search body fuel state queue = some (.ok final)) (value : β) :
    value ∈ recorded final <->
      value ∈ recorded state ∨
        exists item reached, item ∈ queue ∧ Found expand item reached ∧ view reached = value := by
  induction fuel generalizing state queue with
  | zero =>
      cases queue with
      | nil =>
          cases searched
          simp
      | cons item rest => cases searched
  | succ fuel ih =>
      cases queue with
      | nil =>
          cases searched
          simp
      | cons item rest =>
          simp only [search] at searched
          split at searched
          · cases searched
          · rename_i next items expanded
            rcases records _ _ _ _ expanded with ⟨same, extended⟩
            subst same
            rw [ih searched, extended, List.mem_append, or_assoc]
            refine or_congr_right ?_
            constructor
            · rintro (first | ⟨start, reached, listed, found, shown⟩)
              · rcases List.mem_map.mp first with ⟨reached, direct, shown⟩
                exact ⟨item, reached, List.mem_cons_self, Relation.TransGen.single direct, shown⟩
              · rcases List.mem_append.mp listed with waiting | new
                · exact ⟨start, reached, List.mem_cons_of_mem _ waiting, found, shown⟩
                · exact ⟨item, reached, List.mem_cons_self, Relation.TransGen.head new found,
                    shown⟩
            · rintro ⟨start, reached, listed, found, shown⟩
              rcases List.mem_cons.mp listed with first | waiting
              · subst first
                rcases found_iff.mp found with direct | ⟨further, direct, rest⟩
                · exact Or.inl (List.mem_map.mpr ⟨reached, direct, shown⟩)
                · exact Or.inr ⟨further, reached, List.mem_append_right _ direct, rest, shown⟩
              · exact Or.inr ⟨start, reached, List.mem_append_left _ waiting, found, shown⟩

/-- The loop rule of a search: a relation between the state and the queue. -/
theorem search_ok {motive : σ -> List α -> Prop}
    (pass : forall state item rest next items, motive state (item :: rest) ->
      body state item = .ok (next, items) -> motive next (rest ++ items))
    {fuel : Nat} {state final : σ} {queue : List α} (initial : motive state queue)
    (searched : search body fuel state queue = some (.ok final)) : motive final [] := by
  induction fuel generalizing state queue with
  | zero =>
      cases queue with
      | nil =>
          cases searched
          exact initial
      | cons item rest => cases searched
  | succ fuel ih =>
      cases queue with
      | nil =>
          cases searched
          exact initial
      | cons item rest =>
          simp only [search] at searched
          split at searched
          · cases searched
          · rename_i next items expanded
            exact ih (pass _ _ _ _ _ initial expanded) searched

theorem search_error {motive : σ -> List α -> Prop} (failed : ε -> Prop)
    (pass : forall state item rest next items, motive state (item :: rest) ->
      body state item = .ok (next, items) -> motive next (rest ++ items))
    (fails : forall state item rest raised, motive state (item :: rest) ->
      body state item = .error raised -> failed raised)
    {fuel : Nat} {state : σ} {queue : List α} {raised : ε} (initial : motive state queue)
    (searched : search body fuel state queue = some (.error raised)) : failed raised := by
  induction fuel generalizing state queue with
  | zero => cases queue <;> cases searched
  | succ fuel ih =>
      cases queue with
      | nil => cases searched
      | cons item rest =>
          simp only [search] at searched
          split at searched
          · rename_i failure stopped
            cases searched
            exact fails _ _ _ _ initial stopped
          · rename_i next items expanded
            exact ih (pass _ _ _ _ _ initial expanded) searched

/-- Where an item can be found by one expansion only, a search finds no item twice.  The
items that have been taken stand before the queue. -/
theorem search_distinct {β : Type*} {view : α -> β} {recorded : σ -> List β} {motive : α -> Prop}
    (records : forall state item next items, body state item = .ok (next, items) ->
      items = expand item ∧ recorded next = recorded state ++ (expand item).map view)
    (leads : forall item next, motive item -> next ∈ expand item -> motive next)
    (each : forall item, motive item -> (expand item).Nodup)
    (parent : forall left right next, motive left -> motive right -> next ∈ expand left ->
      next ∈ expand right -> left = right)
    {fuel : Nat} {state final : σ} {taken queue : List α}
    (searched : search body fuel state queue = some (.ok final))
    (waiting : forall item, item ∈ queue -> motive item)
    (distinct : (taken ++ queue).Nodup)
    (closed : forall item source, item ∈ taken ++ queue -> motive source ->
      item ∈ expand source -> source ∈ taken) :
    exists items, recorded final = recorded state ++ items.map view ∧
      (taken ++ queue ++ items).Nodup ∧ forall item, item ∈ items -> motive item := by
  induction fuel generalizing state taken queue with
  | zero =>
      cases queue with
      | nil =>
          cases searched
          exact ⟨[], by simp, by simpa using distinct, fun _ impossible => by cases impossible⟩
      | cons item rest => cases searched
  | succ fuel ih =>
      cases queue with
      | nil =>
          cases searched
          exact ⟨[], by simp, by simpa using distinct, fun _ impossible => by cases impossible⟩
      | cons item rest =>
          have here := waiting item List.mem_cons_self
          have untaken : item ∉ taken := by
            intro member
            exact (List.nodup_append.mp distinct).2.2 item member item List.mem_cons_self rfl
          simp only [search] at searched
          split at searched
          · cases searched
          · rename_i next items expanded
            rcases records _ _ _ _ expanded with ⟨same, extended⟩
            subst same
            have moved : taken ++ [item] ++ (rest ++ expand item) =
                taken ++ (item :: rest) ++ expand item := by simp
            have further : (taken ++ [item] ++ (rest ++ expand item)).Nodup := by
              rw [moved]
              refine List.nodup_append.mpr ⟨distinct, each item here, ?_⟩
              intro old known new found equal
              subst equal
              exact untaken (closed old item known here found)
            rcases ih searched
              (by
                intro other listed
                rcases List.mem_append.mp listed with old | new
                · exact waiting other (List.mem_cons_of_mem _ old)
                · exact leads item other here new)
              further
              (by
                intro other source known holds found
                rw [moved] at known
                rcases List.mem_append.mp known with old | new
                · exact List.mem_append_left _ (closed other source old holds found)
                · rw [parent source item other holds here found new]
                  exact List.mem_append_right _ (List.mem_singleton_self _)) with
              ⟨later, continued, unique, good⟩
            refine ⟨expand item ++ later, ?_, ?_, ?_⟩
            · rw [continued, extended]
              simp
            · rw [moved] at unique
              rw [← List.append_assoc]
              exact unique
            · intro other listed
              rcases List.mem_append.mp listed with first | second
              · exact leads item other here first
              · exact good other second

/-- More fuel does not change the outcome. -/
theorem search_mono {fuel more : Nat} {state : σ} {queue : List α} {outcome : Except ε σ}
    (searched : search body fuel state queue = some outcome) (le : fuel ≤ more) :
    search body more state queue = some outcome := by
  induction fuel generalizing state queue more with
  | zero =>
      cases queue with
      | nil =>
          rw [search_nil] at searched ⊢
          exact searched
      | cons item rest => cases searched
  | succ fuel ih =>
      cases queue with
      | nil =>
          rw [search_nil] at searched ⊢
          exact searched
      | cons item rest =>
          rcases Nat.exists_eq_succ_of_ne_zero (Nat.ne_of_gt (Nat.lt_of_lt_of_le
            (Nat.succ_pos fuel) le)) with ⟨less, same⟩
          subst same
          simp only [search] at searched ⊢
          split at searched
          · exact searched
          · exact ih searched (Nat.le_of_succ_le_succ le)

/-- Two bodies that agree on the items that can come into the queue. -/
theorem search_congr {other : σ -> α -> Except ε (σ × List α)} {motive : α -> Prop}
    (same : forall state item, motive item -> body state item = other state item)
    (keeps : forall state item next items, motive item -> body state item = .ok (next, items) ->
      forall further, further ∈ items -> motive further)
    {fuel : Nat} {state : σ} {queue : List α} (initial : forall item, item ∈ queue -> motive item) :
    search body fuel state queue = search other fuel state queue := by
  induction fuel generalizing state queue with
  | zero => cases queue <;> rfl
  | succ fuel ih =>
      cases queue with
      | nil => rfl
      | cons item rest =>
          have here := initial item List.mem_cons_self
          simp only [search, ← same state item here]
          split
          · rfl
          · rename_i next items expanded
            apply ih
            intro further listed
            rcases List.mem_append.mp listed with waiting | new
            · exact initial further (List.mem_cons_of_mem _ waiting)
            · exact keeps state item next items here expanded further new

theorem sweep_cons {state next : σ} {item : α} {rest first : List α}
    (here : body state item = .ok (next, first)) :
    sweep body state (item :: rest) =
      (sweep body next rest).map fun reached => (reached.1, first ++ reached.2) := by
  simp only [sweep, here]
  cases later : sweep body next rest with
  | error failure => simp only [bind, Except.bind, later, Except.map]
  | ok reached => simp only [bind, Except.bind, later, Except.map]

theorem sweep_cons_error {state : σ} {item : α} {rest : List α} {raised : ε}
    (here : body state item = .error raised) :
    sweep body state (item :: rest) = .error raised := by
  simp only [sweep, here]
  rfl

/-- A search takes all the items that are in its queue before any of those that they put
behind them. -/
theorem search_sweep_ok {fuel : Nat} {state final : σ} {queue behind items : List α}
    (swept : sweep body state queue = .ok (final, items)) :
    search body (fuel + queue.length) state (queue ++ behind) =
      search body fuel final (behind ++ items) := by
  induction queue generalizing state behind items with
  | nil =>
      cases swept
      rw [List.append_nil]
      rfl
  | cons item rest ih =>
      rw [List.length_cons, ← Nat.add_assoc, List.cons_append]
      cases here : body state item with
      | error failure =>
          rw [sweep_cons_error here] at swept
          cases swept
      | ok reached =>
          rcases reached with ⟨next, first⟩
          rw [sweep_cons here] at swept
          cases later : sweep body next rest with
          | error failure =>
              rw [later] at swept
              cases swept
          | ok last =>
              rw [later] at swept
              cases swept
              simp only [search, here]
              rw [List.append_assoc, ih later, List.append_assoc]

theorem search_sweep_error {fuel : Nat} {state : σ} {queue behind : List α} {raised : ε}
    (swept : sweep body state queue = .error raised) :
    search body (fuel + queue.length) state (queue ++ behind) = some (.error raised) := by
  induction queue generalizing state behind with
  | nil => cases swept
  | cons item rest ih =>
      rw [List.length_cons, ← Nat.add_assoc, List.cons_append]
      cases here : body state item with
      | error failure =>
          rw [sweep_cons_error here] at swept
          cases swept
          simp only [search, here]
      | ok reached =>
          rcases reached with ⟨next, first⟩
          rw [sweep_cons here] at swept
          simp only [search, here]
          rw [List.append_assoc]
          cases later : sweep body next rest with
          | error failure =>
              rw [later] at swept
              cases swept
              exact ih later
          | ok last =>
              rw [later] at swept
              cases swept

/-- The items of a tree of the given branching and height. -/
def treeSize (branching : Nat) : Nat -> Nat
  | 0 => 1
  | height + 1 => 1 + branching * treeSize branching height

theorem treeSize_pos (branching height : Nat) : 0 < treeSize branching height := by
  cases height with
  | zero => exact Nat.one_pos
  | succ height => exact Nat.lt_add_right _ Nat.one_pos

theorem treeSize_mono (branching : Nat) {lower higher : Nat} (le : lower ≤ higher)
    (positive : 0 < branching) : treeSize branching lower ≤ treeSize branching higher := by
  induction le with
  | refl => exact Nat.le_refl _
  | @step middle _ ih =>
      refine Nat.le_trans ih ?_
      simp only [treeSize]
      have grows := Nat.le_mul_of_pos_left (treeSize branching middle) positive
      exact Nat.le_trans grows (Nat.le_add_left _ _)

/-- What the items of a queue can still be expanded into.  Each turn of the search makes it
smaller, so the search ends. -/
def pending (rank : α -> Nat) (branching : Nat) (queue : List α) : Nat :=
  (queue.map fun item => treeSize branching (rank item)).sum

theorem pending_expand {rank : α -> Nat} (ranked : Ranked expand rank) {branching : Nat}
    {item : α} (few : (expand item).length ≤ branching) :
    pending rank branching (expand item) < treeSize branching (rank item) := by
  cases expanded : expand item with
  | nil => exact treeSize_pos _ _
  | cons first others =>
      have lower : forall next, next ∈ expand item -> rank next < rank item :=
        fun next member => ranked item next member
      have positive : 0 < branching := by
        rw [expanded, List.length_cons] at few
        omega
      rcases Nat.exists_eq_succ_of_ne_zero (Nat.ne_of_gt (Nat.lt_of_le_of_lt (Nat.zero_le _)
        (lower first (expanded ▸ List.mem_cons_self)))) with ⟨height, high⟩
      have bound : pending rank branching (expand item) ≤
          (expand item).length * treeSize branching height := by
        have each : forall size, (size ∈ (expand item).map fun next =>
            treeSize branching (rank next)) -> size ≤ treeSize branching height := by
          intro size listed
          rcases List.mem_map.mp listed with ⟨next, member, same⟩
          have less := lower next member
          rw [← same]
          exact treeSize_mono branching (by omega) positive
        have total := List.sum_le_card_nsmul _ _ each
        rw [List.length_map, smul_eq_mul] at total
        exact total
      have widened := Nat.mul_le_mul_right (treeSize branching height) few
      rw [← expanded, high]
      simp only [treeSize]
      omega

/-- The search ends when the fuel covers the trees of its queue. -/
theorem search_ends {rank : α -> Nat} (ranked : Ranked expand rank) {branching : Nat}
    (few : forall item, (expand item).length ≤ branching)
    (expands : forall state item next items, body state item = .ok (next, items) ->
      items = expand item)
    {fuel : Nat} {state : σ} {queue : List α} (enough : pending rank branching queue ≤ fuel) :
    exists outcome, search body fuel state queue = some outcome := by
  induction fuel generalizing state queue with
  | zero =>
      cases queue with
      | nil => exact ⟨.ok state, rfl⟩
      | cons item rest =>
          have positive := treeSize_pos branching (rank item)
          simp only [pending, List.map_cons, List.sum_cons] at enough
          omega
  | succ fuel ih =>
      cases queue with
      | nil => exact ⟨.ok state, rfl⟩
      | cons item rest =>
          simp only [search]
          split
          · exact ⟨_, rfl⟩
          · rename_i next items expanded
            rw [expands _ _ _ _ expanded]
            apply ih
            have less := pending_expand ranked (few item)
            simp only [pending, List.map_cons, List.sum_cons, List.map_append,
              List.sum_append] at enough less ⊢
            omega

end Search

end Expansion
end Foundations
end MarketIntelligence
