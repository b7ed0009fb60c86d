import Mathlib.Data.List.Basic

namespace MarketIntelligence
namespace Foundations
namespace Checkpoints

/-!
# Work that is committed item by item

A list of items is worked off in order.  Committing an item turns one state into
the next, or is not possible.  A cursor counts the items committed so far, and a
state is reached at a cursor when it comes from the initial one by committing
exactly the items before the cursor.

Whoever takes the work up at the cursor goes on from the reached state, so a state
reached at the end does not depend on where the work was interrupted.
-/

universe u v

variable {σ : Type u} {α : Type v} (commit : α -> σ -> Option σ)

/-- The state after all items, when each of them can be committed. -/
def committed (initial : σ) (items : List α) : Option σ :=
  items.foldlM (fun state item => commit item state) initial

def Reached (items : List α) (initial : σ) (cursor : Nat) (state : σ) : Prop :=
  committed commit initial (items.take cursor) = some state

variable {commit}

theorem committed_cons {initial : σ} {head : α} {tail : List α} :
    committed commit initial (head :: tail) =
      (commit head initial).bind fun state => committed commit state tail :=
  List.foldlM_cons

theorem Reached.start (items : List α) (initial : σ) : Reached commit items initial 0 initial :=
  rfl

theorem Reached.next {items : List α} {initial state following : σ} {cursor : Nat} {item : α}
    (reached : Reached commit items initial cursor state) (here : items[cursor]? = some item)
    (done : commit item state = some following) :
    Reached commit items initial (cursor + 1) following := by
  unfold Reached committed at reached ⊢
  rw [List.take_add_one, here, List.foldlM_append, reached]
  change committed commit state [item] = some following
  rw [committed_cons, done]
  rfl

/-- Past the last item, nothing depends on the cursor any more. -/
theorem Reached.finish {items : List α} {initial state : σ} {cursor : Nat}
    (reached : Reached commit items initial cursor state) (past : items.length ≤ cursor) :
    committed commit initial items = some state := by
  unfold Reached at reached
  rw [List.take_of_length_le past] at reached
  exact reached

theorem committed_preserves {motive : σ -> Prop}
    (keeps : forall item state following, commit item state = some following -> motive state ->
      motive following)
    {items : List α} {initial state : σ} (done : committed commit initial items = some state)
    (holds : motive initial) : motive state := by
  induction items generalizing initial with
  | nil =>
      cases done
      exact holds
  | cons head tail ih =>
      rw [committed_cons] at done
      rcases Option.bind_eq_some_iff.mp done with ⟨middle, first, rest⟩
      exact ih rest (keeps head initial middle first holds)

/-- Every reached state has what the initial one has and commits keep. -/
theorem Reached.preserves {motive : σ -> Prop}
    (keeps : forall item state following, commit item state = some following -> motive state ->
      motive following)
    {items : List α} {initial state : σ} {cursor : Nat}
    (reached : Reached commit items initial cursor state) (holds : motive initial) :
    motive state :=
  committed_preserves keeps reached holds

/-- Where the rest of the items starts, the cursor points at its head. -/
theorem getElem?_of_drop {items : List α} {cursor : Nat} {head : α} {tail : List α}
    (rest : items.drop cursor = head :: tail) :
    items[cursor]? = some head ∧ items.drop (cursor + 1) = tail := by
  constructor
  · rw [← List.head?_drop, rest]
    rfl
  · rw [← List.tail_drop, rest]
    rfl

end Checkpoints
end Foundations
end MarketIntelligence
