import Mathlib.Data.List.Basic

namespace MarketIntelligence
namespace Foundations
namespace Runs

/-!
# Runs of a labelled system

A system is a function from a state and a label to the next state.  A label that
is refused leaves the state as it is.  A run is a list of labels, and it visits
the state before its first label and the state after each.

A guard is a condition on a state and the label about to be applied.  An
invariant kept by every guarded step holds at every state a guarded run visits.
When the guard is also necessary for the step to keep the invariant, it can be
read off from the states visited.
-/

universe u v

variable {σ : Type u} {α : Type v} (step : σ -> α -> σ)

/-- The states a run visits, the first one included.  A property of every state a system can
reach is one of all members of these lists. -/
def states (start : σ) : List α -> List σ
  | [] => [start]
  | label :: rest => start :: states (step start label) rest

/-- The guard holds at every step of the run, each time of the state before the step and of the
label that is taken there. -/
def Along (guard : σ -> α -> Prop) (start : σ) : List α -> Prop
  | [] => True
  | label :: rest => guard start label ∧ Along guard (step start label) rest

section Membership

variable {step}

theorem start_mem_states (start : σ) (labels : List α) : start ∈ states step start labels := by
  cases labels <;> exact List.mem_cons_self

theorem foldl_mem_states (start : σ) (labels : List α) :
    labels.foldl step start ∈ states step start labels := by
  induction labels generalizing start with
  | nil => exact List.mem_cons_self
  | cons label rest ih =>
      exact List.mem_cons_of_mem _ (ih (step start label))

/-- Two guards that agree at every step of a run agree on the run. -/
theorem Along.iff_of_agree {agree guard other : σ -> α -> Prop} {start : σ} {labels : List α}
    (along : Along step agree start labels)
    (same : forall state label, agree state label -> (guard state label <-> other state label)) :
    Along step guard start labels <-> Along step other start labels := by
  induction labels generalizing start with
  | nil => exact Iff.rfl
  | cons label rest ih =>
      exact and_congr (same start label along.1) (ih along.2)

/-- What all labels have, every step has. -/
theorem Along.and_labels {guard : σ -> α -> Prop} {allowed : α -> Prop} {start : σ}
    {labels : List α} (along : Along step guard start labels)
    (all : forall label, label ∈ labels -> allowed label) :
    Along step (fun state label => guard state label ∧ allowed label) start labels := by
  induction labels generalizing start with
  | nil => trivial
  | cons label rest ih =>
      exact ⟨⟨along.1, all label List.mem_cons_self⟩,
        ih along.2 fun other member => all other (List.mem_cons_of_mem _ member)⟩

theorem Along.true (start : σ) (labels : List α) :
    Along step (fun _ _ => True) start labels := by
  induction labels generalizing start with
  | nil => trivial
  | cons label rest ih => exact ⟨trivial, ih (step start label)⟩

end Membership

section Invariants

variable {step} {motive : σ -> Prop} {guard : σ -> α -> Prop}

/-- The run rule: what holds at the start and is kept by every step that meets the guard holds of
all the states of a run that meets it throughout. -/
theorem Along.preserves
    (keeps : forall state label, guard state label -> motive state ->
      motive (step state label))
    {start : σ} {labels : List α} (along : Along step guard start labels)
    (initial : motive start) :
    forall visited, visited ∈ states step start labels -> motive visited := by
  induction labels generalizing start with
  | nil =>
      intro visited member
      exact List.mem_singleton.mp member ▸ initial
  | cons label rest ih =>
      intro visited member
      rcases List.mem_cons.mp member with first | later
      · exact first ▸ initial
      · exact ih along.2 (keeps start label along.1 initial) visited later

/-- Under the invariant the guard may imply more of each step. -/
theorem Along.entails {stronger : σ -> α -> Prop}
    (keeps : forall state label, motive state -> guard state label ->
      motive (step state label))
    (implies : forall state label, motive state -> guard state label -> stronger state label)
    {start : σ} {labels : List α} (along : Along step guard start labels)
    (initial : motive start) : Along step stronger start labels := by
  induction labels generalizing start with
  | nil => trivial
  | cons label rest ih =>
      exact ⟨implies start label initial along.1,
        ih along.2 (keeps start label initial along.1)⟩

/-- The run rule without a guard: an invariant of every step holds of every state that any run
visits. -/
theorem invariant_states
    (keeps : forall state label, motive state -> motive (step state label))
    {start : σ} {labels : List α} (initial : motive start) :
    forall visited, visited ∈ states step start labels -> motive visited :=
  (Along.true start labels).preserves (fun state label _ => keeps state label) initial

theorem invariant_foldl
    (keeps : forall state label, motive state -> motive (step state label))
    {start : σ} {labels : List α} (initial : motive start) :
    motive (labels.foldl step start) :=
  invariant_states keeps initial _ (foldl_mem_states start labels)

/-- A guard that decides each step of the allowed labels decides the run. -/
theorem allowed_states_iff_along {allowed : α -> Prop}
    (decides : forall state label, allowed label -> motive state ->
      (motive (step state label) <-> guard state label))
    {start : σ} {labels : List α} (all : forall label, label ∈ labels -> allowed label)
    (initial : motive start) :
    (forall visited, visited ∈ states step start labels -> motive visited) <->
      Along step guard start labels := by
  constructor
  · intro holds
    induction labels generalizing start with
    | nil => trivial
    | cons label rest ih =>
        have next := holds (step start label)
          (List.mem_cons_of_mem _ (start_mem_states (step start label) rest))
        exact ⟨(decides start label (all label List.mem_cons_self) initial).mp next,
          ih (fun other member => all other (List.mem_cons_of_mem _ member)) next
            fun visited member => holds visited (List.mem_cons_of_mem _ member)⟩
  · intro along
    exact (along.and_labels all).preserves (fun state label permitted holds =>
      (decides state label permitted.2 holds).mpr permitted.1) initial

/-- The same where the invariant needs a condition on the labels that are still to come. -/
theorem invariant_states_iff_along_within {within : σ -> List α -> Prop}
    (decides : forall state label rest, within state (label :: rest) -> motive state ->
      (motive (step state label) <-> guard state label))
    (keeps : forall state label rest, within state (label :: rest) -> within (step state label) rest)
    {start : σ} {labels : List α} (entered : within start labels) (initial : motive start) :
    (forall visited, visited ∈ states step start labels -> motive visited) <->
      Along step guard start labels := by
  induction labels generalizing start with
  | nil =>
      refine iff_of_true ?_ trivial
      intro visited member
      rw [List.mem_singleton.mp member]
      exact initial
  | cons label rest ih =>
      have further := keeps start label rest entered
      constructor
      · intro holds
        have next := holds (step start label)
          (List.mem_cons_of_mem _ (start_mem_states (step start label) rest))
        exact ⟨(decides start label rest entered initial).mp next,
          (ih further next).mp fun visited member =>
            holds visited (List.mem_cons_of_mem _ member)⟩
      · rintro ⟨here, along⟩ visited member
        have next := (decides start label rest entered initial).mpr here
        rcases List.mem_cons.mp member with first | later
        · exact first ▸ initial
        · exact (ih further next).mpr along visited later

/-- A guard that decides each step decides the run. -/
theorem invariant_states_iff_along
    (decides : forall state label, motive state ->
      (motive (step state label) <-> guard state label))
    {start : σ} {labels : List α} (initial : motive start) :
    (forall visited, visited ∈ states step start labels -> motive visited) <->
      Along step guard start labels :=
  allowed_states_iff_along (fun state label (_ : True) => decides state label)
    (fun _ _ => trivial) initial

end Invariants

end Runs
end Foundations
end MarketIntelligence
