import MarketIntelligence.Foundations.Loops

namespace MarketIntelligence
namespace Foundations
namespace Projections

/-!
# Programs seen through a projection of their state

A program on a large state often decides only by a part of it.  It projects to a
program on that part when both give the same outcome and the same final state,
completed or raised, as far as the part goes.

Projection composes along sequencing and along loops.  A step that only touches
the rest of the state is silent, and disappears from the projected program.
-/

universe u

variable {ε σ τ α β : Type u}

open Loops

/-- A result with its final state projected. -/
def mapState (project : σ -> τ) : EStateM.Result ε σ α -> EStateM.Result ε τ α
  | .ok value state => .ok value (project state)
  | .error raised state => .error raised (project state)

def Projects (project : σ -> τ) (program : EStateM ε σ α) (projected : EStateM ε τ α) : Prop :=
  forall state, mapState project (program state) = projected (project state)

/-- The program completes and the projection does not see it, as a log line or a counter that the
projection leaves out. -/
def Silent (project : σ -> τ) (program : EStateM ε σ PUnit) : Prop :=
  forall state, exists final, program state = .ok ⟨⟩ final ∧ project final = project state

variable {project : σ -> τ}

/-! ## Outcomes -/

section Outcomes

variable {program : EStateM ε σ α} {projected : EStateM ε τ α}

theorem Projects.ok (projects : Projects project program projected) {state final : σ} {value : α}
    (done : program state = .ok value final) :
    projected (project state) = .ok value (project final) := by
  rw [← projects state, done]
  rfl

theorem Projects.error (projects : Projects project program projected) {state final : σ}
    {raised : ε} (stopped : program state = .error raised final) :
    projected (project state) = .error raised (project final) := by
  rw [← projects state, stopped]
  rfl

/-- What the projected program completes, the program completes. -/
theorem Projects.lift (projects : Projects project program projected) {state : σ} {value : α}
    {target : τ} (done : projected (project state) = .ok value target) :
    exists final, program state = .ok value final ∧ project final = target := by
  rw [← projects state] at done
  cases ended : program state with
  | ok result final =>
      rw [ended] at done
      cases done
      exact ⟨final, rfl, rfl⟩
  | error raised final =>
      rw [ended] at done
      cases done

/-- A program that projects to a change of the state completes. -/
theorem Projects.completes {step : EStateM ε σ PUnit} {change : τ -> τ}
    (projects : Projects project step (modify change)) (state : σ) :
    exists final, step state = .ok ⟨⟩ final ∧ project final = change (project state) := by
  have seen := projects state
  cases ended : step state with
  | ok value final =>
      rw [ended] at seen
      exact ⟨final, rfl, (EStateM.Result.ok.inj seen).2⟩
  | error raised final =>
      rw [ended] at seen
      cases seen

/-- A condition before and after a step that projects to a change. -/
theorem Projects.meets {step : EStateM ε σ PUnit} {change : τ -> τ} {before after : τ -> Prop}
    {raised : ε -> σ -> Prop} (projects : Projects project step (modify change))
    (establishes : forall state, before state -> after (change state)) :
    Meets (fun state => before (project state)) step (fun _ state => after (project state))
      raised := by
  intro state holds
  rcases projects.completes state with ⟨final, done, same⟩
  rw [done]
  exact Eq.mpr (congrArg after same) (establishes _ holds)

theorem Projects.lift_error (projects : Projects project program projected) {state : σ}
    {raised : ε} {target : τ} (stopped : projected (project state) = .error raised target) :
    exists final, program state = .error raised final ∧ project final = target := by
  rw [← projects state] at stopped
  cases ended : program state with
  | ok result final =>
      rw [ended] at stopped
      cases stopped
  | error failure final =>
      rw [ended] at stopped
      cases stopped
      exact ⟨final, rfl, rfl⟩

/-- What the projected program preserves, the program preserves through the projection. -/
theorem Projects.preserves {invariant : τ -> Prop} (projects : Projects project program projected)
    (keeps : Preserves invariant projected) :
    Preserves (fun state => invariant (project state)) program := by
  intro state holds
  have kept := keeps (project state) holds
  cases ended : program state with
  | ok value final =>
      rw [projects.ok ended] at kept
      exact kept
  | error raised final =>
      rw [projects.error ended] at kept
      exact kept

end Outcomes

/-! ## Composition -/

theorem Projects.pure (value : α) :
    Projects (ε := ε) project (Pure.pure value) (Pure.pure value) :=
  fun _ => rfl

theorem Projects.modify {change : σ -> σ} {projected : τ -> τ}
    (follows : forall state, project (change state) = projected (project state)) :
    Projects (ε := ε) project (modify change) (modify projected) :=
  fun state => congrArg (EStateM.Result.ok PUnit.unit) (follows state)

theorem Projects.bind {first : EStateM ε σ α} {projectedFirst : EStateM ε τ α}
    {next : α -> EStateM ε σ β} {projectedNext : α -> EStateM ε τ β}
    (begins : Projects project first projectedFirst)
    (continues : forall value, Projects project (next value) (projectedNext value)) :
    Projects project (first >>= next) (projectedFirst >>= projectedNext) := by
  intro state
  rw [bind_apply, bind_apply]
  cases ended : first state with
  | ok value middle =>
      rw [begins.ok ended]
      exact continues value middle
  | error raised middle =>
      rw [begins.error ended]
      rfl

/-- A read, when what follows uses what it has read through the projection. -/
theorem Projects.get_bind {next : σ -> EStateM ε σ β} {projectedNext : τ -> EStateM ε τ β}
    (continues : forall seen, Projects project (next seen) (projectedNext (project seen))) :
    Projects project (get >>= next) (get >>= projectedNext) :=
  fun state => continues state state

/-- A read that the projected program can do without. -/
theorem Projects.get_unseen {next : σ -> EStateM ε σ β} {projected : EStateM ε τ β}
    (continues : forall seen, Projects project (next seen) projected) :
    Projects project (get >>= next) projected :=
  fun state => continues state state

theorem Projects.forM {body : α -> EStateM ε σ PUnit} {projectedBody : α -> EStateM ε τ PUnit}
    {values : List α} (each : forall value, Projects project (body value) (projectedBody value)) :
    Projects project (values.forM body) (values.forM projectedBody) := by
  induction values with
  | nil => exact Projects.pure _
  | cons head tail ih =>
      exact (each head).bind fun _ => ih

/-! ## Silent steps -/

theorem Silent.modify {change : σ -> σ} (unseen : forall state, project (change state) = project state) :
    Silent (ε := ε) project (modify change) :=
  fun state => ⟨change state, rfl, unseen state⟩

theorem Silent.bind {first next : EStateM ε σ PUnit} (begins : Silent project first)
    (continues : Silent project next) : Silent project (first >>= fun _ => next) := by
  intro state
  rcases begins state with ⟨middle, done, same⟩
  rcases continues middle with ⟨final, rest, kept⟩
  refine ⟨final, ?_, kept.trans same⟩
  rw [bind_apply, done]
  exact rest

theorem Silent.forM {body : α -> EStateM ε σ PUnit} {values : List α}
    (each : forall value, Silent project (body value)) : Silent project (values.forM body) := by
  induction values with
  | nil => exact fun state => ⟨state, rfl, rfl⟩
  | cons head tail ih => exact (each head).bind ih

theorem Silent.projects {step : EStateM ε σ PUnit} (silent : Silent project step) :
    Projects project step (Pure.pure ⟨⟩) := by
  intro state
  rcases silent state with ⟨final, done, same⟩
  rw [done]
  exact congrArg (EStateM.Result.ok PUnit.unit) same

/-- A condition on the projection survives a silent step. -/
theorem Silent.meets {step : EStateM ε σ PUnit} {held : τ -> Prop} {raised : ε -> σ -> Prop}
    (silent : Silent project step) :
    Meets (fun state => held (project state)) step (fun _ state => held (project state))
      raised := by
  intro state holds
  rcases silent state with ⟨final, done, same⟩
  rw [done]
  exact Eq.mpr (congrArg held same) holds

theorem Projects.silent_bind {step : EStateM ε σ PUnit} {next : EStateM ε σ α}
    {projected : EStateM ε τ α} (silent : Silent project step)
    (continues : Projects project next projected) :
    Projects project (step >>= fun _ => next) projected := by
  intro state
  rcases silent state with ⟨middle, done, same⟩
  rw [bind_apply, done, ← same]
  exact continues middle

theorem Projects.bind_silent {program step : EStateM ε σ PUnit} {projected : EStateM ε τ PUnit}
    (projects : Projects project program projected) (silent : Silent project step) :
    Projects project (program >>= fun _ => step) projected := by
  intro state
  rw [bind_apply]
  cases ended : program state with
  | ok value middle =>
      rw [projects.ok ended]
      exact silent.projects middle
  | error raised middle =>
      rw [projects.error ended]
      rfl

end Projections
end Foundations
end MarketIntelligence
