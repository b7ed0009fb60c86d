import Mathlib.Data.List.Basic

namespace MarketIntelligence
namespace Foundations
namespace Trails

/-!
# Trails of transitions

A trail is a list of transitions.  It leads from one state to another when each of
its transitions is allowed and starts where the one before it ended.
-/

universe u

variable {σ : Type u} (allowed : σ -> σ -> Prop)

inductive Leads : σ -> List (σ × σ) -> σ -> Prop where
  | here (state : σ) : Leads state [] state
  | step {state next final : σ} {rest : List (σ × σ)} (permitted : allowed state next)
      (onward : Leads next rest final) : Leads state ((state, next) :: rest) final

variable {allowed}

theorem Leads.append {start middle final : σ} {first second : List (σ × σ)}
    (before : Leads allowed start first middle) (after : Leads allowed middle second final) :
    Leads allowed start (first ++ second) final := by
  induction before with
  | here state => exact after
  | step permitted onward ih =>
      exact .step permitted (ih after)

theorem Leads.snoc {start middle final : σ} {trail : List (σ × σ)}
    (before : Leads allowed start trail middle) (permitted : allowed middle final) :
    Leads allowed start (trail ++ [(middle, final)]) final :=
  before.append (.step permitted (.here final))

/-- The states that a trail leaves and enters, in their order. -/
theorem Leads.isChain {start final : σ} {trail : List (σ × σ)}
    (leads : Leads allowed start trail final) :
    List.IsChain allowed (start :: trail.map Prod.snd) := by
  induction leads with
  | here state => exact .singleton state
  | step permitted onward ih => exact .cons_cons permitted ih

theorem Leads.states {start final : σ} {trail : List (σ × σ)}
    (leads : Leads allowed start trail final) :
    trail.map Prod.fst ++ [final] = start :: trail.map Prod.snd := by
  induction leads with
  | here state => rfl
  | step permitted onward ih =>
      rw [List.map_cons, List.map_cons, List.cons_append, ih]

/-- A state that a trail leaves after its first one is a state that it has entered. -/
theorem Leads.mem_of_mem_tail {start final state : σ} {trail : List (σ × σ)}
    (leads : Leads allowed start trail final) (member : state ∈ (trail.map Prod.fst).tail) :
    state ∈ trail.map Prod.snd := by
  have ends := congrArg List.tail leads.states
  cases trail with
  | nil => cases member
  | cons first rest =>
      rw [List.tail_cons] at ends
      rw [← ends]
      exact List.mem_append_left _ member

theorem Leads.entered {start final : σ} {trail : List (σ × σ)} {reached : σ -> Prop}
    (leads : Leads allowed start trail final)
    (enters : forall state next, allowed state next -> reached next) :
    forall state, state ∈ trail.map Prod.snd -> reached state := by
  induction leads with
  | here state =>
      intro other member
      cases member
  | step permitted onward ih =>
      intro other member
      rcases List.mem_cons.mp member with first | later
      · exact first ▸ enters _ _ permitted
      · exact ih other later

theorem Leads.unique {start left right : σ} {trail : List (σ × σ)}
    (leftLeads : Leads allowed start trail left) (rightLeads : Leads allowed start trail right) :
    left = right := by
  induction leftLeads with
  | here state =>
      cases rightLeads
      rfl
  | step permitted onward ih =>
      cases rightLeads with
      | step _ rest => exact ih rest

end Trails
end Foundations
end MarketIntelligence
