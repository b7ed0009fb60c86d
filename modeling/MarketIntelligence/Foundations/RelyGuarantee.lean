import MarketIntelligence.Foundations.Statements

namespace MarketIntelligence
namespace Foundations
namespace Statements

/-!
# Rely and guarantee

A transaction that other transactions overtake can still commit a good write, when
what it has read stays good.  The order `grows` is what every commit guarantees, and
so what an open transaction may rely on between two of its statements.

A transaction is safe at a state when every write that it may commit, at any later
state, keeps the invariant and guarantees the order.  When every request is safe, the
invariant holds whatever the interleaving, and the committed state only grows.
-/

section Rely

variable {σ ω ε ρ : Type} (apply : ω -> σ -> Option σ) (valid : σ -> Prop)
  (grows : σ -> σ -> Prop)

/-- Every write the transaction may commit from here on is a good one. -/
def Safe : Transaction σ ω ε -> σ -> Prop
  | .query next, state => forall later, grows state later -> valid later -> Safe (next later) later
  | .commit write, state => forall later, grows state later -> valid later ->
      valid (committing apply write later) ∧ grows later (committing apply write later)
  | .raise _, _ => True

variable {apply valid grows} {transaction : ρ -> Transaction σ ω ε}

theorem Safe.mono (trans : forall first second third, grows first second ->
      grows second third -> grows first third) {rest : Transaction σ ω ε} {state later : σ}
    (safe : Safe apply valid grows rest state) (grown : grows state later) :
    Safe apply valid grows rest later := by
  cases rest with
  | query next => exact fun further more => safe further (trans _ _ _ grown more)
  | commit write => exact fun further more => safe further (trans _ _ _ grown more)
  | raise raised => trivial

/-- A write that the database refuses changes nothing. -/
theorem safe_commit (refl : forall state, grows state state) {write : ω} {state : σ}
    (good : forall later written, grows state later -> valid later ->
      apply write later = some written -> valid written ∧ grows later written) :
    Safe apply valid grows (.commit write : Transaction σ ω ε) state := by
  intro later grown holds
  unfold committing
  cases applied : apply write later with
  | none => exact ⟨holds, refl later⟩
  | some written => exact good later written grown holds applied

/-- The invariant of a server: what is committed is valid, and the open transactions are safe. -/
structure Reliable (apply : ω -> σ -> Option σ) (valid : σ -> Prop) (grows : σ -> σ -> Prop)
    (server : Server σ ω ε) : Prop where
  committed : valid server.committed
  opened : forall opened, opened ∈ server.opened ->
    Safe apply valid grows opened.rest server.committed

theorem reliable_opening {state : σ} (initial : valid state) :
    Reliable apply valid grows (⟨state, []⟩ : Server σ ω ε) :=
  ⟨initial, fun _ member => absurd member List.not_mem_nil⟩

section Order

variable (refl : forall state, grows state state)
  (trans : forall first second third, grows first second -> grows second third ->
    grows first third)
  (requests : forall request state, valid state ->
    Safe apply valid grows (transaction request) state)

include refl trans requests

theorem step_reliable {server : Server σ ω ε} (reliable : Reliable apply valid grows server)
    (action : Action ρ) :
    Reliable apply valid grows (step apply transaction server action) ∧
      grows server.committed (step apply transaction server action).committed := by
  have without : forall session opened, opened ∈ server.without session ->
      Safe apply valid grows opened.rest server.committed :=
    fun session opened member => reliable.opened opened (List.mem_filter.mp member).1
  cases action with
  | abandon session => exact ⟨⟨reliable.committed, without session⟩, refl _⟩
  | begins session request =>
      simp only [step]
      cases server.rest session with
      | some rest => exact ⟨reliable, refl _⟩
      | none =>
          refine ⟨⟨reliable.committed, fun opened member => ?_⟩, refl _⟩
          rcases List.mem_append.mp member with old | new
          · exact reliable.opened opened old
          · rw [List.mem_singleton.mp new]
            exact requests request server.committed reliable.committed
  | advance session =>
      simp only [step]
      cases found : server.rest session with
      | none => exact ⟨reliable, refl _⟩
      | some rest =>
          rcases Server.rest_some found with ⟨known, listed, same⟩
          have safe := reliable.opened known listed
          rw [same] at safe
          cases rest with
          | raise raised => exact ⟨⟨reliable.committed, without session⟩, refl _⟩
          | query next =>
              refine ⟨⟨reliable.committed, fun opened member => ?_⟩, refl _⟩
              rcases Tables.mem_put member with new | old
              · rw [new]
                exact safe server.committed (refl _) reliable.committed
              · exact reliable.opened opened old
          | commit write =>
              have good := safe server.committed (refl _) reliable.committed
              exact ⟨⟨good.1, fun opened member => (without session opened member).mono trans good.2⟩,
                good.2⟩

/-- Any run: the invariant holds at its end, and the committed state has only grown. -/
theorem foldl_reliable (actions : List (Action ρ)) {server : Server σ ω ε}
    (reliable : Reliable apply valid grows server) :
    Reliable apply valid grows (actions.foldl (step apply transaction) server) ∧
      grows server.committed (actions.foldl (step apply transaction) server).committed := by
  induction actions generalizing server with
  | nil => exact ⟨reliable, refl _⟩
  | cons action rest ih =>
      rcases step_reliable refl trans requests reliable action with ⟨next, grown⟩
      rcases ih next with ⟨final, further⟩
      exact ⟨final, trans _ _ _ grown further⟩

end Order

end Rely

end Statements
end Foundations
end MarketIntelligence
