import MarketIntelligence.Foundations.Loops

namespace MarketIntelligence
namespace Foundations
namespace Transactions

/-!
# Programs run as one transaction

A program works on a session that is opened on the stored state.  A completed
program is committed, and what it raises takes back everything it wrote.  A
handler, on the other hand, starts from the session as the failed program has
left it.

Whatever a program does before it raises, the stored state after the transaction
is either the stored state before it or the session of a completed program.
-/

universe u

variable {ε σ α δ : Type u}

open Loops

/-! ## Handlers -/

section Handlers

variable {program : EStateM ε σ α} {handler : ε -> EStateM ε σ α} {state reached : σ}

theorem tryCatch_ok {value : α} (done : program state = .ok value reached) :
    (tryCatch program handler) state = .ok value reached := by
  change EStateM.tryCatch program handler state = _
  simp only [EStateM.tryCatch, done]

/-- A handler sees the state the failed program has reached. -/
theorem tryCatch_error {failure : ε} (raised : program state = .error failure reached) :
    (tryCatch program handler) state = handler failure reached := by
  change EStateM.tryCatch program handler state = _
  simp only [EStateM.tryCatch, raised]
  rfl

theorem preserves_tryCatch {invariant : σ -> Prop} (begins : Preserves invariant program)
    (handles : forall failure, Preserves invariant (handler failure)) :
    Preserves invariant (tryCatch program handler) := by
  intro state holds
  have middle := begins state holds
  cases ended : program state with
  | ok value reached =>
      rw [ended] at middle
      rw [tryCatch_ok ended]
      exact middle
  | error failure reached =>
      rw [ended] at middle
      rw [tryCatch_error ended]
      exact handles failure reached middle

/-- The handler rule: it starts from what the program establishes when it raises. -/
theorem meets_tryCatch {before : σ -> Prop} {after : α -> σ -> Prop} {stopped raised : ε -> σ -> Prop}
    (begins : Meets before program after stopped)
    (handles : forall failure, Meets (stopped failure) (handler failure) after raised) :
    Meets before (tryCatch program handler) after raised := by
  intro state holds
  have met := begins state holds
  cases ended : program state with
  | ok value reached =>
      rw [ended] at met
      rw [tryCatch_ok ended]
      exact met
  | error failure reached =>
      rw [ended] at met
      rw [tryCatch_error ended]
      exact handles failure reached met

end Handlers

/-! ## Commit and rollback -/

section Scopes

/-- The stored state after a program has run as one transaction: it commits where the program
completes, and a raised one leaves nothing. -/
def transact (begins : δ -> σ) (commits : σ -> δ) (program : EStateM ε σ α) (stored : δ) : δ :=
  match program (begins stored) with
  | .ok _ session => commits session
  | .error _ _ => stored

variable {begins : δ -> σ} {commits : σ -> δ} {program : EStateM ε σ α} {stored : δ}

@[simp]
theorem transact_ok {value : α} {session : σ} (done : program (begins stored) = .ok value session) :
    transact begins commits program stored = commits session := by
  simp only [transact, done]

@[simp]
theorem transact_error {failure : ε} {session : σ}
    (raised : program (begins stored) = .error failure session) :
    transact begins commits program stored = stored := by
  simp only [transact, raised]

/-- The transaction rule: only a completed program has to answer for the
invariant of the stored state. -/
theorem transact_preserves {motive : δ -> Prop} (holds : motive stored)
    (completes : forall value session, program (begins stored) = .ok value session ->
      motive (commits session)) :
    motive (transact begins commits program stored) := by
  cases ended : program (begins stored) with
  | ok value session =>
      rw [transact_ok ended]
      exact completes value session ended
  | error failure session =>
      rw [transact_error ended]
      exact holds

end Scopes

end Transactions
end Foundations
end MarketIntelligence
