import MarketIntelligence.Foundations.Runs
import MarketIntelligence.Foundations.Tables
import Mathlib.Data.List.Induction

namespace MarketIntelligence
namespace Foundations
namespace Statements

/-!
# Transactions statement by statement

A transaction reads in several statements and ends with a commit or an exception.  Each
statement sees what is committed when it is executed, and not what was committed when
the transaction began.  A server interleaves the statements of its open transactions in
any order.
-/

/-- A transaction as a tree of its statements: a query sees the state of its own instant, and
only the commit writes.  `ω` are the writes and `ε` the exceptions. -/
inductive Transaction (σ ω ε : Type) where
  | query (next : σ -> Transaction σ ω ε)
  | commit (write : ω)
  | raise (raised : ε)

section Single

variable {σ ω ε : Type} (apply : ω -> σ -> Option σ)

/-- A write that the database refuses is rolled back. -/
def committing (write : ω) (state : σ) : σ := (apply write state).getD state

end Single

/-! ## The server -/

structure Opened (σ ω ε : Type) where
  session : Nat
  rest : Transaction σ ω ε

structure Server (σ ω ε : Type) where
  committed : σ
  opened : List (Opened σ ω ε)

/-- A request is begun, a session executes its next statement, or a session is lost. -/
inductive Action (ρ : Type) where
  | begins (session : Nat) (request : ρ)
  | advance (session : Nat)
  | abandon (session : Nat)

section System

variable {σ ω ε ρ : Type} (apply : ω -> σ -> Option σ) (transaction : ρ -> Transaction σ ω ε)

def Server.rest (server : Server σ ω ε) (session : Nat) : Option (Transaction σ ω ε) :=
  (Tables.lookup Opened.session session server.opened).map Opened.rest

def Server.without (server : Server σ ω ε) (session : Nat) : List (Opened σ ω ε) :=
  server.opened.filter fun opened => opened.session ≠ session

/-- The write that an action commits. -/
def Server.commits (server : Server σ ω ε) : Action ρ -> Option ω
  | .advance session =>
      match server.rest session with
      | some (.commit write) => some write
      | _ => none
  | .begins _ _ => none
  | .abandon _ => none

def step (server : Server σ ω ε) : Action ρ -> Server σ ω ε
  | .begins session request =>
      match server.rest session with
      | none => { server with opened := server.opened ++ [⟨session, transaction request⟩] }
      | some _ => server
  | .advance session =>
      match server.rest session with
      | none => server
      | some (.query next) =>
          { server with
            opened := Tables.put Opened.session ⟨session, next server.committed⟩ server.opened }
      | some (.commit write) => ⟨committing apply write server.committed, server.without session⟩
      | some (.raise _) => { server with opened := server.without session }
  | .abandon session => { server with opened := server.without session }

variable {apply transaction}

/-- Only a commit changes what is committed. -/
theorem step_committed (server : Server σ ω ε) (action : Action ρ) :
    (step apply transaction server action).committed =
      ((server.commits action).map fun write => committing apply write server.committed).getD
        server.committed := by
  cases action with
  | begins session request =>
      simp only [step, Server.commits]
      split <;> rfl
  | abandon session => rfl
  | advance session =>
      simp only [step, Server.commits]
      cases server.rest session with
      | none => rfl
      | some rest => cases rest <;> rfl

/-- A property of what is committed is decided commit by commit. -/
theorem committed_states_iff {motive : σ -> Prop} {guard : σ -> ω -> Prop}
    (decides : forall state write, motive state ->
      (motive (committing apply write state) <-> guard state write))
    {server : Server σ ω ε} {actions : List (Action ρ)} (initial : motive server.committed) :
    (forall visited, visited ∈ Runs.states (step apply transaction) server actions ->
      motive visited.committed) <->
      Runs.Along (step apply transaction)
        (fun server action => forall write, server.commits action = some write ->
          guard server.committed write) server actions := by
  apply Runs.invariant_states_iff_along
    (motive := fun server : Server σ ω ε => motive server.committed)
  · intro server action holds
    rw [step_committed]
    cases commits : server.commits action with
    | none => exact iff_of_true holds (fun write impossible => by cases impossible)
    | some write =>
        have decided := decides server.committed write holds
        constructor
        · intro kept other same
          cases same
          exact decided.mp kept
        · intro guarded
          exact decided.mpr (guarded write rfl)
  · exact initial

theorem Server.rest_some {server : Server σ ω ε} {session : Nat} {rest : Transaction σ ω ε}
    (found : server.rest session = some rest) :
    exists opened, opened ∈ server.opened ∧ opened.rest = rest := by
  rcases Option.map_eq_some_iff.mp found with ⟨opened, known, same⟩
  exact ⟨opened, (Tables.lookup_some known).1, same⟩

end System

end Statements
end Foundations
end MarketIntelligence
