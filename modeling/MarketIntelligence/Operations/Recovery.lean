import MarketIntelligence.Operations.Worker

namespace MarketIntelligence
namespace Operations

open Foundations

/-!
# Recovery and resolution

The scheduler takes back the occurrences whose lease has run out, and an operator
resolves those that are quarantined.  A claim, its outcome, a recovery and a resolution
can each be a transaction of its own, and any number of workers take part.
-/

/-! ## The scheduler -/

section Recovery

variable {Data : Type} (environment : Environment Data)

/-- The rows that `recover_expired_occurrences` selects. -/
def leaseExpired (now : Instant) (occurrence : ScheduledTaskOccurrence) : Bool :=
  occurrence.status ∈ [.claimed, .running] && occurrence.leaseExpiresAt.any (· ≤ now)

/-- The body of `for row in rows`. -/
def recoverRow (row : ScheduledTaskOccurrence) : Program Data ScheduledTaskOccurrence := do
  let definition ← getDefinition row.definitionId
  let maximum ← raise (maximumAttempts definition)
  let outcome ←
    if maximum ≤ (row.attempts : Int) then
      pure
        { row with
          status := .quarantined
          finishedAt := some environment.now
          errorCategory := row.errorCategory.or (some .unknown) }
    else do
      let delay ← raise (computeRetryDelay environment.randint row.attempts (toString row.id))
      pure
        { row with
          status := .retryWait
          nextRetryAt := some (environment.now + delay * second) }
  let recovered :=
    { outcome with
      claimedBy := none
      leaseExpiresAt := none
      sanitizedError := some "Worker lease expired; occurrence recovered" }
  write recovered
  pure recovered

def recoverExpiredOccurrences : Program Data (List ScheduledTaskOccurrence) := do
  flush
  let session ← get
  let rows ← (session.occurrences.filter (leaseExpired environment.now)).mapM
    (recoverRow environment)
  flush
  pure rows

end Recovery

/-! ## The operator -/

/-- `_error` -/
structure ApiError where
  code : String
  message : String
  statusCode : Nat
  deriving DecidableEq, Repr

structure Resolution where
  id : Identifier
  status : Status
  action : String
  deriving DecidableEq, Repr

/-- The `changes` of an action, for the occurrence that was read. -/
def resolutionChanges (now : Instant) (occurrence : ScheduledTaskOccurrence)
    (normalized : String) :
    Option (Status × (ScheduledTaskOccurrence -> ScheduledTaskOccurrence)) :=
  if normalized = "RETRY" then
    some (.retryWait, fun row =>
      { row with status := .retryWait, nextRetryAt := some now, finishedAt := none })
  else if normalized = "DISMISS" then
    some (.cancelled, fun row => { row with status := .cancelled, finishedAt := some now })
  else if normalized = "SUPERSEDE" then
    some (.cancelled, fun row =>
      { row with
        status := .cancelled
        finishedAt := some now
        resultManifest :=
          occurrence.resultManifest.merge [("resolution", .text "SUPERSEDED")] })
  else none

section Resolution

variable {Data : Type}

/-- The endpoint, with the rows that its `update` matches.  `upper` is `str.upper`. -/
def resolveQuarantinedOccurrence (upper : String -> String) (now : Instant)
    (workspaceId occurrenceId : Identifier) (action : String) (stored : Database Data) :
    Except ApiError (Resolution × Database Data) :=
  match stored.occurrences.find? fun row =>
      row.id = occurrenceId && row.workspaceId = some workspaceId with
  | none => .error ⟨"occurrence_not_found", "Scheduled occurrence was not found", 404⟩
  | some occurrence =>
      if occurrence.status ≠ .quarantined then
        .error ⟨"occurrence_not_quarantined", "Only quarantined work can be resolved", 409⟩
      else
        match resolutionChanges now occurrence (upper action) with
        | none =>
            .error ⟨"invalid_quarantine_action",
              "Action must be RETRY, DISMISS, or SUPERSEDE", 422⟩
        | some (status, change) =>
            let matched := fun row : ScheduledTaskOccurrence =>
              row.id = occurrenceId && row.workspaceId = some workspaceId &&
                row.status = .quarantined
            if stored.occurrences.countP matched ≠ 1 then
              .error ⟨"occurrence_not_quarantined", "Only quarantined work can be resolved", 409⟩
            else
              .ok (⟨occurrence.id, status, upper action⟩,
                { stored with
                  occurrences := stored.occurrences.map fun row =>
                    if matched row then change row else row })

end Resolution

/-! ## Transactions of the workers, the scheduler and the operator -/

/-- The worker that takes the step is named for the reader: the functions that finish an
occurrence do not receive it. -/
inductive Transaction where
  | claim (workerId : String) (leaseSeconds : Int)
  | complete (workerId : String) (occurrenceId : Identifier) (resultManifest : Manifest)
  | fail (workerId : String) (occurrenceId : Identifier) (errorCategory : ErrorCategory)
      (sanitizedError : String)
  | recover
  | resolve (workspaceId occurrenceId : Identifier) (action : String)
  deriving DecidableEq, Repr

section Transactions

variable {Data : Type}

/-- The environment when the clock shows the instant. -/
def Environment.at (environment : Environment Data) (now : Instant) : Environment Data :=
  { environment with now := now }

/-- The occurrence is read, and its outcome recorded. -/
def finishing (occurrenceId : Identifier)
    (finish : ScheduledTaskOccurrence -> Program Data PUnit) : Program Data PUnit := do
  let session ← get
  match Tables.lookup (·.id) occurrenceId session.occurrences with
  | none => pure ⟨⟩
  | some occurrence => finish occurrence

/-- The rows that a recovery gives back. -/
def recoveredRows (environment : Environment Data) (stored : Database Data) :
    List ScheduledTaskOccurrence :=
  match recoverExpiredOccurrences environment (Session.begins stored) with
  | .ok rows _ => rows
  | .error _ _ => []

variable (environment : Environment Data) (upper : String -> String)

def operate (stored : Database Data) (now : Instant) : Transaction -> Database Data
  | .claim workerId leaseSeconds =>
      Transactions.transact Session.begins Session.commits
        (claimNextOccurrence (environment.at now) workerId leaseSeconds) stored
  | .complete _ occurrenceId resultManifest =>
      Transactions.transact Session.begins Session.commits
        (finishing occurrenceId fun occurrence =>
          completeOccurrence (environment.at now) occurrence resultManifest) stored
  | .fail _ occurrenceId errorCategory sanitizedError =>
      Transactions.transact Session.begins Session.commits
        (finishing occurrenceId fun occurrence =>
          failOccurrence (environment.at now) occurrence errorCategory sanitizedError) stored
  | .recover =>
      Transactions.transact Session.begins Session.commits
        (recoverExpiredOccurrences (environment.at now)) stored
  | .resolve workspaceId occurrenceId action =>
      match resolveQuarantinedOccurrence upper now workspaceId occurrenceId action stored with
      | .error _ => stored
      | .ok (_, next) => next

end Transactions

end Operations
end MarketIntelligence
