import MarketIntelligence.Operations.Worker

namespace MarketIntelligence
namespace Operations

open Foundations

/-!
# What a failed handler leaves behind

The worker records an outcome for a handler that returns and for four families of
exceptions.  It has no savepoint around the handler, so what a caught handler has
written is committed with the record of its failure.  Any other exception leaves
the claimed occurrence running in the session and ends the transaction.

The condition under which a failure is contained is therefore one on the handler:
it returns, or it raises a caught exception before it has changed a row.
-/

section Containment

variable {Data : Type} (environment : Environment Data)

/-- The occurrence has its outcome, and nobody holds it. -/
structure Settled (occurrence : ScheduledTaskOccurrence) : Prop where
  status : occurrence.status = .succeeded ∨ occurrence.status = .retryWait ∨
    occurrence.status = .quarantined
  claim : occurrence.claimedBy = none
  lease : occurrence.leaseExpiresAt = none

/-- The session holds a settled row for the occurrence. -/
def SettledIn (wanted : Identifier) (session : Session Data) : Prop :=
  exists row, Tables.lookup (·.id) wanted session.occurrences = some row ∧ Settled row

/-- The handler of the occurrence is called and raises. -/
def HandlerFailed (occurrence : ScheduledTaskOccurrence) (session : Session Data) : Prop :=
  exists definition handler raised work,
    Tables.lookup (·.id) occurrence.definitionId session.definitions = some definition ∧
      environment.handlers.lookup definition.taskType = some handler ∧
      handler definition session.work = .error raised work

/-- The execution returns, the occurrence is settled in the table, a commit follows, and the
commit keeps nothing of what a handler that failed has done in the session. -/
structure Contained (occurrence : ScheduledTaskOccurrence) (session : Session Data) : Prop where
  completes : Loops.completed (executeOccurrence environment occurrence session) = true
  settled : SettledIn occurrence.id
    (Loops.finalState (executeOccurrence environment occurrence session))
  discards : HandlerFailed environment occurrence session ->
    (Loops.finalState (executeOccurrence environment occurrence session)).commits.rows =
      session.work.rows

/-- The exceptions that `execute_occurrence` catches. -/
def Exception.caught (raised : Exception) : Bool :=
  match raised.family with
  | .timeoutError | .connectionError | .typeError | .valueError => true
  | _ => false

/-- `int` accepts the `maximum_attempts` of the definition. -/
def ScheduledTaskDefinition.Readable (definition : ScheduledTaskDefinition) : Prop :=
  exists maximum, maximumAttempts (some definition) = .ok maximum

/-- What a handler may do so that its outcome is contained. -/
def OutcomeCovered (definition : ScheduledTaskDefinition) (before : Work Data) :
    EStateM.Result Exception (Work Data) Manifest -> Prop
  | .ok _ work => work.refused = false
  | .error raised work =>
      raised.caught = true ∧ definition.Readable ∧ work.refused = false ∧ work.rows = before.rows

/-- The condition on the claimed occurrence, on its definition and on the handler.  It follows
the definition and the handler in the order in which the execution looks for them. -/
def Covered (occurrence : ScheduledTaskOccurrence) (session : Session Data) : Prop :=
  match Tables.lookup (·.id) occurrence.definitionId session.definitions with
  | none => True
  | some definition =>
      match environment.handlers.lookup definition.taskType with
      | none => definition.Readable
      | some handler =>
          OutcomeCovered definition session.work (handler definition session.work)

/-! ## The operations on one occurrence -/

section Steps

variable {environment}

@[simp]
theorem bind_getDefinition {α : Type} (wanted : Identifier)
    (next : Option ScheduledTaskDefinition -> Program Data α) (session : Session Data) :
    (getDefinition wanted >>= next) session =
      next (Tables.lookup (·.id) wanted session.definitions) session := rfl

@[simp]
theorem bind_write {α : Type} (row : ScheduledTaskOccurrence) (next : PUnit -> Program Data α)
    (session : Session Data) :
    (write row >>= next) session =
      next ⟨⟩ { session with occurrences := Tables.put (·.id) row session.occurrences } := rfl

@[simp]
theorem bind_raise_ok {α β : Type} {outcome : Except Exception α} {value : α}
    (done : outcome = .ok value) (next : α -> Program Data β) (session : Session Data) :
    (raise outcome >>= next) session = next value session := by
  rw [done]
  rfl

theorem bind_raise_error {α β : Type} {outcome : Except Exception α} {raised : Exception}
    (failed : outcome = .error raised) (next : α -> Program Data β) (session : Session Data) :
    (raise outcome >>= next) session = .error raised session := by
  rw [failed]
  rfl

theorem flush_clean {session : Session Data} (clean : session.work.refused = false) :
    flush session = .ok ⟨⟩ session := by
  simp [flush, clean]

theorem flush_refused {session : Session Data} (refused : session.work.refused = true) :
    flush session = .error integrityError session := by
  simp [flush, refused]

/-- A write of a settled row settles its occurrence, whatever was written before. -/
theorem settledIn_put {row : ScheduledTaskOccurrence} {wanted : Identifier}
    (same : row.id = wanted) (settled : Settled row) (session : Session Data)
    (occurrences : List ScheduledTaskOccurrence) :
    SettledIn wanted { session with occurrences := Tables.put (·.id) row occurrences } := by
  refine ⟨row, ?_, settled⟩
  rw [Tables.lookup_put, if_pos same]

/-- The result has recorded an outcome for the occurrence, over these rows of the
other tables. -/
structure Recorded (wanted : Identifier) (rows : Data)
    (result : EStateM.Result Exception (Session Data) PUnit) : Prop where
  completes : Loops.completed result = true
  settled : SettledIn wanted (Loops.finalState result)
  keeps : (Loops.finalState result).work.rows = rows

theorem not_recorded_error {wanted : Identifier} {rows : Data} {raised : Exception}
    {session : Session Data} : ¬ Recorded wanted rows (.error raised session) :=
  fun recorded => Bool.false_ne_true recorded.completes

/-- Every operation that settles an occurrence ends in one write and one flush. -/
theorem write_flush_recorded_iff {row : ScheduledTaskOccurrence} {wanted : Identifier}
    {rows : Data} {session : Session Data} (same : row.id = wanted) (settled : Settled row) :
    Recorded wanted rows ((write row >>= fun _ => flush) session) <->
      session.work.refused = false ∧ session.work.rows = rows := by
  rw [bind_write]
  cases refused : session.work.refused with
  | true =>
      rw [flush_refused (by exact refused)]
      constructor
      · intro recorded
        exact absurd recorded not_recorded_error
      · rintro ⟨clean, _⟩
        cases clean
  | false =>
      rw [flush_clean (by exact refused)]
      constructor
      · intro recorded
        exact ⟨rfl, recorded.keeps⟩
      · rintro ⟨_, kept⟩
        exact ⟨rfl, settledIn_put same settled session _, kept⟩

theorem completeOccurrence_recorded_iff {occurrence : ScheduledTaskOccurrence}
    {session : Session Data} {rows : Data} (resultManifest : Manifest) :
    Recorded occurrence.id rows
        (completeOccurrence environment occurrence resultManifest session) <->
      session.work.refused = false ∧ session.work.rows = rows := by
  apply write_flush_recorded_iff
  · rfl
  · exact ⟨Or.inl rfl, rfl, rfl⟩

/-- Only the flush can stop the recording of a success. -/
theorem completeOccurrence_error {occurrence : ScheduledTaskOccurrence}
    {session reached : Session Data} {resultManifest : Manifest} {raised : Exception}
    (stopped : completeOccurrence environment occurrence resultManifest session =
      .error raised reached) :
    raised = integrityError ∧ session.work.refused = true := by
  simp only [completeOccurrence, bind_write] at stopped
  cases refused : session.work.refused with
  | true =>
      rw [flush_refused (by exact refused)] at stopped
      cases stopped
      exact ⟨rfl, rfl⟩
  | false =>
      rw [flush_clean (by exact refused)] at stopped
      cases stopped

/-- A failure is recorded exactly when the retry policy can be read and the pending
rows can be flushed.  It never touches the other tables. -/
theorem failOccurrence_recorded_iff {occurrence : ScheduledTaskOccurrence}
    {session : Session Data} {rows : Data} (errorCategory : ErrorCategory)
    (sanitizedError : String) (attempted : 0 < occurrence.attempts) :
    Recorded occurrence.id rows
        (failOccurrence environment occurrence errorCategory sanitizedError session) <->
      (exists maximum, maximumAttempts
        (Tables.lookup (·.id) occurrence.definitionId session.definitions) = .ok maximum) ∧
      session.work.refused = false ∧ session.work.rows = rows := by
  rcases computeRetryDelay_ok environment.randint (toString occurrence.id) attempted with
    ⟨delay, delayed, _⟩
  simp only [failOccurrence, bind_getDefinition]
  cases read : maximumAttempts
      (Tables.lookup (·.id) occurrence.definitionId session.definitions) with
  | error raised =>
      rw [bind_raise_error rfl]
      constructor
      · intro recorded
        exact absurd recorded not_recorded_error
      · rintro ⟨⟨maximum, readable⟩, _⟩
        cases readable
  | ok maximum =>
      have readable : exists value, (Except.ok maximum : Except Exception Int) = .ok value :=
        ⟨maximum, rfl⟩
      rw [bind_raise_ok rfl]
      simp only [readable, true_and]
      split
      · rw [bind_write, bind_raise_ok delayed]
        apply write_flush_recorded_iff
        · rfl
        · exact ⟨Or.inr (Or.inl rfl), rfl, rfl⟩
      · apply write_flush_recorded_iff
        · rfl
        · exact ⟨Or.inr (Or.inr rfl), rfl, rfl⟩

/-- The `except` clauses record the failures they catch, and only those. -/
theorem recordFailure_recorded_iff {occurrence : ScheduledTaskOccurrence}
    {session : Session Data} {rows : Data} (raised : Exception)
    (attempted : 0 < occurrence.attempts) :
    Recorded occurrence.id rows (recordFailure environment occurrence raised session) <->
      raised.caught = true ∧
      (exists maximum, maximumAttempts
        (Tables.lookup (·.id) occurrence.definitionId session.definitions) = .ok maximum) ∧
      session.work.refused = false ∧ session.work.rows = rows := by
  rcases raised with ⟨family, name⟩
  cases family with
  | timeoutError | connectionError | typeError | valueError =>
      exact (failOccurrence_recorded_iff _ _ attempted).trans
        ⟨fun conditions => ⟨rfl, conditions⟩, And.right⟩
  | providerError | databaseError | otherException =>
      constructor
      · intro recorded
        exact absurd recorded not_recorded_error
      · rintro ⟨caught, _⟩
        cases caught

end Steps

/-! ## One claimed occurrence -/

section Execution

variable {environment}

/-- The session in which the handler is called. -/
def calling (occurrence : ScheduledTaskOccurrence) (session : Session Data) : Session Data :=
  { session with
    occurrences := Tables.put (·.id) { occurrence with status := .running } session.occurrences }

theorem executeOccurrence_undefined {occurrence : ScheduledTaskOccurrence} {session : Session Data}
    (absent : Tables.lookup (·.id) occurrence.definitionId session.definitions = none) :
    executeOccurrence environment occurrence session =
      failOccurrence environment occurrence .permanentValidation
        "Scheduled task definition no longer exists" session := by
  simp only [executeOccurrence, bind_getDefinition, absent]

theorem executeOccurrence_unhandled {occurrence : ScheduledTaskOccurrence} {session : Session Data}
    {definition : ScheduledTaskDefinition}
    (found : Tables.lookup (·.id) occurrence.definitionId session.definitions = some definition)
    (unhandled : environment.handlers.lookup definition.taskType = none) :
    executeOccurrence environment occurrence session =
      failOccurrence environment occurrence .authConfiguration
        "No approved handler is configured for this task type" session := by
  simp only [executeOccurrence, bind_getDefinition, found, unhandled]

section Outcomes

variable {occurrence : ScheduledTaskOccurrence} {session : Session Data}
  {definition : ScheduledTaskDefinition} {handler : Handler Data}
  (found : Tables.lookup (·.id) occurrence.definitionId session.definitions = some definition)
  (handled : environment.handlers.lookup definition.taskType = some handler)

include found handled

theorem executeOccurrence_handled :
    executeOccurrence environment occurrence session =
      (tryCatch
        (runHandler handler definition >>= fun manifest =>
          completeOccurrence environment { occurrence with status := .running } manifest)
        (recordFailure environment { occurrence with status := .running }))
      (calling occurrence session) := by
  simp only [executeOccurrence, bind_getDefinition, found, handled, bind_write, calling]

/-- A handler that returns is recorded as soon as its rows can be flushed. -/
theorem executeOccurrence_returned_iff {manifest : Manifest} {work : Work Data} {rows : Data}
    (returned : handler definition session.work = .ok manifest work) :
    Recorded occurrence.id rows (executeOccurrence environment occurrence session) <->
      work.refused = false ∧ work.rows = rows := by
  let running := { occurrence with status := .running }
  let reached := { calling occurrence session with work := work }
  have ran : (runHandler handler definition >>= fun manifest =>
      completeOccurrence environment running manifest) (calling occurrence session) =
      completeOccurrence environment running manifest reached := by
    rw [Loops.bind_apply]
    simp only [runHandler, calling, returned, reached]
  rw [executeOccurrence_handled found handled]
  cases completion : completeOccurrence environment running manifest reached with
  | ok value final =>
      rw [Transactions.tryCatch_ok (ran.trans completion), ← completion]
      exact completeOccurrence_recorded_iff manifest
  | error raised final =>
      rcases completeOccurrence_error completion with ⟨integrity, refused⟩
      rw [Transactions.tryCatch_error (ran.trans completion), integrity]
      constructor
      · intro rethrown
        exact absurd rethrown not_recorded_error
      · rintro ⟨clean, _⟩
        exact absurd (clean.symm.trans refused) Bool.false_ne_true

theorem not_handlerFailed_of_ok {manifest : Manifest} {work : Work Data}
    (returned : handler definition session.work = .ok manifest work) :
    ¬ HandlerFailed environment occurrence session := by
  rintro ⟨other, called, raised, reached, defined, configured, failed⟩
  cases found.symm.trans defined
  cases handled.symm.trans configured
  rw [returned] at failed
  cases failed

/-- A handler that raises is recorded by the `except` clauses. -/
theorem executeOccurrence_raised_iff {raised : Exception} {work : Work Data} {rows : Data}
    (attempted : 0 < occurrence.attempts)
    (failed : handler definition session.work = .error raised work) :
    Recorded occurrence.id rows (executeOccurrence environment occurrence session) <->
      raised.caught = true ∧ definition.Readable ∧ work.refused = false ∧ work.rows = rows := by
  let running := { occurrence with status := .running }
  let reached := { calling occurrence session with work := work }
  have stopped : (runHandler handler definition >>= fun manifest =>
      completeOccurrence environment running manifest) (calling occurrence session) =
      .error raised reached := by
    rw [Loops.bind_apply]
    simp only [runHandler, calling, failed, reached]
  have recorded : Recorded running.id rows (recordFailure environment running raised reached) <->
      _ := recordFailure_recorded_iff raised attempted
  rw [show Tables.lookup (·.id) running.definitionId reached.definitions = some definition
    from found] at recorded
  rw [executeOccurrence_handled found handled, Transactions.tryCatch_error stopped]
  exact recorded

end Outcomes

theorem contained_iff_recorded {occurrence : ScheduledTaskOccurrence} {session : Session Data} :
    Contained environment occurrence session <->
      exists rows, Recorded occurrence.id rows (executeOccurrence environment occurrence session) ∧
        (HandlerFailed environment occurrence session -> rows = session.work.rows) := by
  constructor
  · intro contained
    exact ⟨_, ⟨contained.completes, contained.settled, rfl⟩, contained.discards⟩
  · rintro ⟨rows, recorded, discards⟩
    exact ⟨recorded.completes, recorded.settled, fun failed =>
      recorded.keeps.trans (discards failed)⟩

/-- The condition decides containment, case by case on what the worker finds. -/
theorem contained_iff_covered {occurrence : ScheduledTaskOccurrence} {session : Session Data}
    (attempted : 0 < occurrence.attempts) (clean : session.work.refused = false) :
    Contained environment occurrence session <-> Covered environment occurrence session := by
  rw [contained_iff_recorded]
  cases found : Tables.lookup (·.id) occurrence.definitionId session.definitions with
  | none =>
      rw [executeOccurrence_undefined found]
      simp only [failOccurrence_recorded_iff _ _ attempted, Covered, found]
      constructor
      · intro _
        trivial
      · intro _
        exact ⟨_, ⟨⟨3, rfl⟩, clean, rfl⟩, fun _ => rfl⟩
  | some definition =>
      cases handled : environment.handlers.lookup definition.taskType with
      | none =>
          rw [executeOccurrence_unhandled found handled]
          simp only [failOccurrence_recorded_iff _ _ attempted, Covered, found, handled]
          constructor
          · rintro ⟨rows, ⟨readable, _⟩, _⟩
            exact readable
          · intro readable
            exact ⟨_, ⟨readable, clean, rfl⟩, fun _ => rfl⟩
      | some handler =>
          cases outcome : handler definition session.work with
          | ok manifest work =>
              have returned := not_handlerFailed_of_ok found handled outcome
              simp only [executeOccurrence_returned_iff found handled outcome, Covered, found,
                handled, outcome, OutcomeCovered]
              constructor
              · rintro ⟨rows, ⟨flushed, _⟩, _⟩
                exact flushed
              · intro flushed
                exact ⟨work.rows, ⟨flushed, rfl⟩, fun failed => absurd failed returned⟩
          | error raised work =>
              have failed : HandlerFailed environment occurrence session :=
                ⟨definition, handler, raised, work, found, handled, outcome⟩
              simp only [executeOccurrence_raised_iff found handled attempted outcome, Covered,
                found, handled, outcome, OutcomeCovered]
              constructor
              · rintro ⟨rows, ⟨caught, readable, flushed, kept⟩, discards⟩
                exact ⟨caught, readable, flushed, kept.trans (discards failed)⟩
              · rintro ⟨caught, readable, flushed, kept⟩
                exact ⟨work.rows, ⟨caught, readable, flushed, rfl⟩, fun _ => kept⟩

end Execution

/-- What a claim gives the execution that follows it. -/
theorem claimNextOccurrence_some {workerId : String} {leaseSeconds : Int} {stored : Database Data}
    {occurrence : ScheduledTaskOccurrence} {session : Session Data}
    (claimed : claimNextOccurrence environment workerId leaseSeconds (Session.begins stored) =
      .ok (some occurrence) session) :
    0 < occurrence.attempts ∧ session.work = ⟨stored.rows, false⟩ := by
  simp only [claimNextOccurrence, Loops.bind_get, Session.begins] at claimed
  cases next : nextOccurrence environment.now stored.occurrences with
  | none =>
      simp only [next] at claimed
      cases claimed
  | some candidate =>
      simp only [next, bind_write] at claimed
      cases claimed
      exact ⟨Nat.succ_pos _, rfl⟩

/-- A failure of the handler is contained, for every occurrence, every handler and every state of
the session, exactly under the condition on what the execution finds there. -/
theorem handlerFailure_contained_iff {workerId : String} {leaseSeconds : Int}
    {stored : Database Data} {occurrence : ScheduledTaskOccurrence} {session : Session Data}
    (claimed : claimNextOccurrence environment workerId leaseSeconds (Session.begins stored) =
      .ok (some occurrence) session) :
    Contained environment occurrence session <-> Covered environment occurrence session := by
  rcases claimNextOccurrence_some environment claimed with ⟨attempted, opened⟩
  exact contained_iff_covered attempted (by rw [opened])

end Containment

/-! ## A reference refresh whose source cannot be reached -/

def refreshDue : Database (List String) :=
  { definitions := [⟨0, "REFERENCE_UNIVERSE_REFRESH", true, .integer 5⟩]
    occurrences := [⟨0, 0, none, 0, .queued, none, none, 0, none, none, none, [], none, none⟩]
    rows := [] }

/-- A worker whose only handler of interest is the reference refresh. -/
def refreshing (sources : ReferenceSources (List String) String) : Environment (List String) :=
  let idle : Handler (List String) := fun _ work => .ok [] work
  { now := 0
    randint := fun _ _ => 0
    handlers := configuredHandlers idle (refreshReferenceUniverse sources) idle idle idle }

def insertAll (records : List String) : EStateM Exception (Work (List String)) Manifest :=
  fun work => .ok [] { work with rows := work.rows ++ records }

def reachable : ReferenceSources (List String) String :=
  ⟨false, .ok ["ATOM"], .ok [], insertAll⟩

def unreachable : ReferenceSources (List String) String :=
  ⟨false, .error ⟨.providerError, "ProviderNetworkError"⟩, .ok [], insertAll⟩

/-- The reconciliation flushes its rows and stops at a value it cannot read. -/
def unreadable : ReferenceSources (List String) String :=
  ⟨false, .ok ["ATOM"], .ok [], fun records => do
    let _ ← insertAll records
    throw valueError⟩

def refreshClaimed : ScheduledTaskOccurrence :=
  ⟨0, 0, none, 0, .claimed, some "worker", some 60000000, 1, none, none, none, [], some 0, none⟩

def refreshSession : Session (List String) :=
  ⟨refreshDue.definitions, [refreshClaimed], ⟨[], false⟩⟩

theorem refreshDue_claimed (sources : ReferenceSources (List String) String) :
    claimNextOccurrence (refreshing sources) "worker" 60 (Session.begins refreshDue) =
      .ok (some refreshClaimed) refreshSession := rfl

theorem refreshDue_contained : Contained (refreshing reachable) refreshClaimed refreshSession :=
  (handlerFailure_contained_iff (refreshing reachable) (refreshDue_claimed reachable)).mpr rfl

/-- A provider error leaves the occurrence claimed and running, and a value error
leaves the rows written before it in the commit. -/
theorem refreshDue_uncontained :
    (¬ Contained (refreshing unreachable) refreshClaimed refreshSession ∧
      executeOccurrence (refreshing unreachable) refreshClaimed refreshSession =
        .error ⟨.providerError, "ProviderNetworkError"⟩
          { refreshSession with occurrences := [{ refreshClaimed with status := .running }] }) ∧
    ¬ Contained (refreshing unreadable) refreshClaimed refreshSession ∧
      HandlerFailed (refreshing unreadable) refreshClaimed refreshSession ∧
      (iterate (refreshing unreadable) "worker" 60 refreshDue).rows = ["ATOM"] := by
  have failed : HandlerFailed (refreshing unreadable) refreshClaimed refreshSession :=
    ⟨⟨0, "REFERENCE_UNIVERSE_REFRESH", true, .integer 5⟩, refreshReferenceUniverse unreadable,
      valueError, ⟨["ATOM"], false⟩, rfl, rfl, rfl⟩
  refine ⟨⟨fun contained => ?_, rfl⟩, fun contained => ?_, failed, rfl⟩
  · exact Bool.false_ne_true contained.completes
  · exact absurd (contained.discards failed) (by decide)

end Operations
end MarketIntelligence
