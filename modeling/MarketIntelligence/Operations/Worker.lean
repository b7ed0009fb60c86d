import MarketIntelligence.Core.Values
import MarketIntelligence.Foundations.Tables
import MarketIntelligence.Foundations.Transactions
import Mathlib.Data.List.Sort

namespace MarketIntelligence
namespace Operations

open Foundations

/-!
# The operations worker

Scheduled tasks are claimed one at a time, and a claim, the handler it calls and
the recording of its outcome share one transaction.

A handler is a program over the rows of the other tables.  It may raise after any
prefix of its writes, and it may leave a row unflushed that the database is going
to refuse.  What a handler returns is JSON, and only its top level is read here.
-/

/-! ## Exceptions -/

/-- The classes that some `except` clause of the worker tells apart.  A subclass
belongs to the family of the class that catches it. -/
inductive ExceptionFamily where
  | timeoutError
  | connectionError
  | typeError
  | valueError
  | providerError
  | databaseError
  | otherException
  deriving DecidableEq, Repr

structure Exception where
  family : ExceptionFamily
  /-- `type(exc).__name__` -/
  name : String
  deriving DecidableEq, Repr

def integrityError : Exception := ⟨.databaseError, "IntegrityError"⟩

def valueError : Exception := ⟨.valueError, "ValueError"⟩

/-! ## Rows -/

inductive Status where
  | queued
  | claimed
  | running
  | retryWait
  | succeeded
  | quarantined
  | cancelled
  deriving DecidableEq, Repr

inductive ErrorCategory where
  | transientNetwork
  | rateLimit
  | provider5xx
  | timeout
  | temporaryDatabase
  | unknown
  | invalidResponse
  | authConfiguration
  | schemaIncompatible
  | permanentValidation
  deriving DecidableEq, Repr

def retryableCategories : List ErrorCategory :=
  [.transientNetwork, .rateLimit, .provider5xx, .timeout, .temporaryDatabase, .unknown]

inductive Json where
  | flag (value : Bool)
  | number (value : Int)
  | text (value : String)
  deriving DecidableEq, Repr

abbrev Manifest := List (String × Json)

/-- `{**left, **right}` -/
def Manifest.merge (left right : Manifest) : Manifest :=
  right.foldl (fun merged entry => Tables.put Prod.fst entry merged) left

/-- The `maximum_attempts` of a retry policy: absent, an integer, or a value that
`int` refuses. -/
inductive MaximumAttempts where
  | absent
  | integer (value : Int)
  | unreadable (refusal : Exception)
  deriving DecidableEq, Repr

structure ScheduledTaskDefinition where
  id : Identifier
  taskType : String
  /-- The truth value of `network_enabled` in the configuration. -/
  networkEnabled : Bool
  retryPolicy : MaximumAttempts
  deriving DecidableEq, Repr

structure ScheduledTaskOccurrence where
  id : Identifier
  definitionId : Identifier
  workspaceId : Option Identifier
  scheduledFor : Instant
  status : Status
  claimedBy : Option String
  leaseExpiresAt : Option Instant
  attempts : Nat
  nextRetryAt : Option Instant
  errorCategory : Option ErrorCategory
  sanitizedError : Option String
  resultManifest : Manifest
  startedAt : Option Instant
  finishedAt : Option Instant
  deriving DecidableEq, Repr

/-- What a handler works on: the rows of the other tables as its transaction sees
them, and whether a row still to be flushed is one the database refuses. -/
structure Work (Data : Type) where
  rows : Data
  refused : Bool
  deriving DecidableEq, Repr

structure Database (Data : Type) where
  definitions : List ScheduledTaskDefinition
  occurrences : List ScheduledTaskOccurrence
  rows : Data
  deriving DecidableEq, Repr

structure Session (Data : Type) where
  definitions : List ScheduledTaskDefinition
  occurrences : List ScheduledTaskOccurrence
  work : Work Data
  deriving DecidableEq, Repr

section Sessions

variable {Data : Type}

def Session.begins (stored : Database Data) : Session Data :=
  { definitions := stored.definitions
    occurrences := stored.occurrences
    work := ⟨stored.rows, false⟩ }

def Session.commits (session : Session Data) : Database Data :=
  { definitions := session.definitions
    occurrences := session.occurrences
    rows := session.work.rows }

abbrev Program (Data α : Type) := EStateM Exception (Session Data) α

/-- A task handler: `Callable[[Session, ScheduledTaskDefinition], dict[str, Any]]` -/
abbrev Handler (Data : Type) :=
  ScheduledTaskDefinition -> EStateM Exception (Work Data) Manifest

/-- What the worker takes from outside: the clock, the draw of a seeded
`random.Random(seed).randint(0, bound)`, and the handlers it has configured. -/
structure Environment (Data : Type) where
  now : Instant
  randint : String -> Nat -> Nat
  handlers : List (String × Handler Data)

def getDefinition (wanted : Identifier) : Program Data (Option ScheduledTaskDefinition) :=
  fun session => .ok (Tables.lookup (·.id) wanted session.definitions) session

def write (row : ScheduledTaskOccurrence) : Program Data PUnit :=
  fun session => .ok ⟨⟩ { session with occurrences := Tables.put (·.id) row session.occurrences }

/-- `session.flush()` -/
def flush : Program Data PUnit :=
  fun session => if session.work.refused then .error integrityError session else .ok ⟨⟩ session

def runHandler (handler : Handler Data) (definition : ScheduledTaskDefinition) :
    Program Data Manifest :=
  fun session =>
    match handler definition session.work with
    | .ok manifest work => .ok manifest { session with work := work }
    | .error raised work => .error raised { session with work := work }

end Sessions

/-! ## Retry delays -/

def second : Int := 1000000

/-- The delay in seconds, between 30 of them and an hour.  The worker passes no
`retry_after_seconds`. -/
def computeRetryDelay (randint : String -> Nat -> Nat) (attempt : Nat) (jitterSeed : String) :
    Except Exception Nat :=
  if attempt < 1 then .error valueError
  else
    let exponential := min 3600 (30 * 2 ^ (attempt - 1))
    .ok (min 3600 (exponential +
      randint (jitterSeed ++ ":" ++ toString attempt) (max 1 (exponential / 5))))

theorem computeRetryDelay_ok (randint : String -> Nat -> Nat) (jitterSeed : String) {attempt : Nat}
    (positive : 0 < attempt) :
    exists delay, computeRetryDelay randint attempt jitterSeed = .ok delay ∧ delay ≤ 3600 := by
  refine ⟨_, if_neg (by omega), ?_⟩
  exact min_le_left _ _

/-! ## The occurrence service -/

section Service

variable {Data : Type} (environment : Environment Data)

def maximumAttempts (definition : Option ScheduledTaskDefinition) : Except Exception Int :=
  match definition with
  | none => .ok 3
  | some definition =>
      match definition.retryPolicy with
      | .absent => .ok 3
      | .integer value => .ok value
      | .unreadable refusal => .error refusal

/-- A value of `Except` inside a program. -/
def raise {α : Type} (outcome : Except Exception α) : Program Data α :=
  fun session =>
    match outcome with
    | .ok value => .ok value session
    | .error raised => .error raised session

/-- The occurrences that may be claimed, earliest first. -/
def claimable (now : Instant) (occurrence : ScheduledTaskOccurrence) : Bool :=
  match occurrence.status with
  | .queued => true
  | .retryWait => occurrence.nextRetryAt.any (· ≤ now)
  | _ => false

def earlier (left right : ScheduledTaskOccurrence) : Bool :=
  left.scheduledFor < right.scheduledFor ∨
    left.scheduledFor = right.scheduledFor ∧ left.id ≤ right.id

def nextOccurrence (now : Instant) (occurrences : List ScheduledTaskOccurrence) :
    Option ScheduledTaskOccurrence :=
  ((occurrences.filter (claimable now)).insertionSort (earlier · ·)).head?

def claimNextOccurrence (workerId : String) (leaseSeconds : Int) :
    Program Data (Option ScheduledTaskOccurrence) := do
  let session ← get
  match nextOccurrence environment.now session.occurrences with
  | none => pure none
  | some candidate =>
      let occurrence :=
        { candidate with
          status := .claimed
          claimedBy := some workerId
          leaseExpiresAt := some (environment.now + leaseSeconds * second)
          attempts := candidate.attempts + 1
          startedAt := candidate.startedAt.or (some environment.now) }
      write occurrence
      flush
      pure (some occurrence)

def completeOccurrence (occurrence : ScheduledTaskOccurrence) (resultManifest : Manifest) :
    Program Data PUnit := do
  write
    { occurrence with
      status := .succeeded
      finishedAt := some environment.now
      claimedBy := none
      leaseExpiresAt := none
      resultManifest := occurrence.resultManifest.merge resultManifest }
  flush

/-- `sanitized_error[:1000]` -/
def truncated (text : String) : String :=
  String.ofList (text.toList.take 1000)

def failOccurrence (occurrence : ScheduledTaskOccurrence) (errorCategory : ErrorCategory)
    (sanitizedError : String) : Program Data PUnit := do
  let definition ← getDefinition occurrence.definitionId
  let maximum ← raise (maximumAttempts definition)
  let failed :=
    { occurrence with
      errorCategory := some errorCategory
      sanitizedError := some (truncated sanitizedError)
      claimedBy := none
      leaseExpiresAt := none }
  if errorCategory ∈ retryableCategories ∧ (occurrence.attempts : Int) < maximum then
    write { failed with status := .retryWait }
    let delay ← raise
      (computeRetryDelay environment.randint occurrence.attempts (toString occurrence.id))
    write
      { failed with
        status := .retryWait
        nextRetryAt := some (environment.now + delay * second) }
  else
    write { failed with status := .quarantined, finishedAt := some environment.now }
  flush

end Service

/-! ## The worker -/

section Worker

variable {Data : Type} (environment : Environment Data)

/-- The `except` clauses around the handler. -/
def recordFailure (occurrence : ScheduledTaskOccurrence) (raised : Exception) :
    Program Data PUnit :=
  match raised.family with
  | .timeoutError | .connectionError =>
      failOccurrence environment occurrence .transientNetwork
        ("Task dependency failed (" ++ raised.name ++ ")")
  | .typeError | .valueError =>
      failOccurrence environment occurrence .permanentValidation
        ("Task configuration failed (" ++ raised.name ++ ")")
  | _ => throw raised

def executeOccurrence (occurrence : ScheduledTaskOccurrence) : Program Data PUnit := do
  match ← getDefinition occurrence.definitionId with
  | none =>
      failOccurrence environment occurrence .permanentValidation
        "Scheduled task definition no longer exists"
  | some definition =>
      match environment.handlers.lookup definition.taskType with
      | none =>
          failOccurrence environment occurrence .authConfiguration
            "No approved handler is configured for this task type"
      | some handler =>
          let running := { occurrence with status := .running }
          write running
          tryCatch
            (do
              let manifest ← runHandler handler definition
              completeOccurrence environment running manifest)
            (recordFailure environment running)

/-- The body of one `session_scope` of the run loop. -/
def processNext (workerId : String) (leaseSeconds : Int) : Program Data Bool := do
  match ← claimNextOccurrence environment workerId leaseSeconds with
  | none => pure false
  | some occurrence =>
      executeOccurrence environment occurrence
      pure true

/-- One pass of the run loop, as one transaction. -/
def iterate (workerId : String) (leaseSeconds : Int) (stored : Database Data) : Database Data :=
  Transactions.transact Session.begins Session.commits
    (processNext environment workerId leaseSeconds) stored

end Worker

/-! ## The configured handlers -/

section Handlers

variable {Data : Type}

/-- The parts of the market-data package that the reference refresh calls. -/
structure ReferenceSources (Data Record : Type) where
  /-- `MIL_REFERENCE_NETWORK_ENABLED` is one of `1`, `true` and `yes`. -/
  networkOptIn : Bool
  nasdaqFetch : Except Exception (List Record)
  secFetch : Except Exception (List Record)
  reconcile : List Record -> EStateM Exception (Work Data) Manifest

def refreshReferenceUniverse {Record : Type} (sources : ReferenceSources Data Record) :
    Handler Data :=
  fun definition work =>
    if (definition.networkEnabled || sources.networkOptIn) = false then
      .ok
        [("status", .text "NOT_CONFIGURED"), ("catalog_preserved", .flag true),
          ("message", .text
            "Official reference refresh is installed but network opt-in is disabled")] work
    else
      match sources.nasdaqFetch with
      | .error raised => .error raised work
      | .ok nasdaq =>
          match sources.secFetch with
          | .error raised => .error raised work
          | .ok sec =>
              match sources.reconcile (nasdaq ++ sec) work with
              | .error raised reached => .error raised reached
              | .ok result reached =>
                  .ok (Manifest.merge [("status", .text "SUCCEEDED")] result) reached

/-- `HANDLERS`, with the handlers of the other tasks as they are given. -/
def configuredHandlers (refreshFreshness refreshReferenceUniverse scheduleHistoricalIngestion
    refreshDynamicUniverse refreshOperatingMode : Handler Data) : List (String × Handler Data) :=
  [("DATA_FRESHNESS", refreshFreshness),
    ("REFERENCE_UNIVERSE_REFRESH", refreshReferenceUniverse),
    ("HISTORICAL_BACKFILL", scheduleHistoricalIngestion),
    ("DYNAMIC_UNIVERSE", refreshDynamicUniverse),
    ("MARKET_OPERATING_MODE", refreshOperatingMode)]

end Handlers

end Operations
end MarketIntelligence
