import MarketIntelligence.MarketData.CanonicalStore

namespace MarketIntelligence
namespace MarketData

open Foundations

/-!
# Running an import job

A run walks through the symbols of its job from the resume cursor on.  Each
symbol has a savepoint of its own, and the cursor moves inside it.  Rolling back
to the savepoint restores the rows and the attributes of the job and of the
batch.  The variables of the function itself are not restored.

The clock is read once for each symbol and once more for the end of the run, and
the adapter and the heartbeat are given by the position of the symbol.  A
heartbeat works on leases and workers only.  Durations are left out.
-/

/-- What one call of `run_import_job` finds outside the database.  A run of the queue quantifies
over all of them, so any answer and any failure may come. -/
structure Surroundings where
  /-- `registry.get(code).adapter`, absent where `get` raises. -/
  registry : String -> Option (Nat -> Adapter)
  clock : Nat -> Instant
  heartbeat : Option (Nat -> EStateM Exception Fleet PUnit)

/-- The variables a run sets before its loop and does not change in it.  What the adapter, the
clock and the heartbeat answer depends on the symbol's place. -/
structure Context where
  library : Library
  adapter : Nat -> Adapter
  clock : Nat -> Instant
  heartbeat : Option (Nat -> EStateM Exception Fleet PUnit)
  request : ImportRequest
  provider : String
  source : String
  validSessions : List Int
  startIndex : Nat

/-- What `begin_nested` has to restore: the rows, and the job, whose attributes expire with them.
-/
structure Savepoint where
  database : Database
  job : ImportJob
  deriving DecidableEq, Repr

/-- A run in its loop: the rows that are flushed, those still to be flushed, and the job as the
run has it.  The batch is referred to by its sequence number. -/
structure Run where
  database : Database
  pending : Canonical
  job : ImportJob
  batch : Option Nat
  savepoint : Option Savepoint
  reports : List (String × ValidationReport)
  observedRecords : Bool
  deriving DecidableEq, Repr

abbrev Program (α : Type) := EStateM Exception Run α

def Run.store (run : Run) : Store := ⟨run.database.rows, run.pending⟩

def Run.withStore (run : Run) (store : Store) : Run :=
  { run with database := { run.database with rows := store.stored }, pending := store.pending }

/-- A program on the canonical rows, inside a run. -/
def onStore {α : Type} (program : StoreProgram α) : Program α :=
  fun run =>
    match program run.store with
    | .ok value store => .ok value (run.withStore store)
    | .error raised store => .error raised (run.withStore store)

def modifyJob (change : ImportJob -> ImportJob) : Program PUnit :=
  modify fun run => { run with job := change run.job }

def modifyDatabase (change : Database -> Database) : Program PUnit :=
  modify fun run => { run with database := change run.database }

section Loop

variable (context : Context)

def Context.now (sequence : Nat) : Instant := context.clock sequence

/-- The clock after the last symbol. -/
def Context.finishedAt : Instant := context.clock context.request.symbols.length

/-- The row of a batch of this job, changed. -/
def changeBatch (sequence : Nat) (change : ImportBatch -> ImportBatch) (database : Database) :
    Database :=
  match Tables.lookup ImportBatch.identity (context.request.id, sequence) database.batches with
  | none => database
  | some batch =>
      { database with batches := Tables.put ImportBatch.identity (change batch) database.batches }

/-- A change of the row that the variable `batch` refers to. -/
def modifyBatch (change : ImportBatch -> ImportBatch) : Program PUnit :=
  modify fun run =>
    match run.batch with
    | none => run
    | some sequence =>
        { run with database := changeBatch context sequence change run.database }

def addError (error : ImportError) : Program PUnit :=
  modifyDatabase fun database => { database with errors := database.errors ++ [error] }

def Context.writeHealth (health : Health) (database : Database) : Database :=
  { database with
    providers := database.providers.map fun row =>
      if row.id = context.request.providerId then { row with health := health } else row
    sources := database.sources.map fun row =>
      if row.name = context.source then { row with health := health } else row }

/-- `provider.health = source.health = health` -/
def setHealth (health : Health) : Program PUnit :=
  modifyDatabase (context.writeHealth health)

def callHeartbeat (call : Nat) : Program PUnit :=
  match context.heartbeat with
  | none => pure ⟨⟩
  | some heartbeat => fun run =>
      match heartbeat call run.database.fleet with
      | .ok value fleet => .ok value { run with database := { run.database with fleet := fleet } }
      | .error raised fleet =>
          .error raised { run with database := { run.database with fleet := fleet } }

def newBatch (sequence : Nat) : ImportBatch where
  jobId := context.request.id
  sequence := sequence
  status := .running
  requestTimestamp := context.now sequence
  retrievalTimestamp := none
  publicationTimestamp := none
  effectiveTimestamp := none
  checksum := ""
  recordsProcessed := 0
  recordsInserted := 0
  recordsSkipped := 0
  validationReport := none
  completedAt := none

/-- The batch of the symbol, found or new. -/
def openedBatch (sequence : Nat) : Option ImportBatch -> ImportBatch
  | none => newBatch context sequence
  | some batch => { batch with status := .running }

/-- Find the batch of the symbol, or add it. -/
def openBatch (sequence : Nat) : Program PUnit :=
  modify fun run =>
    let known :=
      Tables.lookup ImportBatch.identity (context.request.id, sequence) run.database.batches
    { run with
      batch := some sequence
      database := { run.database with
        batches :=
          Tables.put ImportBatch.identity (openedBatch context sequence known)
            run.database.batches } }

def beginNested : Program PUnit :=
  modify fun run => { run with savepoint := some ⟨run.database, run.job⟩ }

def commitNested : Program PUnit :=
  modify fun run => { run with savepoint := none }

/-- `batch_transaction.rollback()`, where there is one. -/
def rollbackNested : Program PUnit :=
  modify fun run =>
    match run.savepoint with
    | none => run
    | some saved =>
        { run with
          database := saved.database
          pending := .empty
          job := saved.job
          savepoint := none }

/-- The counters and the report of a batch, as they are set before and after a
rollback. -/
def noteReport (records : List HistoricalBarRecord) (report : ValidationReport) :
    Program PUnit := do
  modifyBatch context fun batch =>
    { batch with validationReport := some report, recordsProcessed := records.length }
  modifyJob fun job => { job with recordsProcessed := job.recordsProcessed + records.length }

def appendReport (symbol : String) (report : ValidationReport) : Program PUnit :=
  modify fun run => { run with reports := run.reports ++ [(symbol, report)] }

def noteObserved (records : List HistoricalBarRecord) : Program PUnit :=
  modify fun run => { run with observedRecords := run.observedRecords || !records.isEmpty }

def noteSkipped : Program PUnit := do
  modifyBatch context fun batch => { batch with recordsSkipped := batch.recordsSkipped + 1 }
  modifyJob fun job => { job with recordsSkipped := job.recordsSkipped + 1 }

def noteInserted : Program PUnit := do
  modifyBatch context fun batch => { batch with recordsInserted := batch.recordsInserted + 1 }
  modifyJob fun job => { job with recordsInserted := job.recordsInserted + 1 }

def conflictError (sequence : Nat) (record : HistoricalBarRecord) (existing : String) :
    ImportError where
  jobId := context.request.id
  batch := some sequence
  errorCode := "conflicting_reimport"
  message := "Incoming provider record conflicts with the preserved canonical record"
  recordIdentifier := some (recordIdentifier context.library record)
  payloadSummary :=
    [("existing_checksum", existing),
      ("incoming_checksum", recordChecksum context.library record),
      ("resolution", "preserved_existing")]
  isRetryable := false

def noteOutcome (sequence : Nat) (record : HistoricalBarRecord) (outcome : RecordOutcome) :
    Program PUnit :=
  match outcome with
  | .conflicting existing => do
      addError (conflictError context sequence record existing)
      noteSkipped context
  | .skipped => noteSkipped context
  | .inserted => noteInserted context

/-- One record of a valid batch: it is stored among the canonical rows, and what became of it is
noted in the counters. -/
def importRecord (sequence : Nat) (asset : Asset) (record : HistoricalBarRecord) :
    Program PUnit := do
  let outcome ← onStore
    (storeRecord context.library context.request context.provider context.source asset record)
  noteOutcome context sequence record outcome

def issueError (sequence : Nat) (symbol : String) (issue : ValidationIssue) : ImportError where
  jobId := context.request.id
  batch := some sequence
  errorCode := issue.code
  message := issue.message
  recordIdentifier := some issue.recordIdentifier
  payloadSummary := [("symbol", symbol)]
  isRetryable := false

/-- The batch is invalid: its rows are rolled back and the job fails. -/
def rejectBatch (sequence : Nat) (symbol : String) (records : List HistoricalBarRecord)
    (report : ValidationReport) : Program PUnit := do
  rollbackNested
  noteReport context records report
  setHealth context .degraded
  (report.issues.filter fun issue => issue.severity = "error").forM fun issue =>
    addError (issueError context sequence symbol issue)
  modifyBatch context fun batch =>
    { batch with status := .failedValidation, completedAt := some (context.now sequence) }
  appendReport symbol report
  modifyJob fun job =>
    { job with errorSummary := some ("validation failed for " ++ symbol), status := .failed }

def latest (instants : List Instant) : Option Instant :=
  instants.max?

/-- The batch is complete: the cursor moves and the savepoint is released. -/
def closeBatch (sequence : Nat) (symbol : String) (records : List HistoricalBarRecord)
    (report : ValidationReport) : Program PUnit := do
  modifyBatch context fun batch =>
    { batch with
      checksum :=
        context.library.batchDigest symbol (records.map (recordChecksum context.library))
      retrievalTimestamp :=
        some ((latest (records.map (·.retrievalTime))).getD (context.now sequence))
      publicationTimestamp := latest (records.map (·.publicationTime))
      effectiveTimestamp := latest (records.map (·.effectiveTime))
      status := .succeeded
      completedAt := some (context.now sequence) }
  modifyJob fun job => { job with resumeCursor := sequence + 1 }
  onStore flush
  commitNested
  noteObserved records
  appendReport symbol report

/-- The records of a symbol and their report. -/
structure Answer where
  records : List HistoricalBarRecord
  report : ValidationReport
  deriving DecidableEq, Repr

def validatedRecords (sequence : Nat) (symbol : String) (start : Instant) :
    Except Exception Answer := do
  let records ← fetchRecords context.request context.provider (context.adapter sequence) symbol start
  let report := validateHistoricalBars context.library records
    (if context.validSessions = [] then none else some context.validSessions) (7 * day)
    (context.request.finish + 7 * day)
  pure ⟨records, report⟩

/-- One symbol, from its batch on.  It returns whether the batch was valid. -/
def importSymbol (sequence : Nat) (symbol : String) : Program Bool := do
  openBatch context sequence
  beginNested
  let asset ← onStore
    (assetOf context.library (context.adapter sequence) context.provider symbol)
  let start ← onStore (fetchStart context.request context.source asset)
  let answer ← raise (validatedRecords context sequence symbol start)
  noteReport context answer.records answer.report
  if answer.report.isValid then
    answer.records.forM (importRecord context sequence asset)
    onStore (persistActions context.library context.request context.provider
      (context.adapter sequence) asset symbol)
    onStore (publishCapability context.request context.provider asset)
    closeBatch context sequence symbol answer.records answer.report
    pure true
  else
    rejectBatch context sequence symbol answer.records answer.report
    pure false

/-- The body of the loop for a symbol that is not skipped.  It returns whether the
loop goes on. -/
def visitSymbol (sequence : Nat) (symbol : String) : Program Bool := do
  let run ← get
  if run.job.cancelRequested then
    modifyJob fun job => { job with status := .cancelled }
    pure false
  else
    let complete ← importSymbol context sequence symbol
    if complete then
      callHeartbeat context (2 * sequence + 1)
      pure true
    else pure false

/-- The loop over the symbols with their positions. -/
def importSymbols : List (String × Nat) -> Program PUnit
  | [] => pure ⟨⟩
  | (symbol, sequence) :: rest => do
      callHeartbeat context (2 * sequence)
      if sequence < context.startIndex then importSymbols rest
      else
        let goesOn ← visitSymbol context sequence symbol
        if goesOn then importSymbols rest else pure ⟨⟩

def Context.writeRecovery (database : Database) : Database :=
  { database with
    rateLimits := database.rateLimits.map fun row =>
      if row.providerId = context.request.providerId then
        { row with resetAt := none, requestsRemaining := none, lastResponseStatus := none }
      else row
    providers := database.providers.map fun row =>
      if row.id = context.request.providerId then
        { row with lastSuccessfulImportAt := some context.finishedAt }
      else row
    sources := database.sources.map fun row =>
      if row.name = context.source then
        { row with lastSuccessfulRetrieval := some context.finishedAt }
      else row }

/-- A provider that answered is healthy again. -/
def noteRecovery : Program PUnit := do
  setHealth context .healthy
  modifyDatabase context.writeRecovery

/-- A job that is still running after the loop has succeeded. -/
def succeed (observedRecords : Bool) : Program PUnit := do
  modifyJob fun job =>
    { job with status := .succeeded, nextRetryAt := none, errorSummary := none }
  if observedRecords then noteRecovery context else pure ⟨⟩

def succeedRunning (run : Run) : Program PUnit :=
  if run.job.status = .running then succeed context run.observedRecords else pure ⟨⟩

/-- What follows the loop: a job that is still running has succeeded, in full or in part, and one
with a final status gets the time of its end. -/
def concludeLoop : Program PUnit := do
  let run ← get
  succeedRunning context run
  modifyJob fun job =>
    if job.status ∈ terminalStatuses then { job with completedAt := some context.finishedAt }
    else job

/-- `retry_delay_seconds`, in microseconds. -/
def retryDelay (attempt : Nat) : Except Exception Int :=
  if attempt < 1 then .error (.valueError "attempt must be at least 1")
  else .ok (min 3600 (30 * 2 ^ (attempt - 1)) * 1000000)

def Context.writeLimit (delay : Int) (database : Database) : Database :=
  let known := (Tables.lookup (·.providerId) context.request.providerId database.rateLimits).getD
    ⟨context.request.providerId, none, none, 0, none⟩
  { database with
    rateLimits := Tables.put (·.providerId)
      { known with
        rateLimitEvents := known.rateLimitEvents + 1
        resetAt := some (context.finishedAt + delay)
        requestsRemaining := some 0
        lastResponseStatus := some 429 } database.rateLimits }

def rateLimitEvent (delay : Int) : Program PUnit :=
  modifyDatabase (context.writeLimit delay)

/-- The beginning of every `except` clause. -/
def abandonBatch (health : Health) : Program PUnit := do
  rollbackNested
  setHealth context health
  modifyBatch context fun batch =>
    { batch with status := .failed, completedAt := some context.finishedAt }
  modifyJob fun job => { job with nextRetryAt := none }

def failureError (attempt : Nat) (errorCode message : String) (classified retryable : Bool) :
    ImportError where
  jobId := context.request.id
  batch := none
  errorCode := errorCode
  message := message
  recordIdentifier := none
  payloadSummary :=
    ("attempt", toString attempt) ::
      (if classified then [("provider_classification", errorCode)] else [])
  isRetryable := retryable

def healthAfter (failure : ProviderFailure) : Health :=
  if failure.reachable then .degraded else .unavailable

/-- The delay until the next attempt, which a rate limit may lengthen. -/
def delayAfter (base : Int) : Option (Option Int) -> Int
  | none => base
  | some retryAfter => max base (retryAfter.getD 0)

def noteRateLimit (delay : Int) : Option (Option Int) -> Program PUnit
  | none => pure ⟨⟩
  | some _ => rateLimitEvent context delay

/-- A temporary failure, with the delay of a rate limit where it is one. -/
def recordTemporary (failure : ProviderFailure) (rateLimit : Option (Option Int)) :
    Program PUnit := do
  abandonBatch context (healthAfter failure)
  let run ← get
  let base ← raise (retryDelay run.job.attempt)
  noteRateLimit context (delayAfter base rateLimit) rateLimit
  addError (failureError context run.job.attempt failure.classification failure.message true true)
  modifyJob fun job =>
    if job.attempt < job.request.maxAttempts then
      { job with
        errorSummary := some failure.message
        status := .retrying
        nextRetryAt := some (context.finishedAt + delayAfter base rateLimit) }
    else
      { job with
        errorSummary := some failure.message
        status := .failed
        completedAt := some context.finishedAt }

def recordPermanent (health : Health) (errorCode message : String) (classified : Bool) :
    Program PUnit := do
  abandonBatch context health
  let run ← get
  addError (failureError context run.job.attempt errorCode message classified false)
  modifyJob fun job =>
    { job with
      status := .failed
      errorSummary := some message
      completedAt := some context.finishedAt }

/-- The `except` clauses around the loop. -/
def recordFailure (raised : Exception) : Program PUnit :=
  match raised with
  | .temporary failure => recordTemporary context failure none
  | .rateLimit failure retryAfter => recordTemporary context failure (some retryAfter)
  | .provider failure =>
      recordPermanent context (healthAfter failure) failure.classification failure.message true
  | .valueError message | .integrityError message =>
      recordPermanent context .degraded "import_error" message false
  | .escaping _ => throw raised

/-- The loop, what follows it and the `except` clauses. -/
def runSymbols : Program PUnit :=
  tryCatch
    (do
      importSymbols context context.request.symbols.zipIdx
      concludeLoop context)
    (recordFailure context)

end Loop

/-- `_valid_session_dates` -/
def validSessionDates (start finish : Instant) (calendar : List TradingSession) : List Int :=
  (calendar.filter fun session =>
    start ≤ session.openTime ∧ session.openTime ≤ finish ∧ session.isOpen).map (·.sessionDate)

def sourceName (provider : String) : String := "provider:" ++ provider

/-- `_data_source` -/
def dataSource (name : String) (sources : List DataSource) : List DataSource :=
  if sources.any (·.name = name) then sources else sources ++ [⟨name, .healthy, none⟩]

def runnableStatuses : List JobStatus := [.queued, .retrying, .interrupted, .running]

/-- The checks before a run, and its variables. -/
def openRun (library : Library) (surroundings : Surroundings) (job : ImportJob)
    (database : Database) : Except Exception Context :=
  if job.status ∉ runnableStatuses then
    .error (.valueError ("job status '" ++ job.status.value ++ "' cannot be run"))
  else
    match Tables.lookup (·.id) job.request.providerId database.providers with
    | none => .error (.valueError "job provider is unavailable or disabled")
    | some provider =>
        if provider.isEnabled = false then
          .error (.valueError "job provider is unavailable or disabled")
        else
          match surroundings.registry provider.code with
          | none => .error (.valueError ("unknown provider '" ++ provider.code ++ "'"))
          | some adapter =>
              .ok
                { library := library
                  adapter := adapter
                  clock := surroundings.clock
                  heartbeat := surroundings.heartbeat
                  request := job.request
                  provider := provider.code
                  source := sourceName provider.code
                  validSessions :=
                    validSessionDates job.request.start job.request.finish database.calendar
                  startIndex := job.resumeCursor }

/-- The run before its loop. -/
def startRun (context : Context) (job : ImportJob) (database : Database) : Run where
  database := { database with sources := dataSource context.source database.sources }
  pending := .empty
  job :=
    { job with
      status := .running
      startedAt := job.startedAt.or (some (context.clock 0))
      attempt := job.attempt + 1 }
  batch := none
  savepoint := none
  reports := job.validationReport
  observedRecords := false

/-- The `finally` clause, and the job written back to its row. -/
def finishRun (run : Run) : Database × ImportJob :=
  let job := { run.job with validationReport := run.reports }
  ({ run.database with jobs := Tables.put ImportJob.id job run.database.jobs }, job)

/-- A call of `run_import_job`, in the session of its caller.  The checks before the loop write
nothing; an exception of the loop leaves the rows as the session has them. -/
def runImportJob (library : Library) (surroundings : Surroundings) (job : ImportJob) :
    EStateM Exception Database ImportJob :=
  fun database =>
    match openRun library surroundings job database with
    | .error raised => .error raised database
    | .ok context =>
        match runSymbols context (startRun context job database) with
        | .ok _ run => .ok (finishRun run).2 (finishRun run).1
        | .error raised run => .error raised (finishRun run).1

end MarketData
end MarketIntelligence
