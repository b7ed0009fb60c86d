import MarketIntelligence.MarketData.Ingestion
import Mathlib.Data.List.Sort

namespace MarketIntelligence
namespace MarketData

open Foundations

/-!
# The queue of import jobs and its workers

A worker recovers abandoned jobs, claims the next one and runs it, all in one
transaction.  Metrics are left out, as nothing reads them back.

A pass of the worker may be cut off by a crash between any two of its operations.
Inside an import, a crash is an exception of the adapter or of the heartbeat that
no clause catches.  The calls of `run_import_job` a pass has begun are noted
beside the database, where they outlive its rollback.
-/

abbrev DatabaseProgram (α : Type) := EStateM Exception Database α

def writeJob (job : ImportJob) : DatabaseProgram PUnit :=
  modify fun database => { database with jobs := Tables.put ImportJob.id job database.jobs }

def addEvent (event : JobEvent) : DatabaseProgram PUnit :=
  modify fun database => { database with events := database.events ++ [event] }

def modifyFleet (change : Fleet -> Fleet) : DatabaseProgram PUnit :=
  modify fun database => { database with fleet := change database.fleet }

/-- A job as `create_import_job` adds it. -/
def queuedJob (request : ImportRequest) : ImportJob where
  request := request
  status := .queued
  resumeCursor := 0
  startedAt := none
  completedAt := none
  nextRetryAt := none
  cancelRequested := false
  attempt := 0
  recordsProcessed := 0
  recordsInserted := 0
  recordsSkipped := 0
  errorSummary := none
  validationReport := []

def adjustmentPreferences : List String := ["adjusted", "unadjusted", "provider_default"]

/-- The checks of a request, in the order they are made. -/
def checkRequest (library : Library) (request : ImportRequest) (database : Database) :
    Except Exception PUnit :=
  match Tables.lookup (·.id) request.providerId database.providers with
  | none => .error (.valueError "unknown provider")
  | some provider =>
      if provider.isEnabled = false then
        .error (.valueError ("provider '" ++ provider.code ++ "' is disabled"))
      else if request.symbols.any (fun symbol => validateSymbol library symbol = false) then
        .error (.valueError "invalid symbols")
      else if request.finish ≤ request.start then
        .error (.valueError "start and end must be timezone-aware and start must precede end")
      else if request.maxAttempts < 1 ∨ 10 < request.maxAttempts then
        .error (.valueError "max_attempts must be between 1 and 10")
      else if request.priority < 0 ∨ 1000 < request.priority then
        .error (.valueError "priority must be between 0 and 1000")
      else if request.adjustmentPreference ∉ adjustmentPreferences then
        .error (.valueError "invalid adjustment preference")
      else .ok ⟨⟩

/-- A request without an idempotency key.  Its identifier is the primary key. -/
def createImportJob (library : Library) (request : ImportRequest) :
    DatabaseProgram ImportJob := do
  let database ← get
  raise (checkRequest library request database)
  if database.jobs.any (·.id = request.id) then
    throw (.integrityError "the primary key of import_jobs is not unique")
  else
    modify fun database => { database with jobs := database.jobs ++ [queuedJob request] }
    pure (queuedJob request)

/-- The endpoint that creates a job, and runs it at once where it is asked to. -/
def createJob (library : Library) (request : ImportRequest)
    (executeImmediately : Option Surroundings) : DatabaseProgram ImportJob := do
  let job ← createImportJob library request
  addEvent ⟨job.id, "queued", none, some .queued, "Import job accepted"⟩
  match executeImmediately with
  | none => pure job
  | some surroundings => runImportJob library surroundings job

/-! ## Requests about a job -/

def ImportJob.cancelling (now : Instant) (job : ImportJob) : ImportJob :=
  { job with
    cancelRequested := true
    status := if job.status = .queued then .cancelled else job.status
    completedAt := if job.status = .queued then some now else job.completedAt }

def requestCancellation (now : Instant) (job : ImportJob) : DatabaseProgram ImportJob :=
  if job.status ∈ terminalStatuses then
    throw (.valueError ("cannot cancel a " ++ job.status.value ++ " job"))
  else do
    writeJob (job.cancelling now)
    addEvent ⟨job.id, "cancellation_requested", some job.status,
      some (job.cancelling now).status, "Cancellation requested"⟩
    pure (job.cancelling now)

def ImportJob.restarted (job : ImportJob) : ImportJob :=
  { job with
    status := .queued
    cancelRequested := false
    completedAt := none
    nextRetryAt := none
    errorSummary := none }

def restartImportJob (job : ImportJob) : DatabaseProgram ImportJob :=
  if job.status ∉ restartableStatuses then
    throw (.valueError ("job status '" ++ job.status.value ++ "' is not restartable"))
  else do
    writeJob job.restarted
    pure job.restarted

/-- A request about the job of the identifier. -/
def withJob (jobId : Identifier) (body : ImportJob -> DatabaseProgram ImportJob) :
    DatabaseProgram ImportJob := do
  let database ← get
  match Tables.lookup ImportJob.id jobId database.jobs with
  | none => throw (.valueError "import job was not found")
  | some job => body job

def cancelJob (now : Instant) (jobId : Identifier) : DatabaseProgram ImportJob :=
  withJob jobId (requestCancellation now)

def restartJob (library : Library) (surroundings : Surroundings) (jobId : Identifier) :
    DatabaseProgram ImportJob :=
  withJob jobId fun job => do
    let restarted ← restartImportJob job
    runImportJob library surroundings restarted

/-! ## Leases and claims -/

def changeWorker (workerId : Identifier) (change : WorkerInstance -> WorkerInstance)
    (fleet : Fleet) : Fleet :=
  { fleet with
    workers := fleet.workers.map fun row => if row.id = workerId then change row else row }

/-- The jobs a worker may claim: without a lease, without a cancellation request, and a retrying
one only when its time has come. -/
def claimable (now : Instant) (leases : List JobLease) (job : ImportJob) : Bool :=
  !job.cancelRequested && !leases.any (·.jobId = job.id) &&
    match job.status with
    | .queued => true
    | .retrying => job.nextRetryAt.all (· ≤ now)
    | .interrupted => true
    | _ => false

/-- `order_by(priority, requested_at, id)` -/
def claimedBefore (left right : ImportJob) : Bool :=
  left.request.priority < right.request.priority ∨
    left.request.priority = right.request.priority ∧
      (left.request.requestedAt < right.request.requestedAt ∨
        left.request.requestedAt = right.request.requestedAt ∧ left.id ≤ right.id)

def nextJob (now : Instant) (database : Database) : Option ImportJob :=
  ((database.jobs.filter (claimable now database.fleet.leases)).insertionSort (claimedBefore · ·)).head?

def ImportJob.claimed (now : Instant) (job : ImportJob) : ImportJob :=
  { job with
    status := .running
    startedAt := job.startedAt.or (some now) }

def newLease (workerId : Identifier) (leaseSeconds : Int) (now : Instant) (job : ImportJob) :
    JobLease :=
  ⟨job.id, workerId, now, now, now + leaseSeconds * 1000000⟩

/-- The candidate is claimed, with a lease for the worker. -/
def claimCandidate (workerId : Identifier) (leaseSeconds : Int) (now : Instant)
    (candidate : ImportJob) : DatabaseProgram (ImportJob × JobLease) := do
  let lease := newLease workerId leaseSeconds now candidate
  writeJob (candidate.claimed now)
  modifyFleet fun fleet =>
    changeWorker workerId
      (fun row => { row with
        status := .running, currentJobId := some candidate.id, lastHeartbeatAt := now })
      { fleet with leases := fleet.leases ++ [lease] }
  addEvent ⟨candidate.id, "claimed", some candidate.status, some .running,
    "Job claimed by single-process worker"⟩
  pure (candidate.claimed now, lease)

def claimNextJob (workerId : Identifier) (leaseSeconds : Int) (now : Instant) :
    DatabaseProgram (Option (ImportJob × JobLease)) := do
  let database ← get
  match nextJob now database with
  | none => pure none
  | some candidate => some <$> claimCandidate workerId leaseSeconds now candidate

/-- The heartbeat that a worker gives to the import. -/
def renewLease (jobId workerId : Identifier) (leaseSeconds : Int) (now : Instant) :
    EStateM Exception Fleet PUnit :=
  fun fleet =>
    match Tables.lookup (·.jobId) jobId fleet.leases with
    | none => .error (.escaping "ObjectDeletedError") fleet
    | some lease =>
        if lease.workerId ≠ workerId then
          .error (.valueError "worker does not own this lease") fleet
        else if lease.expiresAt ≤ now then .error (.valueError "job lease has expired") fleet
        else
          .ok ⟨⟩
            (changeWorker workerId (fun row => { row with lastHeartbeatAt := now })
              { fleet with
                leases := Tables.put (·.jobId)
                  { lease with
                    heartbeatAt := now, expiresAt := now + leaseSeconds * 1000000 }
                  fleet.leases })

def releaseLease (jobId workerId : Identifier) (now : Instant) : DatabaseProgram PUnit :=
  modifyFleet fun fleet =>
    changeWorker workerId
      (fun row => { row with status := .idle, currentJobId := none, lastHeartbeatAt := now })
      { fleet with leases := fleet.leases.filter (·.jobId ≠ jobId) }

def executeClaimedJob (library : Library) (surroundings : Surroundings) (job : ImportJob)
    (lease : JobLease) (workerId : Identifier) : DatabaseProgram ImportJob :=
  if lease.jobId ≠ job.id ∨ lease.workerId ≠ workerId then
    throw (.valueError "job lease ownership mismatch")
  else do
    let finished ← runImportJob library surroundings job
    addEvent ⟨job.id, if finished.status = .succeeded then "completed" else "attempt_finished",
      some .running, some finished.status, finished.errorSummary.getD "Import attempt finished"⟩
    releaseLease job.id workerId (surroundings.clock job.request.symbols.length)
    pure finished

/-- A running job whose lease has expired. -/
def ImportJob.abandoned (now : Instant) (job : ImportJob) : ImportJob :=
  let target :=
    if job.attempt < job.request.maxAttempts then JobStatus.retrying else JobStatus.deadLetter
  { job with
    status := target
    nextRetryAt := if target = .retrying then some now else none
    errorSummary := some "Worker lease expired; job recovered" }

def recoverRunning (now : Instant) (job : ImportJob) : DatabaseProgram PUnit :=
  if job.status = .running then do
    writeJob (job.abandoned now)
    addEvent ⟨job.id, "lease_expired", some .running, some (job.abandoned now).status,
      "Abandoned job recovered after lease expiry"⟩
  else pure ⟨⟩

def Fleet.dropLease (lease : JobLease) (fleet : Fleet) : Fleet where
  leases := fleet.leases.filter (·.jobId ≠ lease.jobId)
  workers := fleet.workers.map fun row =>
    if row.id = lease.workerId ∧ row.currentJobId = some lease.jobId then
      { row with status := .unavailable, currentJobId := none }
    else row

/-- One expired lease and its job: the lease goes, and a running job is retried at once, or given
up when its attempts are used up. -/
def recoverLease (now : Instant) (lease : JobLease) : DatabaseProgram PUnit := do
  let database ← get
  match Tables.lookup ImportJob.id lease.jobId database.jobs with
  | none => pure ⟨⟩
  | some job => do
      modifyFleet (Fleet.dropLease lease)
      recoverRunning now job

def recoverAbandonedJobs (now : Instant) : DatabaseProgram PUnit := do
  let database ← get
  (database.fleet.leases.filter (·.expiresAt ≤ now)).forM (recoverLease now)

/-- The transaction in which a worker that ends gives its leases back. -/
def stopWorker (workerId : Identifier) (now : Instant) : DatabaseProgram PUnit :=
  modifyFleet fun fleet =>
    changeWorker workerId
      (fun row => { row with status := .stopped, stoppedAt := some now, currentJobId := none })
      { fleet with leases := fleet.leases.filter (·.workerId ≠ workerId) }

/-- A worker is registered, or registered again. -/
def registerWorker (workerId : Identifier) (now : Instant) : DatabaseProgram PUnit :=
  modifyFleet fun fleet =>
    { fleet with
      workers := Tables.put (·.id) ⟨workerId, .idle,
        (Tables.lookup (·.id) workerId fleet.workers).bind (·.currentJobId), now, none⟩
        fleet.workers }

/-! ## A pass of the worker -/

/-- The places between two operations of a pass, at which a worker can be killed.  A pass is one
transaction, so what it has written until then is gone. -/
inductive Phase where
  | recovered
  | scheduled
  | claimed
  | executed
  deriving DecidableEq, Repr

/-- What a pass finds outside the database: the clock at each call of the heartbeat, the
registry, the jobs that `process_due_schedules` adds or the exception it raises, and
where it is cut off. -/
structure Pass where
  workerId : Identifier
  leaseSeconds : Int
  now : Instant
  registry : String -> Option (Nat -> Adapter)
  clock : Nat -> Instant
  due : Except Exception (List ImportRequest)
  crash : Option Phase

def Pass.surroundings (pass : Pass) (job : ImportJob) : Surroundings where
  registry := pass.registry
  clock := fun sequence => pass.clock (2 * sequence)
  heartbeat := some fun call =>
    renewLease job.id pass.workerId pass.leaseSeconds (pass.clock call)

structure Session where
  database : Database
  started : List Identifier
  deriving DecidableEq, Repr

def Session.begins (stored : Database) : Session := ⟨stored, []⟩

def onDatabase {α : Type} (program : DatabaseProgram α) : EStateM Exception Session α :=
  fun session =>
    match program session.database with
    | .ok value database => .ok value { session with database := database }
    | .error raised database => .error raised { session with database := database }

def noteStart (job : Identifier) : EStateM Exception Session PUnit :=
  modify fun session => { session with started := session.started ++ [job] }

def Pass.crashAt (pass : Pass) (phase : Phase) : EStateM Exception Session PUnit :=
  if pass.crash = some phase then throw (.escaping "crash") else pure ⟨⟩

/-- A job that is due, whose identifier is a new one. -/
def addDue (request : ImportRequest) : DatabaseProgram PUnit :=
  modify fun database =>
    if database.jobs.any (·.id = request.id) then database
    else { database with jobs := database.jobs ++ [queuedJob request] }

def processDueSchedules (pass : Pass) : DatabaseProgram PUnit := do
  let requests ← raise pass.due
  requests.forM addDue

/-- The claimed job is executed. -/
def executeClaim (library : Library) (pass : Pass) (job : ImportJob) (lease : JobLease) :
    EStateM Exception Session PUnit := do
  noteStart job.id
  let _ ← onDatabase
    (executeClaimedJob library (pass.surroundings job) job lease pass.workerId)
  pass.crashAt .executed

/-- The body of the `session_scope` in the loop of the worker. -/
def workerPass (library : Library) (pass : Pass) : EStateM Exception Session PUnit := do
  let session ← get
  if session.database.fleet.workers.all (·.id ≠ pass.workerId) then
    throw (.escaping "RuntimeError")
  else
    onDatabase (recoverAbandonedJobs pass.now)
    pass.crashAt .recovered
    onDatabase (processDueSchedules pass)
    pass.crashAt .scheduled
    match ← onDatabase (claimNextJob pass.workerId pass.leaseSeconds pass.now) with
    | none => pure ⟨⟩
    | some (job, lease) => do
        pass.crashAt .claimed
        executeClaim library pass job lease

/-! ## A queue with one job -/

def dailyRequest : ImportRequest where
  id := 1
  providerId := 7
  mode := .full
  symbols := ["ATOM"]
  start := 0
  finish := day
  interval := "1d"
  adjustmentPreference := "unadjusted"
  dryRun := false
  maxAttempts := 1
  priority := 100
  requestedAt := 0

/-- A worker and a provider, and the job in the queue. -/
def dailyQueue : Database where
  rows := .empty
  sources := []
  providers := [⟨7, "demo", true, .healthy, none⟩]
  rateLimits := []
  calendar := []
  jobs := [queuedJob dailyRequest]
  batches := []
  errors := []
  fleet := ⟨[], [⟨3, .idle, none, 0, none⟩]⟩
  events := []

def timeout : Exception := .temporary ⟨"timeout", "the provider timed out", true⟩

end MarketData
end MarketIntelligence
