import MarketIntelligence.Foundations.SortedLists
import MarketIntelligence.MarketData.Operations
import Mathlib.Data.String.Basic

namespace MarketIntelligence
namespace MarketData
namespace Schedules

open Foundations

/-!
# Import schedules that are due

A call visits the due schedules in the order of their times, creates a job for each and
moves the schedule by a day, in one transaction of the worker.  Whatever it raises rolls the
transaction back.

The job of a schedule is found again by its idempotency key.  The digest of a key, lower case
and the workspace of the session are parameters.
-/

/-! ## Rows -/

/-- `date_range_policy.get("lookback_days", 7)`, which `int` may refuse. -/
inductive LookbackDays where
  | absent
  | integer (days : Int)
  | unreadable (refusal : Exception)
  deriving DecidableEq, Repr

def LookbackDays.read : LookbackDays -> Except Exception Int
  | absent => .ok 7
  | integer days => .ok days
  | unreadable refusal => .error refusal

structure ImportSchedule where
  id : Identifier
  workspaceId : Identifier
  providerId : Identifier
  symbols : List String
  lookbackDays : LookbackDays
  mode : String
  adjustmentPreference : String
  isEnabled : Bool
  nextRunAt : Instant
  lastRunAt : Option Instant
  failureCount : Nat
  lastError : Option String
  deriving DecidableEq, Repr

structure ScheduleRun where
  scheduleId : Identifier
  jobId : Identifier
  scheduledFor : Instant
  status : JobStatus
  deriving DecidableEq, Repr

/-- The columns that `create_import_job` fills. -/
structure ImportJob where
  id : Identifier
  workspaceId : Option Identifier
  providerId : Identifier
  mode : String
  status : JobStatus
  symbols : List String
  start : Instant
  finish : Instant
  interval : String
  adjustmentPreference : String
  dryRun : Bool
  maxAttempts : Int
  idempotencyKey : Option String
  queueName : String
  priority : Int
  resourceClass : String
  deriving DecidableEq, Repr

structure Database where
  providers : List Provider
  schedules : List ImportSchedule
  jobs : List ImportJob
  runs : List ScheduleRun
  deriving DecidableEq, Repr

/-- What the package takes from the standard library and from its session.  The digest is
that of `schedule:`, the schedule and its time. -/
structure Environment where
  library : Library
  lower : String -> String
  digest : Identifier × Instant -> String
  digest_nonempty : forall payload, digest payload ≠ ""
  workspaceId : Option Identifier

/-! ## Creation of a job -/

/-- The keyword arguments of `create_import_job`. -/
structure JobArguments where
  providerCode : String
  symbols : List String
  mode : String
  start : Instant
  finish : Instant
  interval : String
  maxAttempts : Int
  adjustmentPreference : String
  dryRun : Bool
  idempotencyKey : Option String
  queueName : String
  workspaceId : Option Identifier
  priority : Int
  resourceClass : String
  deriving DecidableEq, Repr

/-- A flush meets the unique constraints on the runs. -/
def Database.flush (database : Database) : Except Exception Database :=
  if (database.runs.map ScheduleRun.jobId).Nodup ∧
      (database.runs.map fun run => (run.scheduleId, run.scheduledFor)).Nodup then
    .ok database
  else .error (.integrityError "the constraints of schedule_runs")

/-- The job under an idempotency key.  An empty key is not looked up. -/
def held (idempotencyKey : Option String) (jobs : List ImportJob) : Option ImportJob :=
  match idempotencyKey with
  | none => none
  | some key =>
      if key = "" then none else jobs.find? fun job => job.idempotencyKey = some key

def freshId (jobs : List ImportJob) : Identifier :=
  (jobs.map ImportJob.id).foldr max 0 + 1

section Creation

variable (environment : Environment)

def normalizedSymbols (symbols : List String) : List String :=
  SortedLists.sortedBy id
    (symbols.map fun symbol => environment.library.upper (environment.library.strip symbol)).dedup

/-- The checks of the arguments, in the order they are made. -/
def checkArguments (providers : List Provider) (arguments : JobArguments) :
    Except Exception Provider :=
  match Tables.lookup Provider.code (environment.lower arguments.providerCode) providers with
  | none => .error (.valueError ("unknown provider '" ++ arguments.providerCode ++ "'"))
  | some provider =>
      let invalid := (normalizedSymbols environment arguments.symbols).filter fun symbol =>
        !validateSymbol environment.library symbol
      if provider.isEnabled = false then
        .error (.valueError ("provider '" ++ provider.code ++ "' is disabled"))
      else if invalid ≠ [] then
        .error (.valueError ("invalid symbols: " ++ ", ".intercalate invalid))
      else if arguments.mode ≠ "full" ∧ arguments.mode ≠ "incremental" then
        .error (.valueError "mode must be 'full' or 'incremental'")
      else if arguments.finish ≤ arguments.start then
        .error (.valueError "start and end must be timezone-aware and start must precede end")
      else if arguments.maxAttempts < 1 ∨ 10 < arguments.maxAttempts then
        .error (.valueError "max_attempts must be between 1 and 10")
      else if arguments.priority < 0 ∨ 1000 < arguments.priority then
        .error (.valueError "priority must be between 0 and 1000")
      else if arguments.adjustmentPreference ∉ adjustmentPreferences then
        .error (.valueError "invalid adjustment preference")
      else .ok provider

def newJob (id : Identifier) (provider : Provider) (arguments : JobArguments) : ImportJob where
  id := id
  workspaceId := arguments.workspaceId.or environment.workspaceId
  providerId := provider.id
  mode := arguments.mode
  status := .queued
  symbols := normalizedSymbols environment arguments.symbols
  start := arguments.start
  finish := arguments.finish
  interval := arguments.interval
  adjustmentPreference := arguments.adjustmentPreference
  dryRun := arguments.dryRun
  maxAttempts := arguments.maxAttempts
  idempotencyKey := arguments.idempotencyKey
  queueName := arguments.queueName
  priority := arguments.priority
  resourceClass := arguments.resourceClass

/-- Whether the job is found or added, it comes with the database behind it. -/
def createImportJob (arguments : JobArguments) (database : Database) :
    Except Exception (ImportJob × Database) := do
  let provider ← checkArguments environment database.providers arguments
  match held arguments.idempotencyKey database.jobs with
  | some existing => .ok (existing, database)
  | none => do
      let job := newJob environment (freshId database.jobs) provider arguments
      let flushed ← Database.flush { database with jobs := database.jobs ++ [job] }
      .ok (job, flushed)

end Creation

/-! ## The due schedules -/

/-- `datetime.min` and `datetime.max` -/
def earliestInstant : Instant := -62135596800000000

def latestInstant : Instant := 253402300799999999

/-- A datetime and a `timedelta`. -/
def shifted (instant delta : Instant) : Except Exception Instant :=
  if earliestInstant ≤ instant + delta ∧ instant + delta ≤ latestInstant then
    .ok (instant + delta)
  else .error (.escaping "OverflowError")

def Database.due (database : Database) (current : Instant) : List ImportSchedule :=
  SortedLists.sortedBy ImportSchedule.nextRunAt
    (database.schedules.filter fun schedule =>
      schedule.isEnabled && schedule.nextRunAt ≤ current)

/-- The due time of the schedule has a run. -/
def Database.hasRun (database : Database) (schedule : ImportSchedule) : Bool :=
  database.runs.any fun run =>
    run.scheduleId = schedule.id && run.scheduledFor = schedule.nextRunAt

def Database.writeSchedule (database : Database) (schedule : ImportSchedule) : Database :=
  { database with schedules := Tables.put ImportSchedule.id schedule database.schedules }

def Database.addRun (database : Database) (run : ScheduleRun) : Database :=
  { database with runs := database.runs ++ [run] }

section Processing

variable (environment : Environment) (current : Instant)

def keyOf (schedule : ImportSchedule) : String :=
  environment.digest (schedule.id, schedule.nextRunAt)

def argumentsOf (provider : Provider) (schedule : ImportSchedule) :
    Except Exception JobArguments := do
  let days ← schedule.lookbackDays.read
  let start ← shifted current (-(days * day))
  .ok
    { providerCode := provider.code
      symbols := schedule.symbols
      mode := schedule.mode
      start := start
      finish := current
      interval := "1d"
      maxAttempts := 3
      adjustmentPreference := schedule.adjustmentPreference
      dryRun := false
      idempotencyKey := some (keyOf environment schedule)
      queueName := "daily"
      workspaceId := some schedule.workspaceId
      priority := 100
      resourceClass := "IO_STANDARD" }

def ImportSchedule.failed (schedule : ImportSchedule) : ImportSchedule :=
  { schedule with
    failureCount := schedule.failureCount + 1
    lastError := some "Provider not found" }

def ImportSchedule.moved (schedule : ImportSchedule) (next : Instant) : ImportSchedule :=
  { schedule with lastRunAt := some current, nextRunAt := next, lastError := none }

def runOf (job : ImportJob) (schedule : ImportSchedule) : ScheduleRun where
  scheduleId := schedule.id
  jobId := job.id
  scheduledFor := schedule.nextRunAt
  status := .queued

/-- One pass of the loop, over the database and the jobs of the call. -/
def processSchedule (reached : Database × List ImportJob) (schedule : ImportSchedule) :
    Except Exception (Database × List ImportJob) :=
  let (database, jobs) := reached
  if database.hasRun schedule then .ok (database, jobs)
  else
    match Tables.lookup Provider.id schedule.providerId database.providers with
    | none => .ok (database.writeSchedule schedule.failed, jobs)
    | some provider => do
        let arguments ← argumentsOf environment current provider schedule
        let (job, queued) ← createImportJob environment arguments database
        let next ← shifted schedule.nextRunAt day
        .ok ((queued.addRun (runOf job schedule)).writeSchedule (schedule.moved current next),
          jobs ++ [job])

def processDueSchedules (database : Database) :
    Except Exception (Database × List ImportJob) := do
  let (reached, jobs) ← (database.due current).foldlM (processSchedule environment current)
    (database, [])
  let flushed ← reached.flush
  .ok (flushed, jobs)

/-- The database after the transaction of a call. -/
def committed (database : Database) : Database :=
  match processDueSchedules environment current database with
  | .ok (reached, _) => reached
  | .error _ => database

end Processing

/-- The rows between two transactions, under their keys. -/
structure Store where
  database : Database
  schedules_nodup : (database.schedules.map ImportSchedule.id).Nodup
  jobs_nodup : (database.jobs.map ImportJob.id).Nodup
  runs_nodup : (database.runs.map ScheduleRun.jobId).Nodup
  dueTimes_nodup : (database.runs.map fun run => (run.scheduleId, run.scheduledFor)).Nodup
  linked : forall run, run ∈ database.runs -> run.jobId ∈ database.jobs.map ImportJob.id

end Schedules
end MarketData
end MarketIntelligence
