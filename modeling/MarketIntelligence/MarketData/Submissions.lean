import MarketIntelligence.MarketData.QueueRule
import MarketIntelligence.MarketData.RateLimit
import MarketIntelligence.MarketData.Schedules

namespace MarketIntelligence
namespace MarketData
namespace Submissions

open Foundations
open RateLimit
open Schedules (Environment JobArguments checkArguments normalizedSymbols)

/-!
# Submissions with an idempotency key

The endpoint that creates a job looks up the job of the key, writes the event of the queue
where the job has none, and runs the job at once where it is asked to.  The keys are a
column of the jobs, held beside them; all jobs are those of one workspace.

The identifier of a new job, the time of a request and what a run finds outside the database
come with the request.  The limiter of submissions lives outside the database.
-/

/-! ## Requests and the state -/

/-- `ImportJobCreate`, whose symbols are normalized and whose mode is one of two literals. -/
structure ImportJobCreate where
  providerCode : String
  symbols : List String
  mode : ImportMode
  start : Instant
  finish : Instant
  interval : String
  maxAttempts : Int
  executeImmediately : Bool
  adjustmentPreference : String
  dryRun : Bool
  deriving DecidableEq, Repr

structure Submission where
  payload : ImportJobCreate
  idempotencyKey : Option String
  client : String
  time : Instant
  newId : Identifier
  surroundings : Surroundings

/-- The database and the column `idempotency_key`. -/
structure Desk where
  database : Database
  keys : List (String × Identifier)
  deriving DecidableEq, Repr

structure Server where
  limiter : RateLimiter
  desk : Desk

inductive Reply where
  | accepted (job : ImportJob)
  | tooManySubmissions
  | invalidRequest (message : String)
  | serverError (raised : Exception)
  deriving DecidableEq, Repr

def modeText : ImportMode -> String
  | .full => "full"
  | .incremental => "incremental"

/-- The keyword arguments of the endpoint's call. -/
def argumentsOf (submission : Submission) : JobArguments where
  providerCode := submission.payload.providerCode
  symbols := submission.payload.symbols
  mode := modeText submission.payload.mode
  start := submission.payload.start
  finish := submission.payload.finish
  interval := submission.payload.interval
  maxAttempts := submission.payload.maxAttempts
  adjustmentPreference := submission.payload.adjustmentPreference
  dryRun := submission.payload.dryRun
  idempotencyKey := submission.idempotencyKey
  queueName := "manual"
  workspaceId := none
  priority := 100
  resourceClass := "IO_STANDARD"

def requestOf (environment : Environment) (provider : Provider) (submission : Submission) :
    ImportRequest where
  id := submission.newId
  providerId := provider.id
  mode := submission.payload.mode
  symbols := normalizedSymbols environment submission.payload.symbols
  start := submission.payload.start
  finish := submission.payload.finish
  interval := submission.payload.interval
  adjustmentPreference := submission.payload.adjustmentPreference
  dryRun := submission.payload.dryRun
  maxAttempts := submission.payload.maxAttempts.toNat
  priority := 100
  requestedAt := submission.time

/-! ## The endpoint -/

/-- The job under an idempotency key.  An empty key is not looked up. -/
def held (idempotencyKey : Option String) (desk : Desk) : Option ImportJob :=
  match idempotencyKey with
  | none => none
  | some key =>
      if key = "" then none
      else (Tables.lookup Prod.fst key desk.keys).bind fun row =>
        Tables.lookup ImportJob.id row.2 desk.database.jobs

def fileKey (idempotencyKey : Option String) (newId : Identifier)
    (keys : List (String × Identifier)) : List (String × Identifier) :=
  match idempotencyKey with
  | none => keys
  | some key => keys ++ [(key, newId)]

/-- The unique constraints on the identifiers and on the keys of the jobs. -/
def insertJob (submission : Submission) (request : ImportRequest) (desk : Desk) :
    Except Exception (ImportJob × Desk) :=
  if desk.database.jobs.any (·.id = request.id) then
    .error (.integrityError "the primary key of import_jobs is not unique")
  else if desk.keys.any fun row => some row.1 = submission.idempotencyKey then
    .error (.integrityError "uq_import_job_workspace_key")
  else
    .ok (queuedJob request,
      { database := { desk.database with jobs := desk.database.jobs ++ [queuedJob request] }
        keys := fileKey submission.idempotencyKey request.id desk.keys })

def createImportJob (environment : Environment) (submission : Submission) (desk : Desk) :
    Except Exception (ImportJob × Desk) :=
  match checkArguments environment desk.database.providers (argumentsOf submission) with
  | .error raised => .error raised
  | .ok provider =>
      match held submission.idempotencyKey desk with
      | some existing => .ok (existing, desk)
      | none => insertJob submission (requestOf environment provider submission) desk

def isQueuedEvent (jobId : Identifier) (event : JobEvent) : Bool :=
  event.jobId = jobId ∧ event.eventType = "queued"

/-- The event of the queue, where the job has none. -/
def noteQueued (jobId : Identifier) (database : Database) : Database :=
  if database.events.any (isQueuedEvent jobId) then database
  else
    { database with
      events := database.events ++
        [⟨jobId, "queued", none, some .queued, "Import job accepted"⟩] }

/-- The run of the job where it is asked for. -/
def executeNow (environment : Environment) (submission : Submission) (job : ImportJob)
    (database : Database) : Except Exception Database :=
  if submission.payload.executeImmediately then
    match runImportJob environment.library submission.surroundings job database with
    | .ok _ after => .ok after
    | .error raised _ => .error raised
  else .ok database

/-- The body of the endpoint up to its commit, and the job that is read again behind it. -/
def submitJob (environment : Environment) (submission : Submission) (desk : Desk) :
    Except Exception (ImportJob × Desk) :=
  match createImportJob environment submission desk with
  | .error raised => .error raised
  | .ok (job, created) =>
      match executeNow environment submission job (noteQueued job.id created.database) with
      | .error raised => .error raised
      | .ok after =>
          match Tables.lookup ImportJob.id job.id after.jobs with
          | none => .error (.valueError "import job was not found")
          | some row => .ok (row, { created with database := after })

def replyTo : Exception -> Reply
  | .valueError message => .invalidRequest message
  | raised => .serverError raised

/-- Whatever is raised leaves the database as it was. -/
def createJob (environment : Environment) (submission : Submission) (server : Server) :
    Reply × Server :=
  let verdict := allow server.limiter
    ⟨submission.client ++ ":import-submit", submission.time⟩
  if verdict.1 then
    match submitJob environment submission server.desk with
    | .ok (job, desk) => (.accepted job, ⟨verdict.2, desk⟩)
    | .error raised => (replyTo raised, ⟨verdict.2, server.desk⟩)
  else (.tooManySubmissions, ⟨verdict.2, server.desk⟩)

/-! ## Histories -/

/-- What may happen between two submissions: operations of the queue, changes of the providers
and other submissions. -/
inductive Happening where
  | queue (operation : QueueOperation)
  | configure (providers : List Provider)
  | submit (submission : Submission)

def happen (environment : Environment) (server : Server) : Happening -> Server
  | .queue operation =>
      { server with desk := { server.desk with
          database := operate environment.library server.desk.database operation } }
  | .configure providers =>
      { server with desk := { server.desk with
          database := { server.desk.database with providers := providers } } }
  | .submit submission => (createJob environment submission server).2

end Submissions
end MarketData
end MarketIntelligence
