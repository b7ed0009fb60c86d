import MarketIntelligence.Foundations.Projections
import MarketIntelligence.MarketData.Ingestion

namespace MarketIntelligence
namespace MarketData

open Foundations
open Projections

/-!
# The progress of a run

Of everything a run writes, only the canonical rows, the status and the cursor
decide how it goes on, with what the savepoint keeps of them.  This is the
progress of the run.  Batches, counters, errors, leases and the health of the
provider are not part of it.

A symbol is imported on the progress as on the whole run, so what a run can do to
the canonical rows is read off from the canonical part of the import alone.
-/

structure JobProgress where
  request : ImportRequest
  status : JobStatus
  attempt : Nat
  resumeCursor : Nat
  cancelRequested : Bool
  deriving DecidableEq, Repr

def ImportJob.progress (job : ImportJob) : JobProgress :=
  ⟨job.request, job.status, job.attempt, job.resumeCursor, job.cancelRequested⟩

/-- The rows a run reads and never writes.  Of a provider these are its identifier,
its code and whether it is enabled. -/
structure Fixed where
  jobs : List ImportJob
  calendar : List TradingSession
  events : List JobEvent
  providers : List (Identifier × String × Bool)
  deriving DecidableEq, Repr

def Database.fixed (database : Database) : Fixed where
  jobs := database.jobs
  calendar := database.calendar
  events := database.events
  providers := database.providers.map fun row => (row.id, row.code, row.isEnabled)

structure Snapshot where
  rows : Canonical
  job : JobProgress
  fixed : Fixed
  deriving DecidableEq, Repr

def snapshot (database : Database) (job : ImportJob) : Snapshot :=
  ⟨database.rows, job.progress, database.fixed⟩

structure Progress where
  current : Snapshot
  pending : Canonical
  saved : Option Snapshot
  deriving DecidableEq, Repr

def Run.progress (run : Run) : Progress where
  current := snapshot run.database run.job
  pending := run.pending
  saved := run.savepoint.map fun saved => snapshot saved.database saved.job

def Progress.store (progress : Progress) : Store := ⟨progress.current.rows, progress.pending⟩

def Progress.withStore (progress : Progress) (store : Store) : Progress :=
  { progress with current := { progress.current with rows := store.stored }, pending := store.pending }

/-- A program on the canonical rows, as a program on the progress. -/
def onProgress {α : Type} (program : StoreProgram α) : EStateM Exception Progress α :=
  fun progress =>
    match program progress.store with
    | .ok value store => .ok value (progress.withStore store)
    | .error raised store => .error raised (progress.withStore store)

/-! ## Steps on the progress -/

def Progress.begin (progress : Progress) : Progress :=
  { progress with saved := some progress.current }

def Progress.release (progress : Progress) : Progress :=
  { progress with saved := none }

def Progress.rollback (progress : Progress) : Progress :=
  match progress.saved with
  | none => progress
  | some saved => ⟨saved, .empty, none⟩

def Snapshot.withStatus (status : JobStatus) (current : Snapshot) : Snapshot :=
  { current with job := { current.job with status := status } }

def Snapshot.advance (cursor : Nat) (current : Snapshot) : Snapshot :=
  { current with job := { current.job with resumeCursor := cursor } }

def Progress.change (change : Snapshot -> Snapshot) (progress : Progress) : Progress :=
  { progress with current := change progress.current }

section Batch

variable (context : Context)

/-- The canonical part of one record. -/
def keepRecord (asset : Asset) (record : HistoricalBarRecord) : StoreProgram PUnit := do
  let _ ← storeRecord context.library context.request context.provider context.source asset record
  pure ⟨⟩

/-- The canonical part of the import of one symbol, up to its last flush. -/
def batchRows (sequence : Nat) (symbol : String) : StoreProgram Bool := do
  let asset ← assetOf context.library (context.adapter sequence) context.provider symbol
  let start ← fetchStart context.request context.source asset
  let answer ← raise (validatedRecords context sequence symbol start)
  if answer.report.isValid then
    answer.records.forM (keepRecord context asset)
    persistActions context.library context.request context.provider (context.adapter sequence)
      asset symbol
    publishCapability context.request context.provider asset
    pure true
  else pure false

def closeProgress (sequence : Nat) : EStateM Exception Progress PUnit := do
  modify (Progress.change (Snapshot.advance (sequence + 1)))
  onProgress flush
  modify Progress.release

def rejectProgress : EStateM Exception Progress PUnit := do
  modify Progress.rollback
  modify (Progress.change (Snapshot.withStatus .failed))

/-- The import of one symbol, on the progress. -/
def symbolProgress (sequence : Nat) (symbol : String) : EStateM Exception Progress Bool := do
  modify Progress.begin
  let complete ← onProgress (batchRows context sequence symbol)
  if complete then
    closeProgress sequence
    pure true
  else
    rejectProgress
    pure false

end Batch

/-! ## Bookkeeping is silent -/

theorem modifyJob_silent {change : ImportJob -> ImportJob}
    (unseen : forall job, (change job).progress = job.progress) :
    Silent Run.progress (modifyJob change) := by
  apply Silent.modify
  intro run
  simp only [Run.progress, snapshot, unseen]

theorem modifyDatabase_silent {change : Database -> Database}
    (rows : forall database, (change database).rows = database.rows)
    (fixed : forall database, (change database).fixed = database.fixed) :
    Silent Run.progress (modifyDatabase change) := by
  apply Silent.modify
  intro run
  simp only [Run.progress, snapshot, rows, fixed]

theorem changeBatch_fixed (context : Context) (sequence : Nat)
    (change : ImportBatch -> ImportBatch) (database : Database) :
    (changeBatch context sequence change database).fixed = database.fixed := by
  simp only [changeBatch]
  split <;> rfl

/-- Writes to a provider that keep what identifies it are not seen. -/
theorem providers_fixed {change : Provider -> Provider} (providers : List Provider)
    (keeps : forall row, ((change row).id, (change row).code, (change row).isEnabled) =
      (row.id, row.code, row.isEnabled)) :
    (providers.map change).map (fun row => (row.id, row.code, row.isEnabled)) =
      providers.map fun row => (row.id, row.code, row.isEnabled) := by
  rw [List.map_map]
  exact List.map_congr_left fun row _ => keeps row

theorem changeBatch_rows (context : Context) (sequence : Nat)
    (change : ImportBatch -> ImportBatch) (database : Database) :
    (changeBatch context sequence change database).rows = database.rows := by
  simp only [changeBatch]
  split <;> rfl

theorem modifyBatch_silent (context : Context) (change : ImportBatch -> ImportBatch) :
    Silent Run.progress (modifyBatch context change) := by
  apply Silent.modify
  intro run
  cases batch : run.batch with
  | none => rfl
  | some sequence => simp only [Run.progress, snapshot, changeBatch_rows, changeBatch_fixed]

theorem addError_silent (error : ImportError) : Silent Run.progress (addError error) :=
  modifyDatabase_silent (fun _ => rfl) fun _ => rfl

theorem setHealth_silent (context : Context) (health : Health) :
    Silent Run.progress (setHealth context health) := by
  apply modifyDatabase_silent
  · intro database
    rfl
  · intro database
    simp only [Database.fixed, Context.writeHealth]
    rw [providers_fixed]
    intro row
    split <;> rfl

theorem openBatch_silent (context : Context) (sequence : Nat) :
    Silent Run.progress (openBatch context sequence) :=
  Silent.modify fun _ => rfl

theorem noteReport_silent (context : Context) (records : List HistoricalBarRecord)
    (report : ValidationReport) : Silent Run.progress (noteReport context records report) :=
  (modifyBatch_silent context _).bind (modifyJob_silent fun _ => rfl)

theorem appendReport_silent (symbol : String) (report : ValidationReport) :
    Silent Run.progress (appendReport symbol report) :=
  Silent.modify fun _ => rfl

theorem noteObserved_silent (records : List HistoricalBarRecord) :
    Silent Run.progress (noteObserved records) :=
  Silent.modify fun _ => rfl

theorem noteSkipped_silent (context : Context) : Silent Run.progress (noteSkipped context) :=
  (modifyBatch_silent context _).bind (modifyJob_silent fun _ => rfl)

theorem noteInserted_silent (context : Context) : Silent Run.progress (noteInserted context) :=
  (modifyBatch_silent context _).bind (modifyJob_silent fun _ => rfl)

/-! ## Steps that the progress follows -/

theorem onStore_projects {α : Type} (program : StoreProgram α) :
    Projects Run.progress (onStore program) (onProgress program) := by
  intro run
  have seen : run.progress.store = run.store := rfl
  simp only [onStore, onProgress, seen]
  cases program run.store <;> rfl

theorem raise_projects {α : Type} (outcome : Except Exception α) :
    Projects Run.progress (raise outcome) (raise outcome) := by
  intro run
  cases outcome <;> rfl

theorem onProgress_raise {α : Type} (outcome : Except Exception α) :
    onProgress (raise outcome) = raise outcome := by
  funext progress
  cases outcome <;> rfl

theorem onProgress_bind {α β : Type} (first : StoreProgram α) (next : α -> StoreProgram β) :
    onProgress (first >>= next) = onProgress first >>= fun value => onProgress (next value) := by
  funext progress
  rw [Loops.bind_apply]
  simp only [onProgress]
  rw [Loops.bind_apply]
  cases first progress.store <;> rfl

theorem onProgress_pure {α : Type} (value : α) :
    onProgress (pure value) = (pure value : EStateM Exception Progress α) := rfl

theorem onProgress_forM {α : Type} (body : α -> StoreProgram PUnit) (values : List α) :
    onProgress (values.forM body) = values.forM fun value => onProgress (body value) := by
  induction values with
  | nil => rfl
  | cons head tail ih =>
      exact (onProgress_bind _ _).trans (by rw [ih]; rfl)

theorem beginNested_projects :
    Projects Run.progress beginNested (modify Progress.begin) :=
  Projects.modify fun _ => rfl

theorem commitNested_projects :
    Projects Run.progress commitNested (modify Progress.release) :=
  Projects.modify fun _ => rfl

theorem rollbackNested_projects :
    Projects Run.progress rollbackNested (modify Progress.rollback) := by
  apply Projects.modify
  intro run
  cases open_ : run.savepoint with
  | none => simp only [Run.progress, Progress.rollback, open_, Option.map_none]
  | some saved => simp only [Run.progress, Progress.rollback, open_, Option.map_some]; rfl

theorem noteOutcome_silent (context : Context) (sequence : Nat) (record : HistoricalBarRecord)
    (outcome : RecordOutcome) :
    Silent Run.progress (noteOutcome context sequence record outcome) := by
  cases outcome with
  | conflicting existing => exact (addError_silent _).bind (noteSkipped_silent context)
  | skipped => exact noteSkipped_silent context
  | inserted => exact noteInserted_silent context

/-- One record: the counters are silent, whatever became of it. -/
theorem importRecord_projects (context : Context) (sequence : Nat) (asset : Asset)
    (record : HistoricalBarRecord) :
    Projects Run.progress (importRecord context sequence asset record)
      (onProgress (keepRecord context asset record)) := by
  rw [keepRecord, onProgress_bind]
  apply (onStore_projects _).bind
  intro outcome
  exact (noteOutcome_silent context sequence record outcome).projects

theorem closeBatch_projects (context : Context) (sequence : Nat) (symbol : String)
    (records : List HistoricalBarRecord) (report : ValidationReport) :
    Projects Run.progress (closeBatch context sequence symbol records report)
      (closeProgress sequence) := by
  apply Projects.silent_bind (modifyBatch_silent context _)
  apply Projects.bind
  · exact Projects.modify fun _ => rfl
  · intro _
    apply (onStore_projects flush).bind
    intro _
    exact commitNested_projects.bind_silent
      ((noteObserved_silent records).bind (appendReport_silent symbol report))

theorem rejectBatch_projects (context : Context) (sequence : Nat) (symbol : String)
    (records : List HistoricalBarRecord) (report : ValidationReport) :
    Projects Run.progress (rejectBatch context sequence symbol records report)
      rejectProgress := by
  apply rollbackNested_projects.bind
  intro _
  apply Projects.silent_bind (noteReport_silent context records report)
  apply Projects.silent_bind (setHealth_silent context .degraded)
  apply Projects.silent_bind (Silent.forM fun issue => addError_silent _)
  apply Projects.silent_bind (modifyBatch_silent context _)
  apply Projects.silent_bind (appendReport_silent symbol report)
  exact Projects.modify fun _ => rfl

/-- The import of a symbol projects to its import on the progress. -/
theorem importSymbol_projects (context : Context) (sequence : Nat) (symbol : String) :
    Projects Run.progress (importSymbol context sequence symbol)
      (symbolProgress context sequence symbol) := by
  apply Projects.silent_bind (openBatch_silent context sequence)
  apply beginNested_projects.bind
  intro _
  simp only [batchRows, onProgress_bind, onProgress_raise, bind_assoc]
  apply (onStore_projects _).bind
  intro asset
  apply (onStore_projects _).bind
  intro start
  apply (raise_projects _).bind
  intro answer
  apply Projects.silent_bind (noteReport_silent context answer.records answer.report)
  cases valid : answer.report.isValid with
  | true =>
      simp only [if_true, onProgress_bind, bind_assoc, onProgress_forM]
      apply (Projects.forM fun record => importRecord_projects context sequence asset record).bind
      intro _
      apply (onStore_projects _).bind
      intro _
      apply (onStore_projects _).bind
      intro _
      rw [onProgress_pure, pure_bind, if_pos rfl]
      exact (closeBatch_projects context sequence symbol answer.records answer.report).bind
        fun _ => Projects.pure true
  | false =>
      rw [if_neg Bool.false_ne_true, if_neg Bool.false_ne_true, onProgress_pure, pure_bind,
        if_neg Bool.false_ne_true]
      exact (rejectBatch_projects context sequence symbol answer.records answer.report).bind
        fun _ => Projects.pure false

/-! ## The end of a run -/

def Snapshot.conclude (current : Snapshot) : Snapshot :=
  if current.job.status = .running then current.withStatus .succeeded else current

def Snapshot.retry (current : Snapshot) : Snapshot :=
  if current.job.attempt < current.job.request.maxAttempts then current.withStatus .retrying
  else current.withStatus .failed

theorem noteRecovery_silent (context : Context) : Silent Run.progress (noteRecovery context) := by
  apply (setHealth_silent context .healthy).bind
  apply modifyDatabase_silent
  · intro database
    rfl
  · intro database
    simp only [Database.fixed, Context.writeRecovery]
    rw [providers_fixed]
    intro row
    split <;> rfl

theorem succeed_projects (context : Context) (observedRecords : Bool) :
    Projects Run.progress (succeed context observedRecords)
      (modify (Progress.change (Snapshot.withStatus .succeeded))) := by
  have status : Projects Run.progress
      (modifyJob fun job =>
        { job with status := .succeeded, nextRetryAt := none, errorSummary := none })
      (modify (Progress.change (Snapshot.withStatus .succeeded))) :=
    Projects.modify fun _ => rfl
  apply status.bind_silent
  cases observedRecords with
  | true => exact noteRecovery_silent context
  | false => exact fun run => ⟨run, rfl, rfl⟩

theorem concludeLoop_projects (context : Context) :
    Projects Run.progress (concludeLoop context) (modify (Progress.change Snapshot.conclude)) := by
  have completes : Silent Run.progress (modifyJob fun job =>
      if job.status ∈ terminalStatuses then { job with completedAt := some context.finishedAt }
      else job) := by
    apply modifyJob_silent
    intro job
    split <;> rfl
  intro run
  by_cases running : run.job.status = .running
  · have follows := ((succeed_projects context run.observedRecords).bind_silent completes) run
    have concluded : run.progress.change Snapshot.conclude =
        run.progress.change (Snapshot.withStatus .succeeded) := by
      simp only [Progress.change, Snapshot.conclude]
      rw [if_pos (by exact running)]
    rw [concludeLoop, Loops.bind_get, succeedRunning, if_pos running, follows]
    exact congrArg (EStateM.Result.ok PUnit.unit) concluded.symm
  · have concluded : run.progress.change Snapshot.conclude = run.progress := by
      simp only [Progress.change, Snapshot.conclude]
      rw [if_neg (by exact running)]
    rw [concludeLoop, Loops.bind_get, succeedRunning, if_neg running, pure_bind, completes.projects]
    exact congrArg (EStateM.Result.ok PUnit.unit) concluded.symm

theorem abandonBatch_projects (context : Context) (health : Health) :
    Projects Run.progress (abandonBatch context health) (modify Progress.rollback) := by
  apply rollbackNested_projects.bind_silent
  apply (setHealth_silent context health).bind
  apply (modifyBatch_silent context _).bind
  exact modifyJob_silent fun _ => rfl

theorem recordPermanent_projects (context : Context) (health : Health)
    (errorCode message : String) (classified : Bool) :
    Projects Run.progress (recordPermanent context health errorCode message classified)
      rejectProgress := by
  apply (abandonBatch_projects context health).bind
  intro _
  apply Projects.get_unseen
  intro run
  apply Projects.silent_bind (addError_silent _)
  exact Projects.modify fun _ => rfl

theorem rateLimitEvent_silent (context : Context) (delay : Int) :
    Silent Run.progress (rateLimitEvent context delay) :=
  modifyDatabase_silent (fun _ => rfl) fun _ => rfl

/-- A temporary failure on the progress: the batch is rolled back and the job waits for its next
attempt. -/
def retryProgress : EStateM Exception Progress PUnit := do
  modify Progress.rollback
  let progress ← get
  let _ ← raise (retryDelay progress.current.job.attempt)
  modify (Progress.change Snapshot.retry)

theorem recordTemporary_projects (context : Context) (failure : ProviderFailure)
    (rateLimit : Option (Option Int)) :
    Projects Run.progress (recordTemporary context failure rateLimit) retryProgress := by
  apply (abandonBatch_projects context (healthAfter failure)).bind
  intro _
  apply Projects.get_bind
  intro run
  apply (raise_projects (retryDelay run.job.attempt)).bind
  intro base
  have limits : Silent Run.progress
      (noteRateLimit context (delayAfter base rateLimit) rateLimit) := by
    cases rateLimit with
    | none => exact fun state => ⟨state, rfl, rfl⟩
    | some retryAfter => exact rateLimitEvent_silent context _
  apply Projects.silent_bind limits
  apply Projects.silent_bind (addError_silent _)
  apply Projects.modify
  intro state
  by_cases again : state.job.attempt < state.job.request.maxAttempts <;>
    simp only [Run.progress, snapshot, Progress.change, Snapshot.retry, Snapshot.withStatus,
      ImportJob.progress, again, if_true, if_false]

end MarketData
end MarketIntelligence
