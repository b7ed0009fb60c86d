import MarketIntelligence.MarketData.RunSpec
import MarketIntelligence.MarketData.StoreSpec

namespace MarketIntelligence
namespace MarketData

open Foundations
open Loops

/-!
# What a run writes

Beside the canonical rows and its own variables, a run writes batches and errors of its
job, the health of its provider and of its source, and the limits of its provider.
These writes are listed once.

A condition on the database that survives them, and the steps of a batch, survives the
whole run, completed or raised.  The heartbeat, which is not a write of the run, has to
answer for itself.
-/

/-- The writes of a run to the operational rows. -/
inductive Write (context : Context) (database : Database) : Database -> Prop where
  | error (error : ImportError) (own : error.jobId = context.request.id) :
      Write context database { database with errors := database.errors ++ [error] }
  | health (health : Health) : Write context database (context.writeHealth health database)
  | recovery : Write context database (context.writeRecovery database)
  | limit (delay : Int) : Write context database (context.writeLimit delay database)
  | batch (sequence : Nat) (change : ImportBatch -> ImportBatch)
      (same : forall batch, (change batch).identity = batch.identity) :
      Write context database (changeBatch context sequence change database)
  | opened (sequence : Nat) (batch : ImportBatch)
      (own : batch.identity = (context.request.id, sequence)) :
      Write context database
        { database with batches := Tables.put ImportBatch.identity batch database.batches }

/-- The condition on the database and on the rows still to be flushed survives a run. -/
structure RunInvariant (context : Context) (held : Database -> Canonical -> Prop) : Prop where
  stores : forall database : Database, StoreInvariant context.request fun store =>
    held { database with rows := store.stored } store.pending
  empties : forall database pending, held database pending -> held database .empty
  writes : forall before after pending, Write context before after -> held before pending ->
    held after pending

/-- The condition holds now and at the savepoint, so that neither going on nor rolling back loses
it. -/
structure Run.Keeps (held : Database -> Canonical -> Prop) (run : Run) : Prop where
  current : held run.database run.pending
  saved : forall saved, run.savepoint = some saved -> held saved.database .empty

section Rule

variable {context : Context} {held : Database -> Canonical -> Prop}

/-! ## Single steps -/

theorem modifyJob_keeps (change : ImportJob -> ImportJob) :
    Preserves (Run.Keeps held) (modifyJob change) :=
  Preserves.modify fun _ holds => ⟨holds.current, holds.saved⟩

theorem appendReport_keeps (symbol : String) (report : ValidationReport) :
    Preserves (Run.Keeps held) (appendReport symbol report) :=
  Preserves.modify fun _ holds => ⟨holds.current, holds.saved⟩

theorem noteObserved_keeps (records : List HistoricalBarRecord) :
    Preserves (Run.Keeps held) (noteObserved records) :=
  Preserves.modify fun _ holds => ⟨holds.current, holds.saved⟩

theorem commitNested_keeps : Preserves (Run.Keeps held) commitNested := by
  apply Preserves.modify
  intro run holds
  exact ⟨holds.current, fun _ absent => by cases absent⟩

theorem rollbackNested_keeps : Preserves (Run.Keeps held) rollbackNested := by
  apply Preserves.modify
  intro run holds
  cases kept : run.savepoint with
  | none => simpa only [kept] using holds
  | some saved => exact ⟨holds.saved saved kept, fun _ absent => by cases absent⟩

theorem raise_keeps {α : Type} (outcome : Except Exception α) :
    Preserves (Run.Keeps held) (raise outcome) := by
  intro run holds
  cases outcome with
  | ok value => exact holds
  | error raised => exact holds

theorem pure_keeps {α : Type} (value : α) : Preserves (Run.Keeps held) (pure value : Program α) :=
  fun _ holds => holds

variable (keeps : RunInvariant context held)

include keeps

theorem modifyDatabase_keeps {change : Database -> Database}
    (writes : forall database, Write context database (change database)) :
    Preserves (Run.Keeps held) (modifyDatabase change) := by
  apply Preserves.modify
  intro run holds
  exact ⟨keeps.writes _ _ _ (writes run.database) holds.current, holds.saved⟩

theorem modifyBatch_keeps {change : ImportBatch -> ImportBatch}
    (same : forall batch, (change batch).identity = batch.identity) :
    Preserves (Run.Keeps held) (modifyBatch context change) := by
  apply Preserves.modify
  intro run holds
  cases run.batch with
  | none => exact holds
  | some sequence =>
      exact ⟨keeps.writes _ _ _ (.batch sequence change same) holds.current, holds.saved⟩

theorem onStore_keeps {α : Type} {program : StoreProgram α}
    (preserves : forall invariant, StoreInvariant context.request invariant ->
      Preserves invariant program) : Preserves (Run.Keeps held) (onStore program) := by
  intro run holds
  have kept := preserves _ (keeps.stores run.database) run.store holds.current
  unfold onStore
  cases ended : program run.store with
  | ok value store =>
      rw [ended] at kept
      exact ⟨kept, holds.saved⟩
  | error raised store =>
      rw [ended] at kept
      exact ⟨kept, holds.saved⟩

theorem beginNested_keeps : Preserves (Run.Keeps held) beginNested := by
  apply Preserves.modify
  intro run holds
  refine ⟨holds.current, ?_⟩
  intro saved begun
  cases begun
  exact keeps.empties _ _ holds.current

theorem openBatch_keeps (sequence : Nat) :
    Preserves (Run.Keeps held) (openBatch context sequence) := by
  apply Preserves.modify
  intro run holds
  refine ⟨keeps.writes _ _ _ (.opened sequence _ ?_) holds.current, holds.saved⟩
  cases known : Tables.lookup ImportBatch.identity (context.request.id, sequence)
      run.database.batches with
  | none => rfl
  | some batch => exact (Tables.lookup_some known).2

theorem addError_keeps {error : ImportError} (own : error.jobId = context.request.id) :
    Preserves (Run.Keeps held) (addError error) :=
  modifyDatabase_keeps keeps fun _ => .error error own

theorem setHealth_keeps (health : Health) :
    Preserves (Run.Keeps held) (setHealth context health) :=
  modifyDatabase_keeps keeps fun _ => .health health

/-! ## One symbol -/

theorem noteReport_keeps (records : List HistoricalBarRecord) (report : ValidationReport) :
    Preserves (Run.Keeps held) (noteReport context records report) :=
  (modifyBatch_keeps keeps (by intro _; rfl)).bind fun _ => modifyJob_keeps _

theorem noteOutcome_keeps (sequence : Nat) (record : HistoricalBarRecord)
    (outcome : RecordOutcome) :
    Preserves (Run.Keeps held) (noteOutcome context sequence record outcome) := by
  have skipped : Preserves (Run.Keeps held) (noteSkipped context) :=
    (modifyBatch_keeps keeps (by intro _; rfl)).bind fun _ => modifyJob_keeps _
  cases outcome with
  | conflicting existing => exact (addError_keeps keeps rfl).bind fun _ => skipped
  | skipped => exact skipped
  | inserted => exact (modifyBatch_keeps keeps (by intro _; rfl)).bind fun _ => modifyJob_keeps _

theorem importRecord_keeps (sequence : Nat) (asset : Asset) (record : HistoricalBarRecord) :
    Preserves (Run.Keeps held) (importRecord context sequence asset record) := by
  apply (onStore_keeps keeps fun _ kept => storeRecord_preserves kept _ _ _ asset record).bind
  intro outcome
  exact noteOutcome_keeps keeps sequence record outcome

theorem rejectBatch_keeps (sequence : Nat) (symbol : String)
    (records : List HistoricalBarRecord) (report : ValidationReport) :
    Preserves (Run.Keeps held) (rejectBatch context sequence symbol records report) := by
  apply rollbackNested_keeps.bind
  intro _
  apply (noteReport_keeps keeps records report).bind
  intro _
  apply (setHealth_keeps keeps .degraded).bind
  intro _
  apply (Preserves.forM fun issue _ => addError_keeps keeps rfl).bind
  intro _
  apply (modifyBatch_keeps keeps (by intro _; rfl)).bind
  intro _
  apply (appendReport_keeps symbol report).bind
  intro _
  exact modifyJob_keeps _

theorem closeBatch_keeps (sequence : Nat) (symbol : String)
    (records : List HistoricalBarRecord) (report : ValidationReport) :
    Preserves (Run.Keeps held) (closeBatch context sequence symbol records report) := by
  apply (modifyBatch_keeps keeps (by intro _; rfl)).bind
  intro _
  apply (modifyJob_keeps _).bind
  intro _
  apply (onStore_keeps keeps fun _ kept => flush_preserves kept).bind
  intro _
  apply commitNested_keeps.bind
  intro _
  exact (noteObserved_keeps records).bind fun _ => appendReport_keeps symbol report

theorem importSymbol_keeps (sequence : Nat) (symbol : String) :
    Preserves (Run.Keeps held) (importSymbol context sequence symbol) := by
  apply (openBatch_keeps keeps sequence).bind
  intro _
  apply (beginNested_keeps keeps).bind
  intro _
  apply (onStore_keeps keeps fun _ kept => assetOf_preserves kept _ _ _ symbol).bind
  intro asset
  apply (onStore_keeps keeps fun _ _ => fetchStart_preserves _ _ asset).bind
  intro start
  apply (raise_keeps _).bind
  intro answer
  apply (noteReport_keeps keeps answer.records answer.report).bind
  intro _
  split
  · apply Preserves.bind
    · exact Preserves.forM fun record _ => importRecord_keeps keeps sequence asset record
    · intro _
      apply (onStore_keeps keeps fun _ kept =>
        persistActions_preserves kept _ _ _ asset symbol).bind
      intro _
      apply (onStore_keeps keeps fun _ kept => publishCapability_preserves kept _ asset).bind
      intro _
      exact (closeBatch_keeps keeps sequence symbol answer.records answer.report).bind
        fun _ => pure_keeps true
  · exact (rejectBatch_keeps keeps sequence symbol answer.records answer.report).bind
      fun _ => pure_keeps false

/-! ## The loop and its end -/

theorem concludeLoop_keeps : Preserves (Run.Keeps held) (concludeLoop context) := by
  apply Preserves.get_bind
  intro run
  apply Preserves.bind
  · unfold succeedRunning
    split
    · apply (modifyJob_keeps _).bind
      intro _
      split
      · exact (setHealth_keeps keeps .healthy).bind fun _ =>
          modifyDatabase_keeps keeps fun _ => .recovery
      · exact pure_keeps _
    · exact pure_keeps _
  · exact fun _ => modifyJob_keeps _

theorem abandonBatch_keeps (health : Health) :
    Preserves (Run.Keeps held) (abandonBatch context health) := by
  apply rollbackNested_keeps.bind
  intro _
  apply (setHealth_keeps keeps health).bind
  intro _
  exact (modifyBatch_keeps keeps (by intro _; rfl)).bind fun _ => modifyJob_keeps _

theorem recordTemporary_keeps (failure : ProviderFailure) (rateLimit : Option (Option Int)) :
    Preserves (Run.Keeps held) (recordTemporary context failure rateLimit) := by
  apply (abandonBatch_keeps keeps _).bind
  intro _
  apply Preserves.get_bind
  intro run
  apply (raise_keeps _).bind
  intro base
  have limits : Preserves (Run.Keeps held)
      (noteRateLimit context (delayAfter base rateLimit) rateLimit) := by
    cases rateLimit with
    | none => exact pure_keeps _
    | some retryAfter => exact modifyDatabase_keeps keeps fun _ => .limit _
  apply limits.bind
  intro _
  exact (addError_keeps keeps rfl).bind fun _ => modifyJob_keeps _

theorem recordPermanent_keeps (health : Health) (errorCode message : String)
    (classified : Bool) :
    Preserves (Run.Keeps held) (recordPermanent context health errorCode message classified) := by
  apply (abandonBatch_keeps keeps health).bind
  intro _
  apply Preserves.get_bind
  intro run
  exact (addError_keeps keeps rfl).bind fun _ => modifyJob_keeps _

theorem recordFailure_keeps (raised : Exception) :
    Preserves (Run.Keeps held) (recordFailure context raised) := by
  cases raised with
  | temporary failure => exact recordTemporary_keeps keeps failure none
  | rateLimit failure retryAfter => exact recordTemporary_keeps keeps failure (some retryAfter)
  | provider failure => exact recordPermanent_keeps keeps _ _ _ _
  | valueError message => exact recordPermanent_keeps keeps _ _ _ _
  | integrityError message => exact recordPermanent_keeps keeps _ _ _ _
  | escaping name => exact fun _ holds => holds

variable (beats : forall call, Preserves (Run.Keeps held) (callHeartbeat context call))

include beats

theorem visitSymbol_keeps (sequence : Nat) (symbol : String) :
    Preserves (Run.Keeps held) (visitSymbol context sequence symbol) := by
  apply Preserves.get_bind
  intro run
  split
  · exact (modifyJob_keeps _).bind fun _ => pure_keeps false
  · apply (importSymbol_keeps keeps sequence symbol).bind
    intro complete
    split
    · exact (beats _).bind fun _ => pure_keeps true
    · exact pure_keeps false

/-- By induction on the symbols that are left. -/
theorem importSymbols_keeps (rest : List (String × Nat)) :
    Preserves (Run.Keeps held) (importSymbols context rest) := by
  induction rest with
  | nil => exact pure_keeps _
  | cons head tail ih =>
      rcases head with ⟨symbol, sequence⟩
      rw [importSymbols]
      apply (beats _).bind
      intro _
      split
      · exact ih
      · apply (visitSymbol_keeps keeps beats sequence symbol).bind
        intro goesOn
        split
        · exact ih
        · exact pure_keeps _

theorem runSymbols_keeps : Preserves (Run.Keeps held) (runSymbols context) := by
  apply Transactions.preserves_tryCatch
  · exact (importSymbols_keeps keeps beats _).bind fun _ => concludeLoop_keeps keeps
  · exact recordFailure_keeps keeps

end Rule

/-! ## Heartbeats -/

section Heartbeat

variable {context : Context} {held : Fleet -> Prop}

/-- A condition on the fleet alone is left to the heartbeat. -/
theorem fleetInvariant (context : Context) (held : Fleet -> Prop) :
    RunInvariant context fun database _ => held database.fleet where
  stores := fun _ =>
    { adds := fun _ _ _ holds => holds
      flushes := fun _ _ holds => holds
      publishes := fun _ _ _ holds => holds }
  empties := fun _ _ holds => holds
  writes := by
    intro before after _ write holds
    cases write with
    | error | health | recovery | limit | opened => exact holds
    | batch sequence change same =>
        unfold changeBatch
        split <;> exact holds

theorem callHeartbeat_keeps {held : Database -> Canonical -> Prop}
    (beats : forall beat, context.heartbeat = some beat -> forall call database pending,
      held database pending ->
        held { database with fleet := finalState (beat call database.fleet) } pending)
    (call : Nat) : Preserves (Run.Keeps held) (callHeartbeat context call) := by
  intro run holds
  unfold callHeartbeat
  cases heartbeat : context.heartbeat with
  | none => exact holds
  | some beat =>
      have kept := beats beat heartbeat call run.database run.pending holds.current
      cases beaten : beat call run.database.fleet with
      | ok value fleet =>
          rw [beaten] at kept
          simp only [beaten]
          exact ⟨kept, holds.saved⟩
      | error raised fleet =>
          rw [beaten] at kept
          simp only [beaten]
          exact ⟨kept, holds.saved⟩

end Heartbeat

/-! ## The request of a run -/

/-- The job of the run, and of its savepoint, is a job of the request. -/
def Progress.Serves (request : ImportRequest) (progress : Progress) : Prop :=
  progress.current.job.request = request ∧
    forall saved, progress.saved = some saved -> saved.job.request = request

section Request

variable {context : Context} {request : ImportRequest}

theorem change_serves {change : Snapshot -> Snapshot}
    (same : forall current, (change current).job.request = current.job.request) :
    Preserves (Progress.Serves request)
      (modify (Progress.change change) : EStateM Exception Progress PUnit) :=
  Preserves.modify fun progress serves => ⟨(same progress.current).trans serves.1, serves.2⟩

theorem rollback_serves :
    Preserves (Progress.Serves request)
      (modify Progress.rollback : EStateM Exception Progress PUnit) := by
  apply Preserves.modify
  intro progress serves
  rcases progress with ⟨current, pending, saved⟩
  cases saved with
  | none => exact serves
  | some saved => exact ⟨serves.2 saved rfl, fun _ absent => by cases absent⟩

theorem onProgress_serves {α : Type} (program : StoreProgram α) :
    Preserves (Progress.Serves request) (onProgress program) := by
  intro progress serves
  unfold onProgress
  cases program progress.store with
  | ok value store => exact serves
  | error raised store => exact serves

theorem symbolProgress_serves (sequence : Nat) (symbol : String) :
    Preserves (Progress.Serves request) (symbolProgress context sequence symbol) := by
  apply Preserves.bind
  · apply Preserves.modify
    intro progress serves
    exact ⟨serves.1, fun saved kept => Option.some.inj kept ▸ serves.1⟩
  · intro _
    apply (onProgress_serves _).bind
    intro complete
    split
    · apply Preserves.bind
      · apply (change_serves (by intro _; rfl)).bind
        intro _
        apply (onProgress_serves flush).bind
        intro _
        apply Preserves.modify
        intro progress serves
        exact ⟨serves.1, fun _ absent => by cases absent⟩
      · exact fun _ _ serves => serves
    · apply Preserves.bind
      · exact rollback_serves.bind fun _ => change_serves (by intro _; rfl)
      · exact fun _ _ serves => serves

theorem retryProgress_serves : Preserves (Progress.Serves request) retryProgress := by
  apply rollback_serves.bind
  intro _
  apply Preserves.get_bind
  intro progress
  apply Preserves.bind
  · intro state serves
    cases retryDelay progress.current.job.attempt with
    | ok value => exact serves
    | error raised => exact serves
  · intro _
    apply change_serves
    intro current
    unfold Snapshot.retry
    split <;> rfl

theorem callHeartbeat_serves (call : Nat) :
    Preserves (fun run : Run => run.progress.Serves request) (callHeartbeat context call) := by
  intro run serves
  rcases callHeartbeat_cases context call run with
    ⟨next, beaten, same⟩ | ⟨raised, next, beaten, same⟩
  · rw [beaten]
    exact same.symm ▸ serves
  · rw [beaten]
    exact same.symm ▸ serves

theorem importSymbols_serves (rest : List (String × Nat)) :
    Preserves (fun run : Run => run.progress.Serves request) (importSymbols context rest) := by
  induction rest with
  | nil => exact fun _ serves => serves
  | cons head tail ih =>
      rcases head with ⟨symbol, sequence⟩
      have visits : Preserves (fun run : Run => run.progress.Serves request)
          (visitSymbol context sequence symbol) := by
        apply Preserves.get_bind
        intro run
        split
        · apply Preserves.bind
          · exact Preserves.modify fun _ serves => serves
          · exact fun _ _ serves => serves
        · apply ((importSymbol_projects context sequence symbol).preserves
            (symbolProgress_serves sequence symbol)).bind
          intro complete
          split
          · exact (callHeartbeat_serves _).bind fun _ _ serves => serves
          · exact fun _ serves => serves
      rw [importSymbols]
      apply (callHeartbeat_serves _).bind
      intro _
      split
      · exact ih
      · apply visits.bind
        intro goesOn
        split
        · exact ih
        · exact fun _ serves => serves

/-- A run stays with its request, completed or raised. -/
theorem runSymbols_serves :
    Preserves (fun run : Run => run.progress.Serves request) (runSymbols context) := by
  have rejects : Preserves (Progress.Serves request) rejectProgress :=
    rollback_serves.bind fun _ => change_serves (by intro _; rfl)
  have permanent : forall health errorCode message classified,
      Preserves (fun run : Run => run.progress.Serves request)
        (recordPermanent context health errorCode message classified) :=
    fun _ _ _ _ => (recordPermanent_projects context _ _ _ _).preserves rejects
  have temporary : forall failure rateLimit,
      Preserves (fun run : Run => run.progress.Serves request)
        (recordTemporary context failure rateLimit) :=
    fun _ _ => (recordTemporary_projects context _ _).preserves retryProgress_serves
  apply Transactions.preserves_tryCatch
  · apply (importSymbols_serves _).bind
    intro _
    apply (concludeLoop_projects context).preserves
    apply change_serves
    intro current
    unfold Snapshot.conclude
    split <;> rfl
  · intro raised
    cases raised with
    | temporary failure => exact temporary failure none
    | rateLimit failure retryAfter => exact temporary failure (some retryAfter)
    | provider failure => exact permanent _ _ _ _
    | valueError message => exact permanent _ _ _ _
    | integrityError message => exact permanent _ _ _ _
    | escaping name => exact fun _ serves => serves

end Request

/-! ## The call -/

section Call

variable {library : Library} {surroundings : Surroundings} {job : ImportJob} {database : Database}

/-- The rule of a call, whatever its outcome.  The source and the row of the job are
written outside the loop. -/
theorem runImportJob_keeps {held : Database -> Canonical -> Prop}
    (keeps : forall context, Opened library surroundings job database context ->
      RunInvariant context held ∧
        forall call, Preserves (Run.Keeps held) (callHeartbeat context call))
    (sources : forall context : Context, Opened library surroundings job database context ->
      held { database with sources := dataSource context.source database.sources } .empty)
    (refused : held database .empty)
    (finishes : forall (after : Database) pending written, written.request = job.request ->
      held after pending ->
        held { after with jobs := Tables.put ImportJob.id written after.jobs } .empty) :
    held (finalState (runImportJob library surroundings job database)) .empty := by
  unfold runImportJob
  cases opening : openRun library surroundings job database with
  | error raised => exact refused
  | ok context =>
      have opened := openRun_ok opening
      rcases keeps context opened with ⟨invariant, beats⟩
      have started : (startRun context job database).Keeps held :=
        ⟨sources context opened, fun _ absent => by cases absent⟩
      have kept := runSymbols_keeps invariant beats _ started
      have begins : (startRun context job database).progress.Serves job.request :=
        ⟨rfl, fun _ absent => by cases absent⟩
      have serves : (finalState (runSymbols context
          (startRun context job database))).progress.Serves job.request :=
        runSymbols_serves _ begins
      cases outcome : runSymbols context (startRun context job database) with
      | ok value run =>
          rw [outcome] at kept serves
          simp only [outcome]
          exact finishes run.database run.pending _ serves.1 kept.current
      | error raised run =>
          rw [outcome] at kept serves
          simp only [outcome]
          exact finishes run.database run.pending _ serves.1 kept.current

/-- The fleet after a call is what the heartbeat makes of it. -/
theorem runImportJob_fleet {held : Fleet -> Prop}
    (beats : forall beat, surroundings.heartbeat = some beat -> forall call,
      Preserves held (beat call))
    (holds : held database.fleet) :
    held (finalState (runImportJob library surroundings job database)).fleet := by
  have rule := @runImportJob_keeps library surroundings job database
    fun database _ => held database.fleet
  apply rule
  · intro context opened
    refine ⟨fleetInvariant context held, callHeartbeat_keeps ?_⟩
    intro beat heartbeat call database pending kept
    exact beats beat (opened.heartbeat.symm.trans heartbeat) call database.fleet kept
  · exact fun _ _ => holds
  · exact holds
  · exact fun _ _ _ _ kept => kept

end Call

end MarketData
end MarketIntelligence
