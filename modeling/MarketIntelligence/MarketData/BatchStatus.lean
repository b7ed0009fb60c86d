import MarketIntelligence.MarketData.Exceptions

namespace MarketIntelligence
namespace MarketData

open Foundations
open Loops

/-!
# The status of a batch

The row of a batch is opened before the savepoint of its symbol and closed inside it,
together with the cursor.  Whatever the import of a symbol raises, the rollback gives
back the cursor that stands before the batch, so the batch may be marked as failed.
-/

def batchStatus (jobId : Identifier) (database : Database) (sequence : Nat) :
    Option BatchStatus :=
  (Tables.lookup ImportBatch.identity (jobId, sequence) database.batches).map (·.status)

/-- The batches before the cursor have succeeded and no others, and each batch belongs to
a symbol of the request. -/
structure Sound (request : ImportRequest) (cursor : Nat) (database : Database) : Prop where
  past : forall sequence, sequence < cursor ->
    batchStatus request.id database sequence = some .succeeded
  ahead : forall sequence, batchStatus request.id database sequence = some .succeeded ->
    sequence < cursor
  listed : forall sequence status, batchStatus request.id database sequence = some status ->
    sequence < request.symbols.length

section Statuses

variable {request : ImportRequest} {cursor sequence : Nat} {database after : Database}

theorem Sound.congr (sound : Sound request cursor database)
    (same : batchStatus request.id after = batchStatus request.id database) :
    Sound request cursor after where
  past := same ▸ sound.past
  ahead := same ▸ sound.ahead
  listed := same ▸ sound.listed

/-- The status of one batch is written. -/
theorem Sound.write {status : BatchStatus} (sound : Sound request cursor database)
    (open_ : cursor ≤ sequence) (unsettled : status ≠ .succeeded)
    (known : sequence < request.symbols.length)
    (written : forall other, batchStatus request.id after other =
      if other = sequence then some status else batchStatus request.id database other) :
    Sound request cursor after where
  past := by
    intro other before
    rw [written, if_neg (Nat.ne_of_lt (Nat.lt_of_lt_of_le before open_))]
    exact sound.past other before
  ahead := by
    intro other succeeded
    rw [written] at succeeded
    split at succeeded
    · exact absurd (Option.some.inj succeeded) unsettled
    · exact sound.ahead other succeeded
  listed := by
    intro other seen here
    rw [written] at here
    split at here
    · rename_i same
      exact same ▸ known
    · exact sound.listed other seen here

/-- The batch at the cursor succeeds, and the cursor moves behind it. -/
theorem Sound.advance (sound : Sound request sequence database)
    (known : sequence < request.symbols.length)
    (written : forall other, batchStatus request.id after other =
      if other = sequence then some .succeeded else batchStatus request.id database other) :
    Sound request (sequence + 1) after where
  past := by
    intro other before
    rw [written]
    split
    · rfl
    · rename_i different
      exact sound.past other (Nat.lt_of_le_of_ne (Nat.le_of_lt_succ before) different)
  ahead := by
    intro other succeeded
    rw [written] at succeeded
    split at succeeded
    · rename_i same
      exact same ▸ Nat.lt_succ_self _
    · exact Nat.lt_succ_of_lt (sound.ahead other succeeded)
  listed := by
    intro other seen here
    rw [written] at here
    split at here
    · rename_i same
      exact same ▸ known
    · exact sound.listed other seen here

theorem batchStatus_put {jobId : Identifier} {batch : ImportBatch}
    (own : batch.identity = (jobId, sequence)) (other : Nat) :
    batchStatus jobId { database with
        batches := Tables.put ImportBatch.identity batch database.batches } other =
      if other = sequence then some batch.status else batchStatus jobId database other := by
  unfold batchStatus
  rw [Tables.lookup_put, own]
  by_cases same : other = sequence
  · rw [if_pos same, if_pos (by rw [same])]
    rfl
  · rw [if_neg same, if_neg (by simpa using Ne.symm same)]

end Statuses

section Batches

variable {context : Context} {sequence : Nat} {database : Database}
  {change : ImportBatch -> ImportBatch}

/-- A change of a batch that is there. -/
theorem changeBatch_found {batch : ImportBatch}
    (found : Tables.lookup ImportBatch.identity (context.request.id, sequence) database.batches =
      some batch) :
    changeBatch context sequence change database =
      { database with
        batches := Tables.put ImportBatch.identity (change batch) database.batches } := by
  unfold changeBatch
  rw [found]

theorem changeBatch_missing
    (missing : Tables.lookup ImportBatch.identity (context.request.id, sequence)
      database.batches = none) :
    changeBatch context sequence change database = database := by
  unfold changeBatch
  rw [missing]

/-- A change that keeps the status of the batch is not seen. -/
theorem batchStatus_kept (same : forall batch, (change batch).identity = batch.identity)
    (kept : forall batch, (change batch).status = batch.status) :
    batchStatus context.request.id (changeBatch context sequence change database) =
      batchStatus context.request.id database := by
  funext other
  cases found : Tables.lookup ImportBatch.identity (context.request.id, sequence)
      database.batches with
  | none => rw [changeBatch_missing found]
  | some batch =>
      have own : (change batch).identity = (context.request.id, sequence) :=
        (same batch).trans (Tables.lookup_some found).2
      rw [changeBatch_found found, batchStatus_put own]
      split
      · rename_i here
        rw [here, batchStatus, found, kept]
        rfl
      · rfl

/-- A change that sets the status of a batch. -/
theorem batchStatus_set {status : BatchStatus}
    (same : forall batch, (change batch).identity = batch.identity)
    (sets : forall batch, (change batch).status = status)
    (opened : (batchStatus context.request.id database sequence).isSome) (other : Nat) :
    batchStatus context.request.id (changeBatch context sequence change database) other =
      if other = sequence then some status
      else batchStatus context.request.id database other := by
  cases found : Tables.lookup ImportBatch.identity (context.request.id, sequence)
      database.batches with
  | none =>
      rw [batchStatus, found] at opened
      cases opened
  | some batch =>
      have own : (change batch).identity = (context.request.id, sequence) :=
        (same batch).trans (Tables.lookup_some found).2
      rw [changeBatch_found found, batchStatus_put own, sets]

/-- A batch that is not behind the cursor may fail. -/
theorem Sound.fail {cursor : Nat} {status : BatchStatus}
    (sound : Sound context.request cursor database) (open_ : cursor ≤ sequence)
    (unsettled : status ≠ .succeeded)
    (same : forall batch, (change batch).identity = batch.identity)
    (sets : forall batch, (change batch).status = status) :
    Sound context.request cursor (changeBatch context sequence change database) := by
  cases found : Tables.lookup ImportBatch.identity (context.request.id, sequence)
      database.batches with
  | none => rwa [changeBatch_missing found]
  | some batch =>
      have seen : batchStatus context.request.id database sequence = some batch.status := by
        rw [batchStatus, found]
        rfl
      exact sound.write open_ unsettled (sound.listed _ _ seen)
        (batchStatus_set same sets (seen ▸ rfl))

end Batches

/-! ## One symbol -/

/-- Outside of a savepoint, at the cursor. -/
structure Settled (context : Context) (cursor : Nat) (run : Run) : Prop where
  savepoint : run.savepoint = none
  position : run.job.resumeCursor = cursor
  sound : Sound context.request cursor run.database

/-- A symbol can be rolled back to where the cursor stands before it. -/
structure Nested (context : Context) (sequence : Nat) (run : Run) : Prop where
  batch : run.batch = some sequence
  saved : exists saved, run.savepoint = some saved ∧ saved.job.resumeCursor = sequence ∧
    Sound context.request sequence saved.database

/-- The batch of the symbol is open. -/
structure Filed (context : Context) (sequence : Nat) (run : Run) : Prop
    extends Nested context sequence run where
  opened : (batchStatus context.request.id run.database sequence).isSome
  sound : Sound context.request sequence run.database

section Symbol

variable {context : Context} {sequence : Nat}

/-! ### Steps that no status sees -/

theorem Filed.carry {run next : Run} (filed : Filed context sequence run)
    (batch : next.batch = run.batch) (savepoint : next.savepoint = run.savepoint)
    (same : batchStatus context.request.id next.database =
      batchStatus context.request.id run.database) : Filed context sequence next where
  batch := batch.trans filed.batch
  saved := by
    rw [savepoint]
    exact filed.saved
  opened := by
    rw [same]
    exact filed.opened
  sound := filed.sound.congr same

theorem modifyJob_filed (change : ImportJob -> ImportJob) :
    Preserves (Filed context sequence) (modifyJob change) :=
  Preserves.modify fun _ filed => filed.carry rfl rfl rfl

theorem addError_filed (error : ImportError) :
    Preserves (Filed context sequence) (addError error) :=
  Preserves.modify fun _ filed => filed.carry rfl rfl rfl

theorem modifyBatch_filed {change : ImportBatch -> ImportBatch}
    (same : forall batch, (change batch).identity = batch.identity)
    (kept : forall batch, (change batch).status = batch.status) :
    Preserves (Filed context sequence) (modifyBatch context change) := by
  apply Preserves.modify
  intro run filed
  simp only [filed.batch]
  exact filed.carry filed.batch.symm rfl (batchStatus_kept same kept)

theorem onStore_filed {α : Type} (program : StoreProgram α) :
    Preserves (Filed context sequence) (onStore program) := by
  intro run filed
  unfold onStore
  cases program run.store with
  | ok value store => exact filed.carry rfl rfl rfl
  | error raised store => exact filed.carry rfl rfl rfl

theorem raise_filed {α : Type} (outcome : Except Exception α) :
    Preserves (Filed context sequence) (raise outcome) := by
  intro run filed
  cases outcome with
  | ok value => exact filed
  | error raised => exact filed

theorem noteReport_filed (records : List HistoricalBarRecord) (report : ValidationReport) :
    Preserves (Filed context sequence) (noteReport context records report) :=
  (modifyBatch_filed (by intro _; rfl) (by intro _; rfl)).bind fun _ => modifyJob_filed _

theorem noteOutcome_filed (record : HistoricalBarRecord) (outcome : RecordOutcome) :
    Preserves (Filed context sequence) (noteOutcome context sequence record outcome) := by
  have skipped : Preserves (Filed context sequence) (noteSkipped context) :=
    (modifyBatch_filed (by intro _; rfl) (by intro _; rfl)).bind fun _ => modifyJob_filed _
  cases outcome with
  | conflicting existing => exact (addError_filed _).bind fun _ => skipped
  | skipped => exact skipped
  | inserted =>
      exact (modifyBatch_filed (by intro _; rfl) (by intro _; rfl)).bind fun _ => modifyJob_filed _

theorem importRecord_filed (asset : Asset) (record : HistoricalBarRecord) :
    Preserves (Filed context sequence) (importRecord context sequence asset record) :=
  (onStore_filed _).bind fun outcome => noteOutcome_filed record outcome

/-! ### Opening and closing -/

theorem openBatch_opens (known : sequence < context.request.symbols.length) :
    Meets (Settled context sequence) (openBatch context sequence)
      (fun _ run => run.batch = some sequence ∧ run.job.resumeCursor = sequence ∧
        (batchStatus context.request.id run.database sequence).isSome ∧
        Sound context.request sequence run.database)
      (fun _ => Nested context sequence) := by
  apply Meets.modify
  intro run settled
  let found := Tables.lookup ImportBatch.identity (context.request.id, sequence)
    run.database.batches
  have own : (openedBatch context sequence found).identity = (context.request.id, sequence) := by
    cases here : found with
    | none => rfl
    | some batch => exact (Tables.lookup_some here).2
  have running : (openedBatch context sequence found).status = .running := by
    cases found <;> rfl
  have written : forall other, batchStatus context.request.id
      { run.database with
        batches := Tables.put ImportBatch.identity (openedBatch context sequence found)
          run.database.batches } other =
      if other = sequence then some (openedBatch context sequence found).status
      else batchStatus context.request.id run.database other := batchStatus_put own
  rw [running] at written
  refine ⟨rfl, settled.position, ?_, ?_⟩
  · rw [show batchStatus context.request.id _ sequence = _ from written sequence, if_pos rfl]
    rfl
  · exact settled.sound.write (Nat.le_refl _) (by decide) known written

theorem beginNested_files :
    Meets (fun run => run.batch = some sequence ∧ run.job.resumeCursor = sequence ∧
        (batchStatus context.request.id run.database sequence).isSome ∧
        Sound context.request sequence run.database)
      beginNested (fun _ => Filed context sequence) (fun _ => Nested context sequence) := by
  apply Meets.modify
  intro run opened
  rcases opened with ⟨batch, position, listed, sound⟩
  exact
    { batch := batch
      saved := ⟨_, rfl, position, sound⟩
      opened := listed
      sound := sound }

/-- A step that keeps the batch open, completed or raised. -/
theorem Filed.meets {α : Type} {program : Program α}
    (keeps : Preserves (Filed context sequence) program) :
    Meets (Filed context sequence) program (fun _ => Filed context sequence)
      (fun _ => Nested context sequence) :=
  keeps.meets.weaken (fun _ filed => filed) (fun _ _ filed => filed) fun _ _ filed => filed.toNested

/-- The batch has succeeded, and the savepoint still has it open. -/
structure Closing (context : Context) (sequence : Nat) (run : Run) : Prop
    extends Nested context sequence run where
  position : run.job.resumeCursor = sequence + 1
  sound : Sound context.request (sequence + 1) run.database

theorem closeBatch_settles (known : sequence < context.request.symbols.length) (symbol : String)
    (records : List HistoricalBarRecord) (report : ValidationReport) :
    Meets (Filed context sequence) (closeBatch context sequence symbol records report)
      (fun _ => Settled context (sequence + 1)) (fun _ => Nested context sequence) := by
  have marks : forall change : ImportBatch -> ImportBatch,
      (forall batch, (change batch).identity = batch.identity) ->
      (forall batch, (change batch).status = .succeeded) ->
      Meets (Filed context sequence) (modifyBatch context change)
        (fun _ run => Nested context sequence run ∧
          Sound context.request (sequence + 1) run.database)
        (fun _ => Nested context sequence) := by
    intro change same sets
    apply Meets.modify
    intro run filed
    simp only [filed.batch]
    exact ⟨⟨filed.batch.symm ▸ filed.batch, filed.saved⟩,
      filed.sound.advance known (batchStatus_set same sets filed.opened)⟩
  apply (marks _ (by intro _; rfl) (by intro _; rfl)).bind
  intro _
  have moves : Meets
      (fun run => Nested context sequence run ∧ Sound context.request (sequence + 1) run.database)
      (modifyJob fun job => { job with resumeCursor := sequence + 1 })
      (fun _ => Closing context sequence) (fun _ => Nested context sequence) := by
    apply Meets.modify
    intro run marked
    exact { batch := marked.1.batch, saved := marked.1.saved, position := rfl, sound := marked.2 }
  apply moves.bind
  intro _
  have flushes : Meets (Closing context sequence) (onStore flush)
      (fun _ => Closing context sequence) (fun _ => Nested context sequence) := by
    intro run closing
    unfold onStore
    cases flush run.store with
    | ok value store =>
        exact { batch := closing.batch, saved := closing.saved, position := closing.position,
                sound := closing.sound.congr rfl }
    | error raised store => exact ⟨closing.batch, closing.saved⟩
  apply flushes.bind
  intro _
  have commits : Meets (Closing context sequence) commitNested
      (fun _ => Settled context (sequence + 1)) (fun _ => Nested context sequence) := by
    apply Meets.modify
    intro run closing
    exact ⟨rfl, closing.position, closing.sound⟩
  apply commits.bind
  intro _
  have observes : Meets (Settled context (sequence + 1)) (noteObserved records)
      (fun _ => Settled context (sequence + 1)) (fun _ => Nested context sequence) := by
    apply Meets.modify
    intro run settled
    exact ⟨settled.savepoint, settled.position, settled.sound⟩
  apply observes.bind
  intro _
  apply Meets.modify
  intro run settled
  exact ⟨settled.savepoint, settled.position, settled.sound⟩

end Symbol

/-! ## After a rollback -/

/-- Outside of a savepoint, and the batch the run refers to is not behind the cursor. -/
structure Unfinished (context : Context) (run : Run) : Prop where
  savepoint : run.savepoint = none
  sound : Sound context.request run.job.resumeCursor run.database
  open_ : forall sequence, run.batch = some sequence -> run.job.resumeCursor ≤ sequence

section Rollback

variable {context : Context}

theorem rollbackNested_unfinished {sequence : Nat} {run : Run}
    (nested : Nested context sequence run) :
    Unfinished context (finalState (rollbackNested run)) := by
  rcases nested.saved with ⟨saved, kept, position, sound⟩
  have rolledBack : finalState (rollbackNested run) =
      { run with
        database := saved.database, pending := .empty, job := saved.job, savepoint := none } := by
    simp only [rollbackNested, finalState_modify, kept]
  rw [rolledBack]
  exact
    { savepoint := rfl
      sound := position.symm ▸ sound
      open_ := by
        intro other here
        have same : other = sequence := Option.some.inj (here.symm.trans nested.batch)
        exact Nat.le_of_eq (position.trans same.symm) }

theorem rollbackNested_idle {run : Run} (unfinished : Unfinished context run) :
    Unfinished context (finalState (rollbackNested run)) := by
  have same : finalState (rollbackNested run) = run := by
    simp only [rollbackNested, finalState_modify, unfinished.savepoint]
  exact same.symm ▸ unfinished

theorem modifyJob_unfinished {change : ImportJob -> ImportJob}
    (same : forall job, (change job).resumeCursor = job.resumeCursor) :
    Preserves (Unfinished context) (modifyJob change) := by
  apply Preserves.modify
  intro run unfinished
  exact
    { savepoint := unfinished.savepoint
      sound := (same run.job).symm ▸ unfinished.sound
      open_ := fun sequence here => (same run.job).symm ▸ unfinished.open_ sequence here }

theorem modifyDatabase_unfinished {change : Database -> Database}
    (same : forall database, (change database).batches = database.batches) :
    Preserves (Unfinished context) (modifyDatabase change) := by
  apply Preserves.modify
  intro run unfinished
  have statuses : batchStatus context.request.id (change run.database) =
      batchStatus context.request.id run.database := by
    funext sequence
    rw [batchStatus, same]
    rfl
  exact ⟨unfinished.savepoint, unfinished.sound.congr statuses, unfinished.open_⟩

/-- The report of a batch may be written, and its status, as long as it does not
succeed. -/
theorem modifyBatch_unfinished {change : ImportBatch -> ImportBatch}
    (same : forall batch, (change batch).identity = batch.identity)
    (writes : (forall batch, (change batch).status = batch.status) ∨
      exists status, status ≠ .succeeded ∧ forall batch, (change batch).status = status) :
    Preserves (Unfinished context) (modifyBatch context change) := by
  apply Preserves.modify
  intro run unfinished
  cases batch : run.batch with
  | none => exact unfinished
  | some sequence =>
      refine ⟨unfinished.savepoint, ?_, fun other here => unfinished.open_ other ?_⟩
      · rcases writes with kept | ⟨status, unsettled, sets⟩
        · exact unfinished.sound.congr (batchStatus_kept same kept)
        · exact unfinished.sound.fail (unfinished.open_ sequence batch) unsettled same sets
      · exact batch.trans here

theorem appendReport_unfinished (symbol : String) (report : ValidationReport) :
    Preserves (Unfinished context) (appendReport symbol report) :=
  Preserves.modify fun _ unfinished =>
    ⟨unfinished.savepoint, unfinished.sound, unfinished.open_⟩

/-- A rollback to the savepoint, or to where the run stands without one. -/
def Recoverable (context : Context) (run : Run) : Prop :=
  (exists sequence, Nested context sequence run) ∨ Unfinished context run

/-- A rollback and what follows it, when that keeps the cursor. -/
theorem rollback_bind {rest : Program PUnit} (keeps : Preserves (Unfinished context) rest) :
    Meets (Recoverable context) (rollbackNested >>= fun _ => rest)
      (fun _ => Unfinished context) (fun _ => Unfinished context) := by
  have rolls : Meets (Recoverable context) rollbackNested (fun _ => Unfinished context)
      (fun _ => Unfinished context) := by
    intro run recoverable
    rcases recoverable with ⟨sequence, nested⟩ | unfinished
    · exact rollbackNested_unfinished nested
    · exact rollbackNested_idle unfinished
  exact rolls.bind fun _ => keeps.meets

theorem addError_unfinished (error : ImportError) :
    Preserves (Unfinished context) (addError error) :=
  modifyDatabase_unfinished (by intro _; rfl)

theorem setHealth_unfinished (health : Health) :
    Preserves (Unfinished context) (setHealth context health) :=
  modifyDatabase_unfinished (by intro _; rfl)

theorem raise_unfinished {α : Type} (outcome : Except Exception α) :
    Preserves (Unfinished context) (raise outcome) := by
  intro run unfinished
  cases outcome with
  | ok value => exact unfinished
  | error raised => exact unfinished

theorem rejectBatch_unfinished (sequence : Nat) (symbol : String)
    (records : List HistoricalBarRecord) (report : ValidationReport) :
    Meets (Recoverable context) (rejectBatch context sequence symbol records report)
      (fun _ => Unfinished context) (fun _ => Unfinished context) := by
  apply rollback_bind
  have reports : Preserves (Unfinished context) (noteReport context records report) :=
    (modifyBatch_unfinished (by intro _; rfl) (Or.inl (by intro _; rfl))).bind fun _ =>
      modifyJob_unfinished (by intro _; rfl)
  apply reports.bind
  intro _
  apply (setHealth_unfinished .degraded).bind
  intro _
  apply (Preserves.forM fun issue _ => addError_unfinished _).bind
  intro _
  apply Preserves.bind
  · exact modifyBatch_unfinished (by intro _; rfl)
      (Or.inr ⟨.failedValidation, by decide, by intro _; rfl⟩)
  · intro _
    apply (appendReport_unfinished symbol report).bind
    intro _
    exact modifyJob_unfinished (by intro _; rfl)

/-- The import of a symbol closes its batch and moves the cursor, or it leaves both open
and can be rolled back. -/
theorem importSymbol_settles {sequence : Nat} (known : sequence < context.request.symbols.length)
    (symbol : String) :
    Meets (Settled context sequence) (importSymbol context sequence symbol)
      (fun complete run => if complete then Settled context (sequence + 1) run
        else Unfinished context run)
      (fun _ => Recoverable context) := by
  have recovers : forall run, Nested context sequence run -> Recoverable context run :=
    fun _ nested => Or.inl ⟨sequence, nested⟩
  have keeps : forall {α : Type} {program : Program α},
      Preserves (Filed context sequence) program ->
      Meets (Filed context sequence) program (fun _ => Filed context sequence)
        (fun _ => Recoverable context) := by
    intro α program preserves
    exact (Filed.meets preserves).weaken (fun _ filed => filed) (fun _ _ filed => filed)
      fun _ _ nested => recovers _ nested
  apply ((openBatch_opens known).weaken (fun _ settled => settled) (fun _ _ opened => opened)
    fun _ _ nested => recovers _ nested).bind
  intro _
  apply (beginNested_files.weaken (fun _ opened => opened) (fun _ _ filed => filed)
    fun _ _ nested => recovers _ nested).bind
  intro _
  apply (keeps (onStore_filed _)).bind
  intro asset
  apply (keeps (onStore_filed _)).bind
  intro start
  apply (keeps (raise_filed _)).bind
  intro answer
  apply (keeps (noteReport_filed answer.records answer.report)).bind
  intro _
  split
  · apply (keeps (Preserves.forM fun record _ => importRecord_filed asset record)).bind
    intro _
    apply (keeps (onStore_filed _)).bind
    intro _
    apply (keeps (onStore_filed _)).bind
    intro _
    apply ((closeBatch_settles known symbol answer.records answer.report).weaken
      (fun _ filed => filed) (fun _ _ settled => settled) fun _ _ nested => recovers _ nested).bind
    intro _
    exact Meets.pure fun _ settled => settled
  · apply ((rejectBatch_unfinished sequence symbol answer.records answer.report).weaken
      (fun _ filed => recovers _ filed.toNested) (fun _ _ unfinished => unfinished)
      fun _ _ unfinished => Or.inr unfinished).bind
    intro _
    exact Meets.pure fun _ unfinished => unfinished

/-! ## The end of a run -/

theorem abandonBatch_unfinished (health : Health) :
    Meets (Recoverable context) (abandonBatch context health) (fun _ => Unfinished context)
      (fun _ => Unfinished context) := by
  apply rollback_bind
  apply (setHealth_unfinished health).bind
  intro _
  apply Preserves.bind
  · exact modifyBatch_unfinished (by intro _; rfl)
      (Or.inr ⟨.failed, by decide, by intro _; rfl⟩)
  · exact fun _ => modifyJob_unfinished (by intro _; rfl)

theorem recordTemporary_unfinished (failure : ProviderFailure)
    (rateLimit : Option (Option Int)) :
    Meets (Recoverable context) (recordTemporary context failure rateLimit)
      (fun _ => Unfinished context) (fun _ => Unfinished context) := by
  apply (abandonBatch_unfinished _).bind
  intro _
  apply Preserves.meets
  apply Preserves.get_bind
  intro run
  apply (raise_unfinished _).bind
  intro base
  have limits : Preserves (Unfinished context)
      (noteRateLimit context (delayAfter base rateLimit) rateLimit) := by
    cases rateLimit with
    | none => exact fun _ unfinished => unfinished
    | some retryAfter => exact modifyDatabase_unfinished (by intro _; rfl)
  apply limits.bind
  intro _
  apply (addError_unfinished _).bind
  intro _
  apply modifyJob_unfinished
  intro job
  split <;> rfl

theorem recordPermanent_unfinished (health : Health) (errorCode message : String)
    (classified : Bool) :
    Meets (Recoverable context) (recordPermanent context health errorCode message classified)
      (fun _ => Unfinished context) (fun _ => Unfinished context) := by
  apply (abandonBatch_unfinished health).bind
  intro _
  apply Preserves.meets
  apply Preserves.get_bind
  intro run
  apply (addError_unfinished _).bind
  intro _
  exact modifyJob_unfinished (by intro _; rfl)

/-- The handlers leave the batches as the cursor says. -/
theorem recordFailure_unfinished (raised : Exception) :
    Meets (Recoverable context) (recordFailure context raised) (fun _ => Unfinished context)
      (fun _ => Recoverable context) := by
  have handled : forall {handler : Program PUnit},
      Meets (Recoverable context) handler (fun _ => Unfinished context)
        (fun _ => Unfinished context) ->
      Meets (Recoverable context) handler (fun _ => Unfinished context)
        (fun _ => Recoverable context) :=
    fun meets => meets.weaken (fun _ recoverable => recoverable) (fun _ _ holds => holds)
      fun _ _ unfinished => Or.inr unfinished
  cases raised with
  | temporary failure => exact handled (recordTemporary_unfinished failure none)
  | rateLimit failure retryAfter =>
      exact handled (recordTemporary_unfinished failure (some retryAfter))
  | provider failure => exact handled (recordPermanent_unfinished _ _ _ _)
  | valueError message => exact handled (recordPermanent_unfinished _ _ _ _)
  | integrityError message => exact handled (recordPermanent_unfinished _ _ _ _)
  | escaping name => exact fun _ recoverable => recoverable

/-- What the loop has established, its conclusion keeps. -/
theorem concludeLoop_sound :
    Preserves (fun run => Sound context.request run.job.resumeCursor run.database)
      (concludeLoop context) := by
  have job : forall change : ImportJob -> ImportJob,
      (forall job, (change job).resumeCursor = job.resumeCursor) ->
      Preserves (fun run => Sound context.request run.job.resumeCursor run.database)
        (modifyJob change) :=
    fun change same => Preserves.modify fun run sound => (same run.job).symm ▸ sound
  apply Preserves.get_bind
  intro run
  apply Preserves.bind
  · unfold succeedRunning
    split
    · apply (job _ (by intro _; rfl)).bind
      intro _
      split
      · apply Preserves.bind
        · exact Preserves.modify fun _ sound => sound.congr rfl
        · exact fun _ => Preserves.modify fun _ sound => sound.congr rfl
      · exact fun _ sound => sound
    · exact fun _ sound => sound
  · intro _
    apply job
    intro other
    split <;> rfl

end Rollback

end MarketData
end MarketIntelligence
