import MarketIntelligence.MarketData.Batches
import MarketIntelligence.MarketData.QueueRule

namespace MarketIntelligence
namespace MarketData

open Foundations
open Loops
open Projections
open Transactions

/-!
# The counters of a job

The counters of a job are written record by record, inside the savepoint of a symbol, and
the rows they count are in another table.  A rollback gives back both.  The records of a
batch that fails validation are counted again behind the rollback.

A symbol is followed with the number of its records that have been noted but neither
inserted nor skipped.  It is zero at the beginning and at the end of a symbol.
-/

/-! ## The books of a job -/

/-- The records of the batches that have failed validation. -/
def rejectedRecords (reports : List (String × ValidationReport)) : Nat :=
  ((reports.filter fun entry => !entry.2.isValid).map fun entry => entry.2.recordsChecked).sum

/-- The stored bars that carry the identifier of the job. -/
def storedBars (jobId : Identifier) (bars : List PriceBar) : Nat :=
  bars.countP fun bar => bar.importJob = some jobId

/-- The counters are exact: as many records inserted as there are stored bars of the job, and as
many processed as were inserted, skipped and rejected. -/
structure ImportJob.Exact (job : ImportJob) (rows : Canonical) : Prop where
  inserted : job.recordsInserted = storedBars job.id rows.bars
  processed : job.recordsProcessed =
    job.recordsInserted + job.recordsSkipped + rejectedRecords job.validationReport

/-- The counters of a job, the records rejected and the bars there are. -/
structure Books where
  processed : Nat
  inserted : Nat
  skipped : Nat
  rejected : Nat
  bars : List PriceBar

def ImportJob.books (reports : List (String × ValidationReport)) (bars : List PriceBar)
    (job : ImportJob) : Books :=
  ⟨job.recordsProcessed, job.recordsInserted, job.recordsSkipped, rejectedRecords reports, bars⟩

/-- What the import of a symbol does to the books, with the number of records that are
noted and not yet settled. -/
structure BookRule (request : ImportRequest) (held : Nat -> Books -> Prop) : Prop where
  notes : forall unsettled books count, held unsettled books ->
    held (unsettled + count) { books with processed := books.processed + count }
  inserts : forall unsettled books bar, bar.importJob = some request.id ->
    held (unsettled + 1) books ->
      held unsettled { books with inserted := books.inserted + 1, bars := books.bars ++ [bar] }
  skips : forall unsettled books, held (unsettled + 1) books ->
    held unsettled { books with skipped := books.skipped + 1 }
  rejects : forall unsettled books count, held (unsettled + count) books ->
    held unsettled { books with rejected := books.rejected + count }

@[simp]
theorem rejectedRecords_append (reports added : List (String × ValidationReport)) :
    rejectedRecords (reports ++ added) = rejectedRecords reports + rejectedRecords added := by
  simp [rejectedRecords]

theorem rejectedRecords_valid {symbol : String} {report : ValidationReport}
    (valid : report.isValid = true) : rejectedRecords [(symbol, report)] = 0 := by
  simp [rejectedRecords, valid]

theorem rejectedRecords_invalid {symbol : String} {report : ValidationReport}
    (invalid : report.isValid = false) :
    rejectedRecords [(symbol, report)] = report.recordsChecked := by
  simp [rejectedRecords, invalid]

/-- A report counts the records it is about. -/
theorem validateHistoricalBars_counts (library : Library) (records : List HistoricalBarRecord)
    (validSessionDates : Option (List Int)) (staleAfter : Int) (now : Instant) :
    (validateHistoricalBars library records validSessionDates staleAfter now).recordsChecked =
      records.length := by
  have counts : forall progress, (records.foldl
      (checkRecord library validSessionDates staleAfter now) progress).1.recordsChecked =
        progress.1.recordsChecked + records.length := by
    induction records with
    | nil => exact fun _ => rfl
    | cons head tail ih =>
        intro progress
        rw [List.foldl_cons, ih, List.length_cons]
        simp only [checkRecord]
        omega
  exact (counts _).trans (Nat.zero_add _)

theorem validatedRecords_counts {context : Context} {sequence : Nat} {symbol : String}
    {start : Instant} {answer : Answer}
    (answered : validatedRecords context sequence symbol start = .ok answer) :
    answer.report.recordsChecked = answer.records.length := by
  rcases except_bind_ok answered with ⟨records, _, rest⟩
  cases rest
  exact validateHistoricalBars_counts _ _ _ _ _

/-! ## Bars that a program does not add -/

section Bars

variable {bars : List PriceBar}

def Store.allBars (store : Store) : List PriceBar :=
  store.stored.bars ++ store.pending.bars

/-- The bars that are flushed or to be flushed stay, where a dry run would be the same. -/
theorem barsKept {request : ImportRequest} (dry : request.dryRun = true)
    (bars : List PriceBar) : StoreInvariant request fun store => store.allBars = bars where
  adds := by
    intro store rows addable same
    simp only [Store.allBars, Canonical.append, addable.bars dry, List.append_nil]
    exact same
  flushes := by
    intro store _ same
    simpa only [Store.allBars, Canonical.append, Canonical.empty, List.append_nil] using same
  publishes := by
    intro real
    rw [dry] at real
    cases real

def ImportRequest.dry (request : ImportRequest) : ImportRequest :=
  { request with dryRun := true }

theorem assetOf_bars (library : Library) (adapter : Adapter) (provider symbol : String) :
    Preserves (fun store : Store => store.allBars = bars)
      (assetOf library adapter provider symbol) :=
  assetOf_preserves (barsKept (show dailyRequest.dry.dryRun = true from rfl) bars) _ _ _ _

theorem persistActions_bars (library : Library) (request : ImportRequest) (provider : String)
    (adapter : Adapter) (asset : Asset) (symbol : String) :
    Preserves (fun store : Store => store.allBars = bars)
      (persistActions library request provider adapter asset symbol) := by
  refine Preserves.bind (raise_preserves _) ?_
  intro records
  exact Preserves.forM fun record _ =>
    persistAction_preserves (barsKept (show request.dry.dryRun = true from rfl) bars) _ _ _ record

theorem flush_bars : Preserves (fun store : Store => store.allBars = bars) flush :=
  flush_preserves (barsKept (show dailyRequest.dry.dryRun = true from rfl) bars)

theorem publishCapability_bars (request : ImportRequest) (provider : String) (asset : Asset) :
    Preserves (fun store : Store => store.allBars = bars)
      (publishCapability request provider asset) := by
  unfold publishCapability
  split
  · exact pure_preserves _
  · apply flush_bars.bind
    intro _
    apply Preserves.modify
    intro store same
    dsimp only
    split
    · exact same
    · exact same

/-- A record is skipped, or its bar is added and carries the identifier of the request. -/
theorem storeRecord_bars (library : Library) (request : ImportRequest) (provider source : String)
    (asset : Asset) (record : HistoricalBarRecord) (store : Store) :
    exists outcome after,
      storeRecord library request provider source asset record store = .ok outcome after ∧
      ((outcome = .inserted ∧ exists bar : PriceBar, bar.importJob = some request.id ∧
          after.allBars = store.allBars ++ [bar]) ∨
        (outcome ≠ .inserted ∧ after.allBars = store.allBars)) := by
  unfold storeRecord
  rw [bind_get]
  cases known : Tables.lookup PriceBar.identity
      (newBar library request provider source asset record).identity store.stored.bars with
  | some duplicate =>
      simp only [storeBar]
      split
      · exact ⟨_, store, rfl, Or.inr ⟨by simp, rfl⟩⟩
      · exact ⟨_, store, rfl, Or.inr ⟨by simp, rfl⟩⟩
  | none =>
      simp only [storeBar]
      split
      · exact ⟨_, store, rfl, Or.inr ⟨by simp, rfl⟩⟩
      · refine ⟨.inserted, _, rfl, Or.inl ⟨rfl,
          newBar library request provider source asset record, rfl, ?_⟩⟩
        exact (List.append_assoc _ _ _).symm

end Bars

/-! ## One symbol -/

/-- The books of a run, the bars to be flushed and the books of its savepoint. -/
structure Journal where
  books : Books
  pending : List PriceBar
  saved : Option Books

def Run.journal (run : Run) : Journal where
  books := run.job.books run.reports run.store.allBars
  pending := run.pending.bars
  saved := run.savepoint.map fun saved => saved.job.books run.reports saved.database.rows.bars

section Symbol

variable {context : Context} {held : Nat -> Books -> Prop}

/-- Outside of a savepoint. -/
structure Journal.Outside (held : Nat -> Books -> Prop) (unsettled : Nat) (journal : Journal) :
    Prop where
  saved : journal.saved = none
  pending : journal.pending = []
  current : held unsettled journal.books

/-- Inside a savepoint, which a rollback would find settled. -/
structure Journal.Inside (held : Nat -> Books -> Prop) (unsettled : Nat) (journal : Journal) :
    Prop where
  saved : exists books, journal.saved = some books ∧ held 0 books
  current : held unsettled journal.books

abbrev Run.Outside (held : Nat -> Books -> Prop) (unsettled : Nat) (run : Run) : Prop :=
  run.journal.Outside held unsettled

abbrev Run.Inside (held : Nat -> Books -> Prop) (unsettled : Nat) (run : Run) : Prop :=
  run.journal.Inside held unsettled

/-- After a rollback the books are in order again, with no record of the failed batch counted. -/
def Run.Restorable (held : Nat -> Books -> Prop) (run : Run) : Prop :=
  (finalState (rollbackNested run)).Outside held 0

theorem Run.Outside.restorable {run : Run} (outside : run.Outside held 0) :
    run.Restorable held := by
  have unsaved : run.savepoint = none := Option.map_eq_none_iff.mp outside.saved
  simpa only [Run.Restorable, rollbackNested, finalState_modify, unsaved] using outside

theorem Run.Inside.restorable {run : Run} {unsettled : Nat} (inside : run.Inside held unsettled) :
    run.Restorable held := by
  rcases inside.saved with ⟨books, kept, settled⟩
  rcases Option.map_eq_some_iff.mp kept with ⟨saved, here, same⟩
  simp only [Run.Restorable, rollbackNested, finalState_modify, here]
  refine ⟨rfl, rfl, ?_⟩
  rw [← same] at settled
  simpa only [Run.journal, Run.store, Store.allBars, Canonical.empty, List.append_nil] using settled

/-! ### Steps that the books do not see -/

theorem modifyBatch_unbooked (change : ImportBatch -> ImportBatch) :
    Silent Run.journal (modifyBatch context change) := by
  apply Silent.modify
  intro run
  cases run.batch with
  | none => rfl
  | some sequence => simp only [Run.journal, Run.store, changeBatch_rows]

theorem modifyDatabase_unbooked {change : Database -> Database}
    (rows : forall database, (change database).rows = database.rows) :
    Silent Run.journal (modifyDatabase change) := by
  apply Silent.modify
  intro run
  simp only [Run.journal, Run.store, rows]

theorem modifyJob_unbooked {change : ImportJob -> ImportJob}
    (same : forall job reports bars, (change job).books reports bars = job.books reports bars) :
    Silent Run.journal (modifyJob change) := by
  apply Silent.modify
  intro run
  simp only [Run.journal, Run.store, same]

theorem addError_unbooked (error : ImportError) : Silent Run.journal (addError error) :=
  modifyDatabase_unbooked fun _ => rfl

theorem setHealth_unbooked (health : Health) : Silent Run.journal (setHealth context health) :=
  modifyDatabase_unbooked fun _ => rfl

theorem outside_of_silent {program : Program PUnit} {unsettled : Nat}
    (silent : Silent Run.journal program) :
    Meets (Run.Outside held unsettled) program (fun _ => Run.Outside held unsettled)
      (fun _ => Run.Restorable held) :=
  silent.meets

theorem inside_of_silent {program : Program PUnit} {unsettled : Nat}
    (silent : Silent Run.journal program) :
    Meets (Run.Inside held unsettled) program (fun _ => Run.Inside held unsettled)
      (fun _ => Run.Restorable held) :=
  silent.meets

/-- A program on the rows that adds no bar. -/
theorem onStore_inside {α : Type} {program : StoreProgram α} {unsettled : Nat}
    (keeps : forall bars, Preserves (fun store : Store => store.allBars = bars) program) :
    Preserves (Run.Inside held unsettled) (onStore program) := by
  intro run inside
  have kept := keeps run.store.allBars run.store rfl
  have same : forall store : Store, store.allBars = run.store.allBars ->
      (run.withStore store).Inside held unsettled := by
    intro store equal
    refine ⟨inside.saved, ?_⟩
    have books : (run.withStore store).journal.books = run.journal.books :=
      congrArg (run.job.books run.reports) equal
    rw [books]
    exact inside.current
  unfold onStore
  cases ended : program run.store with
  | ok value store =>
      rw [ended] at kept
      exact same store kept
  | error raised store =>
      rw [ended] at kept
      exact same store kept

/-- A step that stays inside the savepoint. -/
theorem Run.Inside.meets {α : Type} {program : Program α} {unsettled : Nat}
    (keeps : Preserves (Run.Inside held unsettled) program) :
    Meets (Run.Inside held unsettled) program (fun _ => Run.Inside held unsettled)
      (fun _ => Run.Restorable held) :=
  keeps.meets.weaken (fun _ inside => inside) (fun _ _ inside => inside)
    fun _ _ inside => inside.restorable

/-! ### Steps that are booked -/

def Journal.book (change : Books -> Books) (journal : Journal) : Journal :=
  { journal with books := change journal.books }

def Books.note (count : Nat) (books : Books) : Books :=
  { books with processed := books.processed + count }

/-- What became of a record, without its bar. -/
def Books.settle (outcome : RecordOutcome) (books : Books) : Books :=
  match outcome with
  | .inserted => { books with inserted := books.inserted + 1 }
  | .skipped | .conflicting _ => { books with skipped := books.skipped + 1 }

theorem noteReport_books (records : List HistoricalBarRecord) (report : ValidationReport) :
    Projects Run.journal (noteReport context records report)
      (modify (Journal.book (Books.note records.length))) := by
  apply Projects.silent_bind (modifyBatch_unbooked _)
  exact Projects.modify fun _ => rfl

theorem noteOutcome_books (sequence : Nat) (record : HistoricalBarRecord)
    (outcome : RecordOutcome) :
    Projects Run.journal (noteOutcome context sequence record outcome)
      (modify (Journal.book (Books.settle outcome))) := by
  have skips : Projects Run.journal (noteSkipped context)
      (modify (Journal.book (Books.settle .skipped))) := by
    apply Projects.silent_bind (modifyBatch_unbooked _)
    exact Projects.modify fun _ => rfl
  cases outcome with
  | conflicting existing => exact Projects.silent_bind (addError_unbooked _) skips
  | skipped => exact skips
  | inserted =>
      apply Projects.silent_bind (modifyBatch_unbooked _)
      exact Projects.modify fun _ => rfl

/-- The report of a valid batch is not booked. -/
theorem appendReport_valid (symbol : String) {report : ValidationReport}
    (valid : report.isValid = true) : Silent Run.journal (appendReport symbol report) := by
  have none_ : forall reports : List (String × ValidationReport),
      rejectedRecords (reports ++ [(symbol, report)]) = rejectedRecords reports := by
    intro reports
    rw [rejectedRecords_append, rejectedRecords_valid valid, Nat.add_zero]
  apply Silent.modify
  intro run
  simp only [Run.journal, Run.store, ImportJob.books, none_]

section Rules

variable (rule : BookRule context.request held)

include rule

/-! ### Records -/

theorem importRecord_settles (sequence : Nat) (asset : Asset) (record : HistoricalBarRecord)
    (unsettled : Nat) :
    Meets (Run.Inside held (unsettled + 1)) (importRecord context sequence asset record)
      (fun _ => Run.Inside held unsettled) (fun _ => Run.Restorable held) := by
  intro run inside
  rcases storeRecord_bars context.library context.request context.provider context.source asset
    record run.store with ⟨outcome, after, stored, bars⟩
  have done : onStore (storeRecord context.library context.request context.provider
      context.source asset record) run = .ok outcome (run.withStore after) := by
    simp only [onStore, stored]
  rcases (noteOutcome_books sequence record outcome).completes (run.withStore after) with
    ⟨final, noted, same⟩
  unfold importRecord
  rw [bind_apply, done]
  simp only
  rw [noted]
  have saved : (run.withStore after).journal.saved = run.journal.saved := rfl
  have books : (run.withStore after).journal.books =
      { run.journal.books with bars := after.allBars } := rfl
  have settled : held unsettled (Books.settle outcome (run.withStore after).journal.books) := by
    rw [books]
    rcases bars with ⟨inserted, bar, own, grown⟩ | ⟨skipped, kept⟩
    · rw [inserted, grown]
      exact rule.inserts unsettled _ bar own inside.current
    · rw [kept]
      cases outcome with
      | inserted => exact absurd rfl skipped
      | skipped => exact rule.skips unsettled _ inside.current
      | conflicting existing => exact rule.skips unsettled _ inside.current
  refine ⟨?_, ?_⟩
  · rw [same]
    exact saved ▸ inside.saved
  · rw [same]
    exact settled

/-- The loop over the records of a batch, by the number of those that are left. -/
theorem importRecords_settle (sequence : Nat) (asset : Asset)
    (records : List HistoricalBarRecord) :
    Meets (Run.Inside held records.length)
      (records.forM (importRecord context sequence asset)) (fun _ => Run.Inside held 0)
      (fun _ => Run.Restorable held) :=
  Meets.forM (motive := fun rest => Run.Inside held rest.length)
    (fun head tail => importRecord_settles rule sequence asset head tail.length) records

/-! ### The end of a batch -/

omit rule in
theorem closeBatch_settled (sequence : Nat) (symbol : String)
    (records : List HistoricalBarRecord) {report : ValidationReport}
    (valid : report.isValid = true) :
    Meets (Run.Inside held 0) (closeBatch context sequence symbol records report)
      (fun _ => Run.Outside held 0) (fun _ => Run.Restorable held) := by
  apply (inside_of_silent (modifyBatch_unbooked _)).bind
  intro _
  apply (inside_of_silent (modifyJob_unbooked (by intro _ _ _; rfl))).bind
  intro _
  have flushes : Meets (Run.Inside held 0) (onStore flush)
      (fun _ run => run.Inside held 0 ∧ run.pending.bars = [])
      (fun _ => Run.Restorable held) := by
    intro run inside
    have kept := onStore_inside (fun _ => flush_bars) run inside
    unfold onStore at kept ⊢
    by_cases consistent : (run.store.stored.append run.store.pending).Consistent
    · simp only [flush, if_pos consistent] at kept ⊢
      exact ⟨kept, rfl⟩
    · simp only [flush, if_neg consistent] at kept ⊢
      exact Run.Inside.restorable kept
  apply flushes.bind
  intro _
  have commits : Meets (fun run => Run.Inside held 0 run ∧ run.pending.bars = []) commitNested
      (fun _ => Run.Outside held 0) (fun _ => Run.Restorable held) := by
    apply Meets.modify
    intro run flushed
    exact ⟨rfl, flushed.2, flushed.1.current⟩
  apply commits.bind
  intro _
  have observes : Silent Run.journal (noteObserved records) := Silent.modify fun _ => rfl
  apply (outside_of_silent observes).bind
  intro _
  exact outside_of_silent (appendReport_valid symbol valid)

/-- A batch that fails validation is booked behind the rollback. -/
theorem rejectBatch_settled (sequence : Nat) (symbol : String)
    (records : List HistoricalBarRecord) {report : ValidationReport}
    (invalid : report.isValid = false) (counts : report.recordsChecked = records.length) :
    Meets (Run.Restorable held) (rejectBatch context sequence symbol records report)
      (fun _ => Run.Outside held 0) (fun _ => Run.Restorable held) := by
  have rollsBack : Meets (Run.Restorable held) rollbackNested (fun _ => Run.Outside held 0)
      (fun _ => Run.Restorable held) :=
    fun _ restorable => restorable
  apply rollsBack.bind
  intro _
  have notes : Meets (Run.Outside held 0) (noteReport context records report)
      (fun _ => Run.Outside held records.length) (fun _ => Run.Restorable held) := by
    apply (noteReport_books records report).meets
    intro journal outside
    have noted := rule.notes 0 journal.books records.length outside.current
    rw [Nat.zero_add] at noted
    exact ⟨outside.saved, outside.pending, noted⟩
  apply notes.bind
  intro _
  apply (outside_of_silent (setHealth_unbooked .degraded)).bind
  intro _
  apply (outside_of_silent (Silent.forM fun issue => addError_unbooked _)).bind
  intro _
  apply (outside_of_silent (modifyBatch_unbooked _)).bind
  intro _
  have books : Meets (Run.Outside held records.length) (appendReport symbol report)
      (fun _ => Run.Outside held 0) (fun _ => Run.Restorable held) := by
    apply Meets.modify
    intro run outside
    have rejected := rule.rejects 0 run.journal.books records.length
      (by rw [Nat.zero_add]; exact outside.current)
    have unsaved : run.savepoint = none := Option.map_eq_none_iff.mp outside.saved
    refine ⟨?_, outside.pending, ?_⟩
    · exact Option.map_eq_none_iff.mpr unsaved
    · have booked : rejectedRecords [(symbol, report)] = report.recordsChecked :=
        rejectedRecords_invalid invalid
      rw [← counts, ← booked] at rejected
      simpa only [Run.journal, Run.store, ImportJob.books, rejectedRecords_append] using rejected
  apply books.bind
  intro _
  exact outside_of_silent (modifyJob_unbooked (by intro _ _ _; rfl))

theorem importSymbol_settled (sequence : Nat) (symbol : String) :
    Meets (Run.Outside held 0) (importSymbol context sequence symbol)
      (fun _ => Run.Outside held 0) (fun _ => Run.Restorable held) := by
  have opens : Silent Run.journal (openBatch context sequence) := Silent.modify fun _ => rfl
  apply (outside_of_silent opens).bind
  intro _
  have begins : Meets (Run.Outside held 0) beginNested (fun _ => Run.Inside held 0)
      (fun _ => Run.Restorable held) := by
    apply Meets.modify
    intro run outside
    refine ⟨⟨_, rfl, ?_⟩, outside.current⟩
    have flushed : run.pending.bars = [] := outside.pending
    have current := outside.current
    simpa only [Run.journal, Run.store, Store.allBars, flushed, List.append_nil] using current
  apply begins.bind
  intro _
  apply (Run.Inside.meets (onStore_inside fun _ => assetOf_bars _ _ _ symbol)).bind
  intro asset
  apply (Run.Inside.meets (onStore_inside fun _ => fetchStart_preserves _ _ asset)).bind
  intro start
  have answers : Meets (Run.Inside held 0)
      (raise (validatedRecords context sequence symbol start))
      (fun answer run => run.Inside held 0 ∧
        answer.report.recordsChecked = answer.records.length)
      (fun _ => Run.Restorable held) := by
    intro run inside
    cases answered : validatedRecords context sequence symbol start with
    | ok answer => exact ⟨inside, validatedRecords_counts answered⟩
    | error raised => exact inside.restorable
  apply answers.bind
  intro answer
  have notes : Meets
      (fun run => Run.Inside held 0 run ∧ answer.report.recordsChecked = answer.records.length)
      (noteReport context answer.records answer.report)
      (fun _ run => run.Inside held answer.records.length ∧
        answer.report.recordsChecked = answer.records.length)
      (fun _ => Run.Restorable held) := by
    intro run opened
    have books : Meets (Run.Inside held 0) (noteReport context answer.records answer.report)
        (fun _ => Run.Inside held answer.records.length) (fun _ => Run.Restorable held) := by
      apply (noteReport_books answer.records answer.report).meets
      intro journal inside
      have noted := rule.notes 0 journal.books answer.records.length inside.current
      rw [Nat.zero_add] at noted
      exact ⟨inside.saved, noted⟩
    have noted := books run opened.1
    cases done : noteReport context answer.records answer.report run with
    | ok value final =>
        rw [done] at noted
        exact ⟨noted, opened.2⟩
    | error raised final =>
        rw [done] at noted
        exact noted
  apply notes.bind
  intro _ run opened
  cases valid : answer.report.isValid with
  | true =>
      simp only [if_true]
      have imports := importRecords_settle rule sequence asset answer.records
      refine Meets.bind imports ?_ run opened.1
      intro _
      apply (Run.Inside.meets (onStore_inside fun _ =>
        persistActions_bars _ _ _ _ asset symbol)).bind
      intro _
      apply (Run.Inside.meets (onStore_inside fun _ => publishCapability_bars _ _ asset)).bind
      intro _
      apply (closeBatch_settled sequence symbol answer.records valid).bind
      intro _
      exact fun _ outside => outside
  | false =>
      simp only [Bool.false_eq_true, if_false]
      have rejects := rejectBatch_settled rule sequence symbol answer.records valid opened.2
      refine Meets.bind rejects ?_ run opened.1.restorable
      intro _
      exact fun _ outside => outside

/-! ### The loop and its end -/

omit rule in
theorem callHeartbeat_settled (call : Nat) :
    Meets (Run.Outside held 0) (callHeartbeat context call) (fun _ => Run.Outside held 0)
      (fun _ => Run.Restorable held) := by
  intro run outside
  unfold callHeartbeat
  cases heartbeat : context.heartbeat with
  | none => exact outside
  | some beat =>
      cases beaten : beat call run.database.fleet with
      | ok value fleet =>
          simp only [beaten]
          exact outside
      | error raised fleet =>
          simp only [beaten]
          exact Run.Outside.restorable outside

theorem visitSymbol_settled (sequence : Nat) (symbol : String) :
    Meets (Run.Outside held 0) (visitSymbol context sequence symbol)
      (fun _ => Run.Outside held 0) (fun _ => Run.Restorable held) := by
  intro run outside
  have visited : visitSymbol context sequence symbol run =
      (if run.job.cancelRequested then
        modifyJob (fun job => { job with status := .cancelled }) >>= fun _ => pure false
      else
        importSymbol context sequence symbol >>= fun complete =>
          if complete then callHeartbeat context (2 * sequence + 1) >>= fun _ => pure true
          else pure false) run := rfl
  rw [visited]
  by_cases cancelled : run.job.cancelRequested = true
  · rw [if_pos cancelled]
    exact outside
  · rw [if_neg cancelled]
    refine (importSymbol_settled rule sequence symbol).bind ?_ run outside
    intro complete
    cases complete with
    | true => exact (callHeartbeat_settled _).bind fun _ _ settled => settled
    | false => exact fun _ settled => settled

/-- By induction on the symbols that are left. -/
theorem importSymbols_settled (rest : List (String × Nat)) :
    Meets (Run.Outside held 0) (importSymbols context rest) (fun _ => Run.Outside held 0)
      (fun _ => Run.Restorable held) := by
  induction rest with
  | nil => exact fun _ outside => outside
  | cons head tail ih =>
      rcases head with ⟨symbol, sequence⟩
      rw [importSymbols]
      apply (callHeartbeat_settled _).bind
      intro _
      split
      · exact ih
      · apply (visitSymbol_settled rule sequence symbol).bind
        intro goesOn
        cases goesOn with
        | true => exact ih
        | false => exact fun _ outside => outside

omit rule in
theorem concludeLoop_unbooked : Silent Run.journal (concludeLoop context) := by
  have finishes : Silent Run.journal (modifyJob fun job =>
      if job.status ∈ terminalStatuses then { job with completedAt := some context.finishedAt }
      else job) := by
    apply modifyJob_unbooked
    intro job reports bars
    split <;> rfl
  have succeeds : forall run, Silent Run.journal (succeedRunning context run) := by
    intro run
    unfold succeedRunning succeed
    split
    · refine (modifyJob_unbooked (by intro _ _ _; rfl)).bind ?_
      split
      · exact (setHealth_unbooked .healthy).bind (modifyDatabase_unbooked fun _ => rfl)
      · exact fun state => ⟨state, rfl, rfl⟩
    · exact fun state => ⟨state, rfl, rfl⟩
  intro run
  rcases (succeeds run).bind finishes run with ⟨final, done, same⟩
  exact ⟨final, done, same⟩

omit rule in
theorem abandonBatch_settled (health : Health) :
    Meets (Run.Restorable held) (abandonBatch context health) (fun _ => Run.Outside held 0)
      (fun _ _ => True) := by
  have rollsBack : Meets (Run.Restorable held) rollbackNested (fun _ => Run.Outside held 0)
      (fun _ _ => True) :=
    fun _ restorable => restorable
  have silent : Silent Run.journal (do
      setHealth context health
      modifyBatch context fun batch =>
        { batch with status := .failed, completedAt := some context.finishedAt }
      modifyJob fun job => { job with nextRetryAt := none }) := by
    apply (setHealth_unbooked health).bind
    exact (modifyBatch_unbooked _).bind (modifyJob_unbooked (by intro _ _ _; rfl))
  exact rollsBack.bind fun _ => silent.meets

omit rule in
/-- The handlers restore the books and write nothing into them. -/
theorem recordFailure_settled (raised : Exception) :
    Meets (Run.Restorable held) (recordFailure context raised) (fun _ => Run.Outside held 0)
      (fun _ _ => True) := by
  have permanent : forall health errorCode message classified,
      Meets (Run.Restorable held) (recordPermanent context health errorCode message classified)
        (fun _ => Run.Outside held 0) (fun _ _ => True) := by
    intro health errorCode message classified
    apply (abandonBatch_settled health).bind
    intro _ run outside
    have silent : Silent Run.journal (do
        addError (failureError context run.job.attempt errorCode message classified false)
        modifyJob fun job =>
          { job with
            status := .failed
            errorSummary := some message
            completedAt := some context.finishedAt }) :=
      (addError_unbooked _).bind (modifyJob_unbooked (by intro _ _ _; rfl))
    have kept : Meets (Run.Outside held 0) _ (fun _ => Run.Outside held 0) (fun _ _ => True) :=
      silent.meets
    exact kept run outside
  have temporary : forall failure rateLimit,
      Meets (Run.Restorable held) (recordTemporary context failure rateLimit)
        (fun _ => Run.Outside held 0) (fun _ _ => True) := by
    intro failure rateLimit
    apply (abandonBatch_settled _).bind
    intro _ run outside
    rw [bind_get, bind_apply]
    cases retryDelay run.job.attempt with
    | error raised => trivial
    | ok base =>
        have limits : Silent Run.journal
            (noteRateLimit context (delayAfter base rateLimit) rateLimit) := by
          cases rateLimit with
          | none => exact fun state => ⟨state, rfl, rfl⟩
          | some retryAfter => exact modifyDatabase_unbooked fun _ => rfl
        have silent : Silent Run.journal (do
            noteRateLimit context (delayAfter base rateLimit) rateLimit
            addError (failureError context run.job.attempt failure.classification
              failure.message true true)
            modifyJob fun job =>
              if job.attempt < job.request.maxAttempts then
                { job with
                  errorSummary := some failure.message
                  status := .retrying
                  nextRetryAt := some (context.finishedAt + delayAfter base rateLimit) }
              else
                { job with
                  errorSummary := some failure.message
                  status := .failed
                  completedAt := some context.finishedAt }) := by
          apply limits.bind
          apply (addError_unbooked _).bind
          apply modifyJob_unbooked
          intro job reports bars
          split <;> rfl
        have kept : Meets (Run.Outside held 0) _ (fun _ => Run.Outside held 0)
          (fun _ _ => True) := silent.meets
        exact kept run outside
  cases raised with
  | temporary failure => exact temporary failure none
  | rateLimit failure retryAfter => exact temporary failure (some retryAfter)
  | provider failure => exact permanent _ _ _ _
  | valueError message => exact permanent _ _ _ _
  | integrityError message => exact permanent _ _ _ _
  | escaping name => exact fun _ _ => trivial

theorem runSymbols_settled :
    Meets (Run.Outside held 0) (runSymbols context) (fun _ => Run.Outside held 0)
      (fun _ _ => True) := by
  have loop : Meets (Run.Outside held 0)
      (importSymbols context context.request.symbols.zipIdx >>= fun _ => concludeLoop context)
      (fun _ => Run.Outside held 0) (fun _ => Run.Restorable held) :=
    (importSymbols_settled rule _).bind fun _ => outside_of_silent concludeLoop_unbooked
  exact meets_tryCatch loop recordFailure_settled

end Rules

end Symbol

/-! ## The call -/

section Call

variable {library : Library} {surroundings : Surroundings} {job finished : ImportJob}
  {database after : Database} {held : Nat -> Books -> Prop}

/-- The rule of a call that returns. -/
theorem runImportJob_books (rule : BookRule job.request held)
    (settled : held 0 (job.books job.validationReport database.rows.bars))
    (done : runImportJob library surroundings job database = .ok finished after) :
    held 0 (finished.books finished.validationReport after.rows.bars) := by
  unfold runImportJob at done
  cases opening : openRun library surroundings job database with
  | error raised =>
      simp only [opening] at done
      cases done
  | ok context =>
      have opened := openRun_ok opening
      have ours : BookRule context.request held := opened.request.symm ▸ rule
      have starts : (startRun context job database).Outside held 0 := by
        refine ⟨rfl, rfl, ?_⟩
        have bars : (startRun context job database).store.allBars = database.rows.bars :=
          List.append_nil _
        simp only [Run.journal, bars]
        exact settled
      have ends := runSymbols_settled ours _ starts
      simp only [opening] at done
      cases outcome : runSymbols context (startRun context job database) with
      | error raised run =>
          simp only [outcome] at done
          cases done
      | ok value run =>
          simp only [outcome] at done ends
          cases done
          have flushed : run.pending.bars = [] := ends.pending
          have current := ends.current
          simp only [Run.journal, Run.store, Store.allBars, flushed, List.append_nil] at current
          exact current

/-- The books of a job that is run. -/
theorem ownBooks (request : ImportRequest) :
    BookRule request fun unsettled books =>
      books.inserted = storedBars request.id books.bars ∧
        books.processed = books.inserted + books.skipped + books.rejected + unsettled where
  notes := by
    intro unsettled books count settled
    exact ⟨settled.1, by simp only [settled.2]; omega⟩
  inserts := by
    intro unsettled books bar own settled
    refine ⟨?_, ?_⟩
    · simp [settled.1, storedBars, own]
    · simp only [settled.2]
      omega
  skips := by
    intro unsettled books settled
    exact ⟨settled.1, by simp only [settled.2]; omega⟩
  rejects := by
    intro unsettled books count settled
    exact ⟨settled.1, by simp only [settled.2]; omega⟩

/-- A job that is run adds no bar of another one. -/
theorem otherBooks {jobId : Identifier} {request : ImportRequest} (different : request.id ≠ jobId)
    (count : Nat) : BookRule request fun _ books => storedBars jobId books.bars = count where
  notes := fun _ _ _ same => same
  inserts := by
    intro unsettled books bar own same
    simpa [storedBars, own, different] using same
  skips := fun _ _ same => same
  rejects := fun _ _ _ same => same

theorem ImportJob.Exact.run (exact_ : job.Exact database.rows)
    (done : runImportJob library surroundings job database = .ok finished after) :
    finished.Exact after.rows := by
  have settled := runImportJob_books (ownBooks job.request)
    ⟨exact_.inserted, exact_.processed⟩ done
  have same : finished.id = job.id := (runImportJob_plain done).id_eq
  refine ⟨?_, settled.2⟩
  rw [same]
  exact settled.1

end Call

/-! ## Every run -/

/-- The counters of the job are exact, and a bar of it is there only where the job is. -/
structure Reconciled (jobId : Identifier) (database : Database) : Prop where
  keys : (database.jobs.map ImportJob.id).Nodup
  exact : forall job, job ∈ database.jobs -> job.id = jobId -> job.Exact database.rows
  known : (forall job, job ∈ database.jobs -> job.id ≠ jobId) ->
    storedBars jobId database.rows.bars = 0

section Runs

variable {jobId : Identifier} {library : Library} {database after : Database}

/-- A job is written whose counters are exact if it is the one, and the bars of the one
stay as they are otherwise. -/
theorem Reconciled.put {known written : ImportJob} (reconciled : Reconciled jobId database)
    (member : known ∈ database.jobs) (same : written.id = known.id)
    (jobs : after.jobs = Tables.put ImportJob.id written database.jobs)
    (own : written.id = jobId -> written.Exact after.rows)
    (other : written.id ≠ jobId ->
      storedBars jobId after.rows.bars = storedBars jobId database.rows.bars) :
    Reconciled jobId after := by
  have keys : (after.jobs.map ImportJob.id).Nodup := by
    rw [jobs]
    exact Tables.nodup_put reconciled.keys
  have listed : written ∈ after.jobs := by
    rw [jobs]
    exact Tables.mem_put_self _ _
  refine ⟨keys, ?_, ?_⟩
  · intro job here mine
    by_cases this : written.id = jobId
    · have only : job = written :=
        List.inj_on_of_nodup_map keys here listed (mine.trans this.symm)
      rw [only]
      exact own this
    · rw [jobs] at here
      rcases Tables.mem_put here with new | old
      · exact absurd (new ▸ mine) this
      · have before := reconciled.exact job old mine
        refine ⟨?_, before.processed⟩
        rw [mine, other this, ← mine]
        exact before.inserted
  · intro missing
    rw [other (missing written listed)]
    apply reconciled.known
    intro job old mine
    by_cases this : job = known
    · exact missing written listed (same.trans (this ▸ mine))
    · have different : job.id ≠ written.id := by
        intro equal
        exact this (List.inj_on_of_nodup_map reconciled.keys old member (equal.trans same))
      have kept : job ∈ after.jobs := by
        rw [jobs]
        have found : Tables.lookup ImportJob.id job.id
            (Tables.put ImportJob.id written database.jobs) = some job := by
          rw [Tables.lookup_put, if_neg (Ne.symm different)]
          exact Tables.lookup_of_mem reconciled.keys old
        exact (Tables.lookup_some found).1
      exact missing job kept mine

/-- The row of a job is written without its counters. -/
theorem Reconciled.rewrite {known written : ImportJob} (reconciled : Reconciled jobId database)
    (member : known ∈ database.jobs) (same : written.id = known.id)
    (books : forall reports bars, written.books reports bars = known.books reports bars)
    (reports : written.validationReport = known.validationReport)
    (jobs : after.jobs = Tables.put ImportJob.id written database.jobs)
    (rows : after.rows = database.rows) : Reconciled jobId after := by
  refine reconciled.put member same jobs ?_ fun _ => by rw [rows]
  intro mine
  have before := reconciled.exact known member (same.symm.trans mine)
  have counters := books [] []
  simp only [ImportJob.books, Books.mk.injEq] at counters
  rcases counters with ⟨processed, inserted, skipped, _⟩
  refine ⟨?_, ?_⟩
  · rw [inserted, rows, same]
    exact before.inserted
  · rw [processed, inserted, skipped, reports]
    exact before.processed

theorem Reconciled.run {surroundings : Surroundings} {job finished : ImportJob}
    (reconciled : Reconciled jobId database) (member : job ∈ database.jobs)
    (done : runImportJob library surroundings job database = .ok finished after) :
    Reconciled jobId after := by
  have returned := runImportJob_plain done
  apply reconciled.put member returned.id_eq returned.jobs
  · intro mine
    exact (reconciled.exact job member (returned.id_eq.symm.trans mine)).run done
  · intro different
    have other : job.request.id ≠ jobId := fun equal => different (returned.id_eq.trans equal)
    exact runImportJob_books (otherBooks other _) rfl done

theorem survives_reconciled {operation : QueueOperation}
    (reconciled : Reconciled jobId database) :
    Survives library database operation (Reconciled jobId) where
  adds := by
    intro before request events holds fresh
    have step : Survives library database operation
        fun current => (current.jobs.map ImportJob.id).Nodup := survives_keys reconciled.keys
    have keys : ((before.jobs ++ [queuedJob request]).map ImportJob.id).Nodup :=
      step.adds before request events holds.keys fresh
    refine ⟨keys, ?_, ?_⟩
    · intro job member mine
      rcases List.mem_append.mp member with old | new
      · exact holds.exact job old mine
      · have added := List.mem_singleton.mp new
        subst added
        have unstored : storedBars jobId before.rows.bars = 0 := by
          apply holds.known
          intro other listed equal
          exact fresh other listed (equal.trans mine.symm)
        refine ⟨?_, rfl⟩
        rw [mine]
        exact unstored.symm
    · intro missing
      exact holds.known fun job member => missing job (List.mem_append_left _ member)
  cancels := by
    intro target now job cancels found open_
    have jobs : (database.cancel now job).jobs =
        Tables.put ImportJob.id (job.cancelling now) database.jobs := rfl
    exact reconciled.rewrite (Tables.lookup_some found).1 (by rfl) (by intro _ _; rfl) (by rfl) jobs
      rfl
  restarts := by
    intro job member restartable
    have jobs : (database.restart job).jobs =
        Tables.put ImportJob.id job.restarted database.jobs := rfl
    exact reconciled.rewrite member (by rfl) (by intro _ _; rfl) (by rfl) jobs rfl
  claims := by
    intro workerId leaseSeconds now before candidate after holds taken
    have rows : after.rows = before.rows := congrArg Prod.fst taken.rest
    exact holds.rewrite taken.member (by rfl) (by intro _ _; rfl) (by rfl) taken.jobs rows
  runs := fun _ _ _ _ _ holds member _ done => holds.run member done
  releases := fun _ _ _ _ holds _ _ _ => ⟨holds.keys, holds.exact, holds.known⟩
  recovers := by
    intro now after recovers done
    refine @recoverAbandonedJobs_rule (Reconciled jobId) now database after ?_ reconciled done
    intro lease job before _ _ holds found
    unfold Database.recovering
    split
    · have jobs : ((before.changeFleet (Fleet.dropLease lease)).abandon now job).jobs =
          Tables.put ImportJob.id (job.abandoned now) before.jobs := rfl
      exact holds.rewrite (Tables.lookup_some found).1 (by rfl) (by intro _ _; rfl) (by rfl) jobs
        rfl
    · exact ⟨holds.keys, holds.exact, holds.known⟩

theorem act_reconciled {action : QueueAction} (reconciled : Reconciled jobId database) :
    Reconciled jobId (act library database action) := by
  cases action with
  | queue operation => exact (survives_reconciled reconciled).operate reconciled
  | run target surroundings =>
      change Reconciled jobId
        (transact id id (withJob target (runImportJob library surroundings)) database)
      cases ended : withJob target (runImportJob library surroundings) database with
      | ok finished after =>
          rw [transact_ok (by exact ended)]
          rcases withJob_ok ended with ⟨job, found, ran⟩
          exact reconciled.run (Tables.lookup_some found).1 ran
      | error raised after =>
          rw [transact_error (by exact ended)]
          exact reconciled
  | register workerId now => exact ⟨reconciled.keys, reconciled.exact, reconciled.known⟩
  | stop workerId now => exact ⟨reconciled.keys, reconciled.exact, reconciled.known⟩

/-- From a database without bars of the job, whatever happens to the queue, the counters of
the job are exact. -/
theorem counters_exact {actions : List QueueAction}
    (keys : (database.jobs.map ImportJob.id).Nodup)
    (fresh : forall job, job ∈ database.jobs -> job.id = jobId -> job = queuedJob job.request)
    (unstored : forall bar, bar ∈ database.rows.bars -> bar.importJob ≠ some jobId) :
    forall visited, visited ∈ Runs.states (act library) database actions ->
      forall job, job ∈ visited.jobs -> job.id = jobId -> job.Exact visited.rows := by
  have none_ : storedBars jobId database.rows.bars = 0 := by
    apply List.countP_eq_zero.mpr
    intro bar member own
    exact unstored bar member (of_decide_eq_true own)
  have initially : Reconciled jobId database := by
    refine ⟨keys, ?_, fun _ => none_⟩
    intro job member mine
    have new := fresh job member mine
    refine ⟨?_, ?_⟩
    · rw [mine, none_, new]
      rfl
    · rw [new]
      rfl
  intro visited member
  exact (Runs.invariant_states (motive := Reconciled jobId) (fun _ _ => act_reconciled)
    initially visited member).exact

end Runs

/-! ## A batch that fails validation, and one that does not -/

/-- The bar of the day, twice. -/
def doubledResponses : Responses :=
  { dailyResponses with bars := fun _ _ _ _ => [dailyBar, dailyBar] }

/-- The batch fails validation, the job is restarted, and another run inserts its bar. -/
def correctedActions : List QueueAction :=
  [.queue (.run 1 (fun _ => some fun _ => doubledResponses.adapter) fun _ => 0),
    .queue (.restart 1), .queue (.run 1 answering fun _ => 0)]

/-- Two records have been rejected, and one is stored. -/
theorem correctedActions_exact :
    exists database job, database = correctedActions.foldl (act plainLibrary) dailyQueue ∧
      job ∈ database.jobs ∧ job.status = .succeeded ∧ job.recordsProcessed = 3 ∧
      rejectedRecords job.validationReport = 2 ∧
      storedBars dailyRequest.id database.rows.bars = 1 ∧ job.Exact database.rows := by
  have ended : (correctedActions.foldl (act plainLibrary) dailyQueue).jobs.map
        (fun job => (job.id, job.status, job.recordsProcessed,
          rejectedRecords job.validationReport)) = [(1, .succeeded, 3, 2)] ∧
      storedBars dailyRequest.id
        (correctedActions.foldl (act plainLibrary) dailyQueue).rows.bars = 1 := by
    decide +kernel
  rcases ended with ⟨jobs, bars⟩
  rcases List.map_eq_singleton_iff.mp jobs with ⟨job, only, values⟩
  simp only [Prod.mk.injEq] at values
  have member : job ∈ (correctedActions.foldl (act plainLibrary) dailyQueue).jobs :=
    only ▸ List.mem_singleton_self job
  refine ⟨_, job, rfl, member, values.2.1, values.2.2.1, values.2.2.2, bars, ?_⟩
  exact counters_exact (by decide) (by decide) (by decide) _
    (Runs.foldl_mem_states dailyQueue correctedActions) job member values.1

end MarketData
end MarketIntelligence
