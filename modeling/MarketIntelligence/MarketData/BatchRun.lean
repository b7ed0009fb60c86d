import MarketIntelligence.MarketData.BatchStatus

namespace MarketIntelligence
namespace MarketData

open Foundations
open Loops

/-!
# The statuses that a run leaves

A heartbeat raises where there is no savepoint.  Behind a committed symbol, the batch
that the run refers to is the committed one, and the handlers would mark it as failed.
While no heartbeat behind a committed symbol raises what a handler catches, the run
leaves its batches as its cursor says.

A run of another job does not touch the batches, and it adds rows behind those stored.
-/

/-! ## The loop -/

/-- The heartbeat of a run, which does nothing where none is given. -/
def Context.beat (context : Context) (call : Nat) : EStateM Exception Fleet PUnit :=
  match context.heartbeat with
  | none => pure ⟨⟩
  | some heartbeat => heartbeat call

/-- The program raises nothing that the run catches. -/
def Calm (program : EStateM Exception Fleet PUnit) (fleet : Fleet) : Prop :=
  forall raised after, program fleet = .error raised after -> ¬ raised.Caught

/-- No heartbeat behind a symbol that is committed raises what the run catches.  The
flag says whether a symbol has been committed before. -/
def Undisturbed (context : Context) : Bool -> List (String × Nat) -> Canonical -> Fleet -> Prop
  | _, [], _, _ => True
  | behind, (symbol, sequence) :: rest, rows, fleet =>
      (behind = true -> Calm (context.beat (2 * sequence)) fleet) ∧
      forall before, context.beat (2 * sequence) fleet = .ok ⟨⟩ before ->
        (sequence < context.startIndex -> Undisturbed context behind rest rows before) ∧
        (context.startIndex ≤ sequence -> forall committed,
          committedRows context sequence symbol rows = some committed ->
          Calm (context.beat (2 * sequence + 1)) before ∧
          forall after, context.beat (2 * sequence + 1) before = .ok ⟨⟩ after ->
            Undisturbed context true rest committed after)

section Loop

variable {context : Context}

def Run.withFleet (run : Run) (fleet : Fleet) : Run :=
  { run with database := { run.database with fleet := fleet } }

theorem callHeartbeat_ok {call : Nat} {run : Run} {fleet : Fleet}
    (beats : context.beat call run.database.fleet = .ok ⟨⟩ fleet) :
    callHeartbeat context call run = .ok ⟨⟩ (run.withFleet fleet) := by
  cases heartbeat : context.heartbeat with
  | none =>
      simp only [Context.beat, heartbeat] at beats
      cases beats
      simp only [callHeartbeat, heartbeat]
      rfl
  | some beat =>
      simp only [Context.beat, heartbeat] at beats
      simp only [callHeartbeat, heartbeat, beats]
      rfl

theorem callHeartbeat_error {call : Nat} {run : Run} {raised : Exception} {fleet : Fleet}
    (stops : context.beat call run.database.fleet = .error raised fleet) :
    callHeartbeat context call run = .error raised (run.withFleet fleet) := by
  cases heartbeat : context.heartbeat with
  | none =>
      simp only [Context.beat, heartbeat] at stops
      cases stops
  | some beat =>
      simp only [Context.beat, heartbeat] at stops
      simp only [callHeartbeat, heartbeat, stops]
      rfl

/-- Heartbeats that are always calm do not disturb a run. -/
theorem undisturbed_of_calm (calm : forall call fleet, Calm (context.beat call) fleet)
    (rest : List (String × Nat)) :
    forall behind rows fleet, Undisturbed context behind rest rows fleet := by
  induction rest with
  | nil => exact fun _ _ _ => trivial
  | cons head tail ih =>
      intro behind rows fleet
      refine ⟨fun _ => calm _ _, ?_⟩
      intro before _
      refine ⟨fun _ => ih _ _ _, ?_⟩
      intro _ committed _
      exact ⟨calm _ _, fun _ _ => ih _ _ _⟩

/-- Between two symbols, before the heartbeat of the second one. -/
structure Between (context : Context) (behind : Bool) (position : Nat)
    (rest : List (String × Nat)) (run : Run) : Prop where
  settled : Settled context (max position context.startIndex) run
  pending : run.pending = .empty
  first : behind = false -> run.batch = none
  stopped : run.job.cancelRequested = true -> run.batch = none
  undisturbed : run.job.cancelRequested = false ->
    Undisturbed context behind rest run.database.rows run.database.fleet

/-- What the loop gives: a cursor that tells the truth, or an exception that can be rolled
back where it is caught. -/
def LoopSettles (context : Context) {α : Type} : EStateM.Result Exception Run α -> Prop
  | .ok _ run => Sound context.request run.job.resumeCursor run.database
  | .error raised run => raised.Caught -> Recoverable context run

theorem Settled.withFleet {cursor : Nat} {run : Run} (settled : Settled context cursor run)
    (fleet : Fleet) : Settled context cursor (run.withFleet fleet) :=
  ⟨settled.savepoint, settled.position, settled.sound.congr rfl⟩

/-- A run that has not committed anything can be rolled back to where it stands. -/
theorem Settled.recoverable {cursor : Nat} {run : Run} (settled : Settled context cursor run)
    (unset : run.batch = none) : Recoverable context run :=
  Or.inr
    { savepoint := settled.savepoint
      sound := settled.position.symm ▸ settled.sound
      open_ := fun _ here => by
        rw [unset] at here
        cases here }

theorem importSymbol_fleet {sequence : Nat} {symbol : String} {run : Run}
    (outside : run.savepoint = none) :
    (finalState (importSymbol context sequence symbol run)).database.fleet = run.database.fleet := by
  have kept := importSymbol_keeps (fleetInvariant context (· = run.database.fleet)) sequence symbol
    run ⟨rfl, fun saved impossible => by rw [outside] at impossible; cases impossible⟩
  exact kept.current

/-- What a visit of a symbol gives. -/
def VisitSettles (context : Context) (position : Nat) (rest : List (String × Nat)) :
    EStateM.Result Exception Run Bool -> Prop
  | .ok true run => Between context true position rest run
  | .ok false run => Sound context.request run.job.resumeCursor run.database
  | .error raised run => raised.Caught -> Recoverable context run

theorem visitSymbol_settles {position : Nat} {symbol : String} {rest : List (String × Nat)}
    {run : Run} (known : position < context.request.symbols.length)
    (reaches : context.startIndex ≤ position) (settled : Settled context position run)
    (pending : run.pending = .empty)
    (undisturbed : run.job.cancelRequested = false -> forall committed,
      committedRows context position symbol run.database.rows = some committed ->
      Calm (context.beat (2 * position + 1)) run.database.fleet ∧
      forall after, context.beat (2 * position + 1) run.database.fleet = .ok ⟨⟩ after ->
        Undisturbed context true rest committed after) :
    VisitSettles context (position + 1) rest (visitSymbol context position symbol run) := by
  have visited : visitSymbol context position symbol run =
      (if run.job.cancelRequested then
        modifyJob (fun job => { job with status := .cancelled }) >>= fun _ => pure false
      else
        importSymbol context position symbol >>= fun complete =>
          if complete then callHeartbeat context (2 * position + 1) >>= fun _ => pure true
          else pure false) run := rfl
  rw [visited]
  by_cases cancelled : run.job.cancelRequested = true
  · rw [if_pos cancelled]
    have sound : Sound context.request run.job.resumeCursor run.database :=
      settled.position.symm ▸ settled.sound
    exact sound
  · rw [if_neg cancelled, Loops.bind_apply]
    have steady : run.progress = ⟨run.progress.current, .empty, none⟩ := by
      simp only [Run.progress, pending, settled.savepoint, Option.map_none]
    have settles := importSymbol_settles known symbol run settled
    have fleet : (finalState (importSymbol context position symbol run)).database.fleet =
        run.database.fleet := importSymbol_fleet settled.savepoint
    rcases importSymbol_cases context position symbol steady with
      ⟨rows, final, committed, done, same⟩ | ⟨final, _, done, _⟩ | ⟨raised, final, _, stopped, _⟩
    · rw [done] at settles fleet
      have closed : Settled context (position + 1) final := settles
      have kept : final.database.fleet = run.database.fleet := fleet
      have wanted : final.job.cancelRequested = false := by
        have requested : final.progress.current.job.cancelRequested = run.job.cancelRequested := by
          rw [same]
          rfl
        exact requested.trans (eq_false_of_ne_true cancelled)
      have stored : final.database.rows = rows := congrArg (·.current.rows) same
      have flushed : final.pending = .empty := congrArg (·.pending) same
      rcases undisturbed (eq_false_of_ne_true cancelled) rows committed with ⟨calm, goesOn⟩
      rw [done]
      simp only [if_true]
      rw [Loops.bind_apply]
      cases beaten : context.beat (2 * position + 1) final.database.fleet with
      | ok value after =>
          rw [callHeartbeat_ok beaten]
          have between : Between context true (position + 1) rest (final.withFleet after) :=
            { settled := by
                rw [max_eq_left (Nat.le_succ_of_le reaches)]
                exact closed.withFleet after
              pending := flushed
              first := fun impossible => by cases impossible
              stopped := fun requested => by
                rw [show final.job.cancelRequested = true from requested] at wanted
                cases wanted
              undisturbed := fun _ => by
                rw [show (final.withFleet after).database.rows = rows from stored]
                exact goesOn after (kept ▸ beaten) }
          exact between
      | error raised after =>
          rw [callHeartbeat_error beaten]
          exact fun caught => absurd caught (calm raised after (kept ▸ beaten))
    · rw [done] at settles ⊢
      have unfinished : Unfinished context final := settles
      exact unfinished.sound
    · rw [stopped] at settles ⊢
      exact fun _ => settles

/-- The loop rule for the statuses, by induction on the symbols that are left. -/
theorem importSymbols_settles {rest : List (String × Nat)} :
    forall {behind : Bool} {position : Nat} {run : Run},
      context.request.batches.drop position = rest ->
      Between context behind position rest run ->
      LoopSettles context (importSymbols context rest run) := by
  induction rest with
  | nil =>
      intro behind position run _ between
      have sound : Sound context.request run.job.resumeCursor run.database :=
        between.settled.position.symm ▸ between.settled.sound
      exact sound
  | cons head tail ih =>
      intro behind position run suffix between
      rcases head with ⟨symbol, sequence⟩
      rcases Checkpoints.getElem?_of_drop suffix with ⟨here, following⟩
      cases batches_position here
      have known : position < context.request.symbols.length := by
        rw [← batches_length]
        exact (List.getElem?_eq_some_iff.mp here).1
      rw [importSymbols, Loops.bind_apply]
      cases beaten : context.beat (2 * position) run.database.fleet with
      | error raised after =>
          rw [callHeartbeat_error beaten]
          intro caught
          apply (between.settled.withFleet after).recoverable
          -- Behind a committed symbol, the heartbeat would have been calm.
          by_cases wanted : run.job.cancelRequested = true
          · exact between.stopped wanted
          · cases behind with
            | false => exact between.first rfl
            | true =>
                have calm := (between.undisturbed (eq_false_of_ne_true wanted)).1 rfl
                exact absurd caught (calm raised after beaten)
      | ok value before =>
          rw [callHeartbeat_ok beaten]
          have steps := fun wanted => (between.undisturbed wanted).2 before beaten
          by_cases skipped : position < context.startIndex
          · simp only [if_pos skipped]
            apply ih following
            have cursor : max (position + 1) context.startIndex = max position context.startIndex := by
              omega
            exact
              { settled := cursor ▸ between.settled.withFleet before
                pending := between.pending
                first := between.first
                stopped := between.stopped
                undisturbed := fun wanted => (steps wanted).1 skipped }
          · have reaches := Nat.le_of_not_lt skipped
            have settled := between.settled.withFleet before
            rw [max_eq_left reaches] at settled
            have visited := visitSymbol_settles known reaches settled between.pending
              fun wanted => (steps wanted).2 reaches
            simp only [if_neg skipped]
            rw [Loops.bind_apply]
            cases outcome : visitSymbol context position symbol (run.withFleet before) with
            | error raised reached =>
                rw [outcome] at visited
                exact visited
            | ok goesOn reached =>
                rw [outcome] at visited
                cases goesOn with
                | true => exact ih following visited
                | false => exact visited

/-- The run rule: a run that returns leaves a cursor that tells the truth. -/
theorem runSymbols_sound {run final : Run} {behind : Bool}
    (between : Between context behind 0 context.request.batches run)
    (done : runSymbols context run = .ok ⟨⟩ final) :
    Sound context.request final.job.resumeCursor final.database := by
  have loop := importSymbols_settles (List.drop_zero (l := context.request.batches)) between
  have listed : context.request.symbols.zipIdx = context.request.batches := rfl
  cases outcome : importSymbols context context.request.batches run with
  | ok value reached =>
      rw [outcome] at loop
      have concluded := concludeLoop_sound reached loop
      have ended : (importSymbols context context.request.symbols.zipIdx >>= fun _ =>
          concludeLoop context) run = concludeLoop context reached := by
        rw [Loops.bind_apply, listed, outcome]
      rcases (concludeLoop_projects context).completes reached with ⟨last, ends, _⟩
      rw [runSymbols, Transactions.tryCatch_ok (ended.trans ends)] at done
      cases done
      rw [ends] at concluded
      exact concluded
  | error raised reached =>
      rw [outcome] at loop
      have stopped : (importSymbols context context.request.symbols.zipIdx >>= fun _ =>
          concludeLoop context) run = .error raised reached := by
        rw [Loops.bind_apply, listed, outcome]
      rw [runSymbols, Transactions.tryCatch_error stopped] at done
      by_cases caught : raised.Caught
      · have handled := recordFailure_unfinished raised reached (loop caught)
        rw [done] at handled
        exact handled.sound
      · cases raised with
        | escaping name => cases done
        | temporary | rateLimit | provider | valueError | integrityError =>
            exact absurd trivial caught

end Loop

/-! ## The call -/

/-- No heartbeat of the call that follows a committed symbol raises what the call
catches. -/
def Steady (library : Library) (surroundings : Surroundings) (job : ImportJob)
    (database : Database) : Prop :=
  forall context, openRun library surroundings job database = .ok context ->
    job.cancelRequested = false ->
      Undisturbed context false job.request.batches database.rows database.fleet

section Call

variable {library : Library} {surroundings : Surroundings} {job finished : ImportJob}
  {database after : Database}

theorem steady_of_calm (calm : forall beat, surroundings.heartbeat = some beat ->
    forall call fleet, Calm (beat call) fleet) : Steady library surroundings job database := by
  intro context opening _
  have heartbeat := (openRun_ok opening).heartbeat
  apply undisturbed_of_calm
  intro call fleet raised after stopped
  cases given : context.heartbeat with
  | none =>
      simp only [Context.beat, given] at stopped
      cases stopped
  | some beat =>
      simp only [Context.beat, given] at stopped
      exact calm beat (heartbeat.symm.trans given) call fleet raised after stopped

/-- The rule of a call for the statuses. -/
theorem runImportJob_sound (sound : Sound job.request job.resumeCursor database)
    (steady : Steady library surroundings job database)
    (done : runImportJob library surroundings job database = .ok finished after) :
    Sound job.request finished.resumeCursor after := by
  unfold runImportJob at done
  cases opening : openRun library surroundings job database with
  | error raised =>
      simp only [opening] at done
      cases done
  | ok context =>
      have opened := openRun_ok opening
      have between : Between context false 0 context.request.batches
          (startRun context job database) :=
        { settled := by
            rw [opened.startIndex, Nat.zero_max]
            exact ⟨rfl, rfl, opened.request.symm ▸ sound.congr rfl⟩
          pending := rfl
          first := fun _ => rfl
          stopped := fun _ => rfl
          undisturbed := fun wanted => by
            rw [opened.request]
            exact steady context opening wanted }
      simp only [opening] at done
      cases outcome : runSymbols context (startRun context job database) with
      | error raised run =>
          simp only [outcome] at done
          cases done
      | ok value run =>
          simp only [outcome] at done
          cases done
          have ended := runSymbols_sound between outcome
          rw [opened.request] at ended
          exact ended.congr rfl

/-- A condition on the rows and the batches alone, through a whole call. -/
theorem runImportJob_rule {held : Database -> Prop}
    (keeps : forall context, context.request = job.request ->
      RunInvariant context fun database _ => held database)
    (reads : forall before next : Database, next.rows = before.rows ->
      next.batches = before.batches -> held before -> held next)
    (holds : held database) :
    held (finalState (runImportJob library surroundings job database)) := by
  have rule := @runImportJob_keeps library surroundings job database fun database _ => held database
  apply rule
  · intro context opened
    exact ⟨keeps context opened.request,
      callHeartbeat_keeps fun _ _ _ before _ kept => reads before _ rfl rfl kept⟩
  · exact fun _ _ => reads database _ rfl rfl holds
  · exact holds
  · exact fun before _ _ _ kept => reads before _ rfl rfl kept

/-- No two batches are of one job and one position.  The table has a unique constraint on the
pair, so a second insert would fail. -/
def DistinctBatches (database : Database) : Prop :=
  (database.batches.map ImportBatch.identity).Nodup

theorem distinctBatches_invariant (context : Context) :
    RunInvariant context fun database _ => DistinctBatches database where
  stores := fun _ =>
    { adds := fun _ _ _ holds => holds
      flushes := fun _ _ holds => holds
      publishes := fun _ _ _ holds => holds }
  empties := fun _ _ holds => holds
  writes := by
    intro before written _ write holds
    cases write with
    | error | health | recovery | limit => exact holds
    | opened => exact Tables.nodup_put holds
    | batch sequence change same =>
        unfold changeBatch
        split
        · exact holds
        · exact Tables.nodup_put holds

theorem runImportJob_distinct (distinct : DistinctBatches database)
    (done : runImportJob library surroundings job database = .ok finished after) :
    DistinctBatches after := by
  have kept : DistinctBatches (finalState (runImportJob library surroundings job database)) :=
    runImportJob_rule (fun context _ => distinctBatches_invariant context)
      (fun _ _ _ batches holds => by
        unfold DistinctBatches
        rw [batches]
        exact holds) distinct
  rw [done] at kept
  exact kept

/-- The statuses of the batches of another job, and the rows that are stored. -/
structure Spared (jobId : Identifier) (origin database : Database) : Prop where
  statuses : batchStatus jobId database = batchStatus jobId origin
  rows : origin.rows.Grows database.rows

theorem spared_invariant {context : Context} {jobId : Identifier} (origin : Database)
    (different : context.request.id ≠ jobId) :
    RunInvariant context fun database _ => Spared jobId origin database where
  stores := fun database =>
    { adds := fun _ _ _ spared => spared
      flushes := fun store _ spared =>
        ⟨spared.statuses, spared.rows.trans (.append store.stored store.pending)⟩
      publishes := fun _ _ _ spared => ⟨spared.statuses, { spared.rows with }⟩ }
  empties := fun _ _ spared => spared
  writes := by
    have unseen : forall (database : Database) (batch : ImportBatch),
        batch.jobId = context.request.id ->
        batchStatus jobId { database with
          batches := Tables.put ImportBatch.identity batch database.batches } =
        batchStatus jobId database := by
      intro database batch own
      funext sequence
      unfold batchStatus
      rw [Tables.lookup_put, if_neg]
      intro same
      exact different (own.symm.trans (congrArg Prod.fst same))
    intro before written _ write spared
    cases write with
    | error | health | recovery | limit => exact ⟨spared.statuses, spared.rows⟩
    | opened sequence batch own =>
        exact ⟨(unseen before batch (congrArg Prod.fst own)).trans spared.statuses, spared.rows⟩
    | batch sequence change same =>
        refine ⟨?_, by rw [changeBatch_rows]; exact spared.rows⟩
        cases found : Tables.lookup ImportBatch.identity (context.request.id, sequence)
            before.batches with
        | none => rw [changeBatch_missing found, spared.statuses]
        | some batch =>
            have own : (change batch).jobId = context.request.id :=
              (congrArg Prod.fst (same batch)).trans
                (congrArg Prod.fst (Tables.lookup_some found).2)
            rw [changeBatch_found found, unseen before _ own, spared.statuses]

theorem runImportJob_spared {jobId : Identifier} (different : job.id ≠ jobId)
    (done : runImportJob library surroundings job database = .ok finished after) :
    Spared jobId database after := by
  have kept : Spared jobId database
      (finalState (runImportJob library surroundings job database)) :=
    runImportJob_rule
      (fun context same => spared_invariant database (by rw [same]; exact different))
      (fun before next rows batches spared =>
        ⟨by
          rw [← spared.statuses]
          funext sequence
          rw [batchStatus, batches]
          rfl, by
          rw [rows]
          exact spared.rows⟩)
      ⟨rfl, .refl _⟩
  rw [done] at kept
  exact kept

end Call

end MarketData
end MarketIntelligence
