import MarketIntelligence.Foundations.Checkpoints
import MarketIntelligence.MarketData.SymbolSpec

namespace MarketIntelligence
namespace MarketData

open Foundations
open Checkpoints
open Projections

/-!
# What one run does

A run keeps the rows and the cursor together.  Whatever a cursor promises about the
rows, when each committed batch takes the promise one symbol further, holds from
symbol to symbol, and in between the savepoint holds such a state.  What a run
leaves behind is therefore what its cursor promises, whether it reached the end,
was cancelled, rejected a batch or gave up on an exception.
-/

/-- The batches of a job, in order. -/
def ImportRequest.batches (request : ImportRequest) : List (String × Nat) :=
  request.symbols.zipIdx

/-- The snapshot belongs to the same call, and its rows are what its cursor promises. -/
structure Follows (promise : Nat -> Canonical -> Prop) (origin current : Snapshot) : Prop where
  rows : promise current.job.resumeCursor current.rows
  request : current.job.request = origin.job.request
  attempt : current.job.attempt = origin.job.attempt
  cancelRequested : current.job.cancelRequested = origin.job.cancelRequested
  fixed : current.fixed = origin.fixed

/-- A committed batch takes the promise from its position to the next one. -/
def Keeps (context : Context) (promise : Nat -> Canonical -> Prop) (request : ImportRequest) :
    Prop :=
  forall position symbol rows committed,
    request.batches[position]? = some (symbol, position) -> promise position rows ->
      committedRows context position symbol rows = some committed ->
        promise (position + 1) committed

/-- What a rollback would go back to, or the current state where there is no savepoint. -/
def Progress.checkpoint (progress : Progress) : Snapshot := progress.saved.getD progress.current

/-- Between two symbols, at the position of the second one. -/
structure Ready (context : Context) (promise : Nat -> Canonical -> Prop) (origin : Snapshot)
    (position : Nat) (progress : Progress) : Prop where
  saved : progress.saved = none
  pending : progress.pending = .empty
  follows : Follows promise origin progress.current
  status : progress.current.job.status = .running
  cursor : progress.current.job.resumeCursor = max position context.startIndex

/-- After the loop: complete, or left early with the status that says why. -/
structure Left (promise : Nat -> Canonical -> Prop) (origin : Snapshot) (progress : Progress) :
    Prop where
  saved : progress.saved = none
  pending : progress.pending = .empty
  follows : Follows promise origin progress.current
  status : (progress.current.job.status = .running ∧
      origin.job.request.symbols.length ≤ progress.current.job.resumeCursor) ∨
    progress.current.job.status = .cancelled ∨ progress.current.job.status = .failed

/-- Inside the loop, at an exception: what is committed keeps the promise of its position, and a
batch outside a savepoint is flushed. -/
structure Interrupted (promise : Nat -> Canonical -> Prop) (origin : Snapshot)
    (progress : Progress) : Prop where
  follows : Follows promise origin progress.checkpoint
  pending : progress.saved = none -> progress.pending = .empty

/-- What the loop gives, completed or raised. -/
def LoopOutcome (promise : Nat -> Canonical -> Prop) (origin : Snapshot) :
    EStateM.Result Exception Run PUnit -> Prop
  | .ok _ run => Left promise origin run.progress
  | .error _ run => Interrupted promise origin run.progress

section Loop

variable {context : Context} {promise : Nat -> Canonical -> Prop} {origin : Snapshot}

theorem Ready.interrupted {position : Nat} {progress : Progress}
    (ready : Ready context promise origin position progress) :
    Interrupted promise origin progress where
  follows := by
    rw [Progress.checkpoint, ready.saved]
    exact ready.follows
  pending := fun _ => ready.pending

/-- A heartbeat does not touch the progress. -/
theorem callHeartbeat_cases (context : Context) (call : Nat) (run : Run) :
    (exists next, callHeartbeat context call run = .ok ⟨⟩ next ∧ next.progress = run.progress) ∨
    (exists raised next, callHeartbeat context call run = .error raised next ∧
      next.progress = run.progress) := by
  cases heartbeat : context.heartbeat with
  | none =>
      refine Or.inl ⟨run, ?_, rfl⟩
      simp only [callHeartbeat, heartbeat]
      rfl
  | some beat =>
      cases beaten : beat call run.database.fleet with
      | ok value fleet =>
          refine Or.inl ⟨{ run with database := { run.database with fleet := fleet } }, ?_, rfl⟩
          simp only [callHeartbeat, heartbeat, beaten]
      | error raised fleet =>
          refine Or.inr ⟨raised, { run with database := { run.database with fleet := fleet } }, ?_,
            rfl⟩
          simp only [callHeartbeat, heartbeat, beaten]

theorem batches_length (request : ImportRequest) :
    request.batches.length = request.symbols.length :=
  List.length_zipIdx

theorem batches_position {request : ImportRequest} {position sequence : Nat} {symbol : String}
    (here : request.batches[position]? = some (symbol, sequence)) : sequence = position := by
  unfold ImportRequest.batches at here
  rw [List.getElem?_zipIdx] at here
  rcases Option.map_eq_some_iff.mp here with ⟨known, _, same⟩
  cases same
  exact Nat.zero_add position

/-- A symbol that is committed makes the run ready for the next one. -/
theorem Ready.next {position : Nat} {current : Snapshot} {rows : Canonical} {symbol : String}
    (ready : Ready context promise origin position ⟨current, .empty, none⟩)
    (reaches : context.startIndex ≤ position)
    (here : origin.job.request.batches[position]? = some (symbol, position))
    (keeps : Keeps context promise origin.job.request)
    (done : committedRows context position symbol current.rows = some rows) :
    Ready context promise origin (position + 1)
      ⟨{ current.advance (position + 1) with rows := rows }, .empty, none⟩ := by
  have cursor : current.job.resumeCursor = position := by
    rw [show current.job.resumeCursor = _ from ready.cursor]
    exact max_eq_left reaches
  have advanced := ready.follows.rows
  rw [show (Progress.mk current .empty none).current = current from rfl, cursor] at advanced
  refine
    { saved := rfl
      pending := rfl
      follows :=
        { rows := keeps position symbol current.rows rows here advanced done
          request := ready.follows.request
          attempt := ready.follows.attempt
          cancelRequested := ready.follows.cancelRequested
          fixed := ready.follows.fixed }
      status := ready.status
      cursor := ?_ }
  exact (max_eq_left (Nat.le_succ_of_le reaches)).symm

/-- The state of a run that is ready is determined by its snapshot. -/
theorem Ready.progress_eq {position : Nat} {progress : Progress}
    (ready : Ready context promise origin position progress) :
    progress = ⟨progress.current, .empty, none⟩ := by
  rcases progress with ⟨current, pending, saved⟩
  cases ready.saved
  cases ready.pending
  rfl

/-- What a visit of a symbol gives: the run is ready for the next one, has left the
loop, or is at an exception. -/
def VisitOutcome (context : Context) (promise : Nat -> Canonical -> Prop) (origin : Snapshot)
    (position : Nat) : EStateM.Result Exception Run Bool -> Prop
  | .ok true run => Ready context promise origin position run.progress
  | .ok false run => Left promise origin run.progress
  | .error _ run => Interrupted promise origin run.progress

theorem visitSymbol_outcome
    (keeps : Keeps context promise origin.job.request)
    {position : Nat} {symbol : String} {run : Run}
    (here : origin.job.request.batches[position]? = some (symbol, position))
    (reaches : context.startIndex ≤ position)
    (ready : Ready context promise origin position run.progress) :
    VisitOutcome context promise origin (position + 1)
      (visitSymbol context position symbol run) := by
  have visited : visitSymbol context position symbol run =
      (if run.job.cancelRequested then
        modifyJob (fun job => { job with status := .cancelled }) >>= fun _ => pure false
      else
        importSymbol context position symbol >>= fun complete =>
          if complete then callHeartbeat context (2 * position + 1) >>= fun _ => pure true
          else pure false) run := rfl
  rw [visited]
  by_cases cancelled : run.job.cancelRequested = true
  · rw [if_pos cancelled]
    exact
      { saved := ready.saved
        pending := ready.pending
        follows := { ready.follows with rows := ready.follows.rows }
        status := Or.inr (Or.inl rfl) }
  · rw [if_neg cancelled, Loops.bind_apply]
    have steady := ready.progress_eq
    rw [steady] at ready
    rcases importSymbol_cases context position symbol steady with
      ⟨rows, final, committed, done, same⟩ | ⟨final, _, done, same⟩ |
        ⟨raised, final, _, stopped, saved⟩
    · rw [done]
      have following := ready.next reaches here keeps committed
      rw [← same] at following
      simp only [if_true]
      rw [Loops.bind_apply]
      rcases callHeartbeat_cases context (2 * position + 1) final with
        ⟨next, beaten, kept⟩ | ⟨raised, next, beaten, kept⟩
      · rw [beaten]
        rw [← kept] at following
        exact following
      · rw [beaten]
        rw [← kept] at following
        exact following.interrupted
    · rw [done]
      have follows := ready.follows
      have left : Left promise origin final.progress := by
        rw [same]
        exact
          { saved := rfl
            pending := rfl
            follows := { follows with rows := follows.rows }
            status := Or.inr (Or.inr rfl) }
      exact left
    · rw [stopped]
      have interrupted : Interrupted promise origin final.progress :=
        { follows := by
            rw [Progress.checkpoint, saved]
            exact ready.follows
          pending := fun absent => by
            rw [saved] at absent
            cases absent }
      exact interrupted

/-- The loop rule of a run, by induction on the symbols that are left. -/
theorem importSymbols_outcome
    (keeps : Keeps context promise origin.job.request)
    {rest : List (String × Nat)} :
    forall {position : Nat} {run : Run}, origin.job.request.batches.drop position = rest ->
      Ready context promise origin position run.progress ->
      LoopOutcome promise origin (importSymbols context rest run) := by
  induction rest with
  | nil =>
      intro position run suffix ready
      have past : origin.job.request.symbols.length ≤ position := by
        rw [← batches_length]
        exact List.drop_eq_nil_iff.mp suffix
      exact
        { saved := ready.saved
          pending := ready.pending
          follows := ready.follows
          status := Or.inl ⟨ready.status, by rw [ready.cursor]; omega⟩ }
  | cons head tail ih =>
      intro position run suffix ready
      rcases head with ⟨symbol, sequence⟩
      rcases getElem?_of_drop suffix with ⟨here, following⟩
      cases batches_position here
      rw [importSymbols, Loops.bind_apply]
      rcases callHeartbeat_cases context (2 * position) run with
        ⟨next, beaten, same⟩ | ⟨raised, next, beaten, same⟩
      · rw [beaten]
        rw [← same] at ready
        by_cases skipped : position < context.startIndex
        · simp only [if_pos skipped]
          apply ih following
          have cursor : max (position + 1) context.startIndex = max position context.startIndex := by
            omega
          exact { ready with cursor := ready.cursor.trans cursor.symm }
        · have reaches := Nat.le_of_not_lt skipped
          have visited := visitSymbol_outcome keeps here reaches ready
          simp only [if_neg skipped]
          rw [Loops.bind_apply]
          cases outcome : visitSymbol context position symbol next with
          | error raised reached =>
              rw [outcome] at visited
              exact visited
          | ok goesOn reached =>
              rw [outcome] at visited
              cases goesOn with
              | true => exact ih following visited
              | false => exact visited
      · rw [beaten]
        rw [← same] at ready
        exact ready.interrupted

end Loop

/-! ## The end of a run -/

/-- After the call: the cursor and the rows still agree, and the status says how the
run ended. -/
structure Ended (promise : Nat -> Canonical -> Prop) (origin current : Snapshot) : Prop where
  follows : Follows promise origin current
  status : (current.job.status = .succeeded ∧
      origin.job.request.symbols.length ≤ current.job.resumeCursor) ∨
    current.job.status = .cancelled ∨ current.job.status = .failed ∨
    (current.job.status = .retrying ∧ current.job.attempt < current.job.request.maxAttempts)

section End

variable {context : Context} {promise : Nat -> Canonical -> Prop} {origin : Snapshot}

theorem Follows.withStatus {current : Snapshot} (follows : Follows promise origin current)
    (status : JobStatus) : Follows promise origin (current.withStatus status) :=
  { follows with rows := follows.rows }

theorem Interrupted.rollback {progress : Progress}
    (interrupted : Interrupted promise origin progress) :
    progress.rollback = ⟨progress.checkpoint, .empty, none⟩ := by
  rcases progress with ⟨current, pending, saved⟩
  cases saved with
  | none => exact congrArg (fun rows => Progress.mk current rows none) (interrupted.pending rfl)
  | some kept => rfl

theorem Ended.retry {current : Snapshot} (follows : Follows promise origin current) :
    Ended promise origin current.retry := by
  unfold Snapshot.retry
  split
  · rename_i again
    exact ⟨follows.withStatus .retrying, Or.inr (Or.inr (Or.inr ⟨rfl, again⟩))⟩
  · exact ⟨follows.withStatus .failed, Or.inr (Or.inr (Or.inl rfl))⟩

theorem Left.conclude {progress : Progress} (left : Left promise origin progress) :
    Ended promise origin progress.current.conclude := by
  unfold Snapshot.conclude
  rcases left.status with ⟨running, past⟩ | cancelled | failed
  · rw [if_pos running]
    exact ⟨left.follows.withStatus .succeeded, Or.inl ⟨rfl, past⟩⟩
  · rw [if_neg (by rw [cancelled]; decide)]
    exact ⟨left.follows, Or.inr (Or.inl cancelled)⟩
  · rw [if_neg (by rw [failed]; decide)]
    exact ⟨left.follows, Or.inr (Or.inr (Or.inl failed))⟩

/-- A temporary failure ends in another attempt, or in the failure of the job. -/
theorem recordTemporary_ended {run final : Run} {failure : ProviderFailure}
    {rateLimit : Option (Option Int)}
    (interrupted : Interrupted promise origin run.progress)
    (done : recordTemporary context failure rateLimit run = .ok ⟨⟩ final) :
    Ended promise origin final.progress.current := by
  have projected := (recordTemporary_projects context failure rateLimit).ok done
  rw [retryProgress, Loops.bind_modify, Loops.bind_get, interrupted.rollback] at projected
  rcases Loops.bind_ok projected with ⟨delay, middle, delayed, ended⟩
  have same : middle = ⟨run.progress.checkpoint, .empty, none⟩ := by
    cases outcome : retryDelay run.progress.checkpoint.job.attempt with
    | error raised =>
        rw [outcome] at delayed
        cases delayed
    | ok value =>
        rw [outcome] at delayed
        cases delayed
        rfl
  rw [same] at ended
  rw [Loops.modify_ok ended]
  exact Ended.retry interrupted.follows

theorem recordPermanent_ended {run final : Run} {health : Health} {errorCode message : String}
    {classified : Bool} (interrupted : Interrupted promise origin run.progress)
    (done : recordPermanent context health errorCode message classified run = .ok ⟨⟩ final) :
    Ended promise origin final.progress.current := by
  have projected :=
    (recordPermanent_projects context health errorCode message classified).ok done
  rw [rejectProgress, Loops.bind_modify, interrupted.rollback] at projected
  rw [Loops.modify_ok projected]
  exact ⟨interrupted.follows.withStatus .failed, Or.inr (Or.inr (Or.inl rfl))⟩

theorem recordFailure_ended {run final : Run} {raised : Exception}
    (interrupted : Interrupted promise origin run.progress)
    (done : recordFailure context raised run = .ok ⟨⟩ final) :
    Ended promise origin final.progress.current := by
  cases raised with
  | temporary failure => exact recordTemporary_ended interrupted done
  | rateLimit failure retryAfter => exact recordTemporary_ended interrupted done
  | provider failure => exact recordPermanent_ended interrupted done
  | valueError message => exact recordPermanent_ended interrupted done
  | integrityError message => exact recordPermanent_ended interrupted done
  | escaping name => cases done

/-- The run rule: a run that returns has kept the rows and the cursor together. -/
theorem runSymbols_ended
    (keeps : Keeps context promise origin.job.request)
    {run final : Run} (same : context.request = origin.job.request)
    (ready : Ready context promise origin 0 run.progress)
    (done : runSymbols context run = .ok ⟨⟩ final) :
    Ended promise origin final.progress.current := by
  have loop := importSymbols_outcome keeps
    (show origin.job.request.batches.drop 0 = context.request.symbols.zipIdx by rw [same]; rfl)
    ready
  cases outcome : importSymbols context context.request.symbols.zipIdx run with
  | error raised reached =>
      rw [outcome] at loop
      have stopped : (importSymbols context context.request.symbols.zipIdx >>= fun _ =>
          concludeLoop context) run = .error raised reached := by
        rw [Loops.bind_apply, outcome]
      rw [runSymbols, Transactions.tryCatch_error stopped] at done
      exact recordFailure_ended loop done
  | ok value reached =>
      rw [outcome] at loop
      have left : Left promise origin reached.progress := loop
      rcases (concludeLoop_projects context).completes reached with
        ⟨concluded, ended, progress⟩
      have completed : (importSymbols context context.request.symbols.zipIdx >>= fun _ =>
          concludeLoop context) run = .ok ⟨⟩ concluded := by
        rw [Loops.bind_apply, outcome]
        exact ended
      rw [runSymbols, Transactions.tryCatch_ok completed] at done
      cases done
      rw [progress]
      exact left.conclude

end End

/-! ## The call -/

/-- What the checks before a run establish: the job may run, its provider has an adapter, and the
loop resumes at the stored cursor. -/
structure Opened (library : Library) (surroundings : Surroundings) (job : ImportJob)
    (database : Database) (context : Context) : Prop where
  status : job.status ∈ runnableStatuses
  library_eq : context.library = library
  request : context.request = job.request
  startIndex : context.startIndex = job.resumeCursor
  provider : exists row, Tables.lookup (·.id) job.request.providerId database.providers = some row ∧
    context.provider = row.code
  adapter : surroundings.registry context.provider = some context.adapter
  heartbeat : context.heartbeat = surroundings.heartbeat
  source : context.source = sourceName context.provider
  validSessions : context.validSessions =
    validSessionDates job.request.start job.request.finish database.calendar

section Call

variable {library : Library} {surroundings : Surroundings} {job : ImportJob} {database : Database}

theorem openRun_ok {context : Context}
    (opened : openRun library surroundings job database = .ok context) :
    Opened library surroundings job database context := by
  unfold openRun at opened
  by_cases runnable : job.status ∉ runnableStatuses
  · rw [if_pos runnable] at opened
    cases opened
  · rw [if_neg runnable] at opened
    cases found : Tables.lookup (·.id) job.request.providerId database.providers with
    | none =>
        rw [found] at opened
        cases opened
    | some provider =>
        simp only [found] at opened
        split at opened
        · cases opened
        · cases registered : surroundings.registry provider.code with
          | none =>
              simp only [registered] at opened
              cases opened
          | some adapter =>
              simp only [registered] at opened
              cases opened
              exact
                { status := Classical.not_not.mp runnable
                  library_eq := rfl
                  request := rfl
                  startIndex := rfl
                  provider := ⟨provider, found, rfl⟩
                  adapter := registered
                  heartbeat := rfl
                  source := rfl
                  validSessions := rfl }

theorem openRun_enabled {context : Context}
    (opened : openRun library surroundings job database = .ok context) :
    exists row, Tables.lookup (·.id) job.request.providerId database.providers = some row ∧
      row.isEnabled = true := by
  unfold openRun at opened
  split at opened
  · cases opened
  · cases found : Tables.lookup (·.id) job.request.providerId database.providers with
    | none =>
        rw [found] at opened
        cases opened
    | some provider =>
        simp only [found] at opened
        refine ⟨provider, rfl, ?_⟩
        split at opened
        · cases opened
        · rename_i enabled
          exact eq_true_of_ne_false enabled

/-- A run starts ready, at its first symbol. -/
theorem Opened.ready {context : Context} {promise : Nat -> Canonical -> Prop}
    (opened : Opened library surroundings job database context)
    (holds : promise job.resumeCursor database.rows) :
    Ready context promise (startRun context job database).progress.current 0
      (startRun context job database).progress where
  saved := rfl
  pending := rfl
  follows := ⟨holds, rfl, rfl, rfl, rfl⟩
  status := rfl
  cursor := by
    rw [opened.startIndex]
    exact (Nat.zero_max _).symm

/-- A completed call, seen from its caller. -/
structure Returned (promise : Nat -> Canonical -> Prop) (job : ImportJob) (database : Database)
    (finished : ImportJob) (after : Database) : Prop where
  rows : promise finished.resumeCursor after.rows
  request : finished.request = job.request
  attempt : finished.attempt = job.attempt + 1
  cancelRequested : finished.cancelRequested = job.cancelRequested
  jobs : after.jobs = Tables.put ImportJob.id finished database.jobs
  calendar : after.calendar = database.calendar
  events : after.events = database.events
  providers : after.fixed.providers = database.fixed.providers
  status : (finished.status = .succeeded ∧
      job.request.symbols.length ≤ finished.resumeCursor) ∨
    finished.status = .cancelled ∨ finished.status = .failed ∨
    (finished.status = .retrying ∧ finished.attempt < job.request.maxAttempts)

/-- The rule of a call: a promise that commits keep holds of what the call leaves. -/
theorem runImportJob_returned {promise : Nat -> Canonical -> Prop} {finished : ImportJob}
    {after : Database}
    (keeps : forall context, Opened library surroundings job database context ->
      Keeps context promise job.request)
    (holds : promise job.resumeCursor database.rows)
    (done : runImportJob library surroundings job database = .ok finished after) :
    Returned promise job database finished after := by
  unfold runImportJob at done
  cases opening : openRun library surroundings job database with
  | error raised =>
      simp only [opening] at done
      cases done
  | ok context =>
      have opened := openRun_ok opening
      simp only [opening] at done
      cases outcome : runSymbols context (startRun context job database) with
      | error raised run =>
          simp only [outcome] at done
          cases done
      | ok value run =>
          simp only [outcome] at done
          cases done
          have ready := opened.ready holds
          have ended := runSymbols_ended (keeps context opened) opened.request ready outcome
          have fixed : run.database.fixed = database.fixed := ended.follows.fixed
          have providers : run.database.fixed.providers = database.fixed.providers :=
            congrArg Fixed.providers fixed
          have request : run.job.request = job.request := ended.follows.request
          refine
            { rows := ended.follows.rows
              request := request
              attempt := ended.follows.attempt
              cancelRequested := ended.follows.cancelRequested
              jobs := ?_
              calendar := congrArg Fixed.calendar fixed
              events := congrArg Fixed.events fixed
              providers := providers
              status := ?_ }
          · exact congrArg (Tables.put ImportJob.id _) (congrArg Fixed.jobs fixed)
          · rw [← request]
            have status := ended.status
            rw [show (startRun context job database).progress.current.job.request = run.job.request
              from request.symm] at status
            exact status

end Call

end MarketData
end MarketIntelligence
