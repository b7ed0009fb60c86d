import MarketIntelligence.Foundations.Runs
import MarketIntelligence.MarketData.QueueSpec
import MarketIntelligence.MarketData.StoreSpec

namespace MarketIntelligence
namespace MarketData

open Foundations
open Loops
open Transactions
open Checkpoints

/-!
# Retries converge

A job is run, cancelled, restarted and recovered in any order, by a provider that
gives a fixed answer whenever it gives one.  What its cursor promises is that the
canonical rows come from the initial ones by committing exactly the batches before
it.  Every operation keeps the promise, so a job that has succeeded has committed all
its batches, and one uninterrupted run commits the same.
-/

/-! ## The system -/

/-- What is done to the job.  A provider error, a crash or a lost lease is part of the
surroundings of a run or of the pass of a worker. -/
inductive JobOperation where
  | run (surroundings : Surroundings)
  | work (pass : Pass)
  | cancel (now : Instant)
  | restart
  | restartAndRun (surroundings : Surroundings)
  | recover (now : Instant)

/-- Each operation is a transaction of its own. -/
def perform (library : Library) (jobId : Identifier) (database : Database) :
    JobOperation -> Database
  | .run surroundings =>
      transact id id (withJob jobId (runImportJob library surroundings)) database
  | .work pass => transact Session.begins (·.database) (workerPass library pass) database
  | .cancel now => transact id id (cancelJob now jobId) database
  | .restart => transact id id (withJob jobId restartImportJob) database
  | .restartAndRun surroundings =>
      transact id id (restartJob library surroundings jobId) database
  | .recover now => transact id id (recoverAbandonedJobs now) database

/-- Every adapter gives the fixed answer whenever it answers. -/
def Deterministic (responses : Responses) (registry : String -> Option (Nat -> Adapter)) : Prop :=
  forall code adapter, registry code = some adapter ->
    forall sequence, (adapter sequence).Answers responses

/-- The operation meets a deterministic provider and starts no other job. -/
def Concerns (library : Library) (responses : Responses) (jobId : Identifier)
    (database : Database) : JobOperation -> Prop
  | .run surroundings => Deterministic responses surroundings.registry
  | .work pass => Deterministic responses pass.registry ∧
      forall started, started ∈ passStarts library pass database -> started = jobId
  | .restartAndRun surroundings => Deterministic responses surroundings.registry
  | _ => True

/-! ## The uninterrupted run -/

/-- A provider that always answers, and no heartbeat. -/
def Responses.surroundings (responses : Responses) (clock : Nat -> Instant) : Surroundings where
  registry := fun _ => some fun _ => responses.adapter
  clock := clock
  heartbeat := none

section Plan

variable (library : Library) (responses : Responses) (request : ImportRequest)
  (initial : Database)

def providerCode : String :=
  ((Tables.lookup (·.id) request.providerId initial.providers).map (·.code)).getD ""

/-- The context of the uninterrupted run. -/
def plan : Context where
  library := library
  adapter := fun _ => responses.adapter
  clock := fun _ => 0
  heartbeat := none
  request := request
  provider := providerCode request initial
  source := sourceName (providerCode request initial)
  validSessions := validSessionDates request.start request.finish initial.calendar
  startIndex := 0

/-- A batch of the job, committed to the rows. -/
def planned (batch : String × Nat) (rows : Canonical) : Option Canonical :=
  committedRows (plan library responses request initial) batch.2 batch.1 rows

end Plan

section Fixed

variable {library : Library} {responses : Responses} {request : ImportRequest}
  {initial database : Database}

/-- The code and the state of a provider are read off from its fixed part. -/
theorem lookup_of_fixed {row : Provider} {providerId : Identifier}
    (same : database.fixed.providers = initial.fixed.providers)
    (found : Tables.lookup (·.id) providerId database.providers = some row) :
    exists known, Tables.lookup (·.id) providerId initial.providers = some known ∧
      known.code = row.code ∧ known.isEnabled = row.isEnabled := by
  have identities : forall providers : List Provider,
      (providers.map fun row => (row.id, row.code, row.isEnabled)).find?
          (fun entry => entry.1 = providerId) =
        (Tables.lookup (·.id) providerId providers).map
          fun row => (row.id, row.code, row.isEnabled) := by
    intro providers
    rw [List.find?_map]
    rfl
  have here := identities database.providers
  rw [found, show database.providers.map _ = initial.providers.map _ from same,
    identities initial.providers] at here
  rcases Option.map_eq_some_iff.mp here with ⟨known, present, equal⟩
  simp only [Prod.mk.injEq] at equal
  exact ⟨known, present, equal.2.1, equal.2.2⟩

/-- The context of any run of the job, made calm, is the plan. -/
theorem Opened.calm_eq {surroundings : Surroundings} {job : ImportJob} {context : Context}
    (opened : Opened library surroundings job database context) (mine : job.request = request)
    (calendar : database.calendar = initial.calendar)
    (providers : database.fixed.providers = initial.fixed.providers) :
    context.calm responses = plan library responses request initial := by
  rcases opened.provider with ⟨row, found, code⟩
  rw [mine] at found
  rcases lookup_of_fixed providers found with ⟨known, present, same, _⟩
  have provider : context.provider = providerCode request initial := by
    rw [code, providerCode, present]
    exact same.symm
  have validSessions := opened.validSessions
  rw [mine, calendar] at validSessions
  simp only [Context.calm, plan, Context.mk.injEq, true_and, and_true]
  exact ⟨opened.library_eq, opened.request.trans mine, provider,
    opened.source.trans (congrArg sourceName provider), validSessions⟩

/-- Every run of the job commits what the plan commits. -/
theorem Opened.keeps {surroundings : Surroundings} {job : ImportJob} {context : Context}
    (opened : Opened library surroundings job database context) (mine : job.request = request)
    (calendar : database.calendar = initial.calendar)
    (providers : database.fixed.providers = initial.fixed.providers)
    (deterministic : Deterministic responses surroundings.registry) :
    Keeps context
      (Reached (planned library responses request initial) request.batches initial.rows)
      job.request := by
  intro position symbol rows committed here reached done
  rw [mine] at here
  have calm := committedRows_calm
    (deterministic context.provider context.adapter opened.adapter) done
  rw [opened.calm_eq mine calendar providers] at calm
  exact reached.next here calm

end Fixed

/-! ## The invariant -/

/-- The provider of the job can be used. -/
def Usable (request : ImportRequest) (initial : Database) : Prop :=
  exists row, Tables.lookup (·.id) request.providerId initial.providers = some row ∧
    row.isEnabled = true

/-- The job is under way: its rows are what its cursor promises. -/
structure Underway (library : Library) (responses : Responses) (request : ImportRequest)
    (initial database : Database) (job : ImportJob) : Prop where
  sole : Tables.Sole ImportJob.id job database.jobs
  mine : job.request = request
  reached : Reached (planned library responses request initial) request.batches initial.rows
    job.resumeCursor database.rows
  succeeded : job.status = .succeeded ->
    request.symbols.length ≤ job.resumeCursor ∧ Usable request initial
  calendar : database.calendar = initial.calendar
  providers : database.fixed.providers = initial.fixed.providers

/-- An operation that leaves the rows an import reads. -/
structure Untouched (before after : Database) : Prop where
  rows : after.rows = before.rows
  calendar : after.calendar = before.calendar
  providers : after.providers = before.providers

section Invariant

variable {library : Library} {responses : Responses} {request : ImportRequest}
  {initial database after : Database} {job : ImportJob}

theorem Untouched.fixed (untouched : Untouched database after) :
    after.fixed.providers = database.fixed.providers := by
  simp only [Database.fixed, untouched.providers]

theorem Underway.id_eq (underway : Underway library responses request initial database job) :
    job.id = request.id :=
  congrArg ImportRequest.id underway.mine

/-- The job itself is written, at the same cursor. -/
theorem Underway.write {written : ImportJob}
    (underway : Underway library responses request initial database job)
    (untouched : Untouched database after)
    (jobs : after.jobs = Tables.put ImportJob.id written database.jobs)
    (same : written.request = job.request) (cursor : written.resumeCursor = job.resumeCursor)
    (status : written.status = .succeeded -> job.status = .succeeded) :
    Underway library responses request initial after written where
  sole := by
    rw [jobs]
    exact underway.sole.put_same (congrArg ImportRequest.id same)
  mine := same.trans underway.mine
  reached := by
    rw [untouched.rows, cursor]
    exact underway.reached
  succeeded := by
    intro done
    rw [cursor]
    exact underway.succeeded (status done)
  calendar := untouched.calendar.trans underway.calendar
  providers := untouched.fixed.trans underway.providers

/-- The row of the job is left alone. -/
theorem Underway.frame
    (underway : Underway library responses request initial database job)
    (untouched : Untouched database after)
    (sole : Tables.Sole ImportJob.id job after.jobs) :
    Underway library responses request initial after job where
  sole := sole
  mine := underway.mine
  reached := by
    rw [untouched.rows]
    exact underway.reached
  succeeded := underway.succeeded
  calendar := untouched.calendar.trans underway.calendar
  providers := untouched.fixed.trans underway.providers

theorem Underway.lookup (underway : Underway library responses request initial database job) :
    Tables.lookup ImportJob.id request.id database.jobs = some job := by
  rw [← underway.id_eq]
  exact underway.sole.lookup

theorem queuedJob_underway (distinct : (initial.jobs.map ImportJob.id).Nodup)
    (queued : Tables.lookup ImportJob.id request.id initial.jobs = some (queuedJob request)) :
    Underway library responses request initial initial (queuedJob request) where
  sole := Tables.sole_of_lookup distinct queued
  mine := rfl
  reached := Reached.start request.batches initial.rows
  succeeded := fun impossible => by cases impossible
  calendar := rfl
  providers := rfl

/-! ### The operations -/

theorem Underway.run {surroundings : Surroundings} {finished : ImportJob}
    (underway : Underway library responses request initial database job)
    (deterministic : Deterministic responses surroundings.registry)
    (done : runImportJob library surroundings job database = .ok finished after) :
    Underway library responses request initial after finished := by
  have returned := runImportJob_returned
    (fun context opened => opened.keeps underway.mine underway.calendar underway.providers
      deterministic) underway.reached done
  refine
    { sole := ?_
      mine := returned.request.trans underway.mine
      reached := returned.rows
      succeeded := ?_
      calendar := returned.calendar.trans underway.calendar
      providers := returned.providers.trans underway.providers }
  · rw [returned.jobs]
    exact underway.sole.put_same (congrArg ImportRequest.id returned.request)
  · intro succeeded
    constructor
    · rcases returned.status with ⟨_, past⟩ | cancelled | failed | ⟨retrying, _⟩
      · exact underway.mine ▸ past
      · rw [cancelled] at succeeded
        cases succeeded
      · rw [failed] at succeeded
        cases succeeded
      · rw [retrying] at succeeded
        cases succeeded
    · cases opening : openRun library surroundings job database with
      | error raised =>
          simp only [runImportJob, opening] at done
          cases done
      | ok context =>
          rcases openRun_enabled opening with ⟨row, found, enabled⟩
          rw [underway.mine] at found
          rcases lookup_of_fixed underway.providers found with ⟨known, present, _, same⟩
          exact ⟨known, present, same.trans enabled⟩

theorem Underway.restart {restarted : ImportJob}
    (underway : Underway library responses request initial database job)
    (done : restartImportJob job database = .ok restarted after) :
    Underway library responses request initial after restarted := by
  rcases restartImportJob_ok done with ⟨_, same, written⟩
  subst same
  subst written
  exact underway.write ⟨rfl, rfl, rfl⟩ rfl rfl rfl fun impossible => by cases impossible

theorem Underway.cancel {now : Instant} {cancelled : ImportJob}
    (underway : Underway library responses request initial database job)
    (done : requestCancellation now job database = .ok cancelled after) :
    Underway library responses request initial after cancelled := by
  rcases requestCancellation_ok done with ⟨_, same, written⟩
  subst same
  subst written
  refine underway.write ⟨rfl, rfl, rfl⟩ rfl rfl rfl ?_
  intro succeeded
  simp only [ImportJob.cancelling] at succeeded
  split at succeeded
  · cases succeeded
  · exact succeeded

theorem recoverAbandonedJobs_underway (now : Instant) :
    Preserves (fun database => exists job,
        Underway library responses request initial database job)
      (recoverAbandonedJobs now) := by
  apply recoverAbandonedJobs_preserves
  constructor
  · intro database lease holds
    rcases holds with ⟨job, underway⟩
    exact ⟨job, underway.frame ⟨rfl, rfl, rfl⟩ underway.sole⟩
  · intro database other holds member running _
    rcases holds with ⟨job, underway⟩
    by_cases mine : other.id = job.id
    · have same := underway.sole.eq_of_mem member mine
      refine ⟨other.abandoned now, underway.write ⟨rfl, rfl, rfl⟩ rfl (by rw [same]; rfl)
        (by rw [same]; rfl) ?_⟩
      intro succeeded
      unfold ImportJob.abandoned at succeeded
      dsimp only at succeeded
      split at succeeded <;> cases succeeded
    · exact ⟨job, underway.frame ⟨rfl, rfl, rfl⟩ (underway.sole.put_other mine)⟩

theorem processDueSchedules_underway (pass : Pass) :
    Preserves (fun database => exists job,
        Underway library responses request initial database job)
      (processDueSchedules pass) := by
  apply processDueSchedules_preserves
  intro database due holds fresh
  rcases holds with ⟨job, underway⟩
  refine ⟨job, underway.frame ⟨rfl, rfl, rfl⟩ (underway.sole.append ?_)⟩
  intro other added equal
  rw [List.mem_singleton.mp added] at equal
  exact fresh job (Tables.lookup_some underway.sole.lookup).1 equal.symm

/-- Up to the claim of a pass.  If the claimed job is this one, it is under way as it
has been claimed. -/
theorem Reaches.underway {pass : Pass} {outcome : Option (ImportJob × JobLease)}
    {claimed : Database} (reaches : Reaches pass database outcome claimed)
    (underway : Underway library responses request initial database job) :
    (exists row, Underway library responses request initial claimed row) ∧
      forall taken lease, outcome = some (taken, lease) -> taken.id = request.id ->
        Underway library responses request initial claimed taken := by
  cases reaches with
  | intro recovered scheduled recovers schedules claims =>
    have kept := recoverAbandonedJobs_underway pass.now database ⟨job, underway⟩
    rw [recovers] at kept
    have planned := processDueSchedules_underway pass recovered kept
    rw [schedules] at planned
    rcases planned with ⟨row, scheduledUnderway⟩
    rcases claimNextJob_cases pass.workerId pass.leaseSeconds pass.now scheduled with
      idle | ⟨candidate, after, taken, done⟩
    · rw [idle] at claims
      cases claims
      exact ⟨⟨row, scheduledUnderway⟩, fun _ _ impossible => by cases impossible⟩
    · rw [done] at claims
      cases claims
      have rest := taken.rest
      simp only [Prod.mk.injEq] at rest
      have untouched : Untouched scheduled claimed := ⟨rest.1, rest.2.2.2.2.1, rest.2.2.1⟩
      by_cases mine : candidate.id = row.id
      · have same := scheduledUnderway.sole.eq_of_mem taken.member mine
        have written : Underway library responses request initial claimed
            (candidate.claimed pass.now) :=
          scheduledUnderway.write untouched taken.jobs (by rw [same]; rfl) (by rw [same]; rfl)
            fun impossible => by cases impossible
        exact ⟨⟨_, written⟩, fun _ _ chosen _ => by cases chosen; exact written⟩
      · refine ⟨⟨row, scheduledUnderway.frame untouched ?_⟩, ?_⟩
        · rw [taken.jobs]
          exact scheduledUnderway.sole.put_other mine
        · intro other lease chosen same
          cases chosen
          exact absurd (same.trans scheduledUnderway.id_eq.symm) mine

theorem Underway.work {pass : Pass} {session : Session}
    (underway : Underway library responses request initial database job)
    (deterministic : Deterministic responses pass.registry)
    (concerns : forall started, started ∈ passStarts library pass database ->
      started = request.id)
    (done : workerPass library pass (Session.begins database) = .ok ⟨⟩ session) :
    exists row, Underway library responses request initial session.database row := by
  have starts : passStarts library pass database = session.started := by
    rw [passStarts, done]
    rfl
  cases workerPass_committed done with
  | idle claimed reaches => exact (reaches.underway underway).1
  | executed taken lease claimed reaches finished after executes =>
      have mine : taken.id = request.id :=
        concerns taken.id (starts ▸ List.mem_singleton_self taken.id)
      have claimedUnderway := (reaches.underway underway).2 taken lease rfl mine
      rcases executeClaimedJob_ok executes with ⟨imported, ran, fleet, same, _⟩
      have run := claimedUnderway.run (by exact deterministic) ran
      refine ⟨finished, run.frame ?_ ?_⟩
      · rw [same]
        exact ⟨rfl, rfl, rfl⟩
      · rw [same]
        exact run.sole

/-- The step lemma. -/
theorem perform_underway {operation : JobOperation}
    (concerns : Concerns library responses request.id database operation)
    (holds : exists job, Underway library responses request initial database job) :
    exists job, Underway library responses request initial
      (perform library request.id database operation) job := by
  rcases holds with ⟨job, underway⟩
  have stays : forall program : DatabaseProgram ImportJob,
      (forall written after, program database = .ok written after ->
        exists row, Underway library responses request initial after row) ->
      exists row, Underway library responses request initial (transact id id program database)
        row :=
    fun _ completes => transact_preserves
      (motive := fun after => exists row, Underway library responses request initial after row)
      ⟨job, underway⟩ completes
  cases operation with
  | run surroundings =>
      apply stays
      intro written after done
      rcases withJob_ok done with ⟨row, found, ran⟩
      cases underway.lookup.symm.trans found
      exact ⟨written, underway.run concerns ran⟩
  | work pass =>
      change exists row, Underway library responses request initial
        (transact Session.begins (·.database) (workerPass library pass) database) row
      cases ended : workerPass library pass (Session.begins database) with
      | ok value session =>
          rw [transact_ok ended]
          exact underway.work concerns.1 concerns.2 ended
      | error raised session =>
          rw [transact_error ended]
          exact ⟨job, underway⟩
  | cancel now =>
      apply stays
      intro written after done
      rcases withJob_ok done with ⟨row, found, ran⟩
      cases underway.lookup.symm.trans found
      exact ⟨written, underway.cancel ran⟩
  | restart =>
      apply stays
      intro written after done
      rcases withJob_ok done with ⟨row, found, ran⟩
      cases underway.lookup.symm.trans found
      exact ⟨written, underway.restart ran⟩
  | restartAndRun surroundings =>
      apply stays
      intro written after done
      rcases restartJob_ok done with ⟨row, middle, found, restarts, runs⟩
      cases underway.lookup.symm.trans found
      exact ⟨written, (underway.restart restarts).run concerns runs⟩
  | recover now =>
      have kept := recoverAbandonedJobs_underway now database ⟨job, underway⟩
      have committed : perform library request.id database (.recover now) =
          transact id id (recoverAbandonedJobs now) database := rfl
      rw [committed]
      cases ended : recoverAbandonedJobs now database with
      | ok value recovered =>
          rw [ended] at kept
          rw [transact_ok (by exact ended)]
          exact kept
      | error raised recovered =>
          rw [transact_error (by exact ended)]
          exact ⟨job, underway⟩

end Invariant

/-! ## The uninterrupted run commits every batch -/

section Uninterrupted

variable {context : Context}

theorem callHeartbeat_none (quiet : context.heartbeat = none) (call : Nat) (run : Run) :
    callHeartbeat context call run = .ok ⟨⟩ run := by
  simp only [callHeartbeat, quiet]
  rfl

/-- The loop goes through, by induction on the batches that are left. -/
theorem importSymbols_commits (quiet : context.heartbeat = none) (fresh : context.startIndex = 0)
    {rest : List (String × Nat)} :
    forall {run : Run} {current : Snapshot} {rows : Canonical},
      run.progress = ⟨current, .empty, none⟩ -> current.job.cancelRequested = false ->
      committed (fun batch rows => committedRows context batch.2 batch.1 rows) current.rows rest =
        some rows ->
      exists final cursor, importSymbols context rest run = .ok ⟨⟩ final ∧
        final.progress = ⟨{ current.advance cursor with rows := rows }, .empty, none⟩ := by
  induction rest with
  | nil =>
      intro run current rows steady wanted done
      cases done
      exact ⟨run, current.job.resumeCursor, rfl, steady⟩
  | cons head tail ih =>
      intro run current rows steady wanted done
      rcases head with ⟨symbol, sequence⟩
      rw [committed_cons] at done
      rcases Option.bind_eq_some_iff.mp done with ⟨middle, first, others⟩
      rcases importSymbol_cases context sequence symbol steady with
        ⟨next, reached, here, imports, progress⟩ | ⟨_, refused, _⟩ | ⟨_, _, refused, _⟩
      · have same : next = middle := Option.some.inj (here.symm.trans first)
        have goesOn : run.job.cancelRequested = false := by
          have cancelled : run.progress.current.job.cancelRequested = false := by
            rw [steady]
            exact wanted
          exact cancelled
        have visited : visitSymbol context sequence symbol run = .ok true reached := by
          rw [visitSymbol, Loops.bind_get, goesOn, if_neg Bool.false_ne_true, Loops.bind_apply,
            imports]
          simp only [if_true]
          rw [Loops.bind_apply, callHeartbeat_none quiet]
          rfl
        rw [same] at progress
        rcases ih progress wanted others with ⟨final, cursor, ended, kept⟩
        refine ⟨final, cursor, ?_, kept⟩
        rw [importSymbols, Loops.bind_apply, callHeartbeat_none quiet]
        simp only
        rw [if_neg (by omega), Loops.bind_apply, visited]
        simp only [if_true]
        exact ended
      · exact absurd (first.symm.trans refused) (by simp)
      · exact absurd (first.symm.trans refused) (by simp)

theorem committedRows_of_calm {responses : Responses}
    (answers : context.adapter = fun _ => responses.adapter) (sequence : Nat) (symbol : String)
    (rows : Canonical) :
    committedRows context sequence symbol rows =
      committedRows (context.calm responses) sequence symbol rows := by
  rcases context with ⟨library, adapter, clock, heartbeat, request, provider, source, sessions, start⟩
  cases answers
  rfl

/-- When every batch can be committed, the uninterrupted run commits them. -/
theorem uninterrupted_succeeds {library : Library} {responses : Responses}
    {request : ImportRequest} {initial : Database} {rows : Canonical}
    (usable : Usable request initial)
    (done : committed (planned library responses request initial) initial.rows request.batches =
      some rows) (clock : Nat -> Instant) :
    exists finished after,
      runImportJob library (responses.surroundings clock) (queuedJob request) initial =
        .ok finished after ∧ finished.status = .succeeded ∧ after.rows = rows := by
  rcases usable with ⟨row, found, enabled⟩
  have opens : exists context, openRun library (responses.surroundings clock) (queuedJob request)
      initial = .ok context :=
    openRun_completes (show JobStatus.queued ∈ runnableStatuses by decide) ⟨row, found, enabled, rfl⟩
  rcases opens with ⟨context, opening⟩
  have opened := openRun_ok opening
  have answers : context.adapter = fun _ => responses.adapter :=
    (Option.some.inj opened.adapter).symm
  have same : (fun batch rows => committedRows context batch.2 batch.1 rows) =
      planned library responses request initial := by
    funext batch rows
    rw [committedRows_of_calm answers, opened.calm_eq rfl rfl rfl]
    rfl
  rw [← same] at done
  rcases importSymbols_commits opened.heartbeat opened.startIndex
    (show (startRun context (queuedJob request) initial).progress = ⟨_, .empty, none⟩ from rfl)
    rfl done with ⟨reached, cursor, looped, progress⟩
  rcases (concludeLoop_projects context).completes reached with ⟨final, ended, concluded⟩
  have completed : (importSymbols context context.request.symbols.zipIdx >>= fun _ =>
      concludeLoop context) (startRun context (queuedJob request) initial) = .ok ⟨⟩ final := by
    rw [Loops.bind_apply, show context.request.symbols.zipIdx = request.batches by
      rw [opened.request]; rfl, looped]
    exact ended
  refine ⟨(finishRun final).2, (finishRun final).1, ?_, ?_, ?_⟩
  · simp only [runImportJob, opening]
    rw [runSymbols, Transactions.tryCatch_ok completed]
  · have status : final.progress.current.job.status = .succeeded := by
      rw [concluded, progress]
      rfl
    exact status
  · have stored : final.progress.current.rows = rows := by
      rw [concluded, progress]
      rfl
    exact stored

end Uninterrupted

/-! ## Every run of operations -/

/-- What the retries have made of the database, compared with the initial one: the rows of the
committed batches, without a bar twice, behind the bars that were there; and, once the job has
succeeded, the bars of one run without interruption. -/
structure Converged (library : Library) (responses : Responses) (request : ImportRequest)
    (initial database : Database) (job : ImportJob) : Prop where
  promised : Reached (planned library responses request initial) request.batches initial.rows
    job.resumeCursor database.rows
  distinct : (database.rows.bars.map PriceBar.identity).Nodup
  unmodified : initial.rows.bars <+: database.rows.bars
  uninterrupted : job.status = .succeeded -> forall clock, exists finished after,
    runImportJob library (responses.surroundings clock) (queuedJob request) initial =
      .ok finished after ∧
    finished.status = .succeeded ∧ after.rows.bars = database.rows.bars

section Convergence

variable {library : Library} {responses : Responses} {request : ImportRequest}
  {initial database : Database} {job : ImportJob}

theorem Underway.converged
    (underway : Underway library responses request initial database job)
    (distinct : (initial.rows.bars.map PriceBar.identity).Nodup) :
    Converged library responses request initial database job where
  promised := underway.reached
  distinct := by
    apply underway.reached.preserves (motive := fun rows =>
      (rows.bars.map PriceBar.identity).Nodup) ?_ distinct
    intro batch rows following done _
    exact (committedRows_consistent done).bars
  unmodified := by
    apply underway.reached.preserves (motive := fun rows => initial.rows.bars <+: rows.bars) ?_
      (List.prefix_refl _)
    intro batch rows following done grown
    exact grown.trans (committedRows_bars done)
  uninterrupted := by
    intro succeeded clock
    rcases underway.succeeded succeeded with ⟨past, usable⟩
    have every := underway.reached.finish (by rw [batches_length]; exact past)
    rcases uninterrupted_succeeds usable every clock with ⟨finished, after, ran, status, rows⟩
    exact ⟨finished, after, ran, status, by rw [rows]⟩

/-- Whatever happens to the job, its rows are those of its committed batches, and once
it has succeeded they are those of one uninterrupted run. -/
theorem retries_converge {operations : List JobOperation}
    (distinctJobs : (initial.jobs.map ImportJob.id).Nodup)
    (distinctBars : (initial.rows.bars.map PriceBar.identity).Nodup)
    (queued : Tables.lookup ImportJob.id request.id initial.jobs = some (queuedJob request))
    (concerns : Runs.Along (perform library request.id)
      (Concerns library responses request.id) initial operations) :
    forall database, database ∈ Runs.states (perform library request.id) initial operations ->
      exists job, Tables.lookup ImportJob.id request.id database.jobs = some job ∧
        Converged library responses request initial database job := by
  intro database visited
  have reached := concerns.preserves
    (motive := fun database => exists job,
      Underway library responses request initial database job)
    (fun _ _ permitted holds => perform_underway permitted holds)
    ⟨queuedJob request, queuedJob_underway distinctJobs queued⟩ database visited
  rcases reached with ⟨job, underway⟩
  exact ⟨job, underway.lookup, underway.converged distinctBars⟩

end Convergence

/-! ## A failure, a restart and a retry -/

def dailyBar : HistoricalBarRecord where
  symbol := "ATOM"
  interval := "1d"
  eventTime := 0
  publicationTime := 0
  effectiveTime := 0
  retrievalTime := day
  openPrice := 10
  high := 12
  low := 9
  closePrice := 11
  adjustedClose := 11
  volume := 100
  adjustmentStatus := "unadjusted"
  version := 1
  checksum := "b0"
  rawMetadata := none

def dailyResponses : Responses where
  metadata := fun symbol =>
    ⟨symbol, "Atom Corp", "equity", "XNYS", "USD", none, none, 0, 0, [], 1, "m0"⟩
  bars := fun _ _ _ _ => [dailyBar]
  actions := fun _ _ _ => []

def failingSurroundings : Surroundings where
  registry := fun _ => some fun _ => .raising timeout
  clock := fun _ => 0
  heartbeat := none

def dailyOperations : List JobOperation :=
  [.run failingSurroundings, .restart, .run (dailyResponses.surroundings fun _ => 0)]

theorem raising_answers (raised : Exception) (responses : Responses) :
    (Adapter.raising raised).Answers responses where
  metadata := fun _ _ impossible => by cases impossible
  bars := fun _ _ _ _ _ impossible => by cases impossible
  actions := fun _ _ _ _ impossible => by cases impossible

theorem adapter_answers (responses : Responses) : responses.adapter.Answers responses where
  metadata := fun _ _ answered => (Except.ok.inj answered).symm
  bars := fun _ _ _ _ _ answered => (Except.ok.inj answered).symm
  actions := fun _ _ _ _ answered => (Except.ok.inj answered).symm

theorem dailyOperations_concern :
    Runs.Along (perform plainLibrary dailyRequest.id)
      (Concerns plainLibrary dailyResponses dailyRequest.id) dailyQueue dailyOperations := by
  refine ⟨?_, trivial, ?_, trivial⟩
  · intro code adapter registered sequence
    cases registered
    exact raising_answers timeout dailyResponses
  · intro code adapter registered sequence
    cases registered
    exact adapter_answers dailyResponses

/-- The job fails, is restarted and succeeds with the bars of one run. -/
theorem dailyOperations_converge :
    exists database job,
      database = dailyOperations.foldl (perform plainLibrary dailyRequest.id) dailyQueue ∧
      Tables.lookup ImportJob.id dailyRequest.id database.jobs = some job ∧
      job.status = .succeeded ∧ database.rows.bars.length = 1 ∧
      Converged plainLibrary dailyResponses dailyRequest dailyQueue database job := by
  rcases retries_converge (by decide) (by decide) rfl dailyOperations_concern _
    (Runs.foldl_mem_states dailyQueue dailyOperations) with ⟨job, found, converged⟩
  have ended : ((Tables.lookup ImportJob.id dailyRequest.id
      (dailyOperations.foldl (perform plainLibrary dailyRequest.id) dailyQueue).jobs).map
        (·.status) = some .succeeded) ∧
      (dailyOperations.foldl (perform plainLibrary dailyRequest.id) dailyQueue).rows.bars.length =
        1 := by
    decide +kernel
  rw [found] at ended
  exact ⟨_, job, rfl, found, Option.some.inj ended.1, ended.2, converged⟩

end MarketData
end MarketIntelligence
