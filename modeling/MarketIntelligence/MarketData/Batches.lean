import MarketIntelligence.MarketData.Audit
import MarketIntelligence.MarketData.BatchRun
import MarketIntelligence.MarketData.Convergence

namespace MarketIntelligence
namespace MarketData

open Foundations
open Loops
open Transactions

/-!
# A batch that has succeeded is committed

A job is created, claimed, executed, cancelled, restarted and recovered in any order,
between the same operations on other jobs, with any answers of the provider and any
heartbeat.  As long as no heartbeat behind a committed symbol raises what the run
catches, a batch has succeeded if and only if its symbol has been committed and the
cursor is past it, and it stays so.

A lease that expires between the commit of a symbol and the next heartbeat breaks this:
the run fails, and marks the committed batch as failed.
-/

/-! ## The system -/

/-- What is done to the queue.  A run of a job can be given any heartbeat. -/
inductive QueueAction where
  | queue (operation : QueueOperation)
  | run (jobId : Identifier) (surroundings : Surroundings)
  | register (workerId : Identifier) (now : Instant)
  | stop (workerId : Identifier) (now : Instant)

/-- Each action is a transaction of its own. -/
def act (library : Library) (database : Database) : QueueAction -> Database
  | .queue operation => operate library database operation
  | .run jobId surroundings =>
      transact id id (withJob jobId (runImportJob library surroundings)) database
  | .register workerId now => transact id id (registerWorker workerId now) database
  | .stop workerId now => transact id id (stopWorker workerId now) database

/-- The database, with the actions taken so far and the databases they found. -/
structure History where
  database : Database
  past : List (Database × QueueAction)

def History.step (library : Library) (history : History) (action : QueueAction) : History :=
  ⟨act library history.database action, history.past ++ [(history.database, action)]⟩

/-- The action calls `run_import_job` for the job, in these surroundings, on this row and
this database. -/
inductive Starts (jobId : Identifier) (database : Database) :
    QueueAction -> Surroundings -> ImportJob -> Database -> Prop where
  | direct (surroundings : Surroundings) (job : ImportJob)
      (found : Tables.lookup ImportJob.id jobId database.jobs = some job) :
      Starts jobId database (.run jobId surroundings) surroundings job database
  | quiet (registry : String -> Option (Nat -> Adapter)) (clock : Nat -> Instant)
      (job : ImportJob) (found : Tables.lookup ImportJob.id jobId database.jobs = some job) :
      Starts jobId database (.queue (.run jobId registry clock)) (quietly registry clock) job
        database
  | restarted (registry : String -> Option (Nat -> Adapter)) (clock : Nat -> Instant)
      (job : ImportJob) (middle : Database)
      (found : Tables.lookup ImportJob.id jobId database.jobs = some job)
      (restarts : restartImportJob job database = .ok job.restarted middle) :
      Starts jobId database (.queue (.restartAndRun jobId registry clock))
        (quietly registry clock) job.restarted middle
  | executed (pass : Pass) (job : ImportJob)
      (found : Tables.lookup ImportJob.id jobId database.jobs = some job) :
      Starts jobId database (.queue (.execute jobId pass)) (pass.surroundings job) job database
  | claimed (pass : Pass) (job : ImportJob) (lease : JobLease) (opened : Database)
      (reaches : Reaches pass database (some (job, lease)) opened) (mine : job.id = jobId) :
      Starts jobId database (.queue (.pass pass)) (pass.surroundings job) job opened

/-- No heartbeat that follows a committed symbol of the job raises what its run catches.  Where
one does, the run takes the symbol for failed although its rows are stored. -/
def Untroubled (library : Library) (jobId : Identifier) (history : History)
    (action : QueueAction) : Prop :=
  forall surroundings job opened, Starts jobId history.database action surroundings job opened ->
    Steady library surroundings job opened

/-! ## The truth about a batch -/

/-- A run of the job had this context, and found these rows. -/
def History.Ran (library : Library) (jobId : Identifier) (history : History) (context : Context)
    (found : Canonical) : Prop :=
  exists before action surroundings job opened, (before, action) ∈ history.past ∧
    Starts jobId before action surroundings job opened ∧
    Opened library surroundings job opened context ∧ opened.rows = found

/-- The symbol has been committed by one of these runs, and its rows are still there. -/
def Stored (request : ImportRequest) (ran : Context -> Canonical -> Prop) (rows : Canonical)
    (sequence : Nat) : Prop :=
  exists context found before committed symbol, ran context found ∧ found.Grows before ∧
    request.batches[sequence]? = some (symbol, sequence) ∧
    committedRows context sequence symbol before = some committed ∧ committed.Grows rows

/-- The batches of the job tell the truth: a batch says that it has succeeded exactly when the
cursor is past it and its rows are stored, it never takes that back, and a job that has succeeded
has only such batches. -/
structure Honest (library : Library) (request : ImportRequest) (history : History)
    (job : ImportJob) : Prop where
  succeeded : forall sequence, sequence < request.symbols.length ->
    (batchStatus request.id history.database sequence = some .succeeded <->
      sequence < job.resumeCursor ∧
        Stored request (history.Ran library request.id) history.database.rows sequence)
  distinct : DistinctBatches history.database
  kept : forall before action, (before, action) ∈ history.past -> forall sequence,
    batchStatus request.id before sequence = some .succeeded ->
      batchStatus request.id history.database sequence = some .succeeded
  complete : job.status = .succeeded ->
    (forall sequence, sequence < request.symbols.length ->
      batchStatus request.id history.database sequence = some .succeeded) ∧
    forall batch, batch ∈ history.database.batches -> batch.jobId = request.id ->
      batch.status = .succeeded

/-! ## The invariant -/

/-- The row of the job, its batches and the stored rows agree, and the cursor has not
moved back. -/
structure Truthful (request : ImportRequest) (ran : Context -> Canonical -> Prop) (floor : Nat)
    (database : Database) (job : ImportJob) : Prop where
  sole : Tables.Sole ImportJob.id job database.jobs
  mine : job.request = request
  sound : Sound request job.resumeCursor database
  stored : forall sequence, sequence < job.resumeCursor ->
    Stored request ran database.rows sequence
  finished : job.status = .succeeded -> request.symbols.length ≤ job.resumeCursor
  distinct : DistinctBatches database
  grown : floor ≤ job.resumeCursor

section Invariant

variable {request : ImportRequest} {ran : Context -> Canonical -> Prop} {floor : Nat}
  {library : Library} {database after : Database} {job other written : ImportJob}

theorem Stored.grows {rows later : Canonical} {sequence : Nat}
    (stored : Stored request ran rows sequence) (grows : rows.Grows later) :
    Stored request ran later sequence := by
  rcases stored with ⟨context, found, before, committed, symbol, known, start, here, done, kept⟩
  exact ⟨context, found, before, committed, symbol, known, start, here, done, kept.trans grows⟩

theorem Spared.of_same {jobId : Identifier} (rows : after.rows = database.rows)
    (batches : after.batches = database.batches) : Spared jobId database after where
  statuses := by
    funext sequence
    rw [batchStatus, batches]
    rfl
  rows := rows ▸ .refl _

theorem DistinctBatches.of_same (distinct : DistinctBatches database)
    (batches : after.batches = database.batches) : DistinctBatches after := by
  unfold DistinctBatches
  rw [batches]
  exact distinct

theorem Truthful.id_eq (truthful : Truthful request ran floor database job) :
    job.id = request.id :=
  congrArg ImportRequest.id truthful.mine

/-- The job at the same cursor, in a database that spares its batches. -/
theorem Truthful.carry (truthful : Truthful request ran floor database job)
    (sole : Tables.Sole ImportJob.id written after.jobs) (same : written.request = job.request)
    (cursor : written.resumeCursor = job.resumeCursor)
    (status : written.status = .succeeded -> job.status = .succeeded)
    (spared : Spared request.id database after) (distinct : DistinctBatches after) :
    Truthful request ran floor after written where
  sole := sole
  mine := same.trans truthful.mine
  sound := cursor.symm ▸ truthful.sound.congr spared.statuses
  stored := fun sequence before =>
    (truthful.stored sequence (cursor ▸ before)).grows spared.rows
  finished := fun succeeded => cursor.symm ▸ truthful.finished (status succeeded)
  distinct := distinct
  grown := cursor.symm ▸ truthful.grown

/-- A job of the queue is written, at its own cursor. -/
theorem Truthful.rewrite (truthful : Truthful request ran floor database job)
    (written : ImportJob) (member : other ∈ database.jobs)
    (same : written.request = other.request)
    (cursor : written.resumeCursor = other.resumeCursor)
    (status : written.status = .succeeded -> other.status = .succeeded)
    (jobs : after.jobs = Tables.put ImportJob.id written database.jobs)
    (rows : after.rows = database.rows) (batches : after.batches = database.batches) :
    exists row, Truthful request ran floor after row := by
  have key : written.id = other.id := congrArg ImportRequest.id same
  by_cases mine : other.id = job.id
  · cases truthful.sole.eq_of_mem member mine
    exact ⟨written, truthful.carry (jobs.symm ▸ truthful.sole.put_same key) same cursor status
      (.of_same rows batches) (truthful.distinct.of_same batches)⟩
  · exact ⟨job, truthful.carry (jobs.symm ▸ truthful.sole.put_other (key ▸ mine)) rfl rfl
      (fun succeeded => succeeded) (.of_same rows batches) (truthful.distinct.of_same batches)⟩

/-- What is written is neither a job nor a batch nor a row. -/
theorem Truthful.frame (truthful : Truthful request ran floor database job)
    (jobs : after.jobs = database.jobs) (rows : after.rows = database.rows)
    (batches : after.batches = database.batches) : Truthful request ran floor after job :=
  truthful.carry (jobs.symm ▸ truthful.sole) rfl rfl (fun succeeded => succeeded)
    (.of_same rows batches) (truthful.distinct.of_same batches)

/-- A queued job of a new identifier is added. -/
theorem Truthful.add {added : ImportRequest} (truthful : Truthful request ran floor database job)
    (fresh : forall known, known ∈ database.jobs -> known.id ≠ added.id)
    (jobs : after.jobs = database.jobs ++ [queuedJob added]) (rows : after.rows = database.rows)
    (batches : after.batches = database.batches) : Truthful request ran floor after job := by
  refine truthful.carry ?_ rfl rfl (fun succeeded => succeeded) (.of_same rows batches)
    (truthful.distinct.of_same batches)
  rw [jobs]
  apply truthful.sole.append
  intro new member equal
  rw [List.mem_singleton.mp member] at equal
  exact fresh job (Tables.lookup_some truthful.sole.lookup).1 equal.symm

/-! ### Runs -/

/-- A run of the job that returns. -/
theorem Truthful.imported {surroundings : Surroundings} {finished : ImportJob}
    (truthful : Truthful request ran floor database job)
    (known : forall context, Opened library surroundings job database context ->
      ran context database.rows)
    (steady : Steady library surroundings job database)
    (done : runImportJob library surroundings job database = .ok finished after) :
    Truthful request ran floor after finished := by
  have mine := truthful.mine
  subst mine
  have keeps : forall context, Opened library surroundings job database context ->
      Keeps context (fun cursor rows => floor ≤ cursor ∧ database.rows.Grows rows ∧
        forall sequence, sequence < cursor -> Stored job.request ran rows sequence)
        job.request := by
    intro context opened position symbol rows committed here promised done
    rcases promised with ⟨above, grown, stored⟩
    have grows := committedRows_grows done
    refine ⟨Nat.le_succ_of_le above, grown.trans grows, ?_⟩
    intro sequence before
    rcases Nat.lt_succ_iff_lt_or_eq.mp before with earlier | last
    · exact (stored sequence earlier).grows grows
    · subst last
      exact ⟨context, database.rows, rows, committed, symbol, known context opened, grown, here,
        done, .refl _⟩
  have returned := runImportJob_returned keeps
    ⟨truthful.grown, .refl _, truthful.stored⟩ done
  rcases returned.rows with ⟨above, _, stored⟩
  refine
    { sole := ?_
      mine := returned.request
      sound := runImportJob_sound truthful.sound steady done
      stored := stored
      finished := ?_
      distinct := runImportJob_distinct truthful.distinct done
      grown := above }
  · rw [returned.jobs]
    exact truthful.sole.put_same (congrArg ImportRequest.id returned.request)
  · intro succeeded
    rcases returned.status with ⟨_, past⟩ | cancelled | failed | ⟨retrying, _⟩
    · exact past
    · rw [cancelled] at succeeded
      cases succeeded
    · rw [failed] at succeeded
      cases succeeded
    · rw [retrying] at succeeded
      cases succeeded

/-- The account knows what a run of this row would find, and nothing troubles the run. -/
def Expected (library : Library) (ran : Context -> Canonical -> Prop)
    (surroundings : Surroundings) (row : ImportJob) (opened : Database) : Prop :=
  (forall context, Opened library surroundings row opened context -> ran context opened.rows) ∧
    Steady library surroundings row opened

/-- A run of a job of the queue, be it this one or another. -/
theorem Truthful.runs {surroundings : Surroundings} {finished : ImportJob}
    (truthful : Truthful request ran floor database job) (member : other ∈ database.jobs)
    (starts : other.id = request.id -> Expected library ran surroundings other database)
    (done : runImportJob library surroundings other database = .ok finished after) :
    exists row, Truthful request ran floor after row := by
  by_cases mine : other.id = request.id
  · cases truthful.sole.eq_of_mem member (mine.trans truthful.id_eq.symm)
    exact ⟨finished, truthful.imported (starts mine).1 (starts mine).2 done⟩
  · have returned : Returned (fun _ _ => True) other database finished after :=
      runImportJob_returned (fun _ _ _ _ _ _ _ _ _ => trivial) trivial done
    have key : finished.id = other.id := congrArg ImportRequest.id returned.request
    refine ⟨job, truthful.carry ?_ rfl rfl (fun succeeded => succeeded)
      (runImportJob_spared mine done) (runImportJob_distinct truthful.distinct done)⟩
    rw [returned.jobs]
    exact truthful.sole.put_other (by rw [key, truthful.id_eq]; exact mine)

/-! ### The operations of the queue -/

theorem recoverAbandonedJobs_truthful (now : Instant) :
    Preserves (fun database => exists job, Truthful request ran floor database job)
      (recoverAbandonedJobs now) := by
  apply recoverAbandonedJobs_preserves
  constructor
  · intro database lease holds
    rcases holds with ⟨job, truthful⟩
    exact ⟨job, truthful.frame rfl rfl rfl⟩
  · intro database other holds member running _
    rcases holds with ⟨job, truthful⟩
    have unsucceeded : (other.abandoned now).status = .succeeded -> other.status = .succeeded := by
      intro succeeded
      unfold ImportJob.abandoned at succeeded
      dsimp only at succeeded
      split at succeeded <;> cases succeeded
    exact truthful.rewrite (other.abandoned now) member rfl rfl unsucceeded rfl rfl rfl

theorem processDueSchedules_truthful (pass : Pass) :
    Preserves (fun database => exists job, Truthful request ran floor database job)
      (processDueSchedules pass) := by
  apply processDueSchedules_preserves
  intro database due holds fresh
  rcases holds with ⟨job, truthful⟩
  exact ⟨job, truthful.add fresh rfl rfl rfl⟩

theorem claimNextJob_truthful {workerId : Identifier} {leaseSeconds : Int} {now : Instant}
    {outcome : Option (ImportJob × JobLease)}
    (truthful : Truthful request ran floor database job)
    (done : claimNextJob workerId leaseSeconds now database = .ok outcome after) :
    (exists row, Truthful request ran floor after row) ∧
      forall taken lease, outcome = some (taken, lease) -> taken ∈ after.jobs := by
  rcases claimNextJob_cases workerId leaseSeconds now database with
    idle | ⟨candidate, claimed, taken, claims⟩
  · rw [idle] at done
    cases done
    exact ⟨⟨job, truthful⟩, fun _ _ impossible => by cases impossible⟩
  · rw [claims] at done
    cases done
    have rest := taken.rest
    simp only [Prod.mk.injEq] at rest
    refine ⟨truthful.rewrite (candidate.claimed now) taken.member rfl rfl
      (fun impossible => by cases impossible) taken.jobs rest.1 rest.2.2.2.2.2.1, ?_⟩
    intro chosen lease same
    cases same
    rw [taken.jobs]
    exact Tables.mem_put_self _ _

theorem Reaches.truthful {pass : Pass} {outcome : Option (ImportJob × JobLease)}
    {claimed : Database} (reaches : Reaches pass database outcome claimed)
    (truthful : Truthful request ran floor database job) :
    (exists row, Truthful request ran floor claimed row) ∧
      forall taken lease, outcome = some (taken, lease) -> taken ∈ claimed.jobs := by
  cases reaches with
  | intro recovered scheduled recovers schedules claims =>
    have kept := recoverAbandonedJobs_truthful pass.now database ⟨job, truthful⟩
    rw [recovers] at kept
    have planned := processDueSchedules_truthful pass recovered kept
    rw [schedules] at planned
    rcases planned with ⟨row, scheduledTruthful⟩
    exact claimNextJob_truthful scheduledTruthful claims

/-- An execution is a run with an event behind it. -/
theorem Truthful.executes {pass : Pass} {finished : ImportJob} {lease : JobLease}
    (truthful : Truthful request ran floor database job) (member : other ∈ database.jobs)
    (starts : other.id = request.id ->
      Expected library ran (pass.surroundings other) other database)
    (done : executeClaimedJob library (pass.surroundings other) other lease pass.workerId
      database = .ok finished after) :
    exists row, Truthful request ran floor after row := by
  rcases executeClaimedJob_ok done with ⟨imported, completed, fleet, same, _⟩
  rcases truthful.runs member starts completed with ⟨row, result⟩
  subst same
  exact ⟨row, result.frame rfl rfl rfl⟩

theorem createJob_truthful {created : ImportRequest} {executeImmediately : Option Surroundings}
    (truthful : Truthful request ran floor database job)
    (done : createJob library created executeImmediately database = .ok written after) :
    exists row, Truthful request ran floor after row := by
  rcases createJob_ok done with ⟨middle, fresh, same, outcome⟩
  have added : Truthful request ran floor middle job := by
    subst same
    exact truthful.add fresh rfl rfl rfl
  rcases outcome with ⟨_, unrun⟩ | ⟨surroundings, _, completed⟩
  · exact ⟨job, unrun ▸ added⟩
  · have member : queuedJob created ∈ middle.jobs := by
      subst same
      exact List.mem_append_right _ (List.mem_singleton_self _)
    apply added.runs member _ completed
    intro mine
    have known := (Tables.lookup_some truthful.sole.lookup).1
    exact absurd (truthful.id_eq.trans (show created.id = request.id from mine).symm)
      (fresh job known)

theorem workerPass_truthful {pass : Pass} {session : Session}
    (truthful : Truthful request ran floor database job)
    (starts : forall taken lease claimed, Reaches pass database (some (taken, lease)) claimed ->
      taken.id = request.id -> Expected library ran (pass.surroundings taken) taken claimed)
    (done : workerPass library pass (Session.begins database) = .ok ⟨⟩ session) :
    exists row, Truthful request ran floor session.database row := by
  cases workerPass_committed done with
  | idle claimed reaches =>
      exact (reaches.truthful truthful).1
  | executed taken lease claimed reaches finished after executes =>
      rcases reaches.truthful truthful with ⟨⟨row, claimedTruthful⟩, member⟩
      exact claimedTruthful.executes (member taken lease rfl)
        (starts taken lease claimed reaches) executes

/-- What raises is rolled back, so it is enough to look at the programs that return. -/
theorem transact_truthful {α : Type} {program : DatabaseProgram α}
    (truthful : Truthful request ran floor database job)
    (completes : forall value after, program database = .ok value after ->
      exists row, Truthful request ran floor after row) :
    exists row, Truthful request ran floor (transact id id program database) row :=
  transact_preserves (motive := fun after => exists row, Truthful request ran floor after row)
    ⟨job, truthful⟩ completes

/-- A job that is run at once, with or without a heartbeat, has its account if it is ours. -/
theorem runJob_truthful {target : Identifier} {surroundings : Surroundings}
    (truthful : Truthful request ran floor database job)
    (starts : target = request.id -> forall row,
      Tables.lookup ImportJob.id target database.jobs = some row ->
        Expected library ran surroundings row database) :
    exists row, Truthful request ran floor
      (transact id id (withJob target (runImportJob library surroundings)) database) row := by
  refine transact_truthful truthful ?_
  intro finished after done
  rcases withJob_ok done with ⟨row, found, completed⟩
  rcases Tables.lookup_some found with ⟨member, same⟩
  exact truthful.runs member (fun mine => starts (same.symm.trans mine) row found) completed

/-- An execution raises without a lease, and otherwise runs the job under it. -/
theorem executeJob_truthful {target : Identifier} {pass : Pass}
    (truthful : Truthful request ran floor database job)
    (starts : target = request.id -> forall row,
      Tables.lookup ImportJob.id target database.jobs = some row ->
        Expected library ran (pass.surroundings row) row database) :
    exists row, Truthful request ran floor
      (transact id id (executeJob library pass target) database) row := by
  refine transact_truthful truthful ?_
  intro finished after done
  rcases withJob_ok done with ⟨row, found, body⟩
  rcases Tables.lookup_some found with ⟨member, same⟩
  rw [bind_get] at body
  cases held : Tables.lookup (·.jobId) target database.fleet.leases with
  | none =>
      rw [held] at body
      cases body
  | some lease =>
      rw [held] at body
      exact truthful.executes member (fun mine => starts (same.symm.trans mine) row found) body

/-- A cancellation does not make a job succeed. -/
theorem cancelJob_truthful {target : Identifier} {now : Instant}
    (truthful : Truthful request ran floor database job) :
    exists row, Truthful request ran floor
      (transact id id (cancelJob now target) database) row := by
  refine transact_truthful truthful ?_
  intro cancelled after done
  rcases withJob_ok done with ⟨row, found, cancels⟩
  rcases requestCancellation_ok cancels with ⟨_, same, result⟩
  subst same
  subst result
  refine truthful.rewrite (row.cancelling now) (Tables.lookup_some found).1 rfl rfl ?_ rfl rfl rfl
  intro succeeded
  simp only [ImportJob.cancelling] at succeeded
  split at succeeded
  · cases succeeded
  · exact succeeded

/-- A restart leaves a queued job, with the batches and the cursor that it had. -/
theorem restartImportJob_truthful {target : Identifier} {found restarted : ImportJob}
    (truthful : Truthful request ran floor database job)
    (looked : Tables.lookup ImportJob.id target database.jobs = some found)
    (done : restartImportJob found database = .ok restarted after) :
    found.restarted ∈ after.jobs ∧ exists row, Truthful request ran floor after row := by
  rcases restartImportJob_ok done with ⟨_, _, result⟩
  have written : after.jobs = Tables.put ImportJob.id found.restarted database.jobs := by
    rw [result]
  refine ⟨written ▸ Tables.mem_put_self _ _, ?_⟩
  exact truthful.rewrite found.restarted (Tables.lookup_some looked).1 rfl rfl
    (fun impossible => by cases impossible) written (by rw [result]) (by rw [result])

/-- A restart that runs the job at once is one transaction, so the run finds the restarted row. -/
theorem restartJob_truthful {target : Identifier} {surroundings : Surroundings}
    (truthful : Truthful request ran floor database job)
    (starts : target = request.id -> forall row middle,
      Tables.lookup ImportJob.id target database.jobs = some row ->
        restartImportJob row database = .ok row.restarted middle ->
          Expected library ran surroundings row.restarted middle) :
    exists row, Truthful request ran floor
      (transact id id (restartJob library surroundings target) database) row := by
  refine transact_truthful truthful ?_
  intro finished after done
  rcases restartJob_ok done with ⟨row, middle, found, restarts, completed⟩
  rcases restartImportJob_truthful truthful found restarts with ⟨member, _, middleTruthful⟩
  have same : row.id = target := (Tables.lookup_some found).2
  exact middleTruthful.runs member
    (fun mine => starts (same.symm.trans mine) row middle found restarts) completed

/-- The step lemma, for any account of the runs that knows those of the action. -/
theorem act_truthful {action : QueueAction}
    (truthful : Truthful request ran floor database job)
    (starts : forall surroundings row opened,
      Starts request.id database action surroundings row opened ->
        Expected library ran surroundings row opened) :
    exists row, Truthful request ran floor (act library database action) row := by
  cases action with
  | run target surroundings =>
      refine runJob_truthful truthful ?_
      rintro rfl row found
      exact starts _ _ _ (.direct surroundings row found)
  | register workerId now => exact ⟨job, truthful.frame rfl rfl rfl⟩
  | stop workerId now => exact ⟨job, truthful.frame rfl rfl rfl⟩
  | queue operation =>
      cases operation with
      | create created executeImmediately registry =>
          exact transact_truthful truthful fun _ _ done => createJob_truthful truthful done
      | claim workerId leaseSeconds now =>
          exact transact_truthful truthful fun _ _ done =>
            (claimNextJob_truthful truthful done).1
      | execute target pass =>
          refine executeJob_truthful truthful ?_
          rintro rfl row found
          exact starts _ _ _ (.executed pass row found)
      | run target registry clock =>
          refine runJob_truthful truthful ?_
          rintro rfl row found
          exact starts _ _ _ (.quiet registry clock row found)
      | cancel target now => exact cancelJob_truthful truthful
      | restart target =>
          refine transact_truthful truthful ?_
          intro restarted after done
          rcases withJob_ok done with ⟨row, found, restarts⟩
          exact (restartImportJob_truthful truthful found restarts).2
      | restartAndRun target registry clock =>
          refine restartJob_truthful truthful ?_
          rintro rfl row middle found restarts
          exact starts _ _ _ (.restarted registry clock row middle found restarts)
      | recover now =>
          refine transact_truthful truthful ?_
          intro value after done
          have kept := recoverAbandonedJobs_truthful now database ⟨job, truthful⟩
          rw [done] at kept
          exact kept
      | pass pass =>
          change exists row, Truthful request ran floor
            (transact Session.begins (·.database) (workerPass library pass) database) row
          cases ended : workerPass library pass (Session.begins database) with
          | error raised session =>
              rw [transact_error ended]
              exact ⟨job, truthful⟩
          | ok value session =>
              rw [transact_ok ended]
              refine workerPass_truthful truthful ?_ ended
              intro taken lease claimed reaches mine
              exact starts _ _ _ (.claimed pass taken lease claimed reaches mine)

end Invariant

/-! ## Every history -/

/-- The database of the history tells the truth, and the cursor is past every batch that
had succeeded in one of its past databases. -/
def Remembers (library : Library) (request : ImportRequest) (history : History) : Prop :=
  exists job, Truthful request (history.Ran library request.id) 0 history.database job ∧
    forall before action, (before, action) ∈ history.past -> forall sequence,
      batchStatus request.id before sequence = some .succeeded -> sequence < job.resumeCursor

section Histories

variable {library : Library} {request : ImportRequest} {history : History}
  {action : QueueAction}

theorem History.Ran.step {context : Context} {found : Canonical}
    (ran : history.Ran library request.id context found) :
    (history.step library action).Ran library request.id context found := by
  rcases ran with ⟨before, earlier, surroundings, job, opened, member, starts, checked, rows⟩
  exact ⟨before, earlier, surroundings, job, opened, List.mem_append_left _ member, starts, checked,
    rows⟩

/-- The step lemma of a history. -/
theorem step_remembers (untroubled : Untroubled library request.id history action)
    (remembers : Remembers library request history) :
    Remembers library request (history.step library action) := by
  rcases remembers with ⟨job, truthful, kept⟩
  have before : Truthful request ((history.step library action).Ran library request.id)
      job.resumeCursor history.database job :=
    { truthful with
      stored := by
        intro sequence past
        rcases truthful.stored sequence past with ⟨context, found, rows, committed, symbol, ran, rest⟩
        exact ⟨context, found, rows, committed, symbol, ran.step, rest⟩
      grown := Nat.le_refl _ }
  have starts : forall surroundings row opened,
      Starts request.id history.database action surroundings row opened ->
        Expected library ((history.step library action).Ran library request.id) surroundings row
          opened := by
    intro surroundings row opened begins
    refine ⟨?_, untroubled surroundings row opened begins⟩
    intro context checked
    exact ⟨history.database, action, surroundings, row, opened,
      List.mem_append_right _ (List.mem_singleton_self _), begins, checked, rfl⟩
  rcases act_truthful before starts with ⟨row, result⟩
  refine ⟨row, { result with grown := Nat.zero_le _ }, ?_⟩
  intro earlier taken member sequence succeeded
  rcases List.mem_append.mp member with old | new
  · exact Nat.lt_of_lt_of_le (kept earlier taken old sequence succeeded) result.grown
  · cases List.mem_singleton.mp new
    exact Nat.lt_of_lt_of_le (truthful.sound.ahead sequence succeeded) result.grown

theorem Remembers.honest (remembers : Remembers library request history) :
    exists job, Tables.lookup ImportJob.id request.id history.database.jobs = some job ∧
      Honest library request history job := by
  rcases remembers with ⟨job, truthful, kept⟩
  have found : Tables.lookup ImportJob.id request.id history.database.jobs = some job := by
    rw [← truthful.id_eq]
    exact truthful.sole.lookup
  refine ⟨job, found, ?_⟩
  refine
    { succeeded := ?_
      distinct := truthful.distinct
      kept := fun before action member sequence succeeded =>
        truthful.sound.past sequence (kept before action member sequence succeeded)
      complete := ?_ }
  · intro sequence _
    constructor
    · intro succeeded
      have past := truthful.sound.ahead sequence succeeded
      exact ⟨past, truthful.stored sequence past⟩
    · intro stored
      exact truthful.sound.past sequence stored.1
  · intro succeeded
    have every : forall sequence, sequence < request.symbols.length ->
        batchStatus request.id history.database sequence = some .succeeded :=
      fun sequence known =>
        truthful.sound.past sequence (Nat.lt_of_lt_of_le known (truthful.finished succeeded))
    refine ⟨every, ?_⟩
    intro batch member own
    have identity : batch.identity = (request.id, batch.sequence) := congrArg (·, _) own
    have seen : batchStatus request.id history.database batch.sequence = some batch.status := by
      rw [batchStatus, ← identity, Tables.lookup_of_mem truthful.distinct member]
      rfl
    exact Option.some.inj (seen.symm.trans (every _ (truthful.sound.listed _ _ seen)))

theorem queuedJob_remembered {initial : Database}
    (distinctJobs : (initial.jobs.map ImportJob.id).Nodup)
    (distinctBatches : DistinctBatches initial)
    (queued : Tables.lookup ImportJob.id request.id initial.jobs = some (queuedJob request))
    (unbatched : forall batch, batch ∈ initial.batches -> batch.jobId ≠ request.id) :
    Remembers library request ⟨initial, []⟩ := by
  have missing : forall sequence, batchStatus request.id initial sequence = none := by
    intro sequence
    cases found : Tables.lookup ImportBatch.identity (request.id, sequence) initial.batches with
    | none =>
        rw [batchStatus, found]
        rfl
    | some batch =>
        rcases Tables.lookup_some found with ⟨member, same⟩
        exact absurd (congrArg Prod.fst same) (unbatched batch member)
  refine ⟨queuedJob request, ?_, fun _ _ impossible => by cases impossible⟩
  exact
    { sole := Tables.sole_of_lookup distinctJobs queued
      mine := rfl
      sound :=
        { past := fun _ impossible => absurd impossible (Nat.not_lt_zero _)
          ahead := fun sequence succeeded => by
            rw [missing] at succeeded
            cases succeeded
          listed := fun sequence _ seen => by
            rw [missing] at seen
            cases seen }
      stored := fun _ impossible => absurd impossible (Nat.not_lt_zero _)
      finished := fun impossible => by cases impossible
      distinct := distinctBatches
      grown := Nat.le_refl 0 }

/-- While no heartbeat behind a committed symbol raises what the run catches, the batches
of the job tell the truth, whatever happens to the queue. -/
theorem batches_honest {initial : Database} {actions : List QueueAction}
    (distinctJobs : (initial.jobs.map ImportJob.id).Nodup)
    (distinctBatches : DistinctBatches initial)
    (queued : Tables.lookup ImportJob.id request.id initial.jobs = some (queuedJob request))
    (unbatched : forall batch, batch ∈ initial.batches -> batch.jobId ≠ request.id)
    (untroubled : Runs.Along (History.step library) (Untroubled library request.id) ⟨initial, []⟩
      actions) :
    forall history, history ∈ Runs.states (History.step library) ⟨initial, []⟩ actions ->
      exists job, Tables.lookup ImportJob.id request.id history.database.jobs = some job ∧
        Honest library request history job := by
  intro history visited
  exact (untroubled.preserves (fun _ _ permitted remembers => step_remembers permitted remembers)
    (queuedJob_remembered distinctJobs distinctBatches queued unbatched) history visited).honest

end Histories

/-! ## A retry, and a lease that expires -/

def answering (_ : String) : Option (Nat -> Adapter) := some fun _ => dailyResponses.adapter

/-- A run whose provider times out, a restart, and a run with a heartbeat. -/
def retriedActions : List QueueAction :=
  [.queue (.run 1 unreachable fun _ => 0), .queue (.restart 1),
    .run 1 ⟨answering, fun _ => 0, some fun _ => pure ⟨⟩⟩]

theorem retriedActions_untroubled :
    Runs.Along (History.step plainLibrary) (Untroubled plainLibrary dailyRequest.id)
      ⟨dailyQueue, []⟩ retriedActions := by
  have quiet : forall registry clock job database,
      Steady plainLibrary (quietly registry clock) job database := by
    intro registry clock job database
    exact steady_of_calm fun _ impossible => by cases impossible
  refine ⟨?_, ?_, ?_, trivial⟩
  · intro surroundings job opened starts
    cases starts with
    | quiet registry clock job found => exact quiet _ _ _ _
  · intro surroundings job opened starts
    cases starts
  · intro surroundings job opened starts
    cases starts with
    | direct surroundings job found =>
        apply steady_of_calm
        intro beat given call fleet raised after stopped
        cases given
        cases stopped

/-- The batch fails with the first run and succeeds with the second. -/
theorem retriedActions_honest :
    exists history job,
      history = retriedActions.foldl (History.step plainLibrary) ⟨dailyQueue, []⟩ ∧
      Tables.lookup ImportJob.id dailyRequest.id history.database.jobs = some job ∧
      history.past.map (fun entry => batchStatus dailyRequest.id entry.1 0) =
        [none, some .failed, some .failed] ∧
      batchStatus dailyRequest.id history.database 0 = some .succeeded ∧
      Honest plainLibrary dailyRequest history job := by
  have distinct : DistinctBatches dailyQueue := List.nodup_nil
  rcases batches_honest (by decide) distinct rfl (by decide) retriedActions_untroubled _
    (Runs.foldl_mem_states _ retriedActions) with ⟨job, found, honest⟩
  refine ⟨_, job, rfl, found, ?_, ?_, honest⟩
  · decide +kernel
  · decide +kernel

/-- The lease is renewed before the symbol and has expired behind it. -/
def expiringPass : Pass where
  workerId := 3
  leaseSeconds := 60
  now := 0
  registry := answering
  clock := fun call => 61000000 * call
  due := .ok []
  crash := none

def expiredHistory : History :=
  History.step plainLibrary ⟨dailyQueue, []⟩ (.queue (.pass expiringPass))

/-- The job as the pass has claimed it, and the database of the claim. -/
def claimedDaily : ImportJob := (queuedJob dailyRequest).claimed 0

def claimedQueue : Database :=
  { dailyQueue with
    jobs := [claimedDaily]
    fleet := ⟨[newLease 3 60 0 (queuedJob dailyRequest)], [⟨3, .running, some 1, 0, none⟩]⟩
    events := [⟨1, "claimed", some .queued, some .running,
      "Job claimed by single-process worker"⟩] }

theorem expiringPass_reaches :
    Reaches expiringPass dailyQueue
      (some (claimedDaily, newLease 3 60 0 (queuedJob dailyRequest))) claimedQueue :=
  .intro dailyQueue dailyQueue rfl rfl rfl

/-- The context of the run that the pass starts. -/
def expiringContext : Context where
  library := plainLibrary
  adapter := fun _ => dailyResponses.adapter
  clock := fun sequence => 61000000 * (2 * sequence)
  heartbeat := (expiringPass.surroundings claimedDaily).heartbeat
  request := dailyRequest
  provider := "demo"
  source := "provider:demo"
  validSessions := []
  startIndex := 0

theorem expiredHistory_stored :
    Stored dailyRequest (expiredHistory.Ran plainLibrary dailyRequest.id)
      expiredHistory.database.rows 0 := by
  have opened : Opened plainLibrary (expiringPass.surroundings claimedDaily) claimedDaily
      claimedQueue expiringContext := openRun_ok rfl
  have committed : committedRows expiringContext 0 "ATOM" .empty =
      some expiredHistory.database.rows := by
    decide +kernel
  exact ⟨expiringContext, .empty, .empty, expiredHistory.database.rows, "ATOM",
    ⟨dailyQueue, .queue (.pass expiringPass), _, claimedDaily, claimedQueue,
      List.mem_singleton_self _, .claimed _ _ _ _ expiringPass_reaches rfl, opened, rfl⟩,
    .refl _, rfl, committed, .refl _⟩

/-- The bar is stored and the cursor is past the symbol, but the batch and the job have
failed. -/
theorem expiredLease_dishonest :
    (expiredHistory.database.jobs.map (fun job => (job.status, job.resumeCursor)) =
        [(.failed, 1)] ∧
      expiredHistory.database.batches.map (·.status) = [.failed] ∧
      expiredHistory.database.rows.bars.length = 1) ∧
    ¬ forall actions history,
      history ∈ Runs.states (History.step plainLibrary) ⟨dailyQueue, []⟩ actions ->
        exists job, Tables.lookup ImportJob.id dailyRequest.id history.database.jobs = some job ∧
          Honest plainLibrary dailyRequest history job := by
  refine ⟨by decide +kernel, ?_⟩
  intro honest
  rcases honest [.queue (.pass expiringPass)] expiredHistory (Runs.foldl_mem_states _ _) with
    ⟨job, found, truth⟩
  have ended : (Tables.lookup ImportJob.id dailyRequest.id expiredHistory.database.jobs).map
        (·.resumeCursor) = some 1 ∧
      batchStatus dailyRequest.id expiredHistory.database 0 = some .failed := by
    decide +kernel
  rw [found] at ended
  have cursor : job.resumeCursor = 1 := Option.some.inj ended.1
  have succeeded := (truth.succeeded 0 (by decide)).mpr ⟨by omega, expiredHistory_stored⟩
  rw [ended.2] at succeeded
  cases succeeded

end MarketData
end MarketIntelligence
