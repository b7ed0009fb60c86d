import MarketIntelligence.MarketData.Exceptions

namespace MarketIntelligence
namespace MarketData

open Foundations
open Loops

/-!
# What the queue does

Each operation of the queue writes at most one job at a time, and this says which
one and how.  A pass of the worker stops before it has begun a job, finds none to
claim, or executes the one it has claimed.
-/

/-! ## Programs inside a session -/

section Sessions

variable {α : Type} {program : DatabaseProgram α} {session : Session}

theorem onDatabase_ok {value : α} {database : Database}
    (done : program session.database = .ok value database) :
    onDatabase program session = .ok value { session with database := database } := by
  simp only [onDatabase, done]

theorem onDatabase_error {raised : Exception} {database : Database}
    (stopped : program session.database = .error raised database) :
    onDatabase program session = .error raised { session with database := database } := by
  simp only [onDatabase, stopped]

theorem crashAt_cases (pass : Pass) (phase : Phase) (session : Session) :
    (pass.crash = some phase ∧
      pass.crashAt phase session = .error (.escaping "crash") session) ∨
    (pass.crash ≠ some phase ∧ pass.crashAt phase session = .ok ⟨⟩ session) := by
  by_cases crashed : pass.crash = some phase
  · refine Or.inl ⟨crashed, ?_⟩
    rw [Pass.crashAt, if_pos crashed]
    rfl
  · refine Or.inr ⟨crashed, ?_⟩
    rw [Pass.crashAt, if_neg crashed]
    rfl

end Sessions

/-! ## Requests about a job -/

section Requests

variable {job written : ImportJob} {database after : Database}

theorem requestCancellation_ok {now : Instant}
    (done : requestCancellation now job database = .ok written after) :
    job.status ∉ terminalStatuses ∧ written = job.cancelling now ∧
      after = { database with
        jobs := Tables.put ImportJob.id (job.cancelling now) database.jobs
        events := database.events ++ [⟨job.id, "cancellation_requested", some job.status,
          some (job.cancelling now).status, "Cancellation requested"⟩] } := by
  unfold requestCancellation at done
  split at done
  · cases done
  · rename_i open_
    cases done
    exact ⟨open_, rfl, rfl⟩

theorem restartImportJob_ok (done : restartImportJob job database = .ok written after) :
    job.status ∈ restartableStatuses ∧ written = job.restarted ∧
      after = { database with
        jobs := Tables.put ImportJob.id job.restarted database.jobs } := by
  unfold restartImportJob at done
  split at done
  · cases done
  · rename_i restartable
    cases done
    exact ⟨Classical.not_not.mp restartable, rfl, rfl⟩

theorem withJob_ok {jobId : Identifier} {body : ImportJob -> DatabaseProgram ImportJob}
    (done : withJob jobId body database = .ok written after) :
    exists row, Tables.lookup ImportJob.id jobId database.jobs = some row ∧
      body row database = .ok written after := by
  unfold withJob at done
  rw [bind_get] at done
  cases found : Tables.lookup ImportJob.id jobId database.jobs with
  | none =>
      rw [found] at done
      cases done
  | some row =>
      rw [found] at done
      exact ⟨row, rfl, done⟩

theorem restartJob_ok {library : Library} {surroundings : Surroundings} {jobId : Identifier}
    (done : restartJob library surroundings jobId database = .ok written after) :
    exists row middle, Tables.lookup ImportJob.id jobId database.jobs = some row ∧
      restartImportJob row database = .ok row.restarted middle ∧
      runImportJob library surroundings row.restarted middle = .ok written after := by
  rcases withJob_ok done with ⟨row, found, body⟩
  rcases bind_ok body with ⟨restarted, middle, restarts, runs⟩
  rcases restartImportJob_ok restarts with ⟨_, same, _⟩
  subst same
  exact ⟨row, middle, found, restarts, runs⟩

end Requests

/-! ## Recovery and schedules -/

section Recovery

variable {now : Instant}

def Database.changeFleet (database : Database) (change : Fleet -> Fleet) : Database :=
  { database with fleet := change database.fleet }

/-- The running job is abandoned, with the event that says so. -/
def Database.abandon (now : Instant) (job : ImportJob) (database : Database) : Database :=
  { database with
    jobs := Tables.put ImportJob.id (job.abandoned now) database.jobs
    events := database.events ++ [⟨job.id, "lease_expired", some .running,
      some (job.abandoned now).status, "Abandoned job recovered after lease expiry"⟩] }

/-- Recovery drops leases and abandons running jobs that have none. -/
structure RecoveryKeeps (now : Instant) (invariant : Database -> Prop) : Prop where
  drops : forall database lease, invariant database ->
    invariant (database.changeFleet (Fleet.dropLease lease))
  abandons : forall database job, invariant database -> job ∈ database.jobs ->
    job.status = .running -> (forall lease, lease ∈ database.fleet.leases ->
      lease.jobId ≠ job.id) -> invariant (database.abandon now job)

theorem recoverLease_preserves {invariant : Database -> Prop}
    (keeps : RecoveryKeeps now invariant) (lease : JobLease) :
    Preserves invariant (recoverLease now lease) := by
  intro database holds
  have dropped := keeps.drops database lease holds
  unfold recoverLease
  rw [bind_get]
  cases found : Tables.lookup ImportJob.id lease.jobId database.jobs with
  | none => exact holds
  | some job =>
      simp only [modifyFleet]
      rw [bind_modify]
      unfold recoverRunning
      by_cases running : job.status = .running
      · rw [if_pos running]
        rcases Tables.lookup_some found with ⟨member, same⟩
        refine keeps.abandons _ job dropped member running ?_
        intro other listed equal
        exact of_decide_eq_true (List.mem_filter.mp listed).2 (equal.trans same)
      · rw [if_neg running]
        exact dropped

theorem recoverAbandonedJobs_preserves {invariant : Database -> Prop}
    (keeps : RecoveryKeeps now invariant) : Preserves invariant (recoverAbandonedJobs now) :=
  Preserves.get_bind fun _ => Preserves.forM fun lease _ => recoverLease_preserves keeps lease

/-- Schedules add queued jobs of new identifiers. -/
theorem processDueSchedules_preserves {invariant : Database -> Prop} (pass : Pass)
    (adds : forall database request, invariant database ->
      (forall job, job ∈ database.jobs -> job.id ≠ request.id) ->
        invariant { database with jobs := database.jobs ++ [queuedJob request] }) :
    Preserves invariant (processDueSchedules pass) := by
  have due : Preserves invariant (raise pass.due) := by
    intro database holds
    cases pass.due with
    | ok requests => exact holds
    | error raised => exact holds
  apply due.bind
  intro requests
  apply Preserves.forM
  intro request _
  apply Preserves.modify
  intro database holds
  split
  · exact holds
  · rename_i fresh
    refine adds database request holds ?_
    intro job member same
    exact fresh (List.any_eq_true.mpr ⟨job, member, decide_eq_true same⟩)

end Recovery

/-! ## Claims -/

section Claims

variable {workerId : Identifier} {leaseSeconds : Int} {now : Instant} {database : Database}

theorem nextJob_mem {candidate : ImportJob} (next : nextJob now database = some candidate) :
    candidate ∈ database.jobs ∧ claimable now database.fleet.leases candidate = true := by
  have first := List.mem_of_mem_head? (Option.mem_def.mpr next)
  rw [List.mem_insertionSort] at first
  exact List.mem_filter.mp first

/-- The database after the candidate has been claimed. -/
structure ClaimedFrom (workerId : Identifier) (leaseSeconds : Int) (now : Instant)
    (database : Database) (candidate : ImportJob) (after : Database) : Prop where
  member : candidate ∈ database.jobs
  claimable : claimable now database.fleet.leases candidate = true
  jobs : after.jobs = Tables.put ImportJob.id (candidate.claimed now) database.jobs
  events : after.events = database.events ++ [⟨candidate.id, "claimed", some candidate.status,
    some .running, "Job claimed by single-process worker"⟩]
  leases : after.fleet.leases =
    database.fleet.leases ++ [newLease workerId leaseSeconds now candidate]
  rest : (after.rows, after.sources, after.providers, after.rateLimits, after.calendar,
      after.batches, after.errors) =
    (database.rows, database.sources, database.providers, database.rateLimits,
      database.calendar, database.batches, database.errors)

theorem claimNextJob_cases (workerId : Identifier) (leaseSeconds : Int) (now : Instant)
    (database : Database) :
    claimNextJob workerId leaseSeconds now database = .ok none database ∨
    exists candidate after, ClaimedFrom workerId leaseSeconds now database candidate after ∧
      claimNextJob workerId leaseSeconds now database =
        .ok (some (candidate.claimed now, newLease workerId leaseSeconds now candidate))
          after := by
  unfold claimNextJob
  rw [bind_get]
  cases next : nextJob now database with
  | none => exact Or.inl rfl
  | some candidate =>
      rcases nextJob_mem next with ⟨member, open_⟩
      refine Or.inr ⟨candidate, _, ?_, rfl⟩
      exact
        { member := member
          claimable := open_
          jobs := rfl
          events := rfl
          leases := rfl
          rest := rfl }

end Claims

/-! ## Executions -/

section Executions

variable {library : Library} {surroundings : Surroundings} {job : ImportJob} {lease : JobLease}
  {workerId : Identifier} {database : Database}

/-- The event of an execution that has returned. -/
def executionEvent (finished : ImportJob) : JobEvent :=
  ⟨finished.id, if finished.status = .succeeded then "completed" else "attempt_finished",
    some .running, some finished.status, finished.errorSummary.getD "Import attempt finished"⟩

/-- The execution is a call of the import, with an event behind it. -/
theorem executeClaimedJob_ok {finished : ImportJob} {after : Database}
    (done : executeClaimedJob library surroundings job lease workerId database =
      .ok finished after) :
    exists imported, runImportJob library surroundings job database = .ok finished imported ∧
      exists fleet, after = { imported with
        fleet := fleet
        events := imported.events ++ [{ executionEvent finished with jobId := job.id }] } ∧
        fleet.leases = imported.fleet.leases.filter (·.jobId ≠ job.id) := by
  unfold executeClaimedJob at done
  split at done
  · cases done
  · rcases bind_ok done with ⟨result, imported, ran, rest⟩
    cases rest
    exact ⟨imported, ran, _, rfl, rfl⟩

theorem executeClaimedJob_completes (owned : lease.jobId = job.id ∧ lease.workerId = workerId)
    (returns : exists finished imported,
      runImportJob library surroundings job database = .ok finished imported) :
    exists finished after,
      executeClaimedJob library surroundings job lease workerId database = .ok finished after := by
  rcases returns with ⟨finished, imported, ran⟩
  have passes : ¬ (lease.jobId ≠ job.id ∨ lease.workerId ≠ workerId) := by
    simp [owned.1, owned.2]
  unfold executeClaimedJob
  rw [if_neg passes, bind_apply, ran]
  exact ⟨finished, _, rfl⟩

end Executions

/-! ## Passes -/

section Passes

variable {library : Library} {pass : Pass} {stored : Database}

/-- The jobs the pass starts, whether or not it is rolled back. -/
def passStarts (library : Library) (pass : Pass) (stored : Database) : List Identifier :=
  (finalState (workerPass library pass (Session.begins stored))).started

/-- The pass gets as far as its claim. -/
inductive Reaches (pass : Pass) (stored : Database) (outcome : Option (ImportJob × JobLease))
    (claimed : Database) : Prop where
  | intro (recovered scheduled : Database)
      (recovers : recoverAbandonedJobs pass.now stored = .ok ⟨⟩ recovered)
      (schedules : processDueSchedules pass recovered = .ok ⟨⟩ scheduled)
      (claims : claimNextJob pass.workerId pass.leaseSeconds pass.now scheduled =
        .ok outcome claimed)

/-- How a pass ends: before it has begun a job, without one, or as the execution of
the job it has claimed. -/
inductive PassOutcome (library : Library) (pass : Pass) (stored : Database) :
    EStateM.Result Exception Session PUnit -> Prop where
  | stopped (raised : Exception) (database : Database) :
      PassOutcome library pass stored (.error raised ⟨database, []⟩)
  | idle (claimed : Database) (reaches : Reaches pass stored none claimed) :
      PassOutcome library pass stored (.ok ⟨⟩ ⟨claimed, []⟩)
  | executes (job : ImportJob) (lease : JobLease) (claimed : Database)
      (reaches : Reaches pass stored (some (job, lease)) claimed) :
      PassOutcome library pass stored (executeClaim library pass job lease ⟨claimed, []⟩)

theorem workerPass_outcome (library : Library) (pass : Pass) (stored : Database) :
    PassOutcome library pass stored (workerPass library pass (Session.begins stored)) := by
  unfold workerPass
  rw [bind_get]
  split
  · exact .stopped _ stored
  rw [bind_apply]
  cases recovers : recoverAbandonedJobs pass.now stored with
  | error raised recovered =>
      rw [onDatabase_error (by exact recovers)]
      exact .stopped raised recovered
  | ok value recovered =>
      rw [onDatabase_ok (by exact recovers)]
      simp only
      rw [bind_apply]
      rcases crashAt_cases pass .recovered ⟨recovered, []⟩ with ⟨_, crashed⟩ | ⟨_, passed⟩
      · rw [Session.begins, crashed]
        exact .stopped _ recovered
      rw [Session.begins, passed]
      simp only
      rw [bind_apply]
      cases schedules : processDueSchedules pass recovered with
      | error raised scheduled =>
          rw [onDatabase_error (by exact schedules)]
          exact .stopped raised scheduled
      | ok value scheduled =>
          rw [onDatabase_ok (by exact schedules)]
          simp only
          rw [bind_apply]
          rcases crashAt_cases pass .scheduled ⟨scheduled, []⟩ with ⟨_, crashed⟩ | ⟨_, passed⟩
          · rw [crashed]
            exact .stopped _ scheduled
          rw [passed]
          simp only
          rw [bind_apply]
          cases claims : claimNextJob pass.workerId pass.leaseSeconds pass.now scheduled with
          | error raised claimed =>
              rw [onDatabase_error (by exact claims)]
              exact .stopped raised claimed
          | ok outcome claimed =>
              rw [onDatabase_ok (by exact claims)]
              have reaches := Reaches.intro recovered scheduled recovers schedules claims
              cases outcome with
              | none => exact .idle claimed reaches
              | some taken =>
                  rcases taken with ⟨job, lease⟩
                  simp only
                  rw [bind_apply]
                  rcases crashAt_cases pass .claimed ⟨claimed, []⟩ with ⟨_, crashed⟩ | ⟨_, passed⟩
                  · rw [crashed]
                    exact .stopped _ claimed
                  · rw [passed]
                    exact .executes job lease claimed reaches

/-- How the execution of a claimed job ends.  Either way the job has been started. -/
inductive ExecutionOutcome (library : Library) (pass : Pass) (job : ImportJob)
    (lease : JobLease) (claimed : Database) : EStateM.Result Exception Session PUnit -> Prop where
  | stopped (raised : Exception) (database : Database) :
      ExecutionOutcome library pass job lease claimed (.error raised ⟨database, [job.id]⟩)
  | finished (job' : ImportJob) (after : Database)
      (executes : executeClaimedJob library (pass.surroundings job) job lease pass.workerId
        claimed = .ok job' after) :
      ExecutionOutcome library pass job lease claimed (.ok ⟨⟩ ⟨after, [job.id]⟩)

theorem executeClaim_outcome (library : Library) (pass : Pass) (job : ImportJob)
    (lease : JobLease) (claimed : Database) :
    ExecutionOutcome library pass job lease claimed
      (executeClaim library pass job lease ⟨claimed, []⟩) := by
  unfold executeClaim
  rw [noteStart, bind_modify, bind_apply]
  cases executes : executeClaimedJob library (pass.surroundings job) job lease pass.workerId
      claimed with
  | error raised database =>
      rw [onDatabase_error (by exact executes)]
      exact .stopped raised database
  | ok finished after =>
      rw [onDatabase_ok (by exact executes)]
      simp only
      rcases crashAt_cases pass .executed ⟨after, [job.id]⟩ with ⟨_, crashed⟩ | ⟨_, passed⟩
      · rw [List.nil_append, crashed]
        exact .stopped _ after
      · rw [List.nil_append, passed]
        exact .finished finished after executes

/-- How a pass that is committed has ended: without a job, or with the job it has claimed
executed. -/
inductive PassCommitted (library : Library) (pass : Pass) (stored : Database) :
    Session -> Prop where
  | idle (claimed : Database) (reaches : Reaches pass stored none claimed) :
      PassCommitted library pass stored ⟨claimed, []⟩
  | executed (job : ImportJob) (lease : JobLease) (claimed : Database)
      (reaches : Reaches pass stored (some (job, lease)) claimed) (finished : ImportJob)
      (after : Database)
      (executes : executeClaimedJob library (pass.surroundings job) job lease pass.workerId
        claimed = .ok finished after) :
      PassCommitted library pass stored ⟨after, [job.id]⟩

theorem workerPass_committed {session : Session}
    (done : workerPass library pass (Session.begins stored) = .ok ⟨⟩ session) :
    PassCommitted library pass stored session := by
  have outcome := workerPass_outcome library pass stored
  rw [done] at outcome
  generalize result : EStateM.Result.ok PUnit.unit session = whole at outcome
  cases outcome with
  | stopped failure stopped => cases result
  | idle claimed reaches =>
      cases result
      exact .idle claimed reaches
  | executes job lease claimed reaches =>
      have executed := executeClaim_outcome library pass job lease claimed
      rw [← result] at executed
      cases executed with
      | finished finished after executes =>
          exact .executed job lease claimed reaches finished after executes

theorem executeClaim_completes {job : ImportJob} {lease : JobLease} {claimed : Database}
    (survives : pass.crash ≠ some .executed)
    (executes : exists finished after, executeClaimedJob library (pass.surroundings job) job lease
      pass.workerId claimed = .ok finished after) :
    completed (executeClaim library pass job lease ⟨claimed, []⟩) = true := by
  rcases executes with ⟨finished, after, done⟩
  unfold executeClaim
  rw [noteStart, bind_modify, bind_apply, onDatabase_ok (by exact done)]
  rw [Pass.crashAt, if_neg survives]
  rfl

end Passes

end MarketData
end MarketIntelligence
