import MarketIntelligence.MarketData.Audit

namespace MarketIntelligence
namespace MarketData

open Foundations
open Loops
open Transactions

/-!
# The rule of an operation of the queue

An operation adds a queued job, cancels, restarts or claims one, runs one, gives a lease
back or recovers what has expired.  A pass of a worker is made of these steps.  An
invariant that survives the steps survives the operation, so a property of the queue is
left with one obligation for each step.
-/

/-! ## The steps -/

def Database.cancel (now : Instant) (job : ImportJob) (database : Database) : Database :=
  { database with
    jobs := Tables.put ImportJob.id (job.cancelling now) database.jobs
    events := database.events ++ [⟨job.id, "cancellation_requested", some job.status,
      some (job.cancelling now).status, "Cancellation requested"⟩] }

def Database.restart (job : ImportJob) (database : Database) : Database :=
  { database with jobs := Tables.put ImportJob.id job.restarted database.jobs }

/-- The heartbeat of a run, where there is one, renews a lease of its job. -/
def Paced (job : ImportJob) (surroundings : Surroundings) : Prop :=
  forall beat, surroundings.heartbeat = some beat ->
    exists (workerId : Identifier) (leaseSeconds : Int) (clock : Nat -> Instant),
      beat = fun call => renewLease job.id workerId leaseSeconds (clock call)

/-- Recovery is the operation, or the first step of the pass. -/
inductive QueueOperation.RecoversAt : QueueOperation -> Instant -> Prop where
  | alone (now : Instant) : RecoversAt (.recover now) now
  | first (pass : Pass) : RecoversAt (.pass pass) pass.now

/-- What an invariant has to survive so that the operation on this database keeps it. -/
structure Survives (library : Library) (database : Database) (operation : QueueOperation)
    (held : Database -> Prop) : Prop where
  adds : forall before request events, held before ->
    (forall job, job ∈ before.jobs -> job.id ≠ request.id) ->
      held { before with jobs := before.jobs ++ [queuedJob request], events := events }
  cancels : forall jobId now job, operation = .cancel jobId now ->
    Tables.lookup ImportJob.id jobId database.jobs = some job ->
      job.status ∉ terminalStatuses -> held (database.cancel now job)
  restarts : forall job, job ∈ database.jobs -> job.status ∈ restartableStatuses ->
    held (database.restart job)
  claims : forall workerId leaseSeconds now before candidate after, held before ->
    ClaimedFrom workerId leaseSeconds now before candidate after -> held after
  runs : forall surroundings job before finished after, held before -> job ∈ before.jobs ->
    Paced job surroundings ->
      runImportJob library surroundings job before = .ok finished after -> held after
  releases : forall before finished fleet events, held before -> finished ∈ before.jobs ->
    finished.status ≠ .running ->
      fleet.leases = before.fleet.leases.filter (·.jobId ≠ finished.id) ->
        held { before with fleet := fleet, events := events }
  recovers : forall now after, operation.RecoversAt now ->
    recoverAbandonedJobs now database = .ok ⟨⟩ after -> held after

section Rule

variable {library : Library} {database before after : Database} {operation : QueueOperation}
  {held : Database -> Prop}

theorem quietly_paced (job : ImportJob) (registry : String -> Option (Nat -> Adapter))
    (clock : Nat -> Instant) : Paced job (quietly registry clock) :=
  fun _ impossible => by cases impossible

theorem Pass.surroundings_paced (pass : Pass) (job : ImportJob) :
    Paced job (pass.surroundings job) := by
  intro beat heartbeat
  cases heartbeat
  exact ⟨pass.workerId, pass.leaseSeconds, pass.clock, rfl⟩

/-- A call that returns, without a promise about the rows. -/
theorem runImportJob_plain {surroundings : Surroundings} {job finished : ImportJob}
    (done : runImportJob library surroundings job before = .ok finished after) :
    Returned (fun _ _ => True) job before finished after :=
  runImportJob_returned (fun _ _ _ _ _ _ _ _ _ => trivial) trivial done

theorem Returned.id_eq {promise : Nat -> Canonical -> Prop} {job finished : ImportJob}
    (returned : Returned promise job before finished after) : finished.id = job.id :=
  congrArg ImportRequest.id returned.request

theorem Returned.member {promise : Nat -> Canonical -> Prop} {job finished : ImportJob}
    (returned : Returned promise job before finished after) : finished ∈ after.jobs := by
  rw [returned.jobs]
  exact Tables.mem_put_self _ _

theorem Returned.rests {promise : Nat -> Canonical -> Prop} {job finished : ImportJob}
    (returned : Returned promise job before finished after) : finished.status ≠ .running := by
  intro running
  rcases returned.status with ⟨succeeded, _⟩ | cancelled | failed | ⟨retrying, _⟩
  · rw [succeeded] at running
    cases running
  · rw [cancelled] at running
    cases running
  · rw [failed] at running
    cases running
  · rw [retrying] at running
    cases running

variable (survives : Survives library database operation held)

include survives

/-- An execution is a run, with a lease given back behind it. -/
theorem Survives.executes {pass : Pass} {job finished : ImportJob} {lease : JobLease}
    (holds : held before) (member : job ∈ before.jobs)
    (done : executeClaimedJob library (pass.surroundings job) job lease pass.workerId before =
      .ok finished after) : held after := by
  rcases executeClaimedJob_ok done with ⟨imported, ran, fleet, same, released⟩
  have returned := runImportJob_plain ran
  have kept := survives.runs _ job before finished imported holds member
    (pass.surroundings_paced job) ran
  rw [same]
  apply survives.releases imported finished fleet _ kept returned.member returned.rests
  rw [returned.id_eq]
  exact released

theorem Survives.claimed {workerId : Identifier} {leaseSeconds : Int} {now : Instant}
    {outcome : Option (ImportJob × JobLease)} (holds : held before)
    (done : claimNextJob workerId leaseSeconds now before = .ok outcome after) :
    held after ∧ forall job lease, outcome = some (job, lease) -> job ∈ after.jobs := by
  rcases claimNextJob_cases workerId leaseSeconds now before with
    idle | ⟨candidate, claimed, taken, claims⟩
  · rw [idle] at done
    cases done
    exact ⟨holds, fun _ _ impossible => by cases impossible⟩
  · rw [claims] at done
    cases done
    refine ⟨survives.claims workerId leaseSeconds now before candidate after holds taken, ?_⟩
    intro job lease chosen
    cases chosen
    rw [taken.jobs]
    exact Tables.mem_put_self _ _

theorem Survives.schedules (pass : Pass) : Preserves held (processDueSchedules pass) := by
  apply processDueSchedules_preserves
  intro before request holds fresh
  exact survives.adds before request before.events holds fresh

/-- A pass recovers, schedules, claims and executes. -/
theorem Survives.passes {pass : Pass} {session : Session} (recovers : operation = .pass pass)
    (done : workerPass library pass (Session.begins database) = .ok ⟨⟩ session) :
    held session.database := by
  have reached : forall outcome claimed, Reaches pass database outcome claimed ->
      held claimed ∧ forall job lease, outcome = some (job, lease) -> job ∈ claimed.jobs := by
    intro outcome claimed reaches
    cases reaches with
    | intro recovered scheduled recoversFirst schedules claims =>
      have recoveredHeld := survives.recovers pass.now recovered (recovers ▸ .first pass)
        recoversFirst
      have scheduledHeld := survives.schedules pass recovered recoveredHeld
      rw [schedules] at scheduledHeld
      exact survives.claimed scheduledHeld claims
  cases workerPass_committed done with
  | idle claimed reaches =>
      exact (reached none claimed reaches).1
  | executed job lease claimed reaches finished after executes =>
      rcases reached _ claimed reaches with ⟨claimedHeld, member⟩
      exact survives.executes claimedHeld (member job lease rfl) executes

theorem Survives.created {request : ImportRequest} {executeImmediately : Option (Nat -> Instant)}
    {registry : String -> Option (Nat -> Adapter)} {written : ImportJob} (holds : held before)
    (done : createJob library request (executeImmediately.map fun clock =>
      quietly registry clock) before = .ok written after) : held after := by
  rcases createJob_ok done with ⟨middle, fresh, same, outcome⟩
  have added : held middle := by
    rw [same]
    exact survives.adds before request _ holds fresh
  rcases outcome with ⟨_, unrun⟩ | ⟨surroundings, immediately, ran⟩
  · rw [unrun]
    exact added
  · rcases Option.map_eq_some_iff.mp immediately with ⟨clock, _, here⟩
    subst here
    have member : queuedJob request ∈ middle.jobs := by
      rw [same]
      exact List.mem_append_right _ (List.mem_singleton_self _)
    exact survives.runs _ _ middle written after added member (quietly_paced _ registry clock) ran

/-- The step lemma, for any invariant: what each kind of write keeps is kept by every operation
of the queue. -/
theorem Survives.operate (holds : held database) :
    held (MarketData.operate library database operation) := by
  have stays : forall {α : Type} (program : DatabaseProgram α),
      (forall value after, program database = .ok value after -> held after) ->
      held (transact id id program database) :=
    fun _ completes => transact_preserves holds completes
  cases operation with
  | create request executeImmediately registry =>
      apply stays
      intro written after done
      exact survives.created holds done
  | claim workerId leaseSeconds now =>
      apply stays
      intro outcome after done
      exact (survives.claimed holds done).1
  | execute target pass =>
      apply stays
      intro written after done
      rcases withJob_ok done with ⟨job, found, body⟩
      rw [bind_get] at body
      cases leased : Tables.lookup (·.jobId) target database.fleet.leases with
      | none =>
          rw [leased] at body
          cases body
      | some lease =>
          rw [leased] at body
          exact survives.executes holds (Tables.lookup_some found).1 body
  | run target registry clock =>
      apply stays
      intro written after done
      rcases withJob_ok done with ⟨job, found, ran⟩
      exact survives.runs _ job database written after holds (Tables.lookup_some found).1
        (quietly_paced job registry clock) ran
  | cancel target now =>
      apply stays
      intro written after done
      rcases withJob_ok done with ⟨job, found, cancels⟩
      rcases requestCancellation_ok cancels with ⟨open_, _, result⟩
      rw [result]
      exact survives.cancels target now job rfl found open_
  | restart target =>
      apply stays
      intro written after done
      rcases withJob_ok done with ⟨job, found, restarts⟩
      rcases restartImportJob_ok restarts with ⟨restartable, _, result⟩
      rw [result]
      exact survives.restarts job (Tables.lookup_some found).1 restartable
  | restartAndRun target registry clock =>
      apply stays
      intro written after done
      rcases restartJob_ok done with ⟨job, middle, found, restarts, ran⟩
      rcases restartImportJob_ok restarts with ⟨restartable, _, result⟩
      have restarted : held middle := by
        rw [result]
        exact survives.restarts job (Tables.lookup_some found).1 restartable
      have member : job.restarted ∈ middle.jobs := by
        rw [result]
        exact Tables.mem_put_self _ _
      exact survives.runs _ job.restarted middle written after restarted member
        (quietly_paced _ registry clock) ran
  | recover now =>
      apply stays
      intro value after done
      exact survives.recovers now after (.alone now) done
  | pass pass =>
      change held (transact Session.begins (·.database) (workerPass library pass) database)
      cases ended : workerPass library pass (Session.begins database) with
      | ok value session =>
          rw [transact_ok ended]
          exact survives.passes rfl ended
      | error raised session =>
          rw [transact_error ended]
          exact holds

end Rule

/-! ## Recovery, lease by lease -/

/-- The lease is dropped, and its job is abandoned where it is running. -/
def Database.recovering (now : Instant) (lease : JobLease) (job : ImportJob)
    (database : Database) : Database :=
  if job.status = .running then
    (database.changeFleet (Fleet.dropLease lease)).abandon now job
  else database.changeFleet (Fleet.dropLease lease)

theorem recoverLease_cases (now : Instant) (lease : JobLease) (database : Database) :
    recoverLease now lease database = .ok ⟨⟩ database ∨
    exists job, Tables.lookup ImportJob.id lease.jobId database.jobs = some job ∧
      recoverLease now lease database = .ok ⟨⟩ (database.recovering now lease job) := by
  unfold recoverLease
  rw [bind_get]
  cases found : Tables.lookup ImportJob.id lease.jobId database.jobs with
  | none => exact Or.inl rfl
  | some job =>
      refine Or.inr ⟨job, rfl, ?_⟩
      simp only [modifyFleet]
      rw [bind_modify]
      unfold recoverRunning Database.recovering
      by_cases running : job.status = .running
      · rw [if_pos running, if_pos running]
        rfl
      · rw [if_neg running, if_neg running]
        rfl

/-- Each lease that had expired when recovery began is recovered on its own. -/
theorem recoverAbandonedJobs_rule {invariant : Database -> Prop} {now : Instant}
    {database after : Database}
    (recovers : forall lease job before, lease ∈ database.fleet.leases ->
      lease.expiresAt ≤ now -> invariant before ->
      Tables.lookup ImportJob.id lease.jobId before.jobs = some job ->
        invariant (before.recovering now lease job))
    (holds : invariant database)
    (done : recoverAbandonedJobs now database = .ok ⟨⟩ after) : invariant after := by
  have each : Preserves invariant
      ((database.fleet.leases.filter (·.expiresAt ≤ now)).forM (recoverLease now)) := by
    apply Preserves.forM
    intro lease listed before held
    rcases List.mem_filter.mp listed with ⟨member, expired⟩
    rcases recoverLease_cases now lease before with idle | ⟨job, found, result⟩
    · rw [idle]
      exact held
    · rw [result]
      exact recovers lease job before member (of_decide_eq_true expired) held found
  have kept := each database holds
  unfold recoverAbandonedJobs at done
  rw [bind_get] at done
  rw [done] at kept
  exact kept

/-- A write under a known key and a new key leave the keys distinct. -/
theorem survives_keys {library : Library} {database : Database} {operation : QueueOperation}
    (keys : (database.jobs.map ImportJob.id).Nodup) :
    Survives library database operation fun current => (current.jobs.map ImportJob.id).Nodup where
  adds := by
    intro before request events holds fresh
    refine Tables.nodup_append_row.mpr ⟨fun listed => ?_, holds⟩
    rcases List.mem_map.mp listed with ⟨job, member, same⟩
    exact fresh job member same
  cancels := fun _ _ _ _ _ _ => Tables.nodup_put keys
  restarts := fun _ _ _ => Tables.nodup_put keys
  claims := by
    intro workerId leaseSeconds now before candidate after holds taken
    rw [taken.jobs]
    exact Tables.nodup_put holds
  runs := by
    intro surroundings job before finished after holds member paced ran
    rw [(runImportJob_plain ran).jobs]
    exact Tables.nodup_put holds
  releases := fun _ _ _ _ holds _ _ _ => holds
  recovers := by
    intro now after recovers done
    refine @recoverAbandonedJobs_rule
      (fun current => (current.jobs.map ImportJob.id).Nodup) now database after ?_ keys done
    intro lease job before _ _ holds found
    unfold Database.recovering
    split
    · exact Tables.nodup_put holds
    · exact holds

end MarketData
end MarketIntelligence
