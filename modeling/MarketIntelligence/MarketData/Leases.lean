import MarketIntelligence.MarketData.QueueRule

namespace MarketIntelligence
namespace MarketData

open Foundations
open Loops
open Transactions

/-!
# Leases and running jobs

A job that is running has a lease, and no job has two.  A claim establishes this, and an
execution and a recovery give up the lease together with the status.  A worker that stops,
or that gives a lease back outside an execution, gives up the lease alone, and so it must
not be the lease of a running job.
-/

/-! ## The system -/

/-- A program on leases and workers, as a transaction of its own. -/
def onFleet (program : EStateM Exception Fleet PUnit) : DatabaseProgram PUnit :=
  fun database =>
    match program database.fleet with
    | .ok value fleet => .ok value { database with fleet := fleet }
    | .error raised fleet => .error raised { database with fleet := fleet }

/-- `release_lease`, outside an execution. -/
def giveBack (jobId workerId : Identifier) (now : Instant) : DatabaseProgram PUnit := do
  let database ← get
  match Tables.lookup (·.jobId) jobId database.fleet.leases with
  | none => throw (.escaping "ObjectDeletedError")
  | some lease =>
      if lease.workerId ≠ workerId then throw (.valueError "worker does not own this lease")
      else releaseLease jobId workerId now

/-- The operations of the queue, and those on workers and leases. -/
inductive LeaseOperation where
  | queue (operation : QueueOperation)
  | register (workerId : Identifier) (now : Instant)
  | renew (jobId workerId : Identifier) (leaseSeconds : Int) (now : Instant)
  | release (jobId workerId : Identifier) (now : Instant)
  | stop (workerId : Identifier) (now : Instant)

def operateLeases (library : Library) (database : Database) : LeaseOperation -> Database
  | .queue operation => operate library database operation
  | .register workerId now => transact id id (registerWorker workerId now) database
  | .renew jobId workerId leaseSeconds now =>
      transact id id (onFleet (renewLease jobId workerId leaseSeconds now)) database
  | .release jobId workerId now => transact id id (giveBack jobId workerId now) database
  | .stop workerId now => transact id id (stopWorker workerId now) database

/-- No job has two leases, and every running job has one.  A running job without a lease would
never be recovered, since the recovery goes by the leases. -/
structure LeaseSafe (database : Database) : Prop where
  single : (database.fleet.leases.map (·.jobId)).Nodup
  leased : forall job, job ∈ database.jobs -> job.status = .running ->
    exists lease, lease ∈ database.fleet.leases ∧ lease.jobId = job.id

instance (database : Database) : Decidable (LeaseSafe database) :=
  decidable_of_iff
    ((database.fleet.leases.map (·.jobId)).Nodup ∧
      forall job, job ∈ database.jobs -> job.status = .running ->
        exists lease, lease ∈ database.fleet.leases ∧ lease.jobId = job.id)
    ⟨fun both => ⟨both.1, both.2⟩, fun safe => ⟨safe.single, safe.leased⟩⟩

/-- The operation gives up no lease of a running job. -/
def SparesRunning (database : Database) : LeaseOperation -> Prop
  | .release jobId workerId _ =>
      forall lease, lease ∈ database.fleet.leases -> lease.jobId = jobId ->
        lease.workerId = workerId ->
          forall job, job ∈ database.jobs -> job.id = jobId -> job.status ≠ .running
  | .stop workerId _ =>
      forall lease, lease ∈ database.fleet.leases -> lease.workerId = workerId ->
        forall job, job ∈ database.jobs -> job.id = lease.jobId -> job.status ≠ .running
  | _ => True

/-! ## What the operations of the queue preserve -/

/-- The database is safe, and an identifier is the identifier of one job. -/
structure Secured (database : Database) : Prop where
  keys : (database.jobs.map ImportJob.id).Nodup
  safe : LeaseSafe database

section Queue

variable {library : Library} {database after : Database} {operation : QueueOperation}

/-- A job is written.  Leases of other jobs stay, and it has one itself if it runs. -/
theorem Secured.put {written : ImportJob} (secured : Secured database)
    (jobs : after.jobs = Tables.put ImportJob.id written database.jobs)
    (single : (after.fleet.leases.map (·.jobId)).Nodup)
    (others : forall lease, lease ∈ database.fleet.leases -> lease.jobId ≠ written.id ->
      exists kept, kept ∈ after.fleet.leases ∧ kept.jobId = lease.jobId)
    (own : written.status = .running ->
      exists lease, lease ∈ after.fleet.leases ∧ lease.jobId = written.id) : Secured after := by
  have keys : (after.jobs.map ImportJob.id).Nodup := by
    rw [jobs]
    exact Tables.nodup_put secured.keys
  refine ⟨keys, single, ?_⟩
  intro job member running
  by_cases mine : job.id = written.id
  · have listed : written ∈ after.jobs := by
      rw [jobs]
      exact Tables.mem_put_self _ _
    have same : job = written := List.inj_on_of_nodup_map keys member listed mine
    subst same
    exact own running
  · rw [jobs] at member
    rcases Tables.mem_put member with new | old
    · exact absurd (congrArg ImportJob.id new) mine
    · rcases secured.safe.leased job old running with ⟨lease, listed, same⟩
      rcases others lease listed (same ▸ mine) with ⟨kept, here, equal⟩
      exact ⟨kept, here, equal.trans same⟩

/-- A job is written that runs only if it did, and the leases stay. -/
theorem Secured.rewrite {job written : ImportJob} (secured : Secured database)
    (member : job ∈ database.jobs) (same : written.id = job.id)
    (jobs : after.jobs = Tables.put ImportJob.id written database.jobs)
    (leases : after.fleet.leases.map (·.jobId) = database.fleet.leases.map (·.jobId))
    (runs : written.status = .running -> job.status = .running) : Secured after := by
  have kept : forall lease, lease ∈ database.fleet.leases ->
      exists other, other ∈ after.fleet.leases ∧ other.jobId = lease.jobId := by
    intro lease listed
    have named : lease.jobId ∈ database.fleet.leases.map (·.jobId) := List.mem_map_of_mem listed
    rw [← leases] at named
    exact List.mem_map.mp named
  apply secured.put jobs
  · rw [leases]
    exact secured.safe.single
  · exact fun lease listed _ => kept lease listed
  · intro running
    rcases secured.safe.leased job member (runs running) with ⟨lease, listed, own⟩
    rcases kept lease listed with ⟨other, here, equal⟩
    exact ⟨other, here, equal.trans (own.trans same.symm)⟩

/-- The leases of a job are dropped that does not run. -/
theorem Secured.drop {jobId : Identifier} (secured : Secured database)
    (jobs : after.jobs = database.jobs)
    (leases : after.fleet.leases = database.fleet.leases.filter (·.jobId ≠ jobId))
    (rests : forall job, job ∈ database.jobs -> job.id = jobId -> job.status ≠ .running) :
    Secured after := by
  refine ⟨jobs ▸ secured.keys, ?_, ?_⟩
  · rw [leases]
    exact secured.safe.single.sublist (List.filter_sublist.map _)
  · intro job member running
    rw [jobs] at member
    rcases secured.safe.leased job member running with ⟨lease, listed, same⟩
    refine ⟨lease, ?_, same⟩
    rw [leases]
    refine List.mem_filter.mpr ⟨listed, decide_eq_true ?_⟩
    intro equal
    exact rests job member (same.symm.trans equal) running

theorem Paced.jobIds {surroundings : Surroundings} {job finished : ImportJob}
    (paced : Paced job surroundings)
    (done : runImportJob library surroundings job database = .ok finished after) :
    after.fleet.leases.map (·.jobId) = database.fleet.leases.map (·.jobId) := by
  have beats : forall beat, surroundings.heartbeat = some beat -> forall call fleet,
      (finalState (beat call fleet)).leases.map (·.jobId) = fleet.leases.map (·.jobId) := by
    intro beat heartbeat call fleet
    rcases paced beat heartbeat with ⟨workerId, leaseSeconds, clock, same⟩
    subst same
    exact renewLease_jobIds _ _ _ _ _
  have kept : (finalState (runImportJob library surroundings job database)).fleet.leases.map
      (·.jobId) = database.fleet.leases.map (·.jobId) := runImportJob_jobIds beats
  rw [done] at kept
  exact kept

/-- A job of a lease that has expired is abandoned when the lease is dropped. -/
theorem Secured.recovering {now : Instant} {lease : JobLease} {job : ImportJob}
    (secured : Secured database)
    (found : Tables.lookup ImportJob.id lease.jobId database.jobs = some job) :
    Secured (database.recovering now lease job) := by
  rcases Tables.lookup_some found with ⟨member, same⟩
  unfold Database.recovering
  by_cases running : job.status = .running
  · rw [if_pos running]
    have jobs : (((database.changeFleet (Fleet.dropLease lease)).abandon now job)).jobs =
        Tables.put ImportJob.id (job.abandoned now) database.jobs := rfl
    apply secured.put jobs
    · exact secured.safe.single.sublist (List.filter_sublist.map _)
    · intro other listed different
      refine ⟨other, List.mem_filter.mpr ⟨listed, decide_eq_true ?_⟩, rfl⟩
      exact fun equal => different (equal.trans same.symm)
    · intro runsOn
      simp only [ImportJob.abandoned] at runsOn
      split at runsOn <;> cases runsOn
  · rw [if_neg running]
    refine secured.drop rfl rfl ?_
    intro other listed equal
    have only : other = job :=
      List.inj_on_of_nodup_map secured.keys listed member (equal.trans same.symm)
    exact only ▸ running

theorem survives_secured (secured : Secured database) :
    Survives library database operation Secured where
  adds := by
    intro before request events holds fresh
    refine ⟨?_, holds.safe.single, ?_⟩
    · refine Tables.nodup_append_row.mpr ⟨fun listed => ?_, holds.keys⟩
      rcases List.mem_map.mp listed with ⟨job, member, same⟩
      exact fresh job member same
    · intro job member running
      rcases List.mem_append.mp member with old | new
      · exact holds.safe.leased job old running
      · rw [List.mem_singleton.mp new] at running
        cases running
  cancels := by
    intro target now job cancels found open_
    have jobs : (database.cancel now job).jobs =
        Tables.put ImportJob.id (job.cancelling now) database.jobs := rfl
    have same : (job.cancelling now).id = job.id := rfl
    refine secured.rewrite (Tables.lookup_some found).1 same jobs rfl ?_
    intro running
    by_cases queued : job.status = .queued
    · simp only [ImportJob.cancelling, if_pos queued] at running
      cases running
    · simpa only [ImportJob.cancelling, if_neg queued] using running
  restarts := by
    intro job member restartable
    have jobs : (database.restart job).jobs =
        Tables.put ImportJob.id job.restarted database.jobs := rfl
    have same : job.restarted.id = job.id := rfl
    exact secured.rewrite member same jobs rfl fun impossible => by cases impossible
  claims := by
    intro workerId leaseSeconds now before candidate after holds taken
    rcases claimable_open taken.claimable with ⟨_, free⟩
    have held : newLease workerId leaseSeconds now candidate ∈ after.fleet.leases := by
      rw [taken.leases]
      exact List.mem_append_right _ (List.mem_singleton_self _)
    refine holds.put taken.jobs ?_ ?_ fun _ => ⟨_, held, rfl⟩
    · rw [taken.leases]
      refine Tables.nodup_append_row.mpr ⟨fun listed => ?_, holds.safe.single⟩
      rcases List.mem_map.mp listed with ⟨lease, member, same⟩
      exact free lease member same
    · intro lease listed _
      refine ⟨lease, ?_, rfl⟩
      rw [taken.leases]
      exact List.mem_append_left _ listed
  runs := by
    intro surroundings job before finished after holds member paced ran
    have returned := runImportJob_plain ran
    exact holds.rewrite member returned.id_eq returned.jobs (paced.jobIds ran)
      fun running => absurd running returned.rests
  releases := by
    intro before finished fleet events holds member rests leases
    refine holds.drop rfl leases ?_
    intro job listed equal
    have only : job = finished := List.inj_on_of_nodup_map holds.keys listed member equal
    exact only ▸ rests
  recovers := by
    intro now after recovers done
    exact recoverAbandonedJobs_rule
      (fun lease job before _ _ holds found => holds.recovering found) secured done

end Queue

/-! ## Every run -/

section Runs

variable {library : Library} {database : Database} {operation : LeaseOperation}

theorem renewed_cases (jobId workerId : Identifier) (leaseSeconds : Int) (now : Instant)
    (database : Database) :
    exists fleet, transact id id (onFleet (renewLease jobId workerId leaseSeconds now)) database =
        { database with fleet := fleet } ∧
      fleet.leases.map (·.jobId) = database.fleet.leases.map (·.jobId) := by
  have kept := renewLease_jobIds jobId workerId leaseSeconds now database.fleet
  cases ended : renewLease jobId workerId leaseSeconds now database.fleet with
  | ok value fleet =>
      rw [ended] at kept
      have done : onFleet (renewLease jobId workerId leaseSeconds now) (id database) =
          .ok value { database with fleet := fleet } := by
        simp only [onFleet, id, ended]
      exact ⟨fleet, transact_ok done, kept⟩
  | error raised fleet =>
      have stopped : onFleet (renewLease jobId workerId leaseSeconds now) (id database) =
          .error raised { database with fleet := fleet } := by
        simp only [onFleet, id, ended]
      exact ⟨database.fleet, transact_error stopped, rfl⟩

/-- A lease is given back by the worker that holds it, or nothing happens. -/
theorem giveBack_cases (jobId workerId : Identifier) (now : Instant) (database : Database) :
    (transact id id (giveBack jobId workerId now) database = database ∧
      forall lease, Tables.lookup (·.jobId) jobId database.fleet.leases = some lease ->
        lease.workerId ≠ workerId) ∨
    exists lease fleet, Tables.lookup (·.jobId) jobId database.fleet.leases = some lease ∧
      lease.workerId = workerId ∧
      transact id id (giveBack jobId workerId now) database = { database with fleet := fleet } ∧
      fleet.leases = database.fleet.leases.filter (·.jobId ≠ jobId) := by
  cases found : Tables.lookup (·.jobId) jobId database.fleet.leases with
  | none =>
      have stopped : giveBack jobId workerId now (id database) =
          .error (.escaping "ObjectDeletedError") database := by
        unfold giveBack
        rw [bind_get, id, found]
        rfl
      exact Or.inl ⟨transact_error stopped, fun _ impossible => by cases impossible⟩
  | some lease =>
      by_cases other : lease.workerId ≠ workerId
      · have stopped : giveBack jobId workerId now (id database) =
            .error (.valueError "worker does not own this lease") database := by
          unfold giveBack
          rw [bind_get, id, found]
          exact congrFun (if_pos other) database
        refine Or.inl ⟨transact_error stopped, ?_⟩
        intro held same
        cases same
        exact other
      · have done : giveBack jobId workerId now (id database) =
            releaseLease jobId workerId now database := by
          unfold giveBack
          rw [bind_get, id, found]
          exact congrFun (if_neg other) database
        exact Or.inr ⟨lease, _, rfl, Classical.not_not.mp other, transact_ok done, rfl⟩

/-- No operation adds a second job of an identifier. -/
theorem operateLeases_keys (keys : (database.jobs.map ImportJob.id).Nodup) :
    ((operateLeases library database operation).jobs.map ImportJob.id).Nodup := by
  cases operation with
  | queue operation => exact (survives_keys keys).operate keys
  | register workerId now => exact keys
  | renew jobId workerId leaseSeconds now =>
      rcases renewed_cases jobId workerId leaseSeconds now database with ⟨fleet, same, _⟩
      rw [operateLeases, same]
      exact keys
  | release jobId workerId now =>
      rcases giveBack_cases jobId workerId now database with
        ⟨same, _⟩ | ⟨lease, fleet, _, _, same, _⟩
      · rw [operateLeases, same]
        exact keys
      · rw [operateLeases, same]
        exact keys
  | stop workerId now => exact keys

/-- Leases are dropped.  That is safe when none of them is the lease of a running job. -/
theorem Secured.drop_iff {after : Database} {dropped : JobLease -> Bool}
    (secured : Secured database) (jobs : after.jobs = database.jobs)
    (leases : after.fleet.leases = database.fleet.leases.filter fun lease => !dropped lease) :
    LeaseSafe after <-> forall lease, lease ∈ database.fleet.leases -> dropped lease = true ->
      forall job, job ∈ database.jobs -> job.id = lease.jobId -> job.status ≠ .running := by
  constructor
  · intro safe lease listed gone job member same running
    rcases safe.leased job (jobs ▸ member) running with ⟨kept, here, own⟩
    rw [leases] at here
    rcases List.mem_filter.mp here with ⟨known, stays⟩
    have only : kept = lease :=
      List.inj_on_of_nodup_map secured.safe.single known listed (own.trans same)
    rw [only, gone] at stays
    cases stays
  · intro spares
    refine ⟨?_, ?_⟩
    · rw [leases]
      exact secured.safe.single.sublist (List.filter_sublist.map _)
    · intro job member running
      rw [jobs] at member
      rcases secured.safe.leased job member running with ⟨lease, listed, own⟩
      refine ⟨lease, ?_, own⟩
      rw [leases]
      refine List.mem_filter.mpr ⟨listed, ?_⟩
      cases gone : dropped lease with
      | false => rfl
      | true => exact absurd running (spares lease listed gone job member own.symm)

/-- The step lemma: an operation is safe exactly when it spares running jobs. -/
theorem operateLeases_iff (secured : Secured database) :
    LeaseSafe (operateLeases library database operation) <->
      SparesRunning database operation := by
  cases operation with
  | queue operation =>
      exact iff_of_true ((survives_secured secured).operate secured).safe trivial
  | register workerId now => exact iff_of_true ⟨secured.safe.single, secured.safe.leased⟩ trivial
  | renew jobId workerId leaseSeconds now =>
      rcases renewed_cases jobId workerId leaseSeconds now database with ⟨fleet, same, jobIds⟩
      refine iff_of_true ?_ trivial
      rw [operateLeases, same]
      refine ⟨jobIds ▸ secured.safe.single, ?_⟩
      intro job member running
      rcases secured.safe.leased job member running with ⟨lease, listed, own⟩
      have named : lease.jobId ∈ database.fleet.leases.map (·.jobId) := List.mem_map_of_mem listed
      rw [← jobIds] at named
      rcases List.mem_map.mp named with ⟨other, here, equal⟩
      exact ⟨other, here, equal.trans own⟩
  | release jobId workerId now =>
      rcases giveBack_cases jobId workerId now database with
        ⟨same, refused⟩ | ⟨lease, fleet, found, mine, same, leases⟩
      · rw [operateLeases, same]
        refine iff_of_true secured.safe ?_
        intro lease listed own held
        have found : Tables.lookup (·.jobId) jobId database.fleet.leases = some lease := by
          rw [← own]
          exact Tables.lookup_of_mem secured.safe.single listed
        exact absurd held (refused lease found)
      · rw [operateLeases, same]
        rcases Tables.lookup_some found with ⟨listed, own⟩
        have leases' : fleet.leases =
            database.fleet.leases.filter fun lease => !decide (lease.jobId = jobId) := by
          rw [leases]
          exact List.filter_congr fun other _ => by simp
        have jobs : ({ database with fleet := fleet } : Database).jobs = database.jobs := rfl
        rw [secured.drop_iff jobs leases']
        constructor
        · intro spares other known here _ job member equal
          exact spares other known (decide_eq_true here) job member (equal.trans here.symm)
        · intro spares other known gone job member equal
          have here : other.jobId = jobId := of_decide_eq_true gone
          have only : other = lease :=
            List.inj_on_of_nodup_map secured.safe.single known listed (here.trans own.symm)
          subst only
          exact spares other known here mine job member (equal.trans here)
  | stop workerId now =>
      have leases : (operateLeases library database (.stop workerId now)).fleet.leases =
          database.fleet.leases.filter fun lease => !decide (lease.workerId = workerId) :=
        List.filter_congr fun other _ => by simp
      have jobs : (operateLeases library database (.stop workerId now)).jobs = database.jobs := rfl
      rw [secured.drop_iff jobs leases]
      constructor
      · intro spares lease listed mine job member own
        exact spares lease listed (decide_eq_true mine) job member own
      · intro spares lease listed gone job member own
        exact spares lease listed (of_decide_eq_true gone) job member own

/-- In every run, running jobs have one lease each at every state exactly when each operation
spares running jobs: none of them deletes a lease and leaves its job running. -/
theorem leases_safe_iff {operations : List LeaseOperation}
    (keys : (database.jobs.map ImportJob.id).Nodup) (initially : LeaseSafe database) :
    (forall visited, visited ∈ Runs.states (operateLeases library) database operations ->
      LeaseSafe visited) <->
    Runs.Along (operateLeases library) SparesRunning database operations := by
  have decides : forall current operation, Secured current ->
      (Secured (operateLeases library current operation) <->
        SparesRunning current operation) := by
    intro current operation secured
    have safe : LeaseSafe (operateLeases library current operation) <->
        SparesRunning current operation := operateLeases_iff secured
    rw [← safe]
    exact ⟨Secured.safe, fun safe => ⟨operateLeases_keys secured.keys, safe⟩⟩
  have distinct : forall visited,
      visited ∈ Runs.states (operateLeases library) database operations ->
        (visited.jobs.map ImportJob.id).Nodup :=
    Runs.invariant_states (motive := fun current : Database =>
      (current.jobs.map ImportJob.id).Nodup) (fun _ _ => operateLeases_keys) keys
  rw [← Runs.invariant_states_iff_along decides ⟨keys, initially⟩]
  constructor
  · exact fun safe visited member => ⟨distinct visited member, safe visited member⟩
  · exact fun secured visited member => (secured visited member).safe

end Runs

/-! ## A worker that stops -/

/-- The worker executes the job it has claimed, and stops. -/
def orderlyOperations : List LeaseOperation :=
  [.queue (.claim 3 60 0), .queue (.execute 1 failingPass), .stop 3 5]

theorem orderlyOperations_spare :
    Runs.Along (operateLeases plainLibrary) SparesRunning dailyQueue orderlyOperations := by
  have released : (operateLeases plainLibrary
      (operateLeases plainLibrary dailyQueue (.queue (.claim 3 60 0)))
      (.queue (.execute 1 failingPass))).fleet.leases = [] := by
    decide +kernel
  refine ⟨trivial, trivial, ?_, trivial⟩
  intro lease listed
  rw [released] at listed
  cases listed

/-- The job has been claimed and has failed, and the worker has left no lease. -/
theorem orderlyOperations_safe :
    exists database, database = orderlyOperations.foldl (operateLeases plainLibrary) dailyQueue ∧
      database.jobs.map (·.status) = [.failed] ∧ database.fleet.leases = [] ∧
      LeaseSafe database :=
  ⟨_, rfl, by decide +kernel, by decide +kernel,
    (leases_safe_iff (by decide) (by decide)).mpr orderlyOperations_spare _
      (Runs.foldl_mem_states dailyQueue orderlyOperations)⟩

/-- The worker stops between the claim and the execution. -/
def strandedQueue : Database :=
  [.queue (.claim 3 60 0), .stop 3 5].foldl (operateLeases plainLibrary) dailyQueue

/-- The job runs without a lease.  No claim takes it and no recovery finds it. -/
theorem stoppedWorker_strands :
    strandedQueue.jobs.map (·.status) = [.running] ∧ strandedQueue.fleet.leases = [] ∧
      (forall now, nextJob now strandedQueue = none ∧
        recoverAbandonedJobs now strandedQueue = .ok ⟨⟩ strandedQueue) ∧
      ¬ forall operations visited,
        visited ∈ Runs.states (operateLeases plainLibrary) dailyQueue operations ->
          LeaseSafe visited := by
  have unsafe_ : ¬ LeaseSafe strandedQueue := by
    decide +kernel
  refine ⟨by decide +kernel, by decide +kernel, ?_, ?_⟩
  · intro now
    have jobs : strandedQueue.jobs = [(queuedJob dailyRequest).claimed 0] := by
      decide +kernel
    have leases : strandedQueue.fleet.leases = [] := by
      decide +kernel
    have running : claimable now [] ((queuedJob dailyRequest).claimed 0) = false := rfl
    constructor
    · unfold nextJob
      rw [jobs, leases, List.filter_cons_of_neg (by rw [running]; decide), List.filter_nil]
      rfl
    · unfold recoverAbandonedJobs
      rw [bind_get, leases]
      rfl
  · intro safe
    exact unsafe_ (safe [.queue (.claim 3 60 0), .stop 3 5] _ (Runs.foldl_mem_states _ _))

end MarketData
end MarketIntelligence
