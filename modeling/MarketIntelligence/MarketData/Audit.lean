import MarketIntelligence.Foundations.Runs
import MarketIntelligence.Foundations.Trails
import MarketIntelligence.MarketData.QueueSpec

namespace MarketIntelligence
namespace MarketData

open Foundations
open Loops
open Transactions
open Trails

/-!
# The audit trail of a job

A claim, an execution, a cancellation and a recovery write an event with the status
they find and the status they leave.  As long as nothing else changes the status of a
job, its events lead from the queue to its current status, along transitions that are
allowed.

A restart and a direct run of the job write no event.
-/

/-! ## The table of transitions -/

/-- `STATE_TRANSITIONS` -/
def stateTransitions : JobStatus -> List JobStatus
  | .queued => [.running, .cancelled]
  | .running => [.succeeded, .retrying, .failed, .cancelled, .deadLetter]
  | .retrying => [.running, .cancelled, .deadLetter]
  | .interrupted => [.running, .cancelled, .deadLetter]
  | .failed => [.queued, .deadLetter]
  | .cancelled => [.queued]
  | .succeeded => []
  | .deadLetter => []

def Allowed (before after : JobStatus) : Prop := after ∈ stateTransitions before

/-- The change of status that an event of the job tells of. -/
def statusChange (jobId : Identifier) (event : JobEvent) : Option (JobStatus × JobStatus) :=
  if event.jobId = jobId then
    match event.fromStatus, event.toStatus with
    | some before, some after => if before = after then none else some (before, after)
    | _, _ => none
  else none

def statusChanges (jobId : Identifier) (events : List JobEvent) : List (JobStatus × JobStatus) :=
  events.filterMap (statusChange jobId)

/-- The events of the job that change its status lead from the queue to the status it has, each
by a transition that the state machine allows. -/
def Audited (jobId : Identifier) (database : Database) : Prop :=
  forall job, job ∈ database.jobs -> job.id = jobId ->
    Leads Allowed .queued (statusChanges jobId database.events) job.status

/-! ## The system -/

/-- A call of the import without a heartbeat. -/
def quietly (registry : String -> Option (Nat -> Adapter)) (clock : Nat -> Instant) :
    Surroundings :=
  ⟨registry, clock, none⟩

/-- What is done to the queue: the requests of the API, the operations of a worker one
by one, and its whole pass. -/
inductive QueueOperation where
  | create (request : ImportRequest) (executeImmediately : Option (Nat -> Instant))
      (registry : String -> Option (Nat -> Adapter))
  | claim (workerId : Identifier) (leaseSeconds : Int) (now : Instant)
  | execute (jobId : Identifier) (pass : Pass)
  | run (jobId : Identifier) (registry : String -> Option (Nat -> Adapter))
      (clock : Nat -> Instant)
  | cancel (jobId : Identifier) (now : Instant)
  | restart (jobId : Identifier)
  | restartAndRun (jobId : Identifier) (registry : String -> Option (Nat -> Adapter))
      (clock : Nat -> Instant)
  | recover (now : Instant)
  | pass (pass : Pass)

/-- The execution of a job by the worker that has its lease. -/
def executeJob (library : Library) (pass : Pass) (jobId : Identifier) :
    DatabaseProgram ImportJob :=
  withJob jobId fun job => do
    let database ← get
    match Tables.lookup (·.jobId) jobId database.fleet.leases with
    | none => throw (.escaping "no lease")
    | some lease => executeClaimedJob library (pass.surroundings job) job lease pass.workerId

/-- Each operation is a transaction of its own. -/
def operate (library : Library) (database : Database) : QueueOperation -> Database
  | .create request executeImmediately registry =>
      transact id id (createJob library request
        (executeImmediately.map fun clock => quietly registry clock)) database
  | .claim workerId leaseSeconds now =>
      transact id id (claimNextJob workerId leaseSeconds now) database
  | .execute jobId pass => transact id id (executeJob library pass jobId) database
  | .run jobId registry clock =>
      transact id id (withJob jobId (runImportJob library (quietly registry clock))) database
  | .cancel jobId now => transact id id (cancelJob now jobId) database
  | .restart jobId => transact id id (withJob jobId restartImportJob) database
  | .restartAndRun jobId registry clock =>
      transact id id (restartJob library (quietly registry clock) jobId) database
  | .recover now => transact id id (recoverAbandonedJobs now) database
  | .pass pass => transact Session.begins (·.database) (workerPass library pass) database

/-- The operation does not change the status of the job without an event: it is not a
creation that runs the job at once, not a direct run that the status permits, and not a
restart that the status permits. -/
def Logged (jobId : Identifier) (database : Database) : QueueOperation -> Prop
  | .create request executeImmediately _ => request.id = jobId -> executeImmediately = none
  | .run target _ _ => target = jobId -> forall job, job ∈ database.jobs -> job.id = jobId ->
      job.status ∉ runnableStatuses
  | .restart target | .restartAndRun target _ _ =>
      target = jobId -> forall job, job ∈ database.jobs -> job.id = jobId ->
        job.status ∉ restartableStatuses
  | _ => True

/-! ## The invariant -/

/-- The job is not there yet, or its events lead to its status and only a running job
has a lease. -/
inductive Tracked (jobId : Identifier) (database : Database) : Prop where
  | absent (missing : forall job, job ∈ database.jobs -> job.id ≠ jobId)
      (quiet : statusChanges jobId database.events = [])
      (free : forall lease, lease ∈ database.fleet.leases -> lease.jobId ≠ jobId)
  | present (job : ImportJob) (same : job.id = jobId)
      (sole : Tables.Sole ImportJob.id job database.jobs)
      (leads : Leads Allowed .queued (statusChanges jobId database.events) job.status)
      (leased : forall lease, lease ∈ database.fleet.leases -> lease.jobId = jobId ->
        job.status = .running)

section Invariant

variable {jobId : Identifier} {database after : Database} {job written : ImportJob}

theorem Tracked.audited (tracked : Tracked jobId database) : Audited jobId database := by
  intro row member same
  cases tracked with
  | absent missing quiet free => exact absurd same (missing row member)
  | present job known sole leads leased =>
      rw [sole.eq_of_mem member (same.trans known.symm)]
      exact leads

/-- A lease of the job is the lease of a running job. -/
theorem Tracked.running (tracked : Tracked jobId database) (member : job ∈ database.jobs)
    (same : job.id = jobId) {lease : JobLease} (listed : lease ∈ database.fleet.leases)
    (own : lease.jobId = jobId) : job.status = .running := by
  cases tracked with
  | absent missing quiet free => exact absurd same (missing job member)
  | present row known sole leads leased =>
      rw [sole.eq_of_mem member (same.trans known.symm)]
      exact leased lease listed own

theorem statusChanges_append (events added : List JobEvent) :
    statusChanges jobId (events ++ added) =
      statusChanges jobId events ++ statusChanges jobId added :=
  List.filterMap_append

theorem statusChanges_other {event : JobEvent} (different : event.jobId ≠ jobId) :
    statusChanges jobId [event] = [] := by
  simp only [statusChanges, List.filterMap_cons, List.filterMap_nil, statusChange,
    if_neg different]

/-- An event from one status to the other adds the step between them. -/
theorem leads_event {event : JobEvent} {start before next : JobStatus}
    {trail : List (JobStatus × JobStatus)} (leads : Leads Allowed start trail before)
    (own : event.jobId = jobId) (fromStatus : event.fromStatus = some before)
    (toStatus : event.toStatus = some next) (allowed : before = next ∨ Allowed before next) :
    Leads Allowed start (trail ++ statusChanges jobId [event]) next := by
  simp only [statusChanges, List.filterMap_cons, List.filterMap_nil, statusChange, if_pos own,
    fromStatus, toStatus]
  by_cases same : before = next
  · subst same
    simpa using leads
  · simp only [if_neg same]
    exact leads.snoc (allowed.resolve_left same)

/-- A job is written with an event that tells of it.  A lease of it that is there
afterwards belongs to a running job, or it was there before and the job runs on. -/
structure Recorded (jobId : Identifier) (database after : Database) (job written : ImportJob)
    (event : JobEvent) : Prop where
  member : job ∈ database.jobs
  same : written.id = job.id
  jobs : after.jobs = Tables.put ImportJob.id written database.jobs
  events : after.events = database.events ++ [event]
  own : event.jobId = job.id
  fromStatus : job.id = jobId -> event.fromStatus = some job.status
  toStatus : event.toStatus = some written.status
  allowed : job.id = jobId -> job.status = written.status ∨ Allowed job.status written.status
  leases : forall lease, lease ∈ after.fleet.leases ->
    (exists known, known ∈ database.fleet.leases ∧ known.jobId = lease.jobId) ∨
      lease.jobId = job.id
  running : forall lease, lease ∈ after.fleet.leases -> lease.jobId = job.id ->
    written.status = .running ∨
      ((exists known, known ∈ database.fleet.leases ∧ known.jobId = job.id) ∧
        (job.status = .running -> written.status = .running))

theorem Tracked.write {event : JobEvent} (tracked : Tracked jobId database)
    (recorded : Recorded jobId database after job written event) : Tracked jobId after := by
  by_cases mine : job.id = jobId
  · cases tracked with
    | absent missing quiet free => exact absurd mine (missing job recorded.member)
    | present row known sole leads leased =>
        cases sole.eq_of_mem recorded.member (mine.trans known.symm)
        refine .present written (recorded.same.trans mine) ?_ ?_ ?_
        · rw [recorded.jobs]
          exact sole.put_same recorded.same
        · rw [recorded.events, statusChanges_append]
          exact leads_event leads (recorded.own.trans mine) (recorded.fromStatus mine)
            recorded.toStatus (recorded.allowed mine)
        · intro lease listed held
          rcases recorded.running lease listed (held.trans mine.symm) with
            running | ⟨⟨old, before, equal⟩, runsOn⟩
          · exact running
          · exact runsOn (leased old before (equal.trans mine))
  · have quietEvent : statusChanges jobId after.events = statusChanges jobId database.events := by
      rw [recorded.events, statusChanges_append, statusChanges_other (recorded.own ▸ mine),
        List.append_nil]
    have older : forall lease, lease ∈ after.fleet.leases -> lease.jobId = jobId ->
        exists known, known ∈ database.fleet.leases ∧ known.jobId = jobId := by
      intro lease listed held
      rcases recorded.leases lease listed with ⟨known, before, equal⟩ | other
      · exact ⟨known, before, equal.trans held⟩
      · exact absurd (other.symm.trans held) mine
    cases tracked with
    | absent missing quiet free =>
        refine .absent ?_ (quietEvent.trans quiet) ?_
        · intro row listed
          rw [recorded.jobs] at listed
          rcases Tables.mem_put listed with new | old
          · exact new ▸ recorded.same ▸ mine
          · exact missing row old
        · intro lease listed held
          rcases older lease listed held with ⟨known, before, equal⟩
          exact free known before equal
    | present row known sole leads leased =>
        refine .present row known ?_ ?_ ?_
        · rw [recorded.jobs]
          exact sole.put_other (by rw [recorded.same, known]; exact mine)
        · rw [quietEvent]
          exact leads
        · intro lease listed held
          rcases older lease listed held with ⟨_, before, equal⟩
          exact leased _ before equal

/-- Another job is written, without an event. -/
theorem Tracked.other (tracked : Tracked jobId database) (different : written.id ≠ jobId)
    (jobs : after.jobs = Tables.put ImportJob.id written database.jobs)
    (events : after.events = database.events)
    (leases : after.fleet.leases.map (·.jobId) = database.fleet.leases.map (·.jobId)) :
    Tracked jobId after := by
  have older : forall lease, lease ∈ after.fleet.leases ->
      exists known, known ∈ database.fleet.leases ∧ known.jobId = lease.jobId := by
    intro lease listed
    have named : lease.jobId ∈ after.fleet.leases.map (·.jobId) := List.mem_map_of_mem listed
    rw [leases] at named
    exact List.mem_map.mp named
  cases tracked with
  | absent missing quiet free =>
      refine .absent ?_ (events ▸ quiet) ?_
      · intro row listed
        rw [jobs] at listed
        rcases Tables.mem_put listed with new | old
        · exact new ▸ different
        · exact missing row old
      · intro lease listed held
        rcases older lease listed with ⟨known, before, equal⟩
        exact free known before (equal.trans held)
  | present row known sole leads leased =>
      refine .present row known ?_ (events ▸ leads) ?_
      · rw [jobs]
        exact sole.put_other (known ▸ different)
      · intro lease listed held
        rcases older lease listed with ⟨_, before, equal⟩
        exact leased _ before (equal.trans held)

/-- A queued job of a new identifier is added. -/
theorem Tracked.add {request : ImportRequest} {added : List JobEvent}
    (tracked : Tracked jobId database)
    (fresh : forall job, job ∈ database.jobs -> job.id ≠ request.id)
    (jobs : after.jobs = database.jobs ++ [queuedJob request])
    (events : after.events = database.events ++ added)
    (silent : statusChanges jobId added = [])
    (leases : after.fleet.leases = database.fleet.leases) : Tracked jobId after := by
  have quietEvents : statusChanges jobId after.events = statusChanges jobId database.events := by
    rw [events, statusChanges_append, silent, List.append_nil]
  cases tracked with
  | absent missing quiet free =>
      by_cases mine : request.id = jobId
      · refine .present (queuedJob request) mine ?_ ?_ ?_
        · have none_ : database.jobs.filter (fun other => other.id = (queuedJob request).id) = [] :=
            List.filter_eq_nil_iff.mpr fun other member equal =>
              fresh other member (of_decide_eq_true equal)
          unfold Tables.Sole
          rw [jobs, List.filter_append, none_, List.filter_cons_of_pos (by simp)]
          rfl
        · rw [quietEvents, quiet]
          exact .here _
        · intro lease listed held
          rw [leases] at listed
          exact absurd held (free lease listed)
      · refine .absent ?_ (quietEvents.trans quiet) (leases ▸ free)
        intro row listed
        rw [jobs] at listed
        rcases List.mem_append.mp listed with old | new
        · exact missing row old
        · rw [List.mem_singleton.mp new]
          exact mine
  | present row known sole leads leased =>
      refine .present row known ?_ (quietEvents.symm ▸ leads) (leases ▸ leased)
      rw [jobs]
      apply sole.append
      intro other new equal
      rw [List.mem_singleton.mp new] at equal
      exact fresh row (Tables.lookup_some sole.lookup).1 equal.symm

end Invariant

/-! ## Leases in a run -/

section Leases

variable {library : Library} {job : ImportJob} {database : Database}

theorem renewLease_jobIds (jobId workerId : Identifier) (leaseSeconds : Int) (now : Instant)
    (fleet : Fleet) :
    (finalState (renewLease jobId workerId leaseSeconds now fleet)).leases.map (·.jobId) =
      fleet.leases.map (·.jobId) := by
  cases found : Tables.lookup (·.jobId) jobId fleet.leases with
  | none => simp only [renewLease, found, finalState]
  | some lease =>
      simp only [renewLease, found]
      split
      · rfl
      split
      · rfl
      · have key : lease.jobId = jobId := (Tables.lookup_some found).2
        exact Tables.map_put (key.symm ▸ found)

/-- A run renews leases and adds none. -/
theorem runImportJob_jobIds {surroundings : Surroundings}
    (beats : forall beat, surroundings.heartbeat = some beat -> forall call fleet,
      (finalState (beat call fleet)).leases.map (·.jobId) = fleet.leases.map (·.jobId)) :
    (finalState (runImportJob library surroundings job database)).fleet.leases.map (·.jobId) =
      database.fleet.leases.map (·.jobId) := by
  have keeps : forall beat, surroundings.heartbeat = some beat -> forall call,
      Preserves (fun fleet : Fleet =>
        fleet.leases.map (·.jobId) = database.fleet.leases.map (·.jobId)) (beat call) :=
    fun beat heartbeat call fleet same => (beats beat heartbeat call fleet).trans same
  exact runImportJob_fleet keeps rfl

theorem quietly_jobIds {registry : String -> Option (Nat -> Adapter)} {clock : Nat -> Instant}
    {finished : ImportJob} {after : Database}
    (done : runImportJob library (quietly registry clock) job database = .ok finished after) :
    after.fleet.leases.map (·.jobId) = database.fleet.leases.map (·.jobId) := by
  have same : (finalState (runImportJob library (quietly registry clock) job
      database)).fleet.leases.map (·.jobId) = database.fleet.leases.map (·.jobId) :=
    runImportJob_jobIds fun _ impossible => by cases impossible
  rw [done] at same
  exact same

end Leases

/-! ## The operations -/

section Operations

variable {jobId : Identifier} {library : Library} {database after : Database}

theorem claimable_open {now : Instant} {leases : List JobLease} {job : ImportJob}
    (open_ : claimable now leases job = true) :
    Allowed job.status .running ∧ forall lease, lease ∈ leases -> lease.jobId ≠ job.id := by
  simp only [claimable, Bool.and_eq_true, Bool.not_eq_true'] at open_
  rcases open_ with ⟨⟨_, free⟩, listed⟩
  constructor
  · unfold Allowed
    cases status : job.status with
    | queued | retrying | interrupted => decide
    | running | succeeded | failed | cancelled | deadLetter =>
        rw [status] at listed
        cases listed
  · intro lease member same
    have found : leases.any (·.jobId = job.id) = true :=
      List.any_eq_true.mpr ⟨lease, member, decide_eq_true same⟩
    rw [free] at found
    cases found

theorem recoverAbandonedJobs_tracked (now : Instant) :
    Preserves (Tracked jobId) (recoverAbandonedJobs now) := by
  apply recoverAbandonedJobs_preserves
  constructor
  · intro database lease tracked
    have fewer : forall other, other ∈ (Fleet.dropLease lease database.fleet).leases ->
        other ∈ database.fleet.leases := fun other listed => (List.mem_filter.mp listed).1
    cases tracked with
    | absent missing quiet free =>
        exact .absent missing quiet fun other listed => free other (fewer other listed)
    | present row known sole leads leased =>
        exact .present row known sole leads fun other listed => leased other (fewer other listed)
  · intro database job tracked member running free
    have target : Allowed .running (job.abandoned now).status := by
      by_cases again : job.attempt < job.request.maxAttempts
      · simp only [ImportJob.abandoned, if_pos again, Allowed]
        decide
      · simp only [ImportJob.abandoned, if_neg again, Allowed]
        decide
    have recorded : Recorded jobId database (database.abandon now job) job (job.abandoned now)
        ⟨job.id, "lease_expired", some .running, some (job.abandoned now).status,
          "Abandoned job recovered after lease expiry"⟩ :=
      { member := member
        same := rfl
        jobs := rfl
        events := rfl
        own := rfl
        fromStatus := fun _ => congrArg some running.symm
        toStatus := rfl
        allowed := fun _ => Or.inr (running ▸ target)
        leases := fun lease listed => Or.inl ⟨lease, listed, rfl⟩
        running := fun lease listed own => absurd own (free lease listed) }
    exact tracked.write recorded

theorem processDueSchedules_tracked (pass : Pass) :
    Preserves (Tracked jobId) (processDueSchedules pass) := by
  apply processDueSchedules_preserves
  intro database due tracked fresh
  have unlogged : database.events = database.events ++ [] := (List.append_nil _).symm
  exact tracked.add fresh rfl unlogged rfl rfl

theorem ClaimedFrom.tracked {workerId : Identifier} {leaseSeconds : Int} {now : Instant}
    {candidate : ImportJob}
    (taken : ClaimedFrom workerId leaseSeconds now database candidate after)
    (tracked : Tracked jobId database) : Tracked jobId after := by
  rcases claimable_open taken.claimable with ⟨allowed, free⟩
  have recorded : Recorded jobId database after candidate (candidate.claimed now)
      ⟨candidate.id, "claimed", some candidate.status, some .running,
        "Job claimed by single-process worker"⟩ :=
    { member := taken.member
      same := rfl
      jobs := taken.jobs
      events := taken.events
      own := rfl
      fromStatus := fun _ => rfl
      toStatus := rfl
      allowed := fun _ => Or.inr allowed
      leases := by
        intro lease listed
        rw [taken.leases] at listed
        rcases List.mem_append.mp listed with old | new
        · exact Or.inl ⟨lease, old, rfl⟩
        · rw [List.mem_singleton.mp new]
          exact Or.inr rfl
      running := fun _ _ _ => Or.inl rfl }
  exact tracked.write recorded

theorem claimNextJob_tracked {workerId : Identifier} {leaseSeconds : Int} {now : Instant}
    {outcome : Option (ImportJob × JobLease)} (tracked : Tracked jobId database)
    (done : claimNextJob workerId leaseSeconds now database = .ok outcome after) :
    Tracked jobId after ∧ forall job lease, outcome = some (job, lease) ->
      job ∈ after.jobs ∧ job.status = .running := by
  rcases claimNextJob_cases workerId leaseSeconds now database with
    idle | ⟨candidate, claimed, taken, claims⟩
  · rw [idle] at done
    cases done
    exact ⟨tracked, fun _ _ impossible => by cases impossible⟩
  · rw [claims] at done
    cases done
    refine ⟨taken.tracked tracked, ?_⟩
    intro job lease chosen
    cases chosen
    rw [taken.jobs]
    exact ⟨Tables.mem_put_self _ _, rfl⟩

/-- The execution of a running job tells of the status it leaves. -/
theorem executeClaimedJob_tracked {pass : Pass} {job finished : ImportJob} {lease : JobLease}
    (tracked : Tracked jobId database) (member : job ∈ database.jobs)
    (running : job.id = jobId -> job.status = .running)
    (done : executeClaimedJob library (pass.surroundings job) job lease pass.workerId database =
      .ok finished after) : Tracked jobId after := by
  rcases executeClaimedJob_ok done with ⟨imported, ran, fleet, same, released⟩
  have returned : Returned (fun _ _ => True) job database finished imported :=
    runImportJob_returned (fun _ _ _ _ _ _ _ _ _ => trivial) trivial ran
  have jobIds : imported.fleet.leases.map (·.jobId) = database.fleet.leases.map (·.jobId) := by
    have beats : forall beat, (pass.surroundings job).heartbeat = some beat ->
        forall call fleet,
          (finalState (beat call fleet)).leases.map (·.jobId) = fleet.leases.map (·.jobId) := by
      intro beat heartbeat call fleet
      cases heartbeat
      exact renewLease_jobIds _ _ _ _ _
    have kept : (finalState (runImportJob library (pass.surroundings job) job
        database)).fleet.leases.map (·.jobId) = database.fleet.leases.map (·.jobId) :=
      runImportJob_jobIds beats
    rw [ran] at kept
    exact kept
  have target : Allowed .running finished.status := by
    unfold Allowed
    rcases returned.status with ⟨succeeded, _⟩ | cancelled | failed | ⟨retrying, _⟩
    · rw [succeeded]
      decide
    · rw [cancelled]
      decide
    · rw [failed]
      decide
    · rw [retrying]
      decide
  have recorded : Recorded jobId database after job finished
      { executionEvent finished with jobId := job.id } :=
    { member := member
      same := congrArg ImportRequest.id returned.request
      jobs := by
        rw [same]
        exact returned.jobs
      events := by
        rw [same, ← returned.events]
      own := rfl
      fromStatus := fun mine => congrArg some (running mine).symm
      toStatus := rfl
      allowed := fun mine => Or.inr (running mine ▸ target)
      leases := by
        intro other listed
        rw [same] at listed
        rw [released] at listed
        have named : other.jobId ∈ imported.fleet.leases.map (·.jobId) :=
          List.mem_map_of_mem (List.mem_filter.mp listed).1
        rw [jobIds] at named
        exact Or.inl (List.mem_map.mp named)
      running := by
        intro other listed own
        rw [same] at listed
        rw [released] at listed
        exact absurd own (of_decide_eq_true (List.mem_filter.mp listed).2) }
  exact tracked.write recorded

/-- A call of the import for another job. -/
theorem runImportJob_tracked {registry : String -> Option (Nat -> Adapter)}
    {clock : Nat -> Instant} {job finished : ImportJob} (tracked : Tracked jobId database)
    (different : job.id ≠ jobId)
    (done : runImportJob library (quietly registry clock) job database = .ok finished after) :
    Tracked jobId after := by
  have returned : Returned (fun _ _ => True) job database finished after :=
    runImportJob_returned (fun _ _ _ _ _ _ _ _ _ => trivial) trivial done
  have same : finished.id = job.id := congrArg ImportRequest.id returned.request
  exact tracked.other (same ▸ different) returned.jobs returned.events (quietly_jobIds done)

theorem requestCancellation_tracked {now : Instant} {job cancelled : ImportJob}
    (tracked : Tracked jobId database) (member : job ∈ database.jobs)
    (done : requestCancellation now job database = .ok cancelled after) :
    Tracked jobId after := by
  rcases requestCancellation_ok done with ⟨_, _, written⟩
  subst written
  have target : job.status = (job.cancelling now).status ∨
      Allowed job.status (job.cancelling now).status := by
    by_cases queued : job.status = .queued
    · refine Or.inr ?_
      simp only [ImportJob.cancelling, queued, Allowed]
      decide
    · refine Or.inl ?_
      simp only [ImportJob.cancelling, if_neg queued]
  have runsOn : job.status = .running -> (job.cancelling now).status = .running := by
    intro running
    simp only [ImportJob.cancelling, running]
    rfl
  have recorded : Recorded jobId database
      { database with
        jobs := Tables.put ImportJob.id (job.cancelling now) database.jobs
        events := database.events ++ [⟨job.id, "cancellation_requested", some job.status,
          some (job.cancelling now).status, "Cancellation requested"⟩] }
      job (job.cancelling now)
      ⟨job.id, "cancellation_requested", some job.status, some (job.cancelling now).status,
        "Cancellation requested"⟩ :=
    { member := member
      same := rfl
      jobs := rfl
      events := rfl
      own := rfl
      fromStatus := fun _ => rfl
      toStatus := rfl
      allowed := fun _ => target
      leases := fun lease listed => Or.inl ⟨lease, listed, rfl⟩
      running := fun lease listed own => Or.inr ⟨⟨lease, listed, own⟩, runsOn⟩ }
  exact tracked.write recorded

theorem createJob_ok {request : ImportRequest} {executeImmediately : Option Surroundings}
    {written : ImportJob}
    (done : createJob library request executeImmediately database = .ok written after) :
    exists middle, (forall job, job ∈ database.jobs -> job.id ≠ request.id) ∧
      middle = { database with
        jobs := database.jobs ++ [queuedJob request]
        events := database.events ++
          [⟨request.id, "queued", none, some .queued, "Import job accepted"⟩] } ∧
      ((executeImmediately = none ∧ after = middle) ∨
        exists surroundings, executeImmediately = some surroundings ∧
          runImportJob library surroundings (queuedJob request) middle = .ok written after) := by
  rcases bind_ok done with ⟨job, created, creates, rest⟩
  have made : (forall other, other ∈ database.jobs -> other.id ≠ request.id) ∧
      job = queuedJob request ∧
      created = { database with jobs := database.jobs ++ [queuedJob request] } := by
    unfold createImportJob at creates
    rw [bind_get] at creates
    rcases bind_ok creates with ⟨_, checked, checks, adds⟩
    have unchanged : checked = database := by
      cases outcome : checkRequest library request database with
      | error raised =>
          rw [outcome] at checks
          cases checks
      | ok value =>
          rw [outcome] at checks
          cases checks
          rfl
    subst unchanged
    split at adds
    · cases adds
    · rename_i fresh
      cases adds
      refine ⟨?_, rfl, rfl⟩
      intro other member same
      exact fresh (List.any_eq_true.mpr ⟨other, member, decide_eq_true same⟩)
  rcases made with ⟨fresh, same, written⟩
  subst same
  subst written
  refine ⟨_, fresh, rfl, ?_⟩
  cases executeImmediately with
  | none =>
      cases rest
      exact Or.inl ⟨rfl, rfl⟩
  | some surroundings => exact Or.inr ⟨surroundings, rfl, rest⟩

theorem workerPass_tracked {pass : Pass} {session : Session} (tracked : Tracked jobId database)
    (done : workerPass library pass (Session.begins database) = .ok ⟨⟩ session) :
    Tracked jobId session.database := by
  have reached : forall outcome claimed, Reaches pass database outcome claimed ->
      Tracked jobId claimed ∧ forall job lease, outcome = some (job, lease) ->
        job ∈ claimed.jobs ∧ job.status = .running := by
    intro outcome claimed reaches
    cases reaches with
    | intro recovered scheduled recovers schedules claims =>
      have recoveredTracked := recoverAbandonedJobs_tracked pass.now database tracked
      rw [recovers] at recoveredTracked
      have scheduledTracked := processDueSchedules_tracked pass recovered recoveredTracked
      rw [schedules] at scheduledTracked
      exact claimNextJob_tracked scheduledTracked claims
  cases workerPass_committed done with
  | idle claimed reaches =>
      exact (reached none claimed reaches).1
  | executed job lease claimed reaches finished after executes =>
      rcases reached _ claimed reaches with ⟨claimedTracked, taken⟩
      rcases taken job lease rfl with ⟨member, running⟩
      exact executeClaimedJob_tracked claimedTracked member (fun _ => running) executes

/-- What raises is rolled back, so it is enough to look at the programs that return. -/
theorem transact_tracked {α : Type} {program : DatabaseProgram α} (tracked : Tracked jobId database)
    (completes : forall value after, program database = .ok value after -> Tracked jobId after) :
    Tracked jobId (transact id id program database) :=
  transact_preserves tracked completes

/-- A creation writes an event that is no change of status, and runs only another job at once. -/
theorem operate_create_tracked {request : ImportRequest} {executeImmediately : Option (Nat -> Instant)}
    {registry : String -> Option (Nat -> Adapter)}
    (logged : Logged jobId database (.create request executeImmediately registry))
    (tracked : Tracked jobId database) :
    Tracked jobId (operate library database (.create request executeImmediately registry)) := by
  refine transact_tracked tracked ?_
  intro written after done
  rcases createJob_ok done with ⟨middle, fresh, same, outcome⟩
  have silent : statusChanges jobId
      [⟨request.id, "queued", none, some .queued, "Import job accepted"⟩] = [] := by
    simp [statusChanges, statusChange]
  have added : Tracked jobId middle := by
    subst same
    exact tracked.add fresh rfl rfl silent rfl
  rcases outcome with ⟨_, unrun⟩ | ⟨surroundings, immediately, ran⟩
  · rw [unrun]
    exact added
  · rcases Option.map_eq_some_iff.mp immediately with ⟨clock, asked, here⟩
    subst here
    by_cases mine : request.id = jobId
    · rw [logged mine] at asked
      cases asked
    · exact runImportJob_tracked added (show (queuedJob request).id ≠ jobId from mine) ran

/-- An execution finds the lease of the job, so the job that it executes is running. -/
theorem operate_execute_tracked {target : Identifier} {pass : Pass}
    (tracked : Tracked jobId database) :
    Tracked jobId (operate library database (.execute target pass)) := by
  refine transact_tracked tracked ?_
  intro written after done
  rcases withJob_ok done with ⟨job, found, body⟩
  rcases Tables.lookup_some found with ⟨member, same⟩
  rw [bind_get] at body
  cases held : Tables.lookup (·.jobId) target database.fleet.leases with
  | none =>
      rw [held] at body
      cases body
  | some lease =>
      rw [held] at body
      rcases Tables.lookup_some held with ⟨listed, own⟩
      exact executeClaimedJob_tracked tracked member
        (fun mine => tracked.running member mine listed (own.trans (same.symm.trans mine))) body

/-- A run at once is of another job, or is refused by the status. -/
theorem operate_run_tracked {target : Identifier} {registry : String -> Option (Nat -> Adapter)}
    {clock : Nat -> Instant} (logged : Logged jobId database (.run target registry clock))
    (tracked : Tracked jobId database) :
    Tracked jobId (operate library database (.run target registry clock)) := by
  refine transact_tracked tracked ?_
  intro written after done
  rcases withJob_ok done with ⟨job, found, ran⟩
  rcases Tables.lookup_some found with ⟨member, same⟩
  by_cases mine : target = jobId
  · have refused := logged mine job member (same.trans mine)
    rw [runImportJob, openRun, if_pos refused] at ran
    cases ran
  · exact runImportJob_tracked tracked (same ▸ mine) ran

/-- A restart writes no event, so it is of another job, or is refused by the status. -/
theorem restartImportJob_tracked {target : Identifier} {job restarted : ImportJob}
    (permitted : target = jobId -> forall job, job ∈ database.jobs -> job.id = jobId ->
      job.status ∉ restartableStatuses) (tracked : Tracked jobId database)
    (found : Tables.lookup ImportJob.id target database.jobs = some job)
    (done : restartImportJob job database = .ok restarted after) :
    job.restarted.id ≠ jobId ∧ Tracked jobId after := by
  rcases Tables.lookup_some found with ⟨member, same⟩
  rcases restartImportJob_ok done with ⟨restartable, _, result⟩
  have other : target ≠ jobId := fun mine =>
    permitted mine job member (same.trans mine) restartable
  have different : job.restarted.id ≠ jobId := same ▸ other
  subst result
  exact ⟨different, tracked.other different rfl rfl rfl⟩

/-- A whole pass of a worker is committed, or rolled back to where it began. -/
theorem operate_pass_tracked {pass : Pass} (tracked : Tracked jobId database) :
    Tracked jobId (operate library database (.pass pass)) := by
  change Tracked jobId (transact Session.begins (·.database) (workerPass library pass) database)
  cases ended : workerPass library pass (Session.begins database) with
  | ok value session =>
      rw [transact_ok ended]
      exact workerPass_tracked tracked ended
  | error raised session =>
      rw [transact_error ended]
      exact tracked

/-- The step lemma. -/
theorem operate_tracked {operation : QueueOperation}
    (logged : Logged jobId database operation) (tracked : Tracked jobId database) :
    Tracked jobId (operate library database operation) := by
  cases operation with
  | create request executeImmediately registry => exact operate_create_tracked logged tracked
  | claim workerId leaseSeconds now =>
      exact transact_tracked tracked fun _ _ done => (claimNextJob_tracked tracked done).1
  | execute target pass => exact operate_execute_tracked tracked
  | run target registry clock => exact operate_run_tracked logged tracked
  | cancel target now =>
      refine transact_tracked tracked ?_
      intro written after done
      rcases withJob_ok done with ⟨job, found, cancels⟩
      exact requestCancellation_tracked tracked (Tables.lookup_some found).1 cancels
  | restart target =>
      refine transact_tracked tracked ?_
      intro written after done
      rcases withJob_ok done with ⟨job, found, restarts⟩
      exact (restartImportJob_tracked logged tracked found restarts).2
  | restartAndRun target registry clock =>
      refine transact_tracked tracked ?_
      intro written after done
      rcases restartJob_ok done with ⟨job, middle, found, restarts, runs⟩
      rcases restartImportJob_tracked logged tracked found restarts with ⟨different, restarted⟩
      exact runImportJob_tracked restarted different runs
  | recover now =>
      refine transact_tracked tracked ?_
      intro value after done
      have kept := recoverAbandonedJobs_tracked now database tracked
      rw [done] at kept
      exact kept
  | pass pass => exact operate_pass_tracked tracked

/-- While no operation changes the status of the job without an event, its events lead
from the queue to its status, along allowed transitions. -/
theorem audit_chain {operations : List QueueOperation}
    (missing : forall job, job ∈ database.jobs -> job.id ≠ jobId)
    (unmentioned : forall event, event ∈ database.events -> event.jobId ≠ jobId)
    (free : forall lease, lease ∈ database.fleet.leases -> lease.jobId ≠ jobId)
    (logged : Runs.Along (operate library) (Logged jobId) database operations) :
    forall visited, visited ∈ Runs.states (operate library) database operations ->
      Audited jobId visited := by
  intro visited member
  have quiet : statusChanges jobId database.events = [] := by
    apply List.filterMap_eq_nil_iff.mpr
    intro event listed
    exact if_neg (unmentioned event listed)
  exact (logged.preserves (fun _ _ permitted tracked => operate_tracked permitted tracked)
    (Tracked.absent missing quiet free) visited member).audited

end Operations

/-! ## A pass, and a run at once -/

/-- The worker, before there is a job. -/
def emptyQueue : Database := { dailyQueue with jobs := [] }

def unreachable (_ : String) : Option (Nat -> Adapter) := some fun _ => .raising timeout

def failingPass : Pass where
  workerId := 3
  leaseSeconds := 60
  now := 0
  registry := unreachable
  clock := fun _ => 0
  due := .ok []
  crash := none

def passedOperations : List QueueOperation :=
  [.create dailyRequest none unreachable, .pass failingPass]

theorem passedOperations_logged :
    Runs.Along (operate plainLibrary) (Logged dailyRequest.id) emptyQueue passedOperations :=
  ⟨fun _ => rfl, trivial, trivial⟩

/-- The job is accepted, claimed by a pass and fails, with an event for each change. -/
theorem passedOperations_audited :
    exists database, database = passedOperations.foldl (operate plainLibrary) emptyQueue ∧
      database.jobs.map (·.status) = [.failed] ∧
      statusChanges dailyRequest.id database.events = [(.queued, .running), (.running, .failed)] ∧
      Audited dailyRequest.id database := by
  have ended : (passedOperations.foldl (operate plainLibrary) emptyQueue).jobs.map (·.status) =
        [.failed] ∧
      statusChanges dailyRequest.id
        (passedOperations.foldl (operate plainLibrary) emptyQueue).events =
          [(.queued, .running), (.running, .failed)] := by
    decide +kernel
  exact ⟨_, rfl, ended.1, ended.2,
    audit_chain (by decide) (by decide) (by decide) passedOperations_logged _
      (Runs.foldl_mem_states emptyQueue passedOperations)⟩

/-- The job is executed by the request that creates it.  It has failed, and no event
says that it has left the queue. -/
theorem immediateRun_unaudited :
    ¬ forall operations visited,
      visited ∈ Runs.states (operate plainLibrary) emptyQueue operations ->
        Audited dailyRequest.id visited := by
  intro audited
  let database := operate plainLibrary emptyQueue
    (.create dailyRequest (some fun _ => 0) unreachable)
  have ended : database.jobs.map (·.status) = [.failed] ∧
      database.jobs.map (·.id) = [dailyRequest.id] ∧
      statusChanges dailyRequest.id database.events = [] := by
    decide +kernel
  have visited : Audited dailyRequest.id database :=
    audited [.create dailyRequest (some fun _ => 0) unreachable] _ (Runs.foldl_mem_states _ _)
  rcases ended with ⟨statuses, ids, silent⟩
  rcases List.map_eq_singleton_iff.mp statuses with ⟨job, only, failed⟩
  have mine : job.id = dailyRequest.id := by
    rw [only, List.map_singleton] at ids
    exact List.singleton_injective ids
  have leads := visited job (only ▸ List.mem_singleton_self job) mine
  rw [silent, failed] at leads
  have queued := leads.unique (Leads.here JobStatus.queued)
  cases queued

end MarketData
end MarketIntelligence
