import MarketIntelligence.MarketData.QueueRule

namespace MarketIntelligence
namespace MarketData

open Foundations
open Loops

/-!
# When a cancellation takes effect

A job that is to be cancelled is cancelled in the queue, or by the run that executes it.
A job that waits for another attempt is neither, and no claim takes a job that is to be
cancelled.  So a cancellation takes effect as long as it does not reach a job that waits
for another attempt, and recovery does not send a job back that is to be cancelled.

A run cannot send such a job back: it stops before its first symbol, and the heartbeats
before it raise nothing that is tried again.
-/

def waitingStatuses : List JobStatus := [.queued, .retrying, .interrupted]

/-- The job is to be cancelled, and waits for a claim. -/
def ImportJob.Stuck (job : ImportJob) : Prop :=
  job.cancelRequested = true ∧ job.status ∈ waitingStatuses

instance (job : ImportJob) : Decidable job.Stuck :=
  inferInstanceAs (Decidable (_ ∧ _))

/-- No job of this identifier waits for a claim while it is to be cancelled.  A claim passes such
a job over, so it would wait for ever. -/
def TakesEffect (jobId : Identifier) (database : Database) : Prop :=
  forall job, job ∈ database.jobs -> job.id = jobId -> ¬ job.Stuck

instance (jobId : Identifier) (database : Database) : Decidable (TakesEffect jobId database) :=
  inferInstanceAs (Decidable (forall job, job ∈ database.jobs -> job.id = jobId -> ¬ job.Stuck))

/-- No claim takes a job that is stuck. -/
theorem ImportJob.Stuck.unclaimable {job : ImportJob} (stuck : job.Stuck) (now : Instant)
    (leases : List JobLease) : claimable now leases job = false := by
  simp [claimable, stuck.1]

/-- A cancellation does not reach the job while it waits for another attempt, and recovery
does not send it back when it is to be cancelled. -/
structure Timely (jobId : Identifier) (database : Database) (operation : QueueOperation) :
    Prop where
  cancels : forall now, operation = .cancel jobId now ->
    forall job, job ∈ database.jobs -> job.id = jobId ->
      job.status ≠ .retrying ∧ job.status ≠ .interrupted
  recovers : forall now, operation.RecoversAt now ->
    forall job, job ∈ database.jobs -> job.id = jobId ->
      job.cancelRequested = true -> job.status = .running ->
        job.attempt < job.request.maxAttempts ->
          forall lease, lease ∈ database.fleet.leases -> lease.jobId = jobId ->
            now < lease.expiresAt

/-! ## A run that is to be cancelled -/

/-- The exceptions after which a job is tried again. -/
def Exception.Retried : Exception -> Prop
  | .temporary _ | .rateLimit _ _ => True
  | _ => False

theorem renewLease_unretried {jobId workerId : Identifier} {leaseSeconds : Int} {now : Instant}
    {fleet after : Fleet} {raised : Exception}
    (stops : renewLease jobId workerId leaseSeconds now fleet = .error raised after) :
    ¬ raised.Retried := by
  unfold renewLease at stops
  split at stops
  · cases stops
    exact id
  · split at stops
    · cases stops
      exact id
    · split at stops
      · cases stops
        exact id
      · cases stops

section Runs

variable {context : Context}

/-- The run goes on, and is to be cancelled. -/
structure Run.Doomed (run : Run) : Prop where
  requested : run.job.cancelRequested = true
  status : run.job.status = .running

theorem callHeartbeat_doomed
    (beats : forall beat, context.heartbeat = some beat -> forall call fleet raised after,
      beat call fleet = .error raised after -> ¬ raised.Retried) (call : Nat) :
    Meets Run.Doomed (callHeartbeat context call) (fun _ => Run.Doomed)
      (fun raised _ => ¬ raised.Retried) := by
  intro run doomed
  unfold callHeartbeat
  cases heartbeat : context.heartbeat with
  | none => exact doomed
  | some beat =>
      cases beaten : beat call run.database.fleet with
      | ok value fleet =>
          simp only [beaten]
          exact ⟨doomed.requested, doomed.status⟩
      | error raised fleet =>
          simp only [beaten]
          exact beats beat heartbeat call _ raised fleet beaten

/-- The loop calls heartbeats until it comes to a symbol that is not skipped, where it
stops.  By induction on the symbols that are left. -/
theorem importSymbols_doomed
    (beats : forall beat, context.heartbeat = some beat -> forall call fleet raised after,
      beat call fleet = .error raised after -> ¬ raised.Retried) (rest : List (String × Nat)) :
    Meets Run.Doomed (importSymbols context rest)
      (fun _ run => run.job.status = .running ∨ run.job.status = .cancelled)
      (fun raised _ => ¬ raised.Retried) := by
  induction rest with
  | nil => exact fun run doomed => Or.inl doomed.status
  | cons head tail ih =>
      rcases head with ⟨symbol, sequence⟩
      rw [importSymbols]
      apply (callHeartbeat_doomed beats _).bind
      intro _
      by_cases skipped : sequence < context.startIndex
      · rw [if_pos skipped]
        exact ih
      · rw [if_neg skipped]
        have stops : Meets Run.Doomed (visitSymbol context sequence symbol)
            (fun goesOn run => goesOn = false ∧ run.job.status = .cancelled)
            (fun raised _ => ¬ raised.Retried) := by
          intro run doomed
          have visited : visitSymbol context sequence symbol run =
              (if run.job.cancelRequested then
                modifyJob (fun job => { job with status := .cancelled }) >>= fun _ => pure false
              else
                importSymbol context sequence symbol >>= fun complete =>
                  if complete then
                    callHeartbeat context (2 * sequence + 1) >>= fun _ => pure true
                  else pure false) run := rfl
          rw [visited, if_pos doomed.requested]
          exact ⟨rfl, rfl⟩
        apply stops.bind
        intro goesOn run stopped
        rcases stopped with ⟨last, cancelled⟩
        subst last
        exact Or.inr cancelled

/-- No attempt follows on a run that is to be cancelled. -/
theorem runSymbols_doomed
    (beats : forall beat, context.heartbeat = some beat -> forall call fleet raised after,
      beat call fleet = .error raised after -> ¬ raised.Retried) {run final : Run}
    (doomed : run.Doomed) (done : runSymbols context run = .ok ⟨⟩ final) :
    final.job.status ≠ .retrying := by
  have loop := importSymbols_doomed beats context.request.symbols.zipIdx run doomed
  cases outcome : importSymbols context context.request.symbols.zipIdx run with
  | ok value reached =>
      rw [outcome] at loop
      rcases (concludeLoop_projects context).completes reached with ⟨concluded, ended, progress⟩
      have completed : (importSymbols context context.request.symbols.zipIdx >>= fun _ =>
          concludeLoop context) run = .ok ⟨⟩ concluded := by
        rw [Loops.bind_apply, outcome]
        exact ended
      rw [runSymbols, Transactions.tryCatch_ok completed] at done
      cases done
      have status : final.job.status = (Snapshot.conclude reached.progress.current).job.status :=
        congrArg (fun progress : Progress => progress.current.job.status) progress
      have before : reached.progress.current.job.status = reached.job.status := rfl
      rw [status]
      unfold Snapshot.conclude
      rw [before]
      rcases loop with running | cancelled
      · rw [if_pos running]
        exact fun impossible => by cases impossible
      · rw [if_neg (by rw [cancelled]; decide), before, cancelled]
        exact fun impossible => by cases impossible
  | error raised reached =>
      rw [outcome] at loop
      have stopped : (importSymbols context context.request.symbols.zipIdx >>= fun _ =>
          concludeLoop context) run = .error raised reached := by
        rw [Loops.bind_apply, outcome]
      rw [runSymbols, Transactions.tryCatch_error stopped] at done
      have fails : forall health errorCode message classified,
          recordPermanent context health errorCode message classified reached = .ok ⟨⟩ final ->
            final.job.status ≠ .retrying := by
        intro health errorCode message classified recorded
        have projected :=
          (recordPermanent_projects context health errorCode message classified).ok recorded
        rw [rejectProgress, Loops.bind_modify] at projected
        have status : final.job.status = .failed :=
          congrArg (fun progress : Progress => progress.current.job.status)
            (Loops.modify_ok projected)
        rw [status]
        exact fun impossible => by cases impossible
      cases raised with
      | temporary failure => exact absurd trivial loop
      | rateLimit failure retryAfter => exact absurd trivial loop
      | provider failure => exact fails _ _ _ _ done
      | valueError message => exact fails _ _ _ _ done
      | integrityError message => exact fails _ _ _ _ done
      | escaping name => cases done

theorem runImportJob_doomed {library : Library} {surroundings : Surroundings}
    {job finished : ImportJob} {database after : Database} (paced : Paced job surroundings)
    (requested : job.cancelRequested = true)
    (done : runImportJob library surroundings job database = .ok finished after) :
    finished.status ≠ .retrying := by
  unfold runImportJob at done
  cases opening : openRun library surroundings job database with
  | error raised =>
      simp only [opening] at done
      cases done
  | ok context =>
      have opened := openRun_ok opening
      have beats : forall beat, context.heartbeat = some beat ->
          forall call fleet raised after, beat call fleet = .error raised after ->
            ¬ raised.Retried := by
        intro beat heartbeat call fleet raised after stops
        rcases paced beat (opened.heartbeat.symm.trans heartbeat) with
          ⟨workerId, leaseSeconds, clock, same⟩
        subst same
        exact renewLease_unretried stops
      simp only [opening] at done
      cases outcome : runSymbols context (startRun context job database) with
      | error raised run =>
          simp only [outcome] at done
          cases done
      | ok value run =>
          simp only [outcome] at done
          cases done
          have doomed : (startRun context job database).Doomed := ⟨requested, rfl⟩
          exact runSymbols_doomed beats doomed outcome

end Runs

/-! ## Every run of the queue -/

section Operations

variable {jobId : Identifier} {library : Library} {database after : Database}
  {operation : QueueOperation}

/-- One job is written, which is not stuck. -/
theorem TakesEffect.put {written : ImportJob} (effective : TakesEffect jobId database)
    (jobs : after.jobs = Tables.put ImportJob.id written database.jobs)
    (moves : written.id = jobId -> ¬ written.Stuck) : TakesEffect jobId after := by
  intro job member mine
  rw [jobs] at member
  rcases Tables.mem_put member with new | old
  · subst new
    exact moves mine
  · exact effective job old mine

/-- Recovery, from lease to lease.  A job that is running and to be cancelled has no
attempts left, or none of its leases has expired. -/
theorem recoverAbandonedJobs_effective {now : Instant} (timely : Timely jobId database operation)
    (recovers : operation.RecoversAt now) (effective : TakesEffect jobId database)
    (done : recoverAbandonedJobs now database = .ok ⟨⟩ after) : TakesEffect jobId after := by
  have invariant : TakesEffect jobId after ∧ forall job, job ∈ after.jobs -> job.id = jobId ->
      job.cancelRequested = true -> job.status = .running ->
        job.attempt < job.request.maxAttempts ->
          forall lease, lease ∈ database.fleet.leases -> lease.jobId = jobId ->
            now < lease.expiresAt := by
    refine @recoverAbandonedJobs_rule (fun current => TakesEffect jobId current ∧
      forall job, job ∈ current.jobs -> job.id = jobId -> job.cancelRequested = true ->
        job.status = .running -> job.attempt < job.request.maxAttempts ->
          forall lease, lease ∈ database.fleet.leases -> lease.jobId = jobId ->
            now < lease.expiresAt) now database after ?_ ?_ done
    · intro lease job before listed expired holds found
      rcases holds with ⟨before_, unexpired⟩
      rcases Tables.lookup_some found with ⟨member, same⟩
      unfold Database.recovering
      by_cases running : job.status = .running
      · rw [if_pos running]
        constructor
        · apply before_.put rfl
          intro mine stuck
          by_cases again : job.attempt < job.request.maxAttempts
          · have later := unexpired job member mine stuck.1 running again lease listed
              (same.symm.trans mine)
            exact absurd later (Int.not_lt.mpr expired)
          · have dead : (job.abandoned now).status = .deadLetter := by
              simp only [ImportJob.abandoned, if_neg again]
            rw [ImportJob.Stuck, dead] at stuck
            exact absurd stuck.2 (by decide)
        · intro other listedOther mine requested runsOn
          rcases Tables.mem_put listedOther with new | old
          · subst new
            simp only [ImportJob.abandoned] at runsOn
            split at runsOn <;> cases runsOn
          · exact unexpired other old mine requested runsOn
      · rw [if_neg running]
        exact ⟨before_, unexpired⟩
    · exact ⟨effective, timely.recovers now recovers⟩
  exact invariant.1

theorem survives_effective (timely : Timely jobId database operation)
    (effective : TakesEffect jobId database) :
    Survives library database operation (TakesEffect jobId) where
  adds := by
    intro before request events holds fresh job member mine stuck
    rcases List.mem_append.mp member with old | new
    · exact holds job old mine stuck
    · rw [List.mem_singleton.mp new] at stuck
      cases stuck.1
  cancels := by
    intro target now job cancels found open_
    rcases Tables.lookup_some found with ⟨member, same⟩
    apply effective.put rfl
    intro mine stuck
    have waiting : target = jobId := same.symm.trans mine
    subst waiting
    rcases timely.cancels now cancels job member same with ⟨unretried, uninterrupted⟩
    have listed : (job.cancelling now).status ∈ waitingStatuses := stuck.2
    cases status : job.status with
    | queued =>
        simp only [ImportJob.cancelling, status, if_true] at listed
        exact absurd listed (by decide)
    | retrying => exact unretried status
    | interrupted => exact uninterrupted status
    | running | succeeded | failed | cancelled | deadLetter =>
        simp [ImportJob.cancelling, status, waitingStatuses] at listed
  restarts := by
    intro job member restartable
    apply effective.put rfl
    intro mine stuck
    cases stuck.1
  claims := by
    intro workerId leaseSeconds now before candidate after holds taken
    apply holds.put taken.jobs
    intro mine stuck
    have running : JobStatus.running ∈ waitingStatuses := stuck.2
    exact absurd running (by decide)
  runs := by
    intro surroundings job before finished after holds member paced ran
    have returned := runImportJob_plain ran
    apply holds.put returned.jobs
    intro mine stuck
    have requested : job.cancelRequested = true := returned.cancelRequested.symm.trans stuck.1
    have listed := stuck.2
    rcases returned.status with ⟨succeeded, _⟩ | cancelled | failed | ⟨retrying, _⟩
    · rw [succeeded] at listed
      exact absurd listed (by decide)
    · rw [cancelled] at listed
      exact absurd listed (by decide)
    · rw [failed] at listed
      exact absurd listed (by decide)
    · exact runImportJob_doomed paced requested ran retrying
  releases := fun _ _ _ _ holds _ _ _ => holds
  recovers := fun _ _ recovers done =>
    recoverAbandonedJobs_effective timely recovers effective done

/-- In every run whose operations are timely, no job waits for a claim while its cancellation is
requested, whatever else is done to the queue and to other jobs. -/
theorem cancellation_effective {operations : List QueueOperation}
    (initially : TakesEffect jobId database)
    (timely : Runs.Along (operate library) (Timely jobId) database operations) :
    forall visited, visited ∈ Runs.states (operate library) database operations ->
      TakesEffect jobId visited := by
  apply timely.preserves (motive := TakesEffect jobId)
  · intro database operation permitted effective
    exact (survives_effective permitted effective).operate effective
  · exact initially

end Operations

/-! ## A request in the queue, and one between two attempts -/

def patientRequest : ImportRequest := { dailyRequest with maxAttempts := 3 }

def promptOperations : List QueueOperation :=
  [.create patientRequest none unreachable, .cancel patientRequest.id 5]

theorem promptOperations_timely :
    Runs.Along (operate plainLibrary) (Timely patientRequest.id) emptyQueue promptOperations := by
  refine ⟨⟨?_, ?_⟩, ⟨?_, ?_⟩, trivial⟩
  · intro now impossible
    cases impossible
  · intro now impossible
    cases impossible
  · intro now _
    decide
  · intro now impossible
    cases impossible

/-- The job is cancelled in the queue. -/
theorem promptOperations_effective :
    exists database, database = promptOperations.foldl (operate plainLibrary) emptyQueue ∧
      database.jobs.map (fun job => (job.cancelRequested, job.status)) = [(true, .cancelled)] ∧
      TakesEffect patientRequest.id database :=
  ⟨_, rfl, by decide,
    cancellation_effective (by decide) promptOperations_timely _
      (Runs.foldl_mem_states emptyQueue promptOperations)⟩

/-- The provider times out, and the request comes before the next attempt. -/
def lateOperations : List QueueOperation :=
  [.create patientRequest none unreachable, .run patientRequest.id unreachable fun _ => 0,
    .cancel patientRequest.id 5]

/-- The job is to be cancelled and waits for another attempt, and no claim takes it. -/
theorem lateCancellation_stuck :
    ((lateOperations.foldl (operate plainLibrary) emptyQueue).jobs.map
        fun job => (job.cancelRequested, job.status)) = [(true, .retrying)] ∧
      (forall now, nextJob now (lateOperations.foldl (operate plainLibrary) emptyQueue) = none) ∧
      ¬ forall operations visited,
        visited ∈ Runs.states (operate plainLibrary) emptyQueue operations ->
          TakesEffect patientRequest.id visited := by
  have ended : (lateOperations.foldl (operate plainLibrary) emptyQueue).jobs.map
        (fun job => (job.cancelRequested, job.status)) = [(true, .retrying)] ∧
      (lateOperations.foldl (operate plainLibrary) emptyQueue).jobs.map (·.id) =
        [patientRequest.id] := by
    decide +kernel
  rcases ended with ⟨statuses, ids⟩
  rcases List.map_eq_singleton_iff.mp statuses with ⟨job, only, status⟩
  simp only [Prod.mk.injEq] at status
  have stuck : job.Stuck := ⟨status.1, by rw [status.2]; decide⟩
  refine ⟨statuses, ?_, ?_⟩
  · intro now
    unfold nextJob
    rw [only, List.filter_cons_of_neg (by rw [stuck.unclaimable]; decide), List.filter_nil]
    rfl
  · intro effective
    have mine : job.id = patientRequest.id := by
      rw [only, List.map_singleton] at ids
      exact List.singleton_injective ids
    exact effective lateOperations _ (Runs.foldl_mem_states _ _) job
      (only ▸ List.mem_singleton_self job) mine stuck

end MarketData
end MarketIntelligence
