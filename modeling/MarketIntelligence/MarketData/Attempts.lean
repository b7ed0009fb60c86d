import MarketIntelligence.Foundations.Runs
import MarketIntelligence.MarketData.QueueSpec

namespace MarketIntelligence
namespace MarketData

open Foundations
open Loops
open Transactions

/-!
# The attempts of a job

A run counts its attempt in the row of its job, and the row is committed with the
pass of the worker.  As long as no pass that has started the job is rolled back, the
row accounts for every start, and an open job has an attempt left.

A pass that is rolled back takes its attempt back, so a job whose passes are cut off
after the start is started again and again.
-/

/-! ## The system -/

/-- What may happen to the queue without a manual restart. -/
inductive WorkerEvent where
  | pass (pass : Pass)
  | register (workerId : Identifier) (now : Instant)
  | stop (workerId : Identifier) (now : Instant)
  | recover (now : Instant)

/-- The database, with the number of times the job has been started. -/
structure Tally where
  database : Database
  starts : Nat
  deriving DecidableEq, Repr

/-- Each event is a transaction of its own.  The starts of a pass count even where
its transaction is rolled back. -/
def Tally.step (library : Library) (jobId : Identifier) (tally : Tally) : WorkerEvent -> Tally
  | .pass pass =>
      ⟨transact Session.begins (·.database) (workerPass library pass) tally.database,
        tally.starts + (passStarts library pass tally.database).count jobId⟩
  | .register workerId now =>
      { tally with database := transact id id (registerWorker workerId now) tally.database }
  | .stop workerId now =>
      { tally with database := transact id id (stopWorker workerId now) tally.database }
  | .recover now =>
      { tally with database := transact id id (recoverAbandonedJobs now) tally.database }

/-! ## The row accounts for the starts -/

def openStatuses : List JobStatus := [.queued, .retrying, .interrupted]

structure Accounts (request : ImportRequest) (starts : Nat) (job : ImportJob) : Prop where
  same : job.request = request
  counted : starts ≤ job.attempt
  spent : job.attempt ≤ request.maxAttempts
  left : job.status ∈ openStatuses -> job.attempt < request.maxAttempts

/-- The row of the job accounts for the starts. -/
def Accounted (request : ImportRequest) (starts : Nat) (jobs : List ImportJob) : Prop :=
  exists job, Tables.Sole ImportJob.id job jobs ∧ Accounts request starts job

section Accounting

variable {request : ImportRequest} {starts : Nat} {jobs : List ImportJob}

theorem Accounts.id {job : ImportJob} (accounts : Accounts request starts job) :
    job.id = request.id :=
  congrArg ImportRequest.id accounts.same

theorem Accounted.of_mem {job : ImportJob} (accounted : Accounted request starts jobs)
    (member : job ∈ jobs) (same : job.id = request.id) : Accounts request starts job := by
  rcases accounted with ⟨row, sole, accounts⟩
  rw [sole.eq_of_mem member (same.trans accounts.id.symm)]
  exact accounts

theorem Accounted.put_other {written : ImportJob} (accounted : Accounted request starts jobs)
    (different : written.id ≠ request.id) :
    Accounted request starts (Tables.put ImportJob.id written jobs) := by
  rcases accounted with ⟨row, sole, accounts⟩
  exact ⟨row, sole.put_other (accounts.id ▸ different), accounts⟩

theorem Accounted.put_same {later : Nat} {written : ImportJob}
    (accounted : Accounted request starts jobs) (accounts : Accounts request later written) :
    Accounted request later (Tables.put ImportJob.id written jobs) := by
  rcases accounted with ⟨row, sole, known⟩
  exact ⟨written, sole.put_same (accounts.id.trans known.id.symm), accounts⟩

theorem Accounted.put {written : ImportJob} (accounted : Accounted request starts jobs)
    (accounts : written.id = request.id -> Accounts request starts written) :
    Accounted request starts (Tables.put ImportJob.id written jobs) := by
  by_cases same : written.id = request.id
  · exact accounted.put_same (accounts same)
  · exact accounted.put_other same

theorem Accounted.append {added : List ImportJob} (accounted : Accounted request starts jobs)
    (different : forall other, other ∈ added -> forall job, job ∈ jobs -> job.id ≠ other.id) :
    Accounted request starts (jobs ++ added) := by
  rcases accounted with ⟨row, sole, accounts⟩
  refine ⟨row, sole.append ?_, accounts⟩
  intro other member same
  exact different other member row (Tables.lookup_some sole.lookup).1 same.symm

/-- A new job accounts for no start. -/
theorem queuedJob_accounted (positive : 0 < request.maxAttempts)
    (distinct : (jobs.map ImportJob.id).Nodup)
    (found : Tables.lookup ImportJob.id request.id jobs = some (queuedJob request)) :
    Accounted request 0 jobs :=
  ⟨queuedJob request, Tables.sole_of_lookup distinct found,
    { same := rfl
      counted := Nat.le_refl 0
      spent := Nat.zero_le _
      left := fun _ => positive }⟩

theorem Accounts.abandoned {now : Instant} {job : ImportJob}
    (accounts : Accounts request starts job) :
    Accounts request starts (job.abandoned now) where
  same := accounts.same
  counted := accounts.counted
  spent := accounts.spent
  left := by
    intro listed
    by_cases again : job.attempt < job.request.maxAttempts
    · exact accounts.same ▸ again
    · simp only [ImportJob.abandoned, if_neg again] at listed
      cases listed with
      | tail _ later => cases later with
        | tail _ last => cases last with
          | tail _ none_ => cases none_

/-- A claimed job is an open one. -/
theorem Accounts.claimed {now : Instant} {leases : List JobLease} {job : ImportJob}
    (accounts : Accounts request starts job) (open_ : claimable now leases job = true) :
    Accounts request starts (job.claimed now) ∧ job.attempt < request.maxAttempts := by
  have listed : job.status ∈ openStatuses := by
    unfold claimable at open_
    cases status : job.status <;> simp_all [openStatuses]
  refine ⟨?_, accounts.left listed⟩
  exact
    { same := accounts.same
      counted := accounts.counted
      spent := accounts.spent
      left := fun running => by
        change JobStatus.running ∈ openStatuses at running
        cases running with
        | tail _ later => cases later with
          | tail _ last => cases last with
            | tail _ none_ => cases none_ }

end Accounting

/-! ## What a pass leaves -/

section Pass

variable {request : ImportRequest} {starts : Nat} {library : Library} {pass : Pass}
  {stored claimed : Database}

theorem recoverAbandonedJobs_accounted (now : Instant) :
    Preserves (fun database => Accounted request starts database.jobs)
      (recoverAbandonedJobs now) := by
  apply recoverAbandonedJobs_preserves
  exact
    { drops := fun _ _ accounted => accounted
      abandons := fun _ _ accounted member _ _ =>
        accounted.put fun same => (accounted.of_mem member same).abandoned }

theorem processDueSchedules_accounted (pass : Pass) :
    Preserves (fun database => Accounted request starts database.jobs)
      (processDueSchedules pass) := by
  apply processDueSchedules_preserves
  intro database due accounted fresh
  apply accounted.append
  intro other added job member
  rw [List.mem_singleton.mp added]
  exact fresh job member

/-- Up to the claim, the row accounts for the starts, and the claimed job is open. -/
theorem Reaches.accounted {outcome : Option (ImportJob × JobLease)}
    (reaches : Reaches pass stored outcome claimed)
    (accounted : Accounted request starts stored.jobs) :
    Accounted request starts claimed.jobs ∧
      forall job lease, outcome = some (job, lease) -> job.id = request.id ->
        Accounts request starts job ∧ job.attempt < request.maxAttempts := by
  cases reaches with
  | intro recovered scheduled recovers schedules claims =>
    have kept := recoverAbandonedJobs_accounted pass.now stored accounted
    rw [recovers] at kept
    have accountedThen := processDueSchedules_accounted pass recovered kept
    rw [schedules] at accountedThen
    rcases claimNextJob_cases pass.workerId pass.leaseSeconds pass.now scheduled with
      idle | ⟨candidate, after, taken, done⟩
    · rw [idle] at claims
      cases claims
      exact ⟨accountedThen, fun _ _ impossible => by cases impossible⟩
    · rw [done] at claims
      cases claims
      have account : (candidate.claimed pass.now).id = request.id ->
          Accounts request starts (candidate.claimed pass.now) ∧
            candidate.attempt < request.maxAttempts :=
        fun same => (accountedThen.of_mem taken.member same).claimed taken.claimable
      refine ⟨?_, ?_⟩
      · rw [taken.jobs]
        exact accountedThen.put fun same => (account same).1
      · intro job lease chosen same
        cases chosen
        exact account same

/-- An execution that returns counts its attempt. -/
theorem execution_accounted {job finished : ImportJob} {lease : JobLease} {after : Database}
    (accounted : Accounted request starts claimed.jobs)
    (open_ : job.id = request.id ->
      Accounts request starts job ∧ job.attempt < request.maxAttempts)
    (executes : executeClaimedJob library (pass.surroundings job) job lease pass.workerId
      claimed = .ok finished after) :
    Accounted request (starts + [job.id].count request.id) after.jobs := by
  rcases executeClaimedJob_ok executes with ⟨imported, ran, fleet, same, _⟩
  have returned : Returned (fun _ _ => True) job claimed finished imported :=
    runImportJob_returned (fun _ _ _ _ _ _ _ _ _ => trivial) trivial ran
  have jobs : after.jobs = Tables.put ImportJob.id finished claimed.jobs := by
    rw [same]
    exact returned.jobs
  have key : finished.id = job.id := congrArg ImportRequest.id returned.request
  rw [jobs]
  by_cases mine : job.id = request.id
  · rcases open_ mine with ⟨accounts, attempt⟩
    rw [mine, List.count_singleton_self]
    apply accounted.put_same
    exact
      { same := returned.request.trans accounts.same
        counted := by
          rw [returned.attempt]
          exact Nat.succ_le_succ accounts.counted
        spent := by
          rw [returned.attempt]
          exact attempt
        left := by
          intro listed
          rcases returned.status with ⟨succeeded, _⟩ | cancelled | failed | ⟨_, again⟩
          · rw [succeeded] at listed
            exact absurd listed (by decide)
          · rw [cancelled] at listed
            exact absurd listed (by decide)
          · rw [failed] at listed
            exact absurd listed (by decide)
          · rw [accounts.same] at again
            exact again }
  · rw [List.count_singleton, if_neg (by simpa using mine)]
    exact accounted.put_other (key ▸ mine)

end Pass

/-! ## Along a run -/

/-- Nothing cuts off the execution of the job behind its start: the pass does not crash
there, the provider of the job can be used, and its adapter lets no exception of
another kind escape. -/
structure Uncut (request : ImportRequest) (pass : Pass) (stored : Database) : Prop where
  survives : pass.crash ≠ some .executed
  available : Available pass.registry request stored.providers

/-- The condition on an event: a pass that starts the job is not cut off behind the
start. -/
def Contained (library : Library) (request : ImportRequest) (tally : Tally) : WorkerEvent -> Prop
  | .pass pass =>
      request.id ∈ passStarts library pass tally.database -> Uncut request pass tally.database
  | _ => True

section Runs

variable {request : ImportRequest} {library : Library}

theorem Reaches.providers {pass : Pass} {stored claimed : Database}
    {outcome : Option (ImportJob × JobLease)} (reaches : Reaches pass stored outcome claimed) :
    claimed.providers = stored.providers := by
  cases reaches with
  | intro recovered scheduled recovers schedules claims =>
    have keeps : Preserves (fun database => database.providers = stored.providers)
        (recoverAbandonedJobs pass.now) :=
      recoverAbandonedJobs_preserves
        { drops := fun _ _ same => same
          abandons := fun _ _ same _ _ _ => same }
    have plans : Preserves (fun database => database.providers = stored.providers)
        (processDueSchedules pass) :=
      processDueSchedules_preserves pass fun _ _ same _ => same
    have kept := keeps stored rfl
    rw [recovers] at kept
    have scheduledSame := plans recovered kept
    rw [schedules] at scheduledSame
    rcases claimNextJob_cases pass.workerId pass.leaseSeconds pass.now scheduled with
      idle | ⟨candidate, after, taken, done⟩
    · rw [idle] at claims
      cases claims
      exact scheduledSame
    · rw [done] at claims
      cases claims
      have rest := taken.rest
      simp only [Prod.mk.injEq] at rest
      exact rest.2.2.1.trans scheduledSame

/-- A claimed job is running, and its lease is the worker's. -/
theorem Reaches.claimed {pass : Pass} {stored claimed : Database} {job : ImportJob}
    {lease : JobLease} (reaches : Reaches pass stored (some (job, lease)) claimed) :
    job.status = .running ∧ lease.jobId = job.id ∧ lease.workerId = pass.workerId ∧
      Leased job.id claimed.fleet := by
  cases reaches with
  | intro recovered scheduled recovers schedules claims =>
    rcases claimNextJob_cases pass.workerId pass.leaseSeconds pass.now scheduled with
      idle | ⟨candidate, after, taken, done⟩
    · rw [idle] at claims
      cases claims
    · rw [done] at claims
      cases claims
      refine ⟨rfl, rfl, rfl, ?_⟩
      unfold Leased Tables.lookup
      rw [taken.leases, List.find?_isSome]
      exact ⟨_, List.mem_append_right _ (List.mem_singleton_self _), decide_eq_true rfl⟩

/-- The step lemma of a pass. -/
theorem pass_accounted {pass : Pass} {tally : Tally}
    (contained : Contained library request tally (.pass pass))
    (accounted : Accounted request tally.starts tally.database.jobs) :
    Accounted request (tally.step library request.id (.pass pass)).starts
      (tally.step library request.id (.pass pass)).database.jobs := by
  have outcome := workerPass_outcome library pass tally.database
  cases ended : workerPass library pass (Session.begins tally.database) with
  | error raised session =>
      have stopped : (tally.step library request.id (.pass pass)).database = tally.database :=
        transact_error ended
      have started : passStarts library pass tally.database = session.started := by
        rw [passStarts, ended]
        rfl
      have unstarted : request.id ∉ session.started := by
        intro member
        have uncut := contained (started ▸ member)
        rw [ended] at outcome
        generalize result : EStateM.Result.error raised session = whole at outcome
        cases outcome with
        | stopped failure database =>
            cases result
            cases member
        | idle claimed reaches => cases result
        | executes job lease claimed reaches =>
            rcases reaches.claimed with ⟨running, own, worker, leased⟩
            have mine : job.id = request.id := by
              have executed := executeClaim_outcome library pass job lease claimed
              rw [← result] at executed
              cases executed with
              | stopped failure database => exact (List.mem_singleton.mp member).symm
            have account := (reaches.accounted accounted).2 job lease rfl mine
            have available : Available pass.registry job.request claimed.providers := by
              rw [account.1.same, reaches.providers]
              exact uncut.available
            have returns : exists finished imported, runImportJob library
                (pass.surroundings job) job claimed = .ok finished imported :=
              runImportJob_completes (by rw [running]; decide) available
                (surroundings_contained pass job) leased
            have done := executeClaim_completes uncut.survives
              (executeClaimedJob_completes ⟨own, worker⟩ returns)
            rw [← result] at done
            cases done
      have same : (tally.step library request.id (.pass pass)).starts = tally.starts := by
        change tally.starts + (passStarts library pass tally.database).count request.id = _
        rw [started, List.count_eq_zero_of_not_mem unstarted, Nat.add_zero]
      rw [stopped, same]
      exact accounted
  | ok value session =>
      have finished : (tally.step library request.id (.pass pass)).database = session.database :=
        transact_ok ended
      have started : (tally.step library request.id (.pass pass)).starts =
          tally.starts + session.started.count request.id := by
        change tally.starts + (passStarts library pass tally.database).count request.id = _
        rw [passStarts, ended]
        rfl
      rw [finished, started]
      rw [ended] at outcome
      generalize result : EStateM.Result.ok value session = whole at outcome
      cases outcome with
      | stopped failure database => cases result
      | idle claimed reaches =>
          cases result
          exact (reaches.accounted accounted).1
      | executes job lease claimed reaches =>
          have executed := executeClaim_outcome library pass job lease claimed
          rw [← result] at executed
          rcases reaches.accounted accounted with ⟨accountedThen, open_⟩
          cases executed with
          | finished done after executes =>
              exact execution_accounted accountedThen (open_ job lease rfl) executes

theorem step_accounted {tally : Tally} {event : WorkerEvent}
    (contained : Contained library request tally event)
    (accounted : Accounted request tally.starts tally.database.jobs) :
    Accounted request (tally.step library request.id event).starts
      (tally.step library request.id event).database.jobs := by
  cases event with
  | pass pass => exact pass_accounted contained accounted
  | register workerId now => exact accounted
  | stop workerId now => exact accounted
  | recover now =>
      have kept := recoverAbandonedJobs_accounted now tally.database accounted
      have committed : (tally.step library request.id (.recover now)).database =
          transact id id (recoverAbandonedJobs now) tally.database := rfl
      rw [committed]
      cases ended : recoverAbandonedJobs now tally.database with
      | ok value recovered =>
          rw [ended] at kept
          rw [transact_ok (by exact ended)]
          exact kept
      | error raised recovered =>
          rw [transact_error (by exact ended)]
          exact accounted

/-- While no pass that starts the job is cut off behind the start, the job is started
at most as often as it may be attempted. -/
theorem starts_le_maxAttempts {database : Database} {events : List WorkerEvent}
    (positive : 0 < request.maxAttempts)
    (distinct : (database.jobs.map ImportJob.id).Nodup)
    (queued : Tables.lookup ImportJob.id request.id database.jobs = some (queuedJob request))
    (contained : Runs.Along (Tally.step library request.id) (Contained library request)
      ⟨database, 0⟩ events) :
    forall tally, tally ∈ Runs.states (Tally.step library request.id) ⟨database, 0⟩ events ->
      tally.starts ≤ request.maxAttempts := by
  intro tally visited
  have accounted := contained.preserves
    (motive := fun tally => Accounted request tally.starts tally.database.jobs)
    (fun _ _ permitted holds => step_accounted permitted holds)
    (queuedJob_accounted positive distinct queued) tally visited
  rcases accounted with ⟨job, _, accounts⟩
  exact accounts.counted.trans accounts.spent

end Runs

/-! ## Two passes -/

/-- A pass whose provider times out, cut off as given. -/
def timeoutPass (crash : Option Phase) : Pass where
  workerId := 3
  leaseSeconds := 60
  now := 0
  registry := fun _ => some fun _ => .raising timeout
  clock := fun _ => 0
  due := .ok []
  crash := crash

theorem raising_contained {raised : Exception} (caught : raised.Caught) (symbol : String) :
    (Adapter.raising raised).Contained symbol where
  metadata := fun _ failed => Except.error.inj failed ▸ caught
  bars := fun _ _ _ _ failed => Except.error.inj failed ▸ caught
  actions := fun _ _ _ failed => Except.error.inj failed ▸ caught

theorem timeout_caught : timeout.Caught := trivial

theorem timeoutPass_uncut : Uncut dailyRequest (timeoutPass none) dailyQueue where
  survives := by decide
  available :=
    { enabled := ⟨⟨7, "demo", true, .healthy, none⟩, rfl, rfl, rfl⟩
      contained := by
        intro row adapter found registered symbol sequence member
        cases registered
        exact raising_contained timeout_caught symbol }

/-- One pass that is committed: the job is started once and has failed. -/
theorem timeoutPass_starts :
    Runs.states (Tally.step plainLibrary dailyRequest.id) ⟨dailyQueue, 0⟩
        [.pass (timeoutPass none)] ≠ [] ∧
      forall tally, tally ∈ Runs.states (Tally.step plainLibrary dailyRequest.id)
        ⟨dailyQueue, 0⟩ [.pass (timeoutPass none)] -> tally.starts ≤ 1 :=
  ⟨List.cons_ne_nil _ _,
    starts_le_maxAttempts (by decide) (by decide) rfl ⟨fun _ => timeoutPass_uncut, trivial⟩⟩

/-- Two passes that are cut off behind the execution: the job has been started twice,
and it is in the queue as if it had never been. -/
theorem crashedPasses_restart :
    ([.pass (timeoutPass (some .executed)), .pass (timeoutPass (some .executed))].foldl
        (Tally.step plainLibrary dailyRequest.id) ⟨dailyQueue, 0⟩ =
      ⟨dailyQueue, dailyRequest.maxAttempts + 1⟩) ∧
    ¬ forall tally, tally ∈ Runs.states (Tally.step plainLibrary dailyRequest.id) ⟨dailyQueue, 0⟩
        [.pass (timeoutPass (some .executed)), .pass (timeoutPass (some .executed))] ->
      tally.starts ≤ dailyRequest.maxAttempts := by
  have restarted : [.pass (timeoutPass (some .executed)),
      .pass (timeoutPass (some .executed))].foldl
        (Tally.step plainLibrary dailyRequest.id) ⟨dailyQueue, 0⟩ =
      ⟨dailyQueue, dailyRequest.maxAttempts + 1⟩ := by
    decide +kernel
  refine ⟨restarted, fun bounded => ?_⟩
  have last := bounded _ (Runs.foldl_mem_states _ _)
  rw [restarted] at last
  exact absurd last (by decide)

end MarketData
end MarketIntelligence
