import MarketIntelligence.MarketData.Submissions

namespace MarketIntelligence
namespace MarketData
namespace Submissions

open Foundations
open Loops
open Transactions
open RateLimit
open Schedules (Environment JobArguments checkArguments normalizedSymbols)

/-!
# Repeated submissions

A job that has been filed under a key stays there, with its event, through every history of
the queue, the providers and other submissions.  A repeated submission therefore finds it and
writes nothing, unless it is refused before the lookup or runs the job again behind it.
-/

/-! ## Events are only added -/

section Events

variable {library : Library} {database before after : Database} {job finished : ImportJob}

theorem run_events {surroundings : Surroundings}
    (done : runImportJob library surroundings job before = .ok finished after) :
    after.events = before.events :=
  (runImportJob_plain done).events

theorem executes_events {surroundings : Surroundings} {lease : JobLease} {workerId : Identifier}
    (done : executeClaimedJob library surroundings job lease workerId before =
      .ok finished after) : before.events ⊆ after.events := by
  rcases executeClaimedJob_ok done with ⟨imported, ran, fleet, same, _⟩
  rw [same, ← run_events ran]
  exact List.subset_append_left _ _

theorem claims_events {workerId : Identifier} {leaseSeconds : Int} {now : Instant}
    {outcome : Option (ImportJob × JobLease)}
    (done : claimNextJob workerId leaseSeconds now before = .ok outcome after) :
    before.events ⊆ after.events := by
  rcases claimNextJob_cases workerId leaseSeconds now before with
    idle | ⟨candidate, claimed, taken, claims⟩
  · rw [idle] at done
    cases done
    exact List.Subset.refl _
  · rw [claims] at done
    cases done
    rw [taken.events]
    exact List.subset_append_left _ _

theorem recovers_events {now : Instant}
    (done : recoverAbandonedJobs now database = .ok ⟨⟩ after) :
    database.events ⊆ after.events := by
  refine @recoverAbandonedJobs_rule (fun current => database.events ⊆ current.events) now database
    after ?_ (List.Subset.refl _) done
  intro lease job before _ _ holds _
  unfold Database.recovering
  split
  · exact List.Subset.trans holds (List.subset_append_left _ _)
  · exact holds

theorem schedules_events (pass : Pass) :
    Preserves (fun current : Database => database.events ⊆ current.events)
      (processDueSchedules pass) :=
  processDueSchedules_preserves pass fun _ _ holds _ => holds

theorem creates_events {request : ImportRequest} {executeImmediately : Option Surroundings}
    (done : MarketData.createJob library request executeImmediately before =
      .ok finished after) : before.events ⊆ after.events := by
  rcases createJob_ok done with ⟨middle, _, same, outcome⟩
  have added : before.events ⊆ middle.events := by
    rw [same]
    exact List.subset_append_left _ _
  rcases outcome with ⟨_, unrun⟩ | ⟨surroundings, _, ran⟩
  · exact unrun ▸ added
  · rw [run_events ran]
    exact added

theorem passes_events {pass : Pass} {session : Session}
    (done : workerPass library pass (Session.begins database) = .ok ⟨⟩ session) :
    database.events ⊆ session.database.events := by
  have reached : forall outcome claimed, Reaches pass database outcome claimed ->
      database.events ⊆ claimed.events := by
    intro outcome claimed reaches
    cases reaches with
    | intro recovered scheduled recoversFirst schedules claims =>
      have held := schedules_events pass recovered (recovers_events recoversFirst)
      rw [schedules] at held
      exact List.Subset.trans held (claims_events claims)
  cases workerPass_committed done with
  | idle claimed reaches =>
      exact reached none claimed reaches
  | executed job lease claimed reaches finished after executes =>
      exact List.Subset.trans (reached _ claimed reaches) (executes_events executes)

/-- No operation of the queue takes an event away. -/
theorem operate_events (operation : QueueOperation) :
    database.events ⊆ (operate library database operation).events := by
  have stays : forall {α : Type} (program : DatabaseProgram α),
      (forall value after, program database = .ok value after ->
        database.events ⊆ after.events) ->
      database.events ⊆ (transact id id program database).events :=
    fun _ completes => transact_preserves
      (motive := fun after : Database => database.events ⊆ after.events) (List.Subset.refl _)
      completes
  cases operation with
  | create request executeImmediately registry =>
      exact stays _ fun _ _ done => creates_events done
  | claim workerId leaseSeconds now => exact stays _ fun _ _ done => claims_events done
  | execute target pass =>
      apply stays
      intro written after done
      rcases withJob_ok done with ⟨job, _, body⟩
      rw [bind_get] at body
      cases leased : Tables.lookup (·.jobId) target database.fleet.leases with
      | none =>
          rw [leased] at body
          cases body
      | some lease =>
          rw [leased] at body
          exact executes_events body
  | run target registry clock =>
      apply stays
      intro written after done
      rcases withJob_ok done with ⟨job, _, ran⟩
      rw [run_events ran]
      exact List.Subset.refl _
  | cancel target now =>
      apply stays
      intro written after done
      rcases withJob_ok done with ⟨job, _, cancels⟩
      rcases requestCancellation_ok cancels with ⟨_, _, result⟩
      rw [result]
      exact List.subset_append_left _ _
  | restart target =>
      apply stays
      intro written after done
      rcases withJob_ok done with ⟨job, _, restarts⟩
      rcases restartImportJob_ok restarts with ⟨_, _, result⟩
      rw [result]
      exact List.Subset.refl _
  | restartAndRun target registry clock =>
      apply stays
      intro written after done
      rcases restartJob_ok done with ⟨job, middle, _, restarts, ran⟩
      rcases restartImportJob_ok restarts with ⟨_, _, result⟩
      rw [run_events ran, result]
      exact List.Subset.refl _
  | recover now => exact stays _ fun _ _ done => recovers_events done
  | pass pass =>
      change database.events ⊆
        (transact Session.begins (·.database) (workerPass library pass) database).events
      cases ended : workerPass library pass (Session.begins database) with
      | ok value session =>
          rw [transact_ok ended]
          exact passes_events ended
      | error raised session =>
          rw [transact_error ended]
          exact List.Subset.refl _

end Events

/-! ## A filed job -/

/-- The job is under the key, and it has the event of the queue. -/
structure Filed (key : String) (jobId : Identifier) (desk : Desk) : Prop where
  keyed : Tables.lookup Prod.fst key desk.keys = some (key, jobId)
  present : jobId ∈ desk.database.jobs.map ImportJob.id
  queued : desk.database.events.any (isQueuedEvent jobId) = true

section Filing

variable {environment : Environment} {submission : Submission} {desk after : Desk}
  {key : String} {jobId : Identifier} {job : ImportJob} {database : Database}

theorem present_survives (library : Library) (database : Database) (operation : QueueOperation)
    (present : jobId ∈ database.jobs.map ImportJob.id) :
    Survives library database operation fun current =>
      jobId ∈ current.jobs.map ImportJob.id where
  adds := by
    intro before request events holds _
    rw [List.map_append]
    exact List.mem_append_left _ holds
  cancels := fun _ _ _ _ _ _ => Tables.mem_map_put.mpr (.inr present)
  restarts := fun _ _ _ => Tables.mem_map_put.mpr (.inr present)
  claims := by
    intro workerId leaseSeconds now before candidate after holds taken
    rw [taken.jobs]
    exact Tables.mem_map_put.mpr (.inr holds)
  runs := by
    intro surroundings job before finished after holds _ _ ran
    rw [(runImportJob_plain ran).jobs]
    exact Tables.mem_map_put.mpr (.inr holds)
  releases := fun _ _ _ _ holds _ _ _ => holds
  recovers := by
    intro now after _ done
    refine @recoverAbandonedJobs_rule (fun current => jobId ∈ current.jobs.map ImportJob.id)
      now database after ?_ present done
    intro lease job before _ _ holds _
    unfold Database.recovering
    split
    · exact Tables.mem_map_put.mpr (.inr holds)
    · exact holds

theorem any_of_subset {events more : List JobEvent} (subset : events ⊆ more)
    (queued : events.any (isQueuedEvent jobId) = true) :
    more.any (isQueuedEvent jobId) = true := by
  rcases List.any_eq_true.mp queued with ⟨event, member, own⟩
  exact List.any_eq_true.mpr ⟨event, subset member, own⟩

theorem noteQueued_jobs (jobId : Identifier) (database : Database) :
    (noteQueued jobId database).jobs = database.jobs := by
  unfold noteQueued
  split <;> rfl

theorem noteQueued_events (jobId : Identifier) (database : Database) :
    database.events ⊆ (noteQueued jobId database).events := by
  unfold noteQueued
  split
  · exact List.Subset.refl _
  · exact List.subset_append_left _ _

theorem noteQueued_queued (jobId : Identifier) (database : Database) :
    (noteQueued jobId database).events.any (isQueuedEvent jobId) = true := by
  unfold noteQueued
  split
  · assumption
  · refine List.any_eq_true.mpr ⟨_, List.mem_append_right _ (List.mem_singleton_self _), ?_⟩
    simp [isQueuedEvent]

theorem noteQueued_known (queued : database.events.any (isQueuedEvent jobId) = true) :
    noteQueued jobId database = database := if_pos queued

/-- What the execution of a new submission leaves of the database. -/
theorem executeNow_ok {written : Database}
    (done : executeNow environment submission job database = .ok written) :
    written.events = database.events ∧
      (forall other, other ∈ database.jobs.map ImportJob.id ->
        other ∈ written.jobs.map ImportJob.id) ∧
      (submission.payload.executeImmediately = false -> written = database) ∧
      (submission.payload.executeImmediately = true -> exists finished,
        written.jobs = Tables.put ImportJob.id finished database.jobs ∧
          finished.id = job.id ∧ finished.attempt = job.attempt + 1) := by
  unfold executeNow at done
  split at done
  · rename_i immediately
    cases ran : runImportJob environment.library submission.surroundings job database with
    | error raised state =>
        rw [ran] at done
        cases done
    | ok finished state =>
        rw [ran] at done
        cases done
        have returned := runImportJob_plain ran
        refine ⟨returned.events, fun other member => ?_, fun later => ?_, fun _ => ?_⟩
        · rw [returned.jobs]
          exact Tables.mem_map_put.mpr (.inr member)
        · rw [immediately] at later
          cases later
        · exact ⟨finished, returned.jobs, returned.id_eq, returned.attempt⟩
  · rename_i later
    cases done
    exact ⟨rfl, fun _ member => member, fun _ => rfl, fun now => absurd now later⟩

/-- A creation finds the job of the key, or files a new one. -/
theorem createImportJob_ok
    (done : createImportJob environment submission desk = .ok (job, after)) :
    (held submission.idempotencyKey desk = some job ∧ after = desk) ∨
      held submission.idempotencyKey desk = none ∧
      (forall row, row ∈ desk.keys -> some row.1 ≠ submission.idempotencyKey) ∧
      after.database.events = desk.database.events ∧
      after.database.jobs = desk.database.jobs ++ [job] ∧
      after.keys = fileKey submission.idempotencyKey job.id desk.keys := by
  unfold createImportJob at done
  cases checked : checkArguments environment desk.database.providers (argumentsOf submission) with
  | error raised =>
      rw [checked] at done
      cases done
  | ok provider =>
      rw [checked] at done
      cases found : held submission.idempotencyKey desk with
      | some existing =>
          rw [found] at done
          cases done
          exact .inl ⟨rfl, rfl⟩
      | none =>
          rw [found] at done
          refine .inr ⟨rfl, ?_⟩
          dsimp only at done
          unfold insertJob at done
          split at done
          · cases done
          · split at done
            · cases done
            · rename_i unused
              cases done
              refine ⟨fun row member same => ?_, rfl, rfl, rfl⟩
              exact unused (List.any_eq_true.mpr ⟨row, member, decide_eq_true same⟩)

theorem held_some (found : held (some key) desk = some job) :
    key ≠ "" ∧ Tables.lookup Prod.fst key desk.keys = some (key, job.id) ∧
      Tables.lookup ImportJob.id job.id desk.database.jobs = some job := by
  unfold held at found
  dsimp only at found
  split at found
  · cases found
  · rename_i nonempty
    rcases Option.bind_eq_some_iff.mp found with ⟨row, listed, known⟩
    have named := (Tables.lookup_some listed).2
    have own := (Tables.lookup_some known).2
    refine ⟨nonempty, ?_, ?_⟩
    · rw [listed, ← named, own]
    · rw [own]
      exact known

/-- A lookup goes on finding what it found when rows are filed behind. -/
theorem lookup_fileKey {newKey : Option String} {newId : Identifier}
    {keys : List (String × Identifier)} {row : String × Identifier}
    (found : Tables.lookup Prod.fst key keys = some row) :
    Tables.lookup Prod.fst key (fileKey newKey newId keys) = some row := by
  unfold fileKey
  split
  · exact found
  · unfold Tables.lookup at found ⊢
    rw [List.find?_append, found]
    rfl

theorem lookup_fileKey_new {newId : Identifier} {keys : List (String × Identifier)}
    (unused : forall row, row ∈ keys -> some row.1 ≠ some key) :
    Tables.lookup Prod.fst key (fileKey (some key) newId keys) = some (key, newId) := by
  have absent : keys.find? (fun row => row.1 = key) = none := by
    refine List.find?_eq_none.mpr fun row member same => ?_
    exact unused row member (congrArg some (of_decide_eq_true same))
  unfold fileKey Tables.lookup
  rw [List.find?_append, absent, Option.none_or]
  exact List.find?_cons_of_pos (decide_eq_true rfl)

/-- A filed job is filed after any submission. -/
theorem filed_submit (filed : Filed key jobId desk)
    (done : submitJob environment submission desk = .ok (job, after)) :
    Filed key jobId after := by
  unfold submitJob at done
  cases created : createImportJob environment submission desk with
  | error raised =>
      rw [created] at done
      cases done
  | ok outcome =>
      rcases outcome with ⟨found, middle⟩
      rw [created] at done
      dsimp only at done
      have kept : Filed key jobId middle := by
        rcases createImportJob_ok created with ⟨_, same⟩ | ⟨_, _, events, jobs, keys⟩
        · exact same ▸ filed
        · refine ⟨?_, ?_, ?_⟩
          · rw [keys]
            exact lookup_fileKey filed.keyed
          · rw [jobs, List.map_append]
            exact List.mem_append_left _ filed.present
          · rw [events]
            exact filed.queued
      cases executed : executeNow environment submission found
          (noteQueued found.id middle.database) with
      | error raised =>
          rw [executed] at done
          cases done
      | ok written =>
          rw [executed] at done
          dsimp only at done
          split at done
          · cases done
          · cases done
            rcases executeNow_ok executed with ⟨events, jobs, _, _⟩
            refine ⟨kept.keyed, jobs jobId ?_, ?_⟩
            · rw [noteQueued_jobs]
              exact kept.present
            · rw [events]
              exact any_of_subset (noteQueued_events _ _) kept.queued

/-- The job of an accepted submission is filed under its key. -/
theorem submit_files (keyed : submission.idempotencyKey = some key)
    (done : submitJob environment submission desk = .ok (job, after)) :
    Filed key job.id after := by
  unfold submitJob at done
  cases created : createImportJob environment submission desk with
  | error raised =>
      rw [created] at done
      cases done
  | ok outcome =>
      rcases outcome with ⟨found, middle⟩
      rw [created] at done
      dsimp only at done
      cases executed : executeNow environment submission found
          (noteQueued found.id middle.database) with
      | error raised =>
          rw [executed] at done
          cases done
      | ok written =>
          rw [executed] at done
          dsimp only at done
          split at done
          · cases done
          · rename_i row known
            cases done
            rcases executeNow_ok executed with ⟨events, _, _, _⟩
            have own := (Tables.lookup_some known).2
            refine ⟨?_, ?_, ?_⟩
            · rw [own]
              rcases createImportJob_ok created with ⟨holds, same⟩ | ⟨_, unused, _, _, keys⟩
              · rw [keyed] at holds
                exact same ▸ (held_some holds).2.1
              · dsimp only
                rw [keyed] at unused
                rw [keys, keyed]
                exact lookup_fileKey_new unused
            · exact List.mem_map_of_mem (Tables.lookup_some known).1
            · rw [own, events]
              exact noteQueued_queued _ _

/-- Every happening leaves a filed job filed. -/
theorem filed_happen {server : Server} (happening : Happening)
    (filed : Filed key jobId server.desk) :
    Filed key jobId (happen environment server happening).desk := by
  cases happening with
  | queue operation =>
      refine ⟨filed.keyed, ?_, any_of_subset (operate_events operation) filed.queued⟩
      exact (present_survives environment.library _ operation filed.present).operate filed.present
  | configure providers => exact ⟨filed.keyed, filed.present, filed.queued⟩
  | submit submission =>
      unfold happen createJob
      dsimp only
      split
      · cases outcome : submitJob environment submission server.desk with
        | error raised => exact filed
        | ok result => exact filed_submit filed outcome
      · exact filed

theorem filed_history {server : Server} (happenings : List Happening)
    (filed : Filed key jobId server.desk) :
    Filed key jobId (happenings.foldl (happen environment) server).desk := by
  induction happenings generalizing server with
  | nil => exact filed
  | cons head tail ih => exact ih (filed_happen head filed)

theorem Filed.held (filed : Filed key jobId desk) (nonempty : key ≠ "") :
    exists job, Submissions.held (some key) desk = some job ∧ job.id = jobId ∧
      Tables.lookup ImportJob.id jobId desk.database.jobs = some job := by
  cases known : Tables.lookup ImportJob.id jobId desk.database.jobs with
  | none =>
      have missing := Tables.lookup_isNone_iff.mp (known.symm ▸ rfl :
        (Tables.lookup ImportJob.id jobId desk.database.jobs).isNone = true)
      exact absurd filed.present missing
  | some job =>
      refine ⟨job, ?_, (Tables.lookup_some known).2, rfl⟩
      unfold Submissions.held
      dsimp only
      rw [if_neg nonempty, filed.keyed]
      exact known

end Filing

/-! ## The repeated submission -/

section Replay

variable {environment : Environment} {providers others : List Provider}
  {arguments : JobArguments} {owner : Provider}

def ProviderEnabled (environment : Environment) (providers : List Provider) (code : String) :
    Prop :=
  exists provider, Tables.lookup Provider.code (environment.lower code) providers =
    some provider ∧ provider.isEnabled = true

theorem checkArguments_enabled
    (checked : checkArguments environment providers arguments = .ok owner) :
    ProviderEnabled environment providers arguments.providerCode := by
  unfold checkArguments at checked
  cases known : Tables.lookup Provider.code (environment.lower arguments.providerCode)
      providers with
  | none =>
      rw [known] at checked
      cases checked
  | some provider =>
      rw [known] at checked
      dsimp only at checked
      refine ⟨provider, known, ?_⟩
      cases enabled : provider.isEnabled with
      | true => rfl
      | false =>
          rw [if_pos enabled] at checked
          cases checked

/-- Only the check of the provider reads the database. -/
theorem checkArguments_again
    (checked : checkArguments environment providers arguments = .ok owner)
    (enabled : ProviderEnabled environment others arguments.providerCode) :
    exists other, checkArguments environment others arguments = .ok other := by
  rcases enabled with ⟨other, known, isEnabled⟩
  refine ⟨other, ?_⟩
  unfold checkArguments at checked ⊢
  rw [known]
  dsimp only
  rw [if_neg (by rw [isEnabled]; exact Bool.noConfusion)]
  split at checked
  · cases checked
  · dsimp only at checked
    split at checked
    · cases checked
    split at checked
    · cases checked
    rename_i symbols
    rw [if_neg symbols]
    split at checked
    · cases checked
    rename_i mode
    rw [if_neg mode]
    split at checked
    · cases checked
    rename_i range
    rw [if_neg range]
    split at checked
    · cases checked
    rename_i attempts
    rw [if_neg attempts]
    split at checked
    · cases checked
    rename_i priority
    rw [if_neg priority]
    split at checked
    · cases checked
    rename_i preference
    rw [if_neg preference]

/-- What lets a repeated submission through to the lookup, and no further: the limiter admits it,
it does not ask for an execution, its key is not empty, and the provider is still enabled. -/
structure Repeatable (environment : Environment) (server : Server) (submission : Submission) :
    Prop where
  admitted : (allow server.limiter
    ⟨submission.client ++ ":import-submit", submission.time⟩).1 = true
  deferred : submission.payload.executeImmediately = false
  keyed : submission.idempotencyKey ≠ some ""
  enabled : ProviderEnabled environment server.desk.database.providers
    submission.payload.providerCode

/-- The reply is the job that was created before, and the database is as it was.  The limiter has
counted the submission all the same. -/
def Replays (environment : Environment) (server : Server) (submission : Submission)
    (jobId : Identifier) : Prop :=
  (exists row, (createJob environment submission server).1 = .accepted row ∧ row.id = jobId) ∧
    (createJob environment submission server).2.desk = server.desk

section Cases

variable {submission : Submission} {desk after : Desk} {key : String} {jobId : Identifier}
  {job : ImportJob} {server : Server}

/-- A submission that finds its job and does not run it leaves everything as it was. -/
theorem submit_found (filed : Filed key jobId desk)
    (checked : checkArguments environment desk.database.providers (argumentsOf submission) =
      .ok owner)
    (keyed : submission.idempotencyKey = some key) (nonempty : key ≠ "")
    (deferred : submission.payload.executeImmediately = false) :
    exists row, submitJob environment submission desk = .ok (row, desk) ∧ row.id = jobId := by
  rcases filed.held nonempty with ⟨found, holds, own, known⟩
  refine ⟨found, ?_, own⟩
  unfold submitJob createImportJob
  rw [checked, keyed, holds]
  dsimp only
  unfold executeNow
  rw [deferred, if_neg Bool.false_ne_true, noteQueued_known (own ▸ filed.queued)]
  dsimp only
  rw [own, known]

/-- A submission that leaves everything as it was has found its job and has not run it. -/
theorem submit_unchanged (filed : Filed key jobId desk)
    (keyed : submission.idempotencyKey = some key)
    (done : submitJob environment submission desk = .ok (job, desk)) :
    ProviderEnabled environment desk.database.providers submission.payload.providerCode ∧
      key ≠ "" ∧ submission.payload.executeImmediately = false := by
  unfold submitJob at done
  cases created : createImportJob environment submission desk with
  | error raised =>
      rw [created] at done
      cases done
  | ok outcome =>
      rcases outcome with ⟨found, middle⟩
      rw [created] at done
      dsimp only at done
      cases executed : executeNow environment submission found
          (noteQueued found.id middle.database) with
      | error raised =>
          rw [executed] at done
          cases done
      | ok written =>
          rw [executed] at done
          dsimp only at done
          split at done
          · cases done
          · have desks : { middle with database := written } = desk :=
              congrArg Prod.snd (Except.ok.inj done)
            have keys := congrArg Desk.keys desks
            have same := congrArg Desk.database desks
            dsimp only at keys same
            have enabled : ProviderEnabled environment desk.database.providers
                submission.payload.providerCode := by
              unfold createImportJob at created
              cases checked : checkArguments environment desk.database.providers
                  (argumentsOf submission) with
              | error raised =>
                  rw [checked] at created
                  cases created
              | ok provider => exact checkArguments_enabled checked
            refine ⟨enabled, ?_⟩
            rcases createImportJob_ok created with ⟨holds, unchanged⟩ | ⟨_, _, _, _, filedKeys⟩
            · subst unchanged
              rw [keyed] at holds
              rcases held_some holds with ⟨nonempty, _, known⟩
              refine ⟨nonempty, ?_⟩
              cases immediately : submission.payload.executeImmediately with
              | false => rfl
              | true =>
                  rcases (executeNow_ok executed).2.2.2 immediately with
                    ⟨finished, jobs, own, attempt⟩
                  rw [same, noteQueued_jobs] at jobs
                  have written := congrArg (Tables.lookup ImportJob.id found.id) jobs
                  rw [known, Tables.lookup_put, if_pos own] at written
                  have counted := congrArg ImportJob.attempt (Option.some.inj written)
                  omega
            · have longer := congrArg List.length (keys.symm.trans filedKeys)
              rw [keyed] at longer
              simp [fileKey] at longer

theorem createJob_accepted
    (reply : (createJob environment submission server).1 = .accepted job) :
    (allow server.limiter ⟨submission.client ++ ":import-submit", submission.time⟩).1 = true ∧
      submitJob environment submission server.desk =
        .ok (job, (createJob environment submission server).2.desk) := by
  unfold createJob at reply ⊢
  dsimp only at reply ⊢
  by_cases admitted : (allow server.limiter
      ⟨submission.client ++ ":import-submit", submission.time⟩).1 = true
  · rw [if_pos admitted] at reply ⊢
    refine ⟨admitted, ?_⟩
    cases outcome : submitJob environment submission server.desk with
    | ok result =>
        rw [outcome] at reply
        cases reply
        rfl
    | error raised =>
        rw [outcome] at reply
        cases raised <;> cases reply
  · rw [if_neg admitted] at reply
    cases reply

theorem createJob_of_submit {row : ImportJob}
    (admitted : (allow server.limiter
      ⟨submission.client ++ ":import-submit", submission.time⟩).1 = true)
    (done : submitJob environment submission server.desk = .ok (row, after)) :
    (createJob environment submission server).1 = .accepted row ∧
      (createJob environment submission server).2.desk = after := by
  unfold createJob
  dsimp only
  rw [if_pos admitted, done]
  exact ⟨rfl, rfl⟩

theorem submit_checked (done : submitJob environment submission desk = .ok (job, after)) :
    exists provider, checkArguments environment desk.database.providers
      (argumentsOf submission) = .ok provider := by
  unfold submitJob createImportJob at done
  cases checked : checkArguments environment desk.database.providers
      (argumentsOf submission) with
  | error raised =>
      rw [checked] at done
      cases done
  | ok provider => exact ⟨provider, rfl⟩

end Cases

/-- A repeated submission is answered with the same job and changes nothing exactly when it
does not ask for an execution, its provider is still enabled, its key is not empty and the
limiter admits it. -/
theorem replay_iff (environment : Environment) (server next : Server)
    (first again : Submission) (key : String) (job : ImportJob)
    (keyed : first.idempotencyKey = some key)
    (accepted : createJob environment first server = (.accepted job, next))
    (happenings : List Happening) (samePayload : again.payload = first.payload)
    (sameKey : again.idempotencyKey = some key) :
    Replays environment (happenings.foldl (happen environment) next) again job.id <->
      Repeatable environment (happenings.foldl (happen environment) next) again := by
  have firstReply : (createJob environment first server).1 = .accepted job := by rw [accepted]
  have submitted := (createJob_accepted firstReply).2
  rw [accepted] at submitted
  have filed : Filed key job.id (happenings.foldl (happen environment) next).desk :=
    filed_history happenings (submit_files keyed submitted)
  generalize happenings.foldl (happen environment) next = later at filed ⊢
  have sameArguments : argumentsOf again = argumentsOf first := by
    unfold argumentsOf
    rw [samePayload, sameKey, keyed]
  constructor
  · rintro ⟨⟨row, reply, own⟩, unchanged⟩
    rcases createJob_accepted reply with ⟨admitted, done⟩
    rw [unchanged] at done
    rcases submit_unchanged filed sameKey done with ⟨enabled, nonempty, deferred⟩
    refine ⟨admitted, deferred, fun blank => ?_, enabled⟩
    rw [sameKey] at blank
    exact nonempty (Option.some.inj blank)
  · rintro ⟨admitted, deferred, nonblank, enabled⟩
    rcases submit_checked submitted with ⟨owner, checked⟩
    rw [← sameArguments] at checked
    rcases checkArguments_again checked enabled with ⟨other, passes⟩
    have nonempty : key ≠ "" := fun blank => nonblank (by rw [sameKey, blank])
    rcases submit_found filed passes sameKey nonempty deferred with ⟨row, done, own⟩
    rcases createJob_of_submit admitted done with ⟨reply, unchanged⟩
    exact ⟨⟨row, reply, own⟩, unchanged⟩

end Replay

/-! ## Submissions to one provider -/

def plainEnvironment : Environment where
  library := plainLibrary
  lower := id
  digest := fun _ => "digest"
  digest_nonempty := fun _ empty => absurd empty (by decide)
  workspaceId := none

/-- An adapter that has no bars. -/
def quietAdapter : Adapter where
  fetchAssetMetadata := fun symbol =>
    .ok ⟨symbol, "Atom Corp", "equity", "XNYS", "USD", none, none, 0, 0, [], 1, "m0"⟩
  fetchHistoricalBars := fun _ _ _ _ => .ok []
  fetchCorporateActions := fun _ _ _ => .ok []

def quietSurroundings : Surroundings where
  registry := fun _ => some fun _ => quietAdapter
  clock := fun _ => 0
  heartbeat := none

def emptyServer : Server where
  limiter := .create 10 60
  desk := ⟨{ dailyQueue with jobs := [] }, []⟩

def atomSubmission (executeImmediately : Bool) (time : Instant) (newId : Identifier) :
    Submission where
  payload :=
    { providerCode := "demo", symbols := ["ATOM"], mode := .full, start := 0, finish := day
      interval := "1d", maxAttempts := 1, executeImmediately := executeImmediately
      adjustmentPreference := "unadjusted", dryRun := false }
  idempotencyKey := some "import-1"
  client := "local"
  time := time
  newId := newId
  surroundings := quietSurroundings

/-- The server after the first submission. -/
def submittedServer (executeImmediately : Bool) : Server :=
  (createJob plainEnvironment (atomSubmission executeImmediately 0 1) emptyServer).2

theorem atomSubmission_accepted :
    createJob plainEnvironment (atomSubmission false 0 1) emptyServer =
      (.accepted (queuedJob dailyRequest), submittedServer false) :=
  Prod.ext (by decide +kernel) rfl

/-- The job is claimed by a worker in between, and the repetition changes nothing. -/
theorem atomSubmission_replays :
    Replays plainEnvironment
      ([Happening.queue (.claim 3 60 0)].foldl (happen plainEnvironment) (submittedServer false))
      (atomSubmission false 1000000 2) 1 := by
  refine (replay_iff plainEnvironment emptyServer (submittedServer false)
    (atomSubmission false 0 1) (atomSubmission false 1000000 2) "import-1" _ rfl
    atomSubmission_accepted _ rfl rfl).mpr ⟨by decide +kernel, rfl, by decide, ?_⟩
  exact ⟨⟨7, "demo", true, .healthy, none⟩, by decide +kernel, rfl⟩

/-- A job that was run at once has succeeded, and the repetition is refused.  So is the
repetition of a job whose provider is disabled in between. -/
theorem atomSubmission_refused :
    ((createJob plainEnvironment (atomSubmission true 1000000 2) (submittedServer true)).1 =
        .invalidRequest "job status 'succeeded' cannot be run" ∧
      ¬ Replays plainEnvironment (submittedServer true) (atomSubmission true 1000000 2) 1) ∧
    ((createJob plainEnvironment (atomSubmission false 1000000 2)
        (happen plainEnvironment (submittedServer false)
          (.configure [⟨7, "demo", false, .healthy, none⟩]))).1 =
        .invalidRequest "provider 'demo' is disabled" ∧
      ¬ Replays plainEnvironment (happen plainEnvironment (submittedServer false)
          (.configure [⟨7, "demo", false, .healthy, none⟩]))
        (atomSubmission false 1000000 2) 1) := by
  have immediate : (createJob plainEnvironment (atomSubmission true 1000000 2)
      (submittedServer true)).1 = .invalidRequest "job status 'succeeded' cannot be run" := by
    decide +kernel
  have disabled : (createJob plainEnvironment (atomSubmission false 1000000 2)
      (happen plainEnvironment (submittedServer false)
        (.configure [⟨7, "demo", false, .healthy, none⟩]))).1 =
          .invalidRequest "provider 'demo' is disabled" := by
    decide +kernel
  refine ⟨⟨immediate, fun replays => ?_⟩, ⟨disabled, fun replays => ?_⟩⟩
  · rcases replays.1 with ⟨row, reply, _⟩
    rw [immediate] at reply
    cases reply
  · rcases replays.1 with ⟨row, reply, _⟩
    rw [disabled] at reply
    cases reply

end Submissions
end MarketData
end MarketIntelligence
