import MarketIntelligence.MarketData.Schedules
import Mathlib.Data.List.Forall2

namespace MarketIntelligence
namespace MarketData
namespace Schedules

open Foundations
open Loops

/-!
# One schedule and the others

A call serves every due schedule exactly when each of them can be served.  A schedule that
has a run for its due time, or no provider, is passed over and stays due.  What the checks
of its job raise ends the call, and no schedule is served.
-/

section Statements

variable (environment : Environment) (current : Instant)

/-- The provider and the arguments of the job that the schedule asks for. -/
def admitted (providers : List Provider) (schedule : ImportSchedule) :
    Except Exception (Provider × JobArguments) :=
  match Tables.lookup Provider.id schedule.providerId providers with
  | none => .error (.valueError "Provider not found")
  | some provider => do
      let arguments ← argumentsOf environment current provider schedule
      let owner ← checkArguments environment providers arguments
      .ok (owner, arguments)

/-- No job has the key of the schedule. -/
def Database.keyFree (database : Database) (schedule : ImportSchedule) : Bool :=
  (held (some (keyOf environment schedule)) database.jobs).isNone

def canRun (database : Database) (schedule : ImportSchedule) : Bool :=
  !database.hasRun schedule &&
    (admitted environment current database.providers schedule).isOk &&
    database.keyFree environment schedule

/-- The job is the one that the schedule asks for. -/
def JobFor (providers : List Provider) (schedule : ImportSchedule) (job : ImportJob) : Prop :=
  exists owner arguments, admitted environment current providers schedule = .ok (owner, arguments) ∧
    job = newJob environment job.id owner arguments

/-- One job is created for each due schedule that can run, in the order of the schedules, and
every due schedule has moved on to a later time. -/
structure Progress (before after : Database) : Prop where
  created : exists added, after.jobs = before.jobs ++ added ∧
    List.Forall₂ (JobFor environment current before.providers)
      ((before.due current).filter (canRun environment current before)) added
  advanced : forall schedule, schedule ∈ before.due current ->
    exists row, Tables.lookup ImportSchedule.id schedule.id after.schedules = some row ∧
      schedule.nextRunAt < row.nextRunAt

/-- What the call asks of a schedule: a job that may be created, or one without a run. -/
structure Servable (before : Database) (schedule : ImportSchedule) : Prop where
  unserved : before.hasRun schedule = false
  admitted : exists asked,
    admitted environment current before.providers schedule = .ok asked
  next : exists next, shifted schedule.nextRunAt day = .ok next
  unlinked : forall job, held (some (keyOf environment schedule)) before.jobs = some job ->
    job.id ∉ before.runs.map ScheduleRun.jobId

/-- Each of the due schedules can be served on its own, and no two of them ask for jobs with the
same key. -/
structure AllServable (before : Database) : Prop where
  each : forall schedule, schedule ∈ before.due current ->
    Servable environment current before schedule
  keys : ((before.due current).map (keyOf environment)).Nodup

end Statements

/-! ## Flushes and keys -/

theorem flush_ok {database flushed : Database} (done : database.flush = .ok flushed) :
    flushed = database ∧ (database.runs.map ScheduleRun.jobId).Nodup := by
  unfold Database.flush at done
  split at done
  · rename_i constraints
    exact ⟨(Except.ok.inj done).symm, constraints.1⟩
  · cases done

theorem flush_eq {database : Database} (jobs : (database.runs.map ScheduleRun.jobId).Nodup)
    (dueTimes : (database.runs.map fun run => (run.scheduleId, run.scheduledFor)).Nodup) :
    database.flush = .ok database := by
  unfold Database.flush
  exact if_pos ⟨jobs, dueTimes⟩

section Held

variable {key : String} {jobs more : List ImportJob} {job : ImportJob}

theorem held_eq_find? (nonempty : key ≠ "") (jobs : List ImportJob) :
    held (some key) jobs = jobs.find? fun job : ImportJob => job.idempotencyKey = some key := by
  simp only [held]
  exact if_neg nonempty

theorem held_some (nonempty : key ≠ "") (found : held (some key) jobs = some job) :
    job ∈ jobs ∧ job.idempotencyKey = some key := by
  rw [held_eq_find? nonempty] at found
  exact ⟨List.mem_of_find?_eq_some found, of_decide_eq_true
    (List.find?_some (p := fun job : ImportJob => decide (job.idempotencyKey = some key)) found)⟩

theorem held_append (nonempty : key ≠ "") (found : held (some key) jobs = some job) :
    held (some key) (jobs ++ more) = some job := by
  rw [held_eq_find? nonempty] at found ⊢
  rw [List.find?_append, found]
  rfl

theorem held_append_new (nonempty : key ≠ "") (free : held (some key) jobs = none) :
    held (some key) (jobs ++ more) = held (some key) more := by
  rw [held_eq_find? nonempty] at free
  rw [held_eq_find? nonempty, held_eq_find? nonempty, List.find?_append, free]
  rfl

theorem held_of_mem (nonempty : key ≠ "") (member : job ∈ jobs)
    (own : job.idempotencyKey = some key) : held (some key) jobs ≠ none := by
  rw [held_eq_find? nonempty]
  intro missing
  exact List.find?_eq_none.mp missing job member (decide_eq_true own)

theorem held_singleton (nonempty : key ≠ "") (own : job.idempotencyKey = some key) :
    held (some key) [job] = some job := by
  rw [held_eq_find? nonempty]
  exact List.find?_cons_of_pos (decide_eq_true own)

theorem lt_freshId (member : job ∈ jobs) : job.id < freshId jobs := by
  unfold freshId
  induction jobs with
  | nil => cases member
  | cons head tail ih =>
      rw [List.map_cons, List.foldr_cons]
      rcases List.mem_cons.mp member with first | later
      · exact first ▸ Nat.lt_succ_of_le (le_max_left _ _)
      · exact Nat.lt_of_lt_of_le (ih later)
          (Nat.succ_le_succ (le_max_right _ _))

end Held

/-! ## One pass of the loop -/

section Passes

variable {environment : Environment} {current : Instant} {database queued after : Database}
  {arguments : JobArguments} {job : ImportJob} {schedule : ImportSchedule}
  {created others : List ImportJob}

theorem keyOf_nonempty (environment : Environment) (schedule : ImportSchedule) :
    keyOf environment schedule ≠ "" :=
  environment.digest_nonempty _

theorem createImportJob_ok
    (done : createImportJob environment arguments database = .ok (job, queued)) :
    exists owner, checkArguments environment database.providers arguments = .ok owner ∧
      ((held arguments.idempotencyKey database.jobs = some job ∧ queued = database) ∨
        (held arguments.idempotencyKey database.jobs = none ∧
          job = newJob environment (freshId database.jobs) owner arguments ∧
          queued = { database with jobs := database.jobs ++ [job] })) := by
  unfold createImportJob at done
  rcases except_bind_ok done with ⟨owner, checked, rest⟩
  refine ⟨owner, checked, ?_⟩
  cases found : held arguments.idempotencyKey database.jobs with
  | some existing =>
      rw [found] at rest
      cases rest
      exact Or.inl ⟨rfl, rfl⟩
  | none =>
      rw [found] at rest
      rcases except_bind_ok rest with ⟨flushed, stored, ends⟩
      cases ends
      exact Or.inr ⟨rfl, rfl, (flush_ok stored).1⟩

theorem argumentsOf_key {provider : Provider}
    (asked : argumentsOf environment current provider schedule = .ok arguments) :
    arguments.idempotencyKey = some (keyOf environment schedule) := by
  unfold argumentsOf at asked
  rcases except_bind_ok asked with ⟨days, _, rest⟩
  rcases except_bind_ok rest with ⟨start, _, ends⟩
  cases ends
  rfl

theorem admitted_of_checked {providers : List Provider} {provider owner : Provider}
    (known : Tables.lookup Provider.id schedule.providerId providers = some provider)
    (asked : argumentsOf environment current provider schedule = .ok arguments)
    (checked : checkArguments environment providers arguments = .ok owner) :
    admitted environment current providers schedule = .ok (owner, arguments) := by
  unfold admitted
  rw [known]
  simp only
  rw [except_bind_eq asked, except_bind_eq checked]

theorem admitted_ok {providers : List Provider} {owner : Provider}
    (asked : admitted environment current providers schedule = .ok (owner, arguments)) :
    exists provider, Tables.lookup Provider.id schedule.providerId providers = some provider ∧
      argumentsOf environment current provider schedule = .ok arguments ∧
      checkArguments environment providers arguments = .ok owner := by
  unfold admitted at asked
  cases known : Tables.lookup Provider.id schedule.providerId providers with
  | none =>
      rw [known] at asked
      cases asked
  | some provider =>
      rw [known] at asked
      rcases except_bind_ok asked with ⟨passed, given, rest⟩
      rcases except_bind_ok rest with ⟨checkedOwner, checked, ends⟩
      cases ends
      exact ⟨provider, rfl, given, checked⟩

theorem JobFor.key {providers : List Provider}
    (own : JobFor environment current providers schedule job) :
    job.idempotencyKey = some (keyOf environment schedule) := by
  rcases own with ⟨owner, arguments, asked, same⟩
  rcases admitted_ok asked with ⟨provider, _, given, _⟩
  rw [same]
  exact argumentsOf_key given

/-- The due time is open and the provider exists: the pass goes on to the job. -/
def Database.reaches (database : Database) (schedule : ImportSchedule) : Bool :=
  !database.hasRun schedule &&
    (Tables.lookup Provider.id schedule.providerId database.providers).isSome

/-- A pass ends without an exception in two ways. -/
theorem processSchedule_ok
    (done : processSchedule environment current (database, created) schedule =
      .ok (after, others)) :
    (database.reaches schedule = false ∧
      (after = database ∨ after = database.writeSchedule schedule.failed)) ∨
    (database.reaches schedule = true ∧ exists owner arguments job queued next,
      admitted environment current database.providers schedule = .ok (owner, arguments) ∧
      createImportJob environment arguments database = .ok (job, queued) ∧
      shifted schedule.nextRunAt day = .ok next ∧
      after = (queued.addRun (runOf job schedule)).writeSchedule
        (schedule.moved current next)) := by
  unfold processSchedule at done
  unfold Database.reaches
  simp only at done
  cases served : database.hasRun schedule with
  | true =>
      rw [served, if_pos rfl] at done
      cases done
      exact Or.inl ⟨rfl, Or.inl rfl⟩
  | false =>
      rw [served, if_neg Bool.false_ne_true] at done
      cases known : Tables.lookup Provider.id schedule.providerId database.providers with
      | none =>
          rw [known] at done
          cases done
          exact Or.inl ⟨rfl, Or.inr rfl⟩
      | some provider =>
          rw [known] at done
          rcases except_bind_ok done with ⟨arguments, asked, rest⟩
          rcases except_bind_ok rest with ⟨⟨job, queued⟩, creates, shifts⟩
          rcases except_bind_ok shifts with ⟨next, moves, ends⟩
          cases ends
          rcases createImportJob_ok creates with ⟨owner, checked, _⟩
          exact Or.inr ⟨rfl, owner, arguments, job, queued, next,
            admitted_of_checked known asked checked, creates, moves, rfl⟩

end Passes

/-! ## The loop -/

section Reach

variable (environment : Environment) (current : Instant)

/-- The run of a schedule whose job is among these. -/
def linkOf (jobs : List ImportJob) (schedule : ImportSchedule) : ScheduleRun where
  scheduleId := schedule.id
  jobId := ((held (some (keyOf environment schedule)) jobs).map ImportJob.id).getD 0
  scheduledFor := schedule.nextRunAt
  status := .queued

/-- What a schedule that a pass has gone on with has given. -/
structure Enlisted (before : Database) (jobs : List ImportJob) (schedule : ImportSchedule) :
    Prop where
  listed : exists job, held (some (keyOf environment schedule)) jobs = some job
  admitted : exists asked,
    admitted environment current before.providers schedule = .ok asked
  next : exists next, shifted schedule.nextRunAt day = .ok next

/-- The row of a schedule has moved, or it has not. -/
def Placed (moved : Bool) (schedule : ImportSchedule) (rows : List ImportSchedule) : Prop :=
  exists row, Tables.lookup ImportSchedule.id schedule.id rows = some row ∧
    (if moved then schedule.nextRunAt < row.nextRunAt else row.nextRunAt = schedule.nextRunAt)

/-- What the passes over the first schedules have made of the tables. -/
structure Reached (before : Database) (visited : List ImportSchedule) (database : Database) :
    Prop where
  providers : database.providers = before.providers
  jobs_nodup : (database.jobs.map ImportJob.id).Nodup
  grown : exists added, database.jobs = before.jobs ++ added
  created : ((visited.filter before.reaches).map (keyOf environment)).Nodup ->
    exists added, database.jobs = before.jobs ++ added ∧
      List.Forall₂ (JobFor environment current before.providers)
        ((visited.filter before.reaches).filter (before.keyFree environment)) added
  runs : database.runs =
    before.runs ++ (visited.filter before.reaches).map (linkOf environment database.jobs)
  enlisted : forall schedule, schedule ∈ visited.filter before.reaches ->
    Enlisted environment current before database.jobs schedule
  placed : forall schedule, schedule ∈ visited ->
    Placed (before.reaches schedule) schedule database.schedules

variable {environment current} {before database after queued : Database}
  {visited : List ImportSchedule} {schedule : ImportSchedule} {jobs more : List ImportJob}
  {job : ImportJob} {created others : List ImportJob}

theorem linkOf_eq (found : held (some (keyOf environment schedule)) jobs = some job) :
    linkOf environment jobs schedule = runOf job schedule := by
  unfold linkOf runOf
  rw [found]
  rfl

theorem Enlisted.append (enlisted : Enlisted environment current before jobs schedule) :
    Enlisted environment current before (jobs ++ more) schedule := by
  rcases enlisted.listed with ⟨job, found⟩
  exact ⟨⟨job, held_append (keyOf_nonempty environment schedule) found⟩, enlisted.admitted, enlisted.next⟩

theorem Enlisted.linkOf_append (enlisted : Enlisted environment current before jobs schedule) :
    linkOf environment (jobs ++ more) schedule = linkOf environment jobs schedule := by
  rcases enlisted.listed with ⟨job, found⟩
  rw [linkOf_eq found, linkOf_eq (held_append (keyOf_nonempty environment schedule) found)]

/-- The runs of other schedules do not serve this one. -/
theorem hasRun_append (other : forall earlier, earlier ∈ visited -> earlier.id ≠ schedule.id)
    (runs : database.runs = before.runs ++ visited.map (linkOf environment jobs)) :
    database.hasRun schedule = before.hasRun schedule := by
  unfold Database.hasRun
  rw [runs, List.any_append]
  have missed : (visited.map (linkOf environment jobs)).any (fun run =>
      run.scheduleId = schedule.id && run.scheduledFor = schedule.nextRunAt) = false := by
    rw [List.any_eq_false]
    intro run member
    rcases List.mem_map.mp member with ⟨earlier, listed, same⟩
    have different : run.scheduleId ≠ schedule.id := same ▸ other earlier listed
    simp [different]
  rw [missed, Bool.or_false]

theorem Reached.reaches (reached : Reached environment current before visited database)
    (other : forall earlier, earlier ∈ visited -> earlier.id ≠ schedule.id) :
    database.reaches schedule = before.reaches schedule := by
  unfold Database.reaches
  rw [reached.providers, hasRun_append
    (fun earlier member => other earlier (List.mem_filter.mp member).1) reached.runs]

theorem Placed.write {moved : Bool} {rows : List ImportSchedule} {written : ImportSchedule}
    (placed : Placed moved schedule rows) (other : written.id ≠ schedule.id) :
    Placed moved schedule (Tables.put ImportSchedule.id written rows) := by
  rcases placed with ⟨row, found, place⟩
  refine ⟨row, ?_, place⟩
  rw [Tables.lookup_put, if_neg other]
  exact found

theorem placed_concat
    (other : forall earlier, earlier ∈ visited -> earlier.id ≠ schedule.id)
    (placed : forall earlier, earlier ∈ visited ->
      Placed (before.reaches earlier) earlier database.schedules)
    {written : ImportSchedule} (own : written.id = schedule.id)
    (place : if before.reaches schedule then schedule.nextRunAt < written.nextRunAt
      else written.nextRunAt = schedule.nextRunAt) :
    forall earlier, earlier ∈ visited ++ [schedule] ->
      Placed (before.reaches earlier) earlier (database.writeSchedule written).schedules := by
  intro earlier member
  rcases List.mem_append.mp member with old | new
  · exact (placed earlier old).write fun same => other earlier old (same.symm.trans own)
  · rw [List.mem_singleton.mp new]
    refine ⟨written, ?_, place⟩
    exact (Tables.lookup_put written schedule.id database.schedules).trans (if_pos own)

theorem shifted_lt {next : Instant} (moves : shifted schedule.nextRunAt day = .ok next) :
    schedule.nextRunAt < next := by
  unfold shifted at moves
  split at moves
  · cases moves
    exact Int.lt_add_of_pos_right _ (by decide)
  · cases moves

/-- A pass that goes on adds a job, or finds one. -/
theorem createImportJob_appends {arguments : JobArguments} {owner : Provider}
    (asked : admitted environment current database.providers schedule = .ok (owner, arguments))
    (done : createImportJob environment arguments database = .ok (job, queued)) :
    exists more, queued = { database with jobs := database.jobs ++ more } ∧
      held (some (keyOf environment schedule)) (database.jobs ++ more) = some job ∧
      ((held (some (keyOf environment schedule)) database.jobs = some job ∧ more = []) ∨
        (held (some (keyOf environment schedule)) database.jobs = none ∧ more = [job] ∧
          job.id = freshId database.jobs ∧
          JobFor environment current database.providers schedule job)) := by
  rcases admitted_ok asked with ⟨provider, _, given, checked⟩
  have key := argumentsOf_key given
  have nonempty := keyOf_nonempty environment schedule
  rcases createImportJob_ok done with ⟨checkedOwner, again, place⟩
  rw [checked] at again
  cases again
  rw [key] at place
  rcases place with ⟨found, same⟩ | ⟨free, new, same⟩
  · refine ⟨[], ?_, held_append nonempty found, Or.inl ⟨found, rfl⟩⟩
    rw [same, List.append_nil]
  · have own : JobFor environment current database.providers schedule job := by
      refine ⟨owner, arguments, asked, ?_⟩
      rw [new]
      rfl
    refine ⟨[job], same, ?_, Or.inr ⟨free, rfl, ?_, own⟩⟩
    · rw [held_append_new nonempty free]
      exact held_singleton nonempty own.key
    · rw [new]
      rfl

/-- While no two schedules have one key, a new job is one for a key without a job. -/
theorem Reached.created_concat (reached : Reached environment current before visited database)
    (goes : before.reaches schedule = true)
    (place : (held (some (keyOf environment schedule)) database.jobs = some job ∧ more = []) ∨
      (held (some (keyOf environment schedule)) database.jobs = none ∧ more = [job] ∧
        job.id = freshId database.jobs ∧
        JobFor environment current database.providers schedule job))
    (distinct : (((visited ++ [schedule]).filter before.reaches).map
      (keyOf environment)).Nodup) :
    exists added, database.jobs ++ more = before.jobs ++ added ∧
      List.Forall₂ (JobFor environment current before.providers)
        (((visited ++ [schedule]).filter before.reaches).filter (before.keyFree environment))
        added := by
  have nonempty := keyOf_nonempty environment schedule
  rw [List.filter_append, List.filter_singleton, goes, cond_true] at distinct ⊢
  rw [List.map_append, List.nodup_append] at distinct
  rcases reached.created distinct.1 with ⟨added, grown, each⟩
  rw [List.filter_append, List.filter_singleton]
  rcases place with ⟨found, none_⟩ | ⟨free, one, _, own⟩
  · have held_ : before.keyFree environment schedule = false := by
      unfold Database.keyFree
      cases earlier : held (some (keyOf environment schedule)) before.jobs with
      | some known => rfl
      | none =>
          rw [grown, held_append_new nonempty earlier] at found
          rcases held_some nonempty found with ⟨member, key⟩
          rcases exists_of_forall₂ each member with ⟨other, listed, asked⟩
          have same : keyOf environment other = keyOf environment schedule :=
            Option.some.inj (asked.key.symm.trans key)
          exact absurd same (distinct.2.2 _
            (List.mem_map_of_mem (List.mem_filter.mp listed).1) _ (List.mem_singleton.mpr rfl))
    rw [held_, cond_false, none_, List.append_nil, List.append_nil]
    exact ⟨added, grown, each⟩
  · have open_ : before.keyFree environment schedule = true := by
      unfold Database.keyFree
      cases earlier : held (some (keyOf environment schedule)) before.jobs with
      | none => rfl
      | some known =>
          rw [grown, held_append nonempty earlier] at free
          cases free
    rw [open_, cond_true, one, grown]
    rw [reached.providers] at own
    exact ⟨added ++ [job], List.append_assoc _ _ _, List.rel_append each (.cons own .nil)⟩

theorem Reached.stay (reached : Reached environment current before visited database)
    (stays : before.reaches schedule = false) {rows : List ImportSchedule}
    (placed : forall earlier, earlier ∈ visited ++ [schedule] ->
      Placed (before.reaches earlier) earlier rows) :
    Reached environment current before (visited ++ [schedule])
      { database with schedules := rows } := by
  have same : (visited ++ [schedule]).filter before.reaches = visited.filter before.reaches := by
    rw [List.filter_append, List.filter_singleton, stays, cond_false, List.append_nil]
  refine ⟨reached.providers, reached.jobs_nodup, reached.grown, ?_, ?_, ?_, placed⟩
  · rw [same]
    exact reached.created
  · rw [same]
    exact reached.runs
  · rw [same]
    exact reached.enlisted

theorem Reached.go (reached : Reached environment current before visited database)
    (other : forall earlier, earlier ∈ visited -> earlier.id ≠ schedule.id)
    (goes : before.reaches schedule = true) {arguments : JobArguments} {owner : Provider}
    {next : Instant}
    (asked : admitted environment current database.providers schedule = .ok (owner, arguments))
    (creates : createImportJob environment arguments database = .ok (job, queued))
    (moves : shifted schedule.nextRunAt day = .ok next) :
    Reached environment current before (visited ++ [schedule])
      ((queued.addRun (runOf job schedule)).writeSchedule (schedule.moved current next)) := by
  rcases createImportJob_appends asked creates with ⟨more, same, found, place⟩
  subst same
  have grows : (visited ++ [schedule]).filter before.reaches =
      visited.filter before.reaches ++ [schedule] := by
    rw [List.filter_append, List.filter_singleton, goes, cond_true]
  refine ⟨reached.providers, ?_, ?_, reached.created_concat goes place, ?_, ?_, ?_⟩
  · rcases place with ⟨_, none_⟩ | ⟨_, one, fresh, _⟩
    · rw [none_, List.append_nil]
      exact reached.jobs_nodup
    · rw [one]
      change ((database.jobs ++ [job]).map ImportJob.id).Nodup
      rw [List.map_append]
      refine reached.jobs_nodup.append (List.nodup_singleton _) ?_
      intro id earlier new
      rcases List.mem_map.mp earlier with ⟨known, listed, name⟩
      have below := lt_freshId listed
      rw [name, List.mem_singleton.mp new, fresh] at below
      exact absurd below (lt_irrefl _)
  · rcases reached.grown with ⟨added, grown⟩
    refine ⟨added ++ more, ?_⟩
    change database.jobs ++ more = _
    rw [grown, List.append_assoc]
  · change database.runs ++ [runOf job schedule] = before.runs ++
      ((visited ++ [schedule]).filter before.reaches).map
        (linkOf environment (database.jobs ++ more))
    have kept : (visited.filter before.reaches).map (linkOf environment (database.jobs ++ more)) =
        (visited.filter before.reaches).map (linkOf environment database.jobs) :=
      List.map_congr_left fun earlier member => (reached.enlisted earlier member).linkOf_append
    rw [grows, List.map_append, kept, List.map_singleton, linkOf_eq found, reached.runs,
      List.append_assoc]
  · intro earlier member
    rw [grows] at member
    rcases List.mem_append.mp member with old | new
    · exact (reached.enlisted earlier old).append
    · rw [List.mem_singleton.mp new]
      rw [reached.providers] at asked
      exact ⟨⟨job, found⟩, ⟨_, asked⟩, ⟨next, moves⟩⟩
  · refine placed_concat other reached.placed rfl ?_
    rw [goes, if_pos rfl]
    exact shifted_lt moves

/-- One pass, over a schedule as it is stored. -/
theorem Reached.pass (reached : Reached environment current before visited database)
    (other : forall earlier, earlier ∈ visited -> earlier.id ≠ schedule.id)
    (stored : Tables.lookup ImportSchedule.id schedule.id database.schedules = some schedule)
    (done : processSchedule environment current (database, created) schedule =
      .ok (after, others)) :
    Reached environment current before (visited ++ [schedule]) after ∧
      exists written, written.id = schedule.id ∧
        (after.schedules = database.schedules ∨
          after.schedules = Tables.put ImportSchedule.id written database.schedules) := by
  rcases processSchedule_ok done with
    ⟨stays, same | same⟩ | ⟨goes, owner, arguments, job, queued, next, asked, creates, moves, same⟩
  · rw [reached.reaches other] at stays
    subst same
    have placed : forall earlier, earlier ∈ visited ++ [schedule] ->
        Placed (before.reaches earlier) earlier after.schedules := by
      intro earlier member
      rcases List.mem_append.mp member with old | new
      · exact reached.placed earlier old
      · rw [List.mem_singleton.mp new, stays]
        exact ⟨schedule, stored, rfl⟩
    exact ⟨reached.stay stays placed, schedule, rfl, Or.inl rfl⟩
  · rw [reached.reaches other] at stays
    subst same
    refine ⟨reached.stay stays (placed_concat other reached.placed rfl ?_), schedule.failed, rfl,
      Or.inr rfl⟩
    rw [stays, if_neg Bool.false_ne_true]
    rfl
  · rw [reached.reaches other] at goes
    rw [same]
    refine ⟨reached.go other goes asked creates moves, schedule.moved current next, rfl, Or.inr ?_⟩
    rcases createImportJob_appends asked creates with ⟨more, grown, _⟩
    rw [grown]
    rfl

/-- One pass of the loop, with what it leaves for the next ones. -/
theorem Reached.advance {rest : List ImportSchedule}
    (reached : Reached environment current before visited database)
    (distinct : ((visited ++ schedule :: rest).map ImportSchedule.id).Nodup)
    (stored : forall later, later ∈ schedule :: rest ->
      Tables.lookup ImportSchedule.id later.id database.schedules = some later)
    (done : processSchedule environment current (database, created) schedule =
      .ok (after, others)) :
    Reached environment current before (visited ++ [schedule]) after ∧
      forall later, later ∈ rest ->
        Tables.lookup ImportSchedule.id later.id after.schedules = some later := by
  rw [List.map_append, List.nodup_append] at distinct
  have other : forall earlier, earlier ∈ visited -> earlier.id ≠ schedule.id :=
    fun earlier member => distinct.2.2 _ (List.mem_map_of_mem member) _ List.mem_cons_self
  rcases reached.pass other (stored schedule List.mem_cons_self) done with
    ⟨next, written, own, rows⟩
  refine ⟨next, fun later member => ?_⟩
  have different : later.id ≠ schedule.id := fun same =>
    (List.nodup_cons.mp distinct.2.1).1 (same ▸ List.mem_map_of_mem member)
  have kept := stored later (List.mem_cons_of_mem _ member)
  rcases rows with same | same
  · rw [same]
    exact kept
  · rw [same, Tables.lookup_put, if_neg fun name => different (name.symm.trans own)]
    exact kept

/-- The passes over the schedules that are left. -/
theorem Reached.loop {rest : List ImportSchedule} {final : Database × List ImportJob}
    (reached : Reached environment current before visited database)
    (distinct : ((visited ++ rest).map ImportSchedule.id).Nodup)
    (stored : forall schedule, schedule ∈ rest ->
      Tables.lookup ImportSchedule.id schedule.id database.schedules = some schedule)
    (done : rest.foldlM (processSchedule environment current) (database, created) = .ok final) :
    Reached environment current before (visited ++ rest) final.1 := by
  induction rest generalizing visited database created with
  | nil =>
      cases done
      rw [List.append_nil]
      exact reached
  | cons schedule rest ih =>
      rcases foldlM_cons_ok done with ⟨⟨middle, jobs⟩, here, further⟩
      have step := reached.advance distinct stored here
      have split : visited ++ schedule :: rest = (visited ++ [schedule]) ++ rest := by
        rw [List.append_assoc]
        rfl
      rw [split] at distinct ⊢
      exact ih step.1 distinct step.2 further

end Reach

/-! ## The constraints on runs -/

section Stores

variable {environment : Environment} {current : Instant} {store : Store} {database : Database}
  {visited : List ImportSchedule} {schedule : ImportSchedule} {jobs : List ImportJob}

theorem reaches_eq_true : database.reaches schedule = true <->
    database.hasRun schedule = false ∧
      exists provider, Tables.lookup Provider.id schedule.providerId database.providers =
        some provider := by
  unfold Database.reaches
  rw [Bool.and_eq_true, Bool.not_eq_true', Option.isSome_iff_exists]

theorem Servable.reaches (servable : Servable environment current database schedule) :
    database.reaches schedule = true := by
  rcases servable.admitted with ⟨⟨owner, arguments⟩, asked⟩
  rcases admitted_ok asked with ⟨provider, known, _⟩
  exact reaches_eq_true.mpr ⟨servable.unserved, provider, known⟩

theorem filter_reaches {before : Database} (servable : forall schedule, schedule ∈ visited ->
      Servable environment current before schedule) : visited.filter before.reaches = visited :=
  List.filter_eq_self.mpr fun schedule member => (servable schedule member).reaches

/-- The job of a run that the call has added had no run before. -/
theorem Reached.unlinked
    (reached : Reached environment current store.database visited database)
    (servable : Servable environment current store.database schedule) {job : ImportJob}
    (found : held (some (keyOf environment schedule)) database.jobs = some job) :
    job.id ∉ store.database.runs.map ScheduleRun.jobId := by
  have nonempty := keyOf_nonempty environment schedule
  rcases reached.grown with ⟨added, grown⟩
  cases earlier : held (some (keyOf environment schedule)) store.database.jobs with
  | some known =>
      rw [grown, held_append nonempty earlier] at found
      exact Option.some.inj found ▸ servable.unlinked known earlier
  | none =>
      intro linked
      rcases List.mem_map.mp linked with ⟨run, listed, same⟩
      rcases List.mem_map.mp (store.linked run listed) with ⟨known, stored, name⟩
      rcases held_some nonempty found with ⟨member, key⟩
      have one : known = job := List.inj_on_of_nodup_map reached.jobs_nodup
        (grown ▸ List.mem_append_left added stored) member (name.trans same)
      exact held_of_mem nonempty (one ▸ stored) key earlier

/-- Runs of different keys are runs of different jobs. -/
theorem Reached.jobIds_nodup
    (reached : Reached environment current store.database visited database)
    (servable : forall schedule, schedule ∈ visited ->
      Servable environment current store.database schedule)
    (keys : (visited.map (keyOf environment)).Nodup) :
    (database.runs.map ScheduleRun.jobId).Nodup := by
  have enlisted := reached.enlisted
  have runs := reached.runs
  rw [filter_reaches servable] at enlisted runs
  rw [runs, List.map_append, List.map_map]
  refine store.runs_nodup.append ?_ ?_
  · have apart : forall first, first ∈ visited -> forall second, second ∈ visited ->
        (linkOf environment database.jobs first).jobId =
          (linkOf environment database.jobs second).jobId -> first = second := by
      intro first firstMember second secondMember same
      rcases (enlisted first firstMember).listed with ⟨firstJob, firstFound⟩
      rcases (enlisted second secondMember).listed with ⟨secondJob, secondFound⟩
      rw [linkOf_eq firstFound, linkOf_eq secondFound] at same
      rcases held_some (keyOf_nonempty environment first) firstFound with ⟨firstListed, firstKey⟩
      rcases held_some (keyOf_nonempty environment second) secondFound with
        ⟨secondListed, secondKey⟩
      have one : firstJob = secondJob :=
        List.inj_on_of_nodup_map reached.jobs_nodup firstListed secondListed same
      rw [one, secondKey] at firstKey
      exact List.inj_on_of_nodup_map keys firstMember secondMember
        (Option.some.inj firstKey).symm
    exact (keys.of_map _).map_on apart
  · intro jobId old new
    rcases List.mem_map.mp new with ⟨own, member, same⟩
    rcases (enlisted own member).listed with ⟨job, found⟩
    have name : job.id = jobId := by
      rw [← same, Function.comp_apply, linkOf_eq found]
      rfl
    exact reached.unlinked (servable own member) found (name ▸ old)

theorem Reached.dueTimes_nodup
    (reached : Reached environment current store.database visited database)
    (servable : forall schedule, schedule ∈ visited ->
      Servable environment current store.database schedule)
    (distinct : (visited.map ImportSchedule.id).Nodup) :
    (database.runs.map fun run => (run.scheduleId, run.scheduledFor)).Nodup := by
  have runs := reached.runs
  rw [filter_reaches servable] at runs
  rw [runs, List.map_append, List.map_map]
  refine store.dueTimes_nodup.append ?_ ?_
  · refine (distinct.of_map _).map_on ?_
    intro first firstMember second secondMember same
    exact List.inj_on_of_nodup_map distinct firstMember secondMember (congrArg Prod.fst same)
  · intro dueTime old new
    rcases List.mem_map.mp new with ⟨own, member, same⟩
    rcases List.mem_map.mp old with ⟨run, listed, before⟩
    have ends := before.trans same.symm
    have served : store.database.hasRun own = true :=
      List.any_eq_true.mpr ⟨run, listed, by
        rw [Bool.and_eq_true, decide_eq_true_eq, decide_eq_true_eq]
        exact ⟨congrArg Prod.fst ends, congrArg Prod.snd ends⟩⟩
    rw [(servable own member).unserved] at served
    cases served

/-- No pass over schedules that can be served raises. -/
theorem processSchedule_completes {created : List ImportJob}
    (reached : Reached environment current store.database visited database)
    (before : forall earlier, earlier ∈ visited ->
      Servable environment current store.database earlier)
    (keys : (visited.map (keyOf environment)).Nodup)
    (distinct : (visited.map ImportSchedule.id).Nodup)
    (other : forall earlier, earlier ∈ visited -> earlier.id ≠ schedule.id)
    (servable : Servable environment current store.database schedule) :
    exists next, processSchedule environment current (database, created) schedule = .ok next := by
  rcases servable.admitted with ⟨⟨owner, arguments⟩, asked⟩
  rcases admitted_ok asked with ⟨provider, known, given, checked⟩
  rcases servable.next with ⟨next, moves⟩
  have unserved : database.hasRun schedule = false :=
    (hasRun_append (fun earlier member => other earlier (List.mem_filter.mp member).1)
      reached.runs).trans servable.unserved
  rw [← reached.providers] at known checked
  have creates : exists job queued,
      createImportJob environment arguments database = .ok (job, queued) := by
    unfold createImportJob
    rw [except_bind_eq checked]
    cases found : held arguments.idempotencyKey database.jobs with
    | some existing => exact ⟨existing, database, rfl⟩
    | none =>
        simp only
        have flushes : Database.flush { database with
            jobs := database.jobs ++
              [newJob environment (freshId database.jobs) owner arguments] } = .ok _ :=
          flush_eq (reached.jobIds_nodup before keys) (reached.dueTimes_nodup before distinct)
        rw [except_bind_eq flushes]
        exact ⟨_, _, rfl⟩
  rcases creates with ⟨job, queued, creates⟩
  unfold processSchedule
  simp only
  rw [unserved, if_neg Bool.false_ne_true, known]
  simp only
  rw [except_bind_eq given, except_bind_eq creates]
  simp only
  rw [except_bind_eq moves]
  exact ⟨_, rfl⟩

theorem loop_completes {rest : List ImportSchedule} {created : List ImportJob}
    (reached : Reached environment current store.database visited database)
    (distinct : ((visited ++ rest).map ImportSchedule.id).Nodup)
    (stored : forall schedule, schedule ∈ rest ->
      Tables.lookup ImportSchedule.id schedule.id database.schedules = some schedule)
    (servable : forall schedule, schedule ∈ visited ++ rest ->
      Servable environment current store.database schedule)
    (keys : ((visited ++ rest).map (keyOf environment)).Nodup) :
    exists final, rest.foldlM (processSchedule environment current) (database, created) =
      .ok final := by
  induction rest generalizing visited database created with
  | nil => exact ⟨_, rfl⟩
  | cons schedule rest ih =>
      have idsApart := distinct
      have keysApart := keys
      rw [List.map_append, List.nodup_append] at idsApart keysApart
      have other : forall earlier, earlier ∈ visited -> earlier.id ≠ schedule.id :=
        fun earlier member => idsApart.2.2 _ (List.mem_map_of_mem member) _ List.mem_cons_self
      rcases processSchedule_completes reached
        (fun earlier member => servable earlier (List.mem_append_left _ member)) keysApart.1
        idsApart.1 other (servable schedule (List.mem_append_right _ List.mem_cons_self))
        with ⟨⟨middle, jobs⟩, here⟩
      rw [List.foldlM_cons, except_bind_eq here]
      have split : visited ++ schedule :: rest = (visited ++ [schedule]) ++ rest := by
        rw [List.append_assoc]
        rfl
      have step := reached.advance distinct stored here
      rw [split] at distinct servable keys
      exact ih step.1 distinct step.2 servable keys

end Stores

/-! ## A call -/

section Calls

variable (environment : Environment) (current : Instant) (store : Store)

variable {environment current store} in
theorem mem_due {schedule : ImportSchedule}
    (member : schedule ∈ store.database.due current) : schedule ∈ store.database.schedules :=
  (List.mem_filter.mp (SortedLists.mem_sortedBy.mp member)).1

variable {environment current store} in
theorem due_ids_nodup : ((store.database.due current).map ImportSchedule.id).Nodup := by
  have sorted : (store.database.due current).Perm (store.database.schedules.filter fun schedule =>
      schedule.isEnabled && schedule.nextRunAt ≤ current) := List.perm_insertionSort _ _
  exact ((sorted.map ImportSchedule.id).nodup_iff).mpr
    (store.schedules_nodup.sublist (List.filter_sublist.map _))

variable {environment current store} in
theorem due_stored {schedule : ImportSchedule}
    (member : schedule ∈ store.database.due current) :
    Tables.lookup ImportSchedule.id schedule.id store.database.schedules = some schedule :=
  Tables.lookup_of_mem store.schedules_nodup (mem_due member)

theorem reached_start : Reached environment current store.database [] store.database where
  providers := rfl
  jobs_nodup := store.jobs_nodup
  grown := ⟨[], (List.append_nil _).symm⟩
  created := fun _ => ⟨[], (List.append_nil _).symm, .nil⟩
  runs := (List.append_nil _).symm
  enlisted := by
    intro schedule member
    cases member
  placed := by
    intro schedule member
    cases member

variable {environment current store} in
/-- A call that ends has served the schedules that it went on with. -/
theorem processDueSchedules_ok {reached : Database} {jobs : List ImportJob}
    (done : processDueSchedules environment current store.database = .ok (reached, jobs)) :
    Reached environment current store.database (store.database.due current) reached ∧
      (reached.runs.map ScheduleRun.jobId).Nodup := by
  unfold processDueSchedules at done
  rcases except_bind_ok done with ⟨⟨final, created⟩, loops, rest⟩
  rcases except_bind_ok rest with ⟨flushed, flushes, ends⟩
  cases ends
  rcases flush_ok flushes with ⟨same, constraints⟩
  rw [same]
  exact ⟨(reached_start environment current store).loop due_ids_nodup
    (fun schedule member => due_stored member) loops, constraints⟩

variable {environment current store} in
theorem AllServable.completes
    (servable : AllServable environment current store.database) : exists reached jobs,
      processDueSchedules environment current store.database = .ok (reached, jobs) := by
  have start := reached_start environment current store
  have stored : forall schedule, schedule ∈ store.database.due current ->
      Tables.lookup ImportSchedule.id schedule.id store.database.schedules = some schedule :=
    fun schedule member => due_stored member
  have ends : exists final, (store.database.due current).foldlM
      (processSchedule environment current) (store.database, []) = .ok final :=
    loop_completes start due_ids_nodup stored servable.each servable.keys
  rcases ends with ⟨⟨final, jobs⟩, loops⟩
  have reached := start.loop due_ids_nodup stored loops
  have flushes : final.flush = .ok final := flush_eq
    (reached.jobIds_nodup servable.each servable.keys)
    (reached.dueTimes_nodup servable.each due_ids_nodup)
  refine ⟨final, jobs, ?_⟩
  unfold processDueSchedules
  rw [except_bind_eq loops]
  simp only
  rw [except_bind_eq flushes]

variable {environment current store} in
/-- Schedules that can be served get their jobs and move on. -/
theorem AllServable.progress {reached : Database}
    (servable : AllServable environment current store.database)
    (served : Reached environment current store.database (store.database.due current) reached) :
    Progress environment current store.database reached := by
  have all := filter_reaches servable.each
  refine ⟨?_, fun schedule member => ?_⟩
  · have created := served.created
    rw [all] at created
    have runnable : (store.database.due current).filter (store.database.keyFree environment) =
        (store.database.due current).filter (canRun environment current store.database) := by
      refine List.filter_congr fun schedule member => ?_
      have one := servable.each schedule member
      rcases one.admitted with ⟨asked, given⟩
      unfold canRun
      rw [one.unserved, given]
      rfl
    rw [← runnable]
    exact created servable.keys
  · rcases served.placed schedule member with ⟨row, found, place⟩
    rw [(servable.each schedule member).reaches, if_pos rfl] at place
    exact ⟨row, found, place⟩

variable {environment current store} in
/-- When every due schedule has moved, each of them could be served. -/
theorem Progress.allServable {reached : Database}
    (progress : Progress environment current store.database reached)
    (served : Reached environment current store.database (store.database.due current) reached)
    (constraints : (reached.runs.map ScheduleRun.jobId).Nodup) :
    AllServable environment current store.database := by
  have goes : forall schedule, schedule ∈ store.database.due current ->
      store.database.reaches schedule = true := by
    intro schedule member
    rcases progress.advanced schedule member with ⟨row, found, later⟩
    rcases served.placed schedule member with ⟨other, known, place⟩
    cases stays : store.database.reaches schedule with
    | true => rfl
    | false =>
        rw [stays, if_neg Bool.false_ne_true] at place
        rw [found] at known
        rw [← Option.some.inj known] at place
        rw [place] at later
        exact absurd later (lt_irrefl _)
  have all : (store.database.due current).filter store.database.reaches =
      store.database.due current := List.filter_eq_self.mpr goes
  have runs := served.runs
  have enlisted := served.enlisted
  rw [all] at runs enlisted
  rw [runs, List.map_append, List.map_map, List.nodup_append] at constraints
  refine ⟨fun schedule member => ?_, ?_⟩
  · have one := enlisted schedule member
    refine ⟨(reaches_eq_true.mp (goes schedule member)).1, one.admitted, one.next, ?_⟩
    intro job found linked
    rcases served.grown with ⟨added, grown⟩
    have kept : held (some (keyOf environment schedule)) reached.jobs = some job := by
      rw [grown]
      exact held_append (keyOf_nonempty environment schedule) found
    refine constraints.2.2 job.id linked job.id (List.mem_map.mpr ⟨schedule, member, ?_⟩) rfl
    rw [Function.comp_apply, linkOf_eq kept]
    rfl
  · refine List.Nodup.of_map
      (fun key => ((held (some key) reached.jobs).map ImportJob.id).getD 0) ?_
    rw [List.map_map]
    exact constraints.2.1

/-- A call makes progress with the due schedules, for every state of the tables, exactly when
each of them can be served.  One that cannot be served raises, and the transaction of all of them
is rolled back. -/
theorem processDueSchedules_progress_iff :
    Progress environment current store.database
        (committed environment current store.database) <->
      AllServable environment current store.database := by
  unfold committed
  constructor
  · intro progress
    cases outcome : processDueSchedules environment current store.database with
    | ok result =>
        rw [outcome] at progress
        rcases processDueSchedules_ok outcome with ⟨served, constraints⟩
        exact progress.allServable served constraints
    | error raised =>
        rw [outcome] at progress
        have none_ : store.database.due current = [] := by
          refine List.eq_nil_iff_forall_not_mem.mpr fun schedule member => ?_
          rcases progress.advanced schedule member with ⟨row, found, later⟩
          rw [due_stored member] at found
          rw [← Option.some.inj found] at later
          exact lt_irrefl _ later
        refine ⟨fun schedule member => ?_, ?_⟩
        · rw [none_] at member
          cases member
        · rw [none_]
          exact List.nodup_nil
  · intro servable
    rcases servable.completes with ⟨reached, jobs, outcome⟩
    rw [outcome]
    exact servable.progress (processDueSchedules_ok outcome).1

end Calls

/-! ## A schedule of a disabled provider before another one -/

def plainEnvironment : Environment where
  library := plainLibrary
  lower := id
  digest := fun payload => "schedule:" ++ toString payload.1 ++ ":" ++ toString payload.2
  digest_nonempty := by
    intro payload empty
    have length := congrArg String.length empty
    simp at length
  workspaceId := none

def dailySchedule (id providerId : Identifier) (nextRunAt : Instant) : ImportSchedule where
  id := id
  workspaceId := 1
  providerId := providerId
  symbols := ["AAPL"]
  lookbackDays := .integer 5
  mode := "incremental"
  adjustmentPreference := "unadjusted"
  isEnabled := true
  nextRunAt := nextRunAt
  lastRunAt := none
  failureCount := 0
  lastError := none

/-- The provider of the first schedule is disabled. -/
def twoSchedules : Store where
  database :=
    { providers := [⟨7, "retired", false, .disabled, none⟩, ⟨8, "synthetic", true, .healthy, none⟩]
      schedules := [dailySchedule 1 7 0, dailySchedule 2 8 1]
      jobs := []
      runs := [] }
  schedules_nodup := by decide
  jobs_nodup := by decide
  runs_nodup := by decide
  dueTimes_nodup := by decide
  linked := by
    intro run member
    cases member

/-- The second schedule can run, and gets no job. -/
theorem disabledProvider_stops_others :
    canRun plainEnvironment day twoSchedules.database (dailySchedule 2 8 1) = true ∧
      committed plainEnvironment day twoSchedules.database = twoSchedules.database ∧
      ¬ Progress plainEnvironment day twoSchedules.database
        (committed plainEnvironment day twoSchedules.database) := by
  have unchanged : committed plainEnvironment day twoSchedules.database =
      twoSchedules.database := by decide
  refine ⟨by decide, unchanged, ?_⟩
  intro progress
  rw [unchanged] at progress
  rcases progress.advanced (dailySchedule 2 8 1) (by decide) with ⟨row, found, later⟩
  have same : row = dailySchedule 2 8 1 := (Option.some.inj found).symm
  rw [same] at later
  exact lt_irrefl _ later

end Schedules
end MarketData
end MarketIntelligence
