import MarketIntelligence.MarketData.Audit
import MarketIntelligence.MarketData.Counters
import MarketIntelligence.MarketData.Findings
import MarketIntelligence.MarketData.SessionCheck

namespace MarketIntelligence
namespace MarketData
namespace Reconciliation

open Foundations
open Loops
open Transactions

/-!
# Reconciliation after imports

The validation of an import and the checks of a reconciliation overlap.  Every bar that the queue
stores is one its import has validated, on a day of the calendar where some session opens within the
request, and its source is the one of its provider.  So whatever the operations on the queue, a
reconciliation never finds a bar with impossible prices, a negative volume, no session or a second
bar of the same provider.
-/

/-- What the import promises of a bar. -/
structure SoundBar (calendar : List TradingSession) (bar : PriceBar) : Prop where
  high : max bar.openPrice bar.closePrice ≤ bar.high
  low : bar.low ≤ min bar.openPrice bar.closePrice
  volume : 0 ≤ bar.volume
  session : exists session, session ∈ calendar ∧ session.sessionDate = dateOf bar.eventTime
  source : exists code, bar.provider = some code ∧ bar.dataSource = sourceName code

/-- Some session opens between the two instants of the request. -/
def OpensFor (calendar : List TradingSession) (request : ImportRequest) : Prop :=
  exists session, session ∈ calendar ∧ OpensWithin request session

/-! ## Validated records -/

section Validated

variable {library : Library} {records : List HistoricalBarRecord} {dates : Option (List Int)}
  {staleAfter : Int} {now : Instant} {record : HistoricalBarRecord}

/-- A valid report has no issue of severity error about any record. -/
theorem valid_unbroken
    (valid : (validateHistoricalBars library records dates staleAfter now).isValid = true)
    (member : record ∈ records) : exists seen, forall issue,
      issue ∈ issuesOf library dates staleAfter now seen record -> issue.severity ≠ "error" := by
  rcases List.append_of_mem member with ⟨before, after, split⟩
  refine ⟨seenKeys library before, fun issue found error => ?_⟩
  have listed := mem_issues.mpr ⟨before, record, after, split, found⟩
  unfold ValidationReport.isValid at valid
  rw [Bool.not_eq_true', List.any_eq_false] at valid
  exact valid issue listed (decide_eq_true error)

/-- A rule whose issue would be an error is not broken. -/
theorem unbroken_of_none {broken : Bool} {code message : String}
    (none_ : forall issue, issue ∈ issueWhen library broken code message "error" record ->
      issue.severity ≠ "error") : broken = false := by
  by_contra holds
  have raised : broken = true := eq_true_of_ne_false holds
  refine none_ ⟨code, message, "error", recordIdentifier library record⟩ ?_ rfl
  unfold issueWhen
  rw [if_pos raised]
  exact List.mem_singleton.mpr rfl

/-- What the validation has checked of each record of a valid batch. -/
theorem validated_rules
    (valid : (validateHistoricalBars library records dates staleAfter now).isValid = true)
    (member : record ∈ records) :
    max record.openPrice record.closePrice ≤ record.high ∧
      record.low ≤ min record.openPrice record.closePrice ∧ 0 ≤ record.volume ∧
      forall known, dates = some known -> dateOf record.eventTime ∈ known := by
  rcases valid_unbroken valid member with ⟨seen, none_⟩
  unfold issuesOf at none_
  simp only [List.mem_append] at none_
  have prices := unbroken_of_none fun issue found =>
    none_ issue (Or.inl (Or.inl (Or.inl (Or.inl (Or.inl (Or.inr found))))))
  have volume := unbroken_of_none fun issue found =>
    none_ issue (Or.inl (Or.inl (Or.inl (Or.inr found))))
  have session := unbroken_of_none fun issue found => none_ issue (Or.inl (Or.inr found))
  rw [Bool.or_eq_false_iff, Bool.or_eq_false_iff, decide_eq_false_iff_not,
    decide_eq_false_iff_not] at prices
  refine ⟨not_lt.mp prices.1.1, not_lt.mp prices.1.2, not_lt.mp (of_decide_eq_false volume), ?_⟩
  intro known same
  subst same
  by_contra absent
  rw [Option.any_some, decide_eq_false_iff_not] at session
  exact session absent

end Validated

/-! ## The bars of a batch -/

section Batch

variable {good : PriceBar -> Prop} {context : Context} {sequence : Nat} {symbol : String}

/-- Every bar of the store, flushed or to be flushed. -/
def HoldsOfBars (good : PriceBar -> Prop) (store : Store) : Prop :=
  forall bar, bar ∈ store.allBars -> good bar

theorem holdsOfBars_of_kept {α : Type} {program : StoreProgram α}
    (kept : forall bars, Preserves (fun store : Store => store.allBars = bars) program) :
    Preserves (HoldsOfBars good) program := by
  intro store holds
  have same := kept store.allBars store rfl
  cases ended : program store with
  | ok value after =>
      rw [ended] at same
      exact fun bar listed => holds bar (same ▸ listed)
  | error raised after =>
      rw [ended] at same
      exact fun bar listed => holds bar (same ▸ listed)

theorem storeBar_holds {request : ImportRequest} {bar : PriceBar} (sound : good bar)
    (known : Option PriceBar) : Preserves (HoldsOfBars good) (storeBar request bar known) := by
  cases known with
  | some duplicate =>
      rw [storeBar]
      split <;> exact pure_preserves _
  | none =>
      rw [storeBar]
      split
      · exact pure_preserves _
      · refine Preserves.bind (Preserves.modify fun store holds other listed => ?_)
          fun _ => pure_preserves _
        have parts : other ∈ store.stored.bars ++ (store.pending.bars ++ [bar]) := listed
        rw [← List.append_assoc] at parts
        rcases List.mem_append.mp parts with old | new
        · exact holds other old
        · exact List.mem_singleton.mp new ▸ sound

/-- What comes after a value that may be missing starts from the value. -/
theorem raise_bind_holds {α β : Type} {outcome : Except Exception α} {next : α -> StoreProgram β}
    (keeps : forall value, outcome = .ok value -> Preserves (HoldsOfBars good) (next value)) :
    Preserves (HoldsOfBars good) (raise outcome >>= next) := by
  intro store holds
  cases outcome with
  | error raised => exact holds
  | ok value => exact keeps value rfl store holds

/-- What holds of the bars made from the validated records holds of the bars of a batch. -/
theorem batchRows_holds
    (sound : forall asset start answer record,
      validatedRecords context sequence symbol start = .ok answer ->
        answer.report.isValid = true -> record ∈ answer.records ->
          good (newBar context.library context.request context.provider context.source asset
            record)) :
    Preserves (HoldsOfBars good) (batchRows context sequence symbol) := by
  refine Preserves.bind (holdsOfBars_of_kept fun _ => assetOf_bars _ _ _ _) fun asset => ?_
  refine Preserves.bind (fetchStart_preserves _ _ asset) fun start => ?_
  refine raise_bind_holds fun answer answered => ?_
  split
  · rename_i valid
    refine Preserves.bind (Preserves.forM fun record member => ?_) fun _ => ?_
    · have made := sound asset start answer record answered valid member
      exact Preserves.bind (Preserves.get_bind fun _ => storeBar_holds made _)
        fun _ => pure_preserves _
    · refine Preserves.bind (holdsOfBars_of_kept fun _ => persistActions_bars _ _ _ _ _ _)
        fun _ => ?_
      exact Preserves.bind (holdsOfBars_of_kept fun _ => publishCapability_bars _ _ _)
        fun _ => pure_preserves true
  · exact pure_preserves false

/-- The bars of a committed batch, where they held before it. -/
theorem committedRows_holds {rows committed : Canonical}
    (sound : forall asset start answer record,
      validatedRecords context sequence symbol start = .ok answer ->
        answer.report.isValid = true -> record ∈ answer.records ->
          good (newBar context.library context.request context.provider context.source asset
            record))
    (holds : forall bar, bar ∈ rows.bars -> good bar)
    (done : committedRows context sequence symbol rows = some committed) :
    forall bar, bar ∈ committed.bars -> good bar := by
  rcases committedRows_some done with ⟨store, flushed, same⟩
  have keeps : Preserves (HoldsOfBars good) (flushedRows context sequence symbol) := by
    refine Preserves.bind (batchRows_holds sound) fun complete => ?_
    split
    · exact Preserves.bind (holdsOfBars_of_kept fun _ => flush_bars) fun _ => pure_preserves true
    · exact pure_preserves false
  have starts : HoldsOfBars good ⟨rows, .empty⟩ := by
    intro bar listed
    have stored : bar ∈ rows.bars ++ [] := listed
    rw [List.append_nil] at stored
    exact holds bar stored
  have ends := keeps ⟨rows, .empty⟩ starts
  rw [flushed] at ends
  intro bar listed
  exact ends bar (List.mem_append_left _ (same ▸ listed))

end Batch

/-! ## The bars of a run -/

section Runs

variable {library : Library} {surroundings : Surroundings} {calendar : List TradingSession}
  {job finished : ImportJob} {database after : Database} {context : Context}

/-- A bar made from a validated record is sound. -/
theorem newBar_sound (opened : Opened library surroundings job database context)
    (known : database.calendar = calendar) (opens : OpensFor calendar job.request)
    {sequence : Nat} {symbol : String} {start : Instant} {answer : Answer} (asset : Asset)
    {record : HistoricalBarRecord}
    (answered : validatedRecords context sequence symbol start = .ok answer)
    (valid : answer.report.isValid = true) (member : record ∈ answer.records) :
    SoundBar calendar (newBar context.library context.request context.provider context.source asset
      record) := by
  rcases except_bind_ok answered with ⟨records, -, rest⟩
  cases rest
  rcases validated_rules valid member with ⟨high, low, volume, dated⟩
  have some_ : context.validSessions ≠ [] := by
    rcases opens with ⟨session, listed, open_, start, finish⟩
    rw [opened.validSessions, known]
    exact List.ne_nil_of_mem (mem_validSessionDates.mpr
      ⟨session, listed, rfl, start, finish, open_⟩)
  have date := dated context.validSessions (if_neg some_)
  rw [opened.validSessions, known] at date
  rcases mem_validSessionDates.mp date with ⟨session, listed, same, -⟩
  exact
    { high := high
      low := low
      volume := volume
      session := ⟨session, listed, same⟩
      source := ⟨context.provider, rfl, opened.source⟩ }

/-- Sound bars with different identities, and jobs whose requests have a session. -/
structure Imported (calendar : List TradingSession) (database : Database) : Prop where
  sameCalendar : database.calendar = calendar
  bars : (database.rows.bars.map PriceBar.identity).Nodup
  sound : forall bar, bar ∈ database.rows.bars -> SoundBar calendar bar
  requests : forall job, job ∈ database.jobs -> OpensFor calendar job.request

/-- A job is written for a job of the same request. -/
theorem Imported.write (imported : Imported calendar database)
    (jobs : after.jobs = Tables.put ImportJob.id finished database.jobs)
    (request : finished.request = job.request) (opens : OpensFor calendar job.request)
    (rows : after.rows = database.rows) (same : after.calendar = database.calendar) :
    Imported calendar after where
  sameCalendar := same.trans imported.sameCalendar
  bars := rows ▸ imported.bars
  sound := rows ▸ imported.sound
  requests := by
    intro row listed
    rw [jobs] at listed
    rcases Tables.mem_put listed with new | old
    · rw [new, request]
      exact opens
    · exact imported.requests row old

theorem Imported.add {request : ImportRequest} (imported : Imported calendar database)
    (opens : OpensFor calendar request)
    (jobs : after.jobs = database.jobs ++ [queuedJob request])
    (rows : after.rows = database.rows) (same : after.calendar = database.calendar) :
    Imported calendar after where
  sameCalendar := same.trans imported.sameCalendar
  bars := rows ▸ imported.bars
  sound := rows ▸ imported.sound
  requests := by
    intro row listed
    rw [jobs] at listed
    rcases List.mem_append.mp listed with old | new
    · exact imported.requests row old
    · exact List.mem_singleton.mp new ▸ opens

theorem runImportJob_imported (imported : Imported calendar database)
    (opens : OpensFor calendar job.request)
    (done : runImportJob library surroundings job database = .ok finished after) :
    Imported calendar after ∧ finished.request = job.request := by
  have keeps : forall context, Opened library surroundings job database context ->
      Keeps context (fun _ rows => (rows.bars.map PriceBar.identity).Nodup ∧
        forall bar, bar ∈ rows.bars -> SoundBar calendar bar) job.request := by
    intro context opened position symbol rows committed _ holds commits
    refine ⟨(committedRows_consistent commits).bars, ?_⟩
    refine committedRows_holds (fun asset start answer record answered valid member => ?_)
      holds.2 commits
    exact newBar_sound opened imported.sameCalendar opens asset answered valid member
  have returned := runImportJob_returned keeps ⟨imported.bars, imported.sound⟩ done
  refine ⟨?_, returned.request⟩
  exact
    { sameCalendar := returned.calendar.trans imported.sameCalendar
      bars := returned.rows.1
      sound := returned.rows.2
      requests := by
        intro row listed
        rw [returned.jobs] at listed
        rcases Tables.mem_put listed with new | old
        · rw [new, returned.request]
          exact opens
        · exact imported.requests row old }

end Runs

/-! ## The operations on the queue -/

section Operations

variable {library : Library} {calendar : List TradingSession} {database after : Database}

/-- The jobs the operation adds have a session within their requests. -/
def Covered (calendar : List TradingSession) : QueueOperation -> Prop
  | .create request _ _ => OpensFor calendar request
  | .pass pass => forall requests, pass.due = .ok requests ->
      forall request, request ∈ requests -> OpensFor calendar request
  | _ => True

theorem recoverAbandonedJobs_imported (now : Instant) :
    Preserves (Imported calendar) (recoverAbandonedJobs now) := by
  apply recoverAbandonedJobs_preserves
  constructor
  · exact fun database lease imported => { imported with }
  · intro database job imported member running free
    exact imported.write rfl rfl (imported.requests job member) rfl rfl

theorem processDueSchedules_imported {pass : Pass}
    (covered : forall requests, pass.due = .ok requests ->
      forall request, request ∈ requests -> OpensFor calendar request) :
    Preserves (Imported calendar) (processDueSchedules pass) := by
  intro database imported
  unfold processDueSchedules
  rw [bind_apply]
  cases due : pass.due with
  | error raised => exact imported
  | ok requests =>
      refine (?_ : Preserves (Imported calendar) (requests.forM addDue)) database imported
      refine Preserves.forM fun request member => Preserves.modify fun database imported => ?_
      split
      · exact imported
      · exact imported.add (covered requests due request member) rfl rfl rfl

theorem claimNextJob_imported {workerId : Identifier} {leaseSeconds : Int} {now : Instant}
    {outcome : Option (ImportJob × JobLease)} (imported : Imported calendar database)
    (done : claimNextJob workerId leaseSeconds now database = .ok outcome after) :
    Imported calendar after ∧ forall job lease, outcome = some (job, lease) ->
      OpensFor calendar job.request := by
  rcases claimNextJob_cases workerId leaseSeconds now database with
    idle | ⟨candidate, claimed, taken, claims⟩
  · rw [idle] at done
    cases done
    exact ⟨imported, fun _ _ impossible => by cases impossible⟩
  · rw [claims] at done
    cases done
    have opens := imported.requests candidate taken.member
    have rest := taken.rest
    simp only [Prod.mk.injEq] at rest
    refine ⟨imported.write taken.jobs rfl opens rest.1 rest.2.2.2.2.1, ?_⟩
    intro job lease chosen
    cases chosen
    exact opens

theorem executeClaimedJob_imported {surroundings : Surroundings} {job finished : ImportJob}
    {lease : JobLease} {workerId : Identifier} (imported : Imported calendar database)
    (opens : OpensFor calendar job.request)
    (done : executeClaimedJob library surroundings job lease workerId database =
      .ok finished after) : Imported calendar after := by
  rcases executeClaimedJob_ok done with ⟨middle, ran, fleet, same, -⟩
  have kept := (runImportJob_imported imported opens ran).1
  subst same
  exact { kept with }

theorem workerPass_imported {pass : Pass} {session : Session}
    (imported : Imported calendar database)
    (covered : forall requests, pass.due = .ok requests ->
      forall request, request ∈ requests -> OpensFor calendar request)
    (done : workerPass library pass (Session.begins database) = .ok ⟨⟩ session) :
    Imported calendar session.database := by
  have reached : forall outcome claimed, Reaches pass database outcome claimed ->
      Imported calendar claimed ∧ forall job lease, outcome = some (job, lease) ->
        OpensFor calendar job.request := by
    intro outcome claimed reaches
    cases reaches with
    | intro recovered scheduled recovers schedules claims =>
        have first := recoverAbandonedJobs_imported pass.now database imported
        rw [recovers] at first
        have second := processDueSchedules_imported covered recovered first
        rw [schedules] at second
        exact claimNextJob_imported second claims
  cases workerPass_committed done with
  | idle claimed reaches => exact (reached none claimed reaches).1
  | executed job lease claimed reaches finished after executes =>
      rcases reached _ claimed reaches with ⟨kept, opens⟩
      exact executeClaimedJob_imported kept (opens job lease rfl) executes

theorem createJob_imported {request : ImportRequest} {executeImmediately : Option Surroundings}
    {written : ImportJob} (imported : Imported calendar database)
    (opens : OpensFor calendar request)
    (done : createJob library request executeImmediately database = .ok written after) :
    Imported calendar after := by
  rcases createJob_ok done with ⟨middle, -, same, outcome⟩
  have added : Imported calendar middle := by
    subst same
    exact imported.add opens rfl rfl rfl
  rcases outcome with ⟨-, unrun⟩ | ⟨surroundings, -, ran⟩
  · exact unrun ▸ added
  · have wanted : OpensFor calendar (queuedJob request).request := opens
    exact (runImportJob_imported added wanted ran).1

theorem restartJob_imported {surroundings : Surroundings} {target : Identifier}
    {written : ImportJob} (imported : Imported calendar database)
    (done : restartJob library surroundings target database = .ok written after) :
    Imported calendar after := by
  rcases restartJob_ok done with ⟨job, middle, found, restarts, runs⟩
  rcases restartImportJob_ok restarts with ⟨-, -, same⟩
  have wanted := imported.requests job (Tables.lookup_some found).1
  have restarted : Imported calendar middle := by
    subst same
    exact imported.write rfl rfl wanted rfl rfl
  have again : OpensFor calendar job.restarted.request := wanted
  exact (runImportJob_imported restarted again runs).1

/-- The step lemma. -/
theorem operate_imported {operation : QueueOperation} (covered : Covered calendar operation)
    (imported : Imported calendar database) :
    Imported calendar (operate library database operation) := by
  have stays : forall {α : Type} (program : DatabaseProgram α),
      (forall value after, program database = .ok value after -> Imported calendar after) ->
      Imported calendar (transact id id program database) :=
    fun _ completes => transact_preserves imported completes
  have opens : forall {target : Identifier} {job : ImportJob},
      Tables.lookup ImportJob.id target database.jobs = some job ->
        OpensFor calendar job.request :=
    fun {_ job} found => imported.requests job (Tables.lookup_some found).1
  cases operation with
  | create request executeImmediately registry =>
      apply stays
      intro written after done
      exact createJob_imported imported covered done
  | claim workerId leaseSeconds now =>
      apply stays
      intro outcome after done
      exact (claimNextJob_imported imported done).1
  | execute target pass =>
      apply stays
      intro written after done
      rcases withJob_ok done with ⟨job, found, body⟩
      rw [bind_get] at body
      cases held : Tables.lookup (·.jobId) target database.fleet.leases with
      | none =>
          rw [held] at body
          cases body
      | some lease =>
          rw [held] at body
          exact executeClaimedJob_imported imported (opens found) body
  | run target registry clock =>
      apply stays
      intro written after done
      rcases withJob_ok done with ⟨job, found, ran⟩
      exact (runImportJob_imported imported (opens found) ran).1
  | cancel target now =>
      apply stays
      intro written after done
      rcases withJob_ok done with ⟨job, found, cancels⟩
      rcases requestCancellation_ok cancels with ⟨-, -, same⟩
      have wanted := opens found
      subst same
      exact imported.write rfl rfl wanted rfl rfl
  | restart target =>
      apply stays
      intro written after done
      rcases withJob_ok done with ⟨job, found, restarts⟩
      rcases restartImportJob_ok restarts with ⟨-, -, same⟩
      have wanted := opens found
      subst same
      exact imported.write rfl rfl wanted rfl rfl
  | restartAndRun target registry clock =>
      apply stays
      intro written after done
      exact restartJob_imported imported done
  | recover now =>
      apply stays
      intro value after done
      have kept := recoverAbandonedJobs_imported now database imported
      rw [done] at kept
      exact kept
  | pass pass =>
      change Imported calendar
        (transact Session.begins (·.database) (workerPass library pass) database)
      cases ended : workerPass library pass (Session.begins database) with
      | ok value session =>
          rw [transact_ok ended]
          exact workerPass_imported imported covered ended
      | error raised session =>
          rw [transact_error ended]
          exact imported

end Operations

/-! ## What is left to find -/

section Left

variable {library : Library} {texts : Texts} {scope : Scope} {current : Instant}
  {calendar : List TradingSession} {database : Database} {issue : Issue} {bar other : PriceBar}

/-- The errors that the import leaves to a reconciliation: what its validation does not look at,
the conflicts it has recorded, and bars of two providers. -/
def LeftToFind (scope : Scope) (database : Database) (issue : Issue) : Prop :=
  issue.type = "symbol_mismatch" ∨ issue.type = "adjustment_inconsistency" ∨
    issue.type = "checksum_change" ∨
    (issue.type = "duplicate_canonical_record" ∧ scope.providerId = none ∧
      exists bar other, bar ∈ database.rows.bars ∧ other ∈ database.rows.bars ∧
        canonicalKey other = canonicalKey bar ∧ other.provider ≠ bar.provider)

theorem mem_of_stored (stored : bar ∈ storedBars library scope database) :
    bar ∈ database.rows.bars :=
  (List.mem_filter.mp stored).1

/-- The bars of one provider have one source, so they differ in the rest of their identity. -/
theorem Imported.apart (imported : Imported calendar database)
    (stored : bar ∈ database.rows.bars) (second : other ∈ database.rows.bars)
    (apart : other ≠ bar) (same : canonicalKey other = canonicalKey bar) :
    other.provider ≠ bar.provider := by
  intro provider
  rcases (imported.sound bar stored).source with ⟨code, own, source⟩
  rcases (imported.sound other second).source with ⟨otherCode, otherOwn, otherSource⟩
  have codes : otherCode = code :=
    Option.some.inj (otherOwn.symm.trans (provider.trans own))
  have sources : other.dataSource = bar.dataSource := by rw [otherSource, source, codes]
  simp only [canonicalKey, Prod.mk.injEq] at same
  have identities : other.identity = bar.identity := by
    unfold PriceBar.identity
    rw [same.1, same.2.1, same.2.2, sources]
  exact apart (List.inj_on_of_nodup_map imported.bars second stored identities)

/-- A reconciliation of one provider sees the bars of one code. -/
theorem provider_of_scope {id : Identifier} (asked : scope.providerId = some id)
    (stored : bar ∈ storedBars library scope database)
    (second : other ∈ storedBars library scope database) : other.provider = bar.provider := by
  have one : forall {row : PriceBar}, row ∈ storedBars library scope database ->
      exists known, Tables.lookup (·.id) id database.providers = some known ∧
        row.provider = some known.code := by
    intro row member
    have selected := (List.mem_filter.mp member).2
    rw [Bool.and_eq_true, Bool.and_eq_true] at selected
    have chosen := selected.1.2
    unfold Scope.ofProvider at chosen
    rw [asked] at chosen
    rcases (Option.any_eq_true _ _).mp chosen with ⟨known, found, same⟩
    exact ⟨known, found, of_decide_eq_true same⟩
  rcases one stored with ⟨known, found, own⟩
  rcases one second with ⟨other', found', own'⟩
  rw [found] at found'
  cases found'
  exact own'.trans own.symm

theorem Imported.leftToFind (imported : Imported calendar database)
    (finding : Finding library texts scope current database issue)
    (error : issue.severity = "error") : LeftToFind scope database issue := by
  cases finding with
  | duplicateProvider stored second apart same =>
      simp only [providerKey, Prod.mk.injEq] at same
      refine absurd same.1 (imported.apart (mem_of_stored stored) (mem_of_stored second) apart ?_)
      simp only [canonicalKey, Prod.mk.injEq]
      exact same.2
  | @duplicateCanonical bar other stored second apart same =>
      have providers :=
        imported.apart (mem_of_stored stored) (mem_of_stored second) apart same
      refine Or.inr (Or.inr (Or.inr ⟨rfl, ?_, bar, other, mem_of_stored stored,
        mem_of_stored second, same, providers⟩))
      cases asked : scope.providerId with
      | none => rfl
      | some id => exact absurd (provider_of_scope asked stored second) providers
  | closedSession stored closed =>
      rcases (imported.sound _ (mem_of_stored stored)).session with ⟨session, listed, same⟩
      rw [← imported.sameCalendar] at listed
      exact absurd same (closed session listed)
  | invalidOhlc stored broken =>
      have sound := imported.sound _ (mem_of_stored stored)
      rcases broken with low | high
      · exact absurd low (not_lt.mpr sound.high)
      · exact absurd high (not_lt.mpr sound.low)
  | negativeVolume stored negative =>
      exact absurd negative (not_lt.mpr (imported.sound _ (mem_of_stored stored)).volume)
  | symbolMismatch => exact Or.inl rfl
  | adjustment => exact Or.inr (Or.inl rfl)
  | conflict => exact Or.inr (Or.inr (Or.inl rfl))
  | zeroVolume | dateGap | stale | missingSession =>
      have warning : "warning" ≠ "error" := by decide
      exact absurd error warning

/-- Whatever the operations on the queue, the errors of a reconciliation at any time are those
the import leaves to it. -/
theorem imports_reconcile (library : Library) (texts : Texts) (scope : Scope) (current : Instant)
    {initial : Database} (imported : Imported initial.calendar initial)
    {operations : List QueueOperation}
    (covered : forall operation, operation ∈ operations -> Covered initial.calendar operation) :
    forall visited, visited ∈ Runs.states (operate library) initial operations ->
      forall issue, issue ∈ (previewReconciliation library texts scope current visited).issues ->
        issue.severity = "error" -> LeftToFind scope visited issue := by
  intro visited member issue listed error
  have along : Runs.Along (operate library) (fun _ _ => True) initial operations := .true _ _
  have kept := (along.and_labels covered).preserves
    (fun state label guarded holds => operate_imported guarded.2 holds) imported visited member
  have distinct : visited.rows.bars.Nodup := kept.bars.of_map _
  exact kept.leftToFind ((preview_exact library texts scope current visited distinct issue).mp listed)
    error

end Left

/-! ## Two closing bars -/

/-- The job of both days is run twice. -/
def closingRuns : List QueueOperation :=
  [.run 1 (fun _ => some fun _ => closingAdapter) fun _ => 0,
    .restartAndRun 1 (fun _ => some fun _ => closingAdapter) fun _ => 0]

def closingQueue : Database := closingRuns.foldl (operate plainLibrary) (queueFrom 0)

/-- Both bars are stored, and nothing but the age of the later one is reported. -/
example : closingQueue.rows.bars.length = 2 ∧
    (previewReconciliation plainLibrary plainTexts ⟨none, none, 7⟩ (10 * day)
      closingQueue).issues.map Issue.type = ["stale_latest_bar"] := by
  decide +kernel

theorem imports_reconcile_closing :
    closingQueue.rows.bars.length = 2 ∧
      forall issue, issue ∈ (previewReconciliation plainLibrary plainTexts ⟨none, none, 7⟩
          (10 * day) closingQueue).issues ->
        issue.severity = "error" -> LeftToFind ⟨none, none, 7⟩ closingQueue issue := by
  have opens : OpensFor (queueFrom 0).calendar (requestFrom 0) :=
    ⟨⟨0, 52200000000, true⟩, List.mem_cons_self, rfl, by decide +kernel, by decide +kernel⟩
  have imported : Imported (queueFrom 0).calendar (queueFrom 0) :=
    { sameCalendar := rfl
      bars := List.nodup_nil
      sound := fun _ none_ => absurd none_ List.not_mem_nil
      requests := fun job listed => List.mem_singleton.mp listed ▸ opens }
  have covered : forall operation, operation ∈ closingRuns ->
      Covered (queueFrom 0).calendar operation := by
    intro operation member
    rcases List.mem_cons.mp member with first | rest
    · exact first ▸ trivial
    · exact List.mem_singleton.mp rest ▸ trivial
  refine ⟨by decide +kernel, ?_⟩
  exact imports_reconcile plainLibrary plainTexts ⟨none, none, 7⟩ (10 * day) imported covered
    closingQueue (Runs.foldl_mem_states _ _)

end Reconciliation
end MarketData
end MarketIntelligence
