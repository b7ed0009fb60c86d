import MarketIntelligence.Foundations.Loops
import MarketIntelligence.MarketData.Operations

namespace MarketIntelligence
namespace MarketData

open Foundations
open Loops

/-!
# The session check of an import

A request covers the days from that of its start to that of its end, both included, and the
adapters answer with bars of those days.  The dates that the check knows are those of the
sessions that open between the two instants, so an open session on the first or on the last
day can be missing from them.  Where no session at all opens between the instants the check
is left out.
-/

/-! ## The issues of a report -/

section Issues

variable {library : Library} {records : List HistoricalBarRecord} {dates : Option (List Int)}
  {staleAfter : Int} {now : Instant} {issue : ValidationIssue} {record : HistoricalBarRecord}

/-- The keys that are seen before a record. -/
def seenKeys (library : Library) (before : List HistoricalBarRecord) :
    List (String × String × Instant) :=
  (before.map (duplicateKey library)).reverse

theorem mem_checked (done : List HistoricalBarRecord) (report : ValidationReport) :
    issue ∈ (records.foldl (checkRecord library dates staleAfter now)
        (report, seenKeys library done)).1.issues <->
      issue ∈ report.issues ∨ exists before record after, records = before ++ record :: after ∧
        issue ∈ issuesOf library dates staleAfter now (seenKeys library (done ++ before))
          record := by
  induction records generalizing done report with
  | nil => simp
  | cons head tail ih =>
      have grown : duplicateKey library head :: seenKeys library done =
          seenKeys library (done ++ [head]) := by
        unfold seenKeys
        rw [List.map_append, List.reverse_append]
        rfl
      have step : checkRecord library dates staleAfter now (report, seenKeys library done) head =
          (⟨report.recordsChecked + 1,
            report.validRecords +
              (if issuesOf library dates staleAfter now (seenKeys library done) head = [] then 1
              else 0),
            report.issues ++ issuesOf library dates staleAfter now (seenKeys library done) head⟩,
            seenKeys library (done ++ [head])) := by
        rw [← grown]
        rfl
      rw [List.foldl_cons, step, ih (done ++ [head]), List.mem_append]
      constructor
      · rintro ((known | here) | ⟨before, record, after, split, found⟩)
        · exact .inl known
        · refine .inr ⟨[], head, tail, rfl, ?_⟩
          rwa [List.append_nil]
        · refine .inr ⟨head :: before, record, after, by rw [split, List.cons_append], ?_⟩
          rwa [List.append_assoc] at found
      · rintro (known | ⟨before, record, after, split, found⟩)
        · exact .inl (.inl known)
        · cases before with
          | nil =>
              cases split
              rw [List.append_nil] at found
              exact .inl (.inr found)
          | cons first others =>
              cases split
              refine .inr ⟨others, record, after, rfl, ?_⟩
              rwa [List.append_assoc]

/-- The issues of a report are those of its records, each after the ones before it. -/
theorem mem_issues :
    issue ∈ (validateHistoricalBars library records dates staleAfter now).issues <->
      exists before record after, records = before ++ record :: after ∧
        issue ∈ issuesOf library dates staleAfter now (seenKeys library before) record := by
  refine (mem_checked [] ⟨0, 0, []⟩).trans ⟨fun found => ?_, .inr⟩
  exact found.elim (fun none => absurd none List.not_mem_nil) id

theorem issueWhen_code {broken : Bool} {code message severity : String}
    (found : issue ∈ issueWhen library broken code message severity record) :
    issue.code = code ∧ broken = true := by
  unfold issueWhen at found
  split at found
  · rename_i holds
    rw [List.mem_singleton.mp found]
    exact ⟨rfl, holds⟩
  · cases found

/-- An issue of the session check means that the date is not among the known ones. -/
theorem missing_iff {seen : List (String × String × Instant)} :
    (exists issue, issue ∈ issuesOf library dates staleAfter now seen record ∧
        issue.code = "missing_session") <->
      exists known, dates = some known ∧ dateOf record.eventTime ∉ known := by
  constructor
  · rintro ⟨issue, found, code⟩
    unfold issuesOf at found
    simp only [List.mem_append] at found
    have broken : (dates.any fun known => dateOf record.eventTime ∉ known) = true := by
      rcases found with (((((symbol | prices) | positive) | volume) | duplicate) | missing) | stale
      · exact absurd ((issueWhen_code symbol).1.symm.trans code) (by decide)
      · exact absurd ((issueWhen_code prices).1.symm.trans code) (by decide)
      · exact absurd ((issueWhen_code positive).1.symm.trans code) (by decide)
      · exact absurd ((issueWhen_code volume).1.symm.trans code) (by decide)
      · exact absurd ((issueWhen_code duplicate).1.symm.trans code) (by decide)
      · exact (issueWhen_code missing).2
      · exact absurd ((issueWhen_code stale).1.symm.trans code) (by decide)
    rcases (Option.any_eq_true _ _).mp broken with ⟨known, same, absent⟩
    exact ⟨known, same, of_decide_eq_true absent⟩
  · rintro ⟨known, same, absent⟩
    refine ⟨⟨"missing_session", "Bar falls on a closed exchange session.", "error",
      recordIdentifier library record⟩, ?_, rfl⟩
    unfold issuesOf
    simp only [List.mem_append]
    refine .inl (.inr ?_)
    unfold issueWhen
    rw [if_pos]
    · exact List.mem_singleton.mpr rfl
    · exact (Option.any_eq_true _ _).mpr ⟨known, same, decide_eq_true absent⟩

end Issues

/-! ## The check within a run -/

section Runs

variable {library : Library} {surroundings : Surroundings} {job : ImportJob}
  {database : Database} {context : Context} {sequence : Nat} {symbol : String} {start : Instant}
  {answer : Answer} {record : HistoricalBarRecord}

def checkedDates (context : Context) : Option (List Int) :=
  if context.validSessions = [] then none else some context.validSessions

/-- The report has an issue of the session check about the record, where these other records come
before it in the answer. -/
def FlagsMissing (context : Context) (answer : Answer) (before : List HistoricalBarRecord)
    (record : HistoricalBarRecord) : Prop :=
  exists issue, issue ∈ answer.report.issues ∧
    issue ∈ issuesOf context.library (checkedDates context) (7 * day)
      (context.request.finish + 7 * day) (seenKeys context.library before) record ∧
    issue.code = "missing_session"

/-- The date of the bar is in the range of the request, and it is an open session. -/
structure OnOpenSession (request : ImportRequest) (calendar : List TradingSession)
    (record : HistoricalBarRecord) : Prop where
  notBefore : dateOf request.start ≤ dateOf record.eventTime
  notAfter : dateOf record.eventTime ≤ dateOf request.finish
  session : exists session, session ∈ calendar ∧ session.isOpen = true ∧
    session.sessionDate = dateOf record.eventTime

/-- The session is an open one, and it opens between the two instants of the request.  The
session check knows the dates of such sessions, and no others. -/
def OpensWithin (request : ImportRequest) (session : TradingSession) : Prop :=
  session.isOpen = true ∧ request.start ≤ session.openTime ∧ session.openTime ≤ request.finish

theorem mem_validSessionDates {start finish : Instant} {calendar : List TradingSession}
    {date : Int} : date ∈ validSessionDates start finish calendar <->
      exists session, session ∈ calendar ∧ session.sessionDate = date ∧
        start ≤ session.openTime ∧ session.openTime ≤ finish ∧ session.isOpen = true := by
  unfold validSessionDates
  rw [List.mem_map]
  constructor
  · rintro ⟨session, listed, same⟩
    rcases List.mem_filter.mp listed with ⟨member, holds⟩
    exact ⟨session, member, same, of_decide_eq_true holds⟩
  · rintro ⟨session, member, same, holds⟩
    exact ⟨session, List.mem_filter.mpr ⟨member, decide_eq_true holds⟩, same⟩

theorem openRun_sessions (opened : openRun library surroundings job database = .ok context) :
    context.request = job.request ∧
      context.validSessions =
        validSessionDates job.request.start job.request.finish database.calendar := by
  unfold openRun at opened
  split at opened
  · cases opened
  · split at opened
    · cases opened
    · split at opened
      · cases opened
      · split at opened
        · cases opened
        · cases opened
          exact ⟨rfl, rfl⟩

/-- The report of an answer flags a record when its date is not among the known ones. -/
theorem flagsMissing_answered {before after : List HistoricalBarRecord}
    (answered : validatedRecords context sequence symbol start = .ok answer)
    (split : answer.records = before ++ record :: after) :
    FlagsMissing context answer before record <->
      exists known, checkedDates context = some known ∧ dateOf record.eventTime ∉ known := by
  rcases except_bind_ok answered with ⟨records, _, rest⟩
  cases rest
  rw [← missing_iff]
  constructor
  · rintro ⟨issue, -, own, code⟩
    exact ⟨issue, own, code⟩
  · rintro ⟨issue, own, code⟩
    exact ⟨issue, mem_issues.mpr ⟨before, record, after, split, own⟩, own, code⟩

/-- A record is not flagged when its date opens between the instants, or when no date does. -/
theorem flagsMissing_iff {before after : List HistoricalBarRecord}
    (opened : openRun library surroundings job database = .ok context)
    (answered : validatedRecords context sequence symbol start = .ok answer)
    (split : answer.records = before ++ record :: after) :
    ¬ FlagsMissing context answer before record <->
      (exists session, session ∈ database.calendar ∧ OpensWithin job.request session ∧
        session.sessionDate = dateOf record.eventTime) ∨
      forall session, session ∈ database.calendar -> ¬ OpensWithin job.request session := by
  rw [flagsMissing_answered answered split]
  unfold checkedDates
  rw [(openRun_sessions opened).2]
  by_cases none : validSessionDates job.request.start job.request.finish database.calendar = []
  · rw [if_pos none]
    refine iff_of_true (fun found => ?_) (.inr fun session member opens => ?_)
    · rcases found with ⟨known, same, -⟩
      cases same
    · have listed : session.sessionDate ∈
          validSessionDates job.request.start job.request.finish database.calendar :=
        mem_validSessionDates.mpr ⟨session, member, rfl, opens.2.1, opens.2.2, opens.1⟩
      rw [none] at listed
      cases listed
  · rw [if_neg none]
    constructor
    · intro unflagged
      by_contra neither
      rcases not_or.mp neither with ⟨absent, -⟩
      refine unflagged ⟨_, rfl, fun listed => ?_⟩
      rcases mem_validSessionDates.mp listed with ⟨session, member, same, low, high, isOpen⟩
      exact absent ⟨session, member, ⟨isOpen, low, high⟩, same⟩
    · rintro (⟨session, member, opens, same⟩ | closed) ⟨known, own, absent⟩
      · cases own
        exact absent (mem_validSessionDates.mpr
          ⟨session, member, same, opens.2.1, opens.2.2, opens.1⟩)
      · rcases List.exists_mem_of_ne_nil _ none with ⟨date, listed⟩
        rcases mem_validSessionDates.mp listed with ⟨session, member, -, low, high, isOpen⟩
        exact closed session member ⟨isOpen, low, high⟩

/-- No bar of an open session in the range is flagged exactly when each such session opens
between the two instants, or no session does. -/
theorem sessionCheck_iff (library : Library) (surroundings : Surroundings) (job : ImportJob)
    (database : Database) (context : Context) (sequence : Nat) (symbol : String)
    (start : Instant) (answer : Answer)
    (opened : openRun library surroundings job database = .ok context)
    (answered : validatedRecords context sequence symbol start = .ok answer) :
    (forall before record after, answer.records = before ++ record :: after ->
      OnOpenSession job.request database.calendar record ->
        ¬ FlagsMissing context answer before record) <->
    forall record, record ∈ answer.records ->
      OnOpenSession job.request database.calendar record ->
        (exists session, session ∈ database.calendar ∧ OpensWithin job.request session ∧
          session.sessionDate = dateOf record.eventTime) ∨
        forall session, session ∈ database.calendar -> ¬ OpensWithin job.request session := by
  constructor
  · intro unflagged record member accepted
    rcases List.append_of_mem member with ⟨before, after, split⟩
    exact (flagsMissing_iff opened answered split).mp
      (unflagged before record after split accepted)
  · intro opens before record after split accepted
    refine (flagsMissing_iff opened answered split).mpr (opens record ?_ accepted)
    rw [split]
    exact List.mem_append_right _ List.mem_cons_self

end Runs

/-! ## A request that starts after the open -/

/-- The bar of a day, at 21:00. -/
def closingBar (date : Int) : HistoricalBarRecord where
  symbol := "ATOM"
  interval := "1d"
  eventTime := date * day + 75600000000
  publicationTime := 2 * day
  effectiveTime := date * day + 75600000000
  retrievalTime := 2 * day
  openPrice := 10
  high := 12
  low := 9
  closePrice := 11
  adjustedClose := 11
  volume := 100
  adjustmentStatus := "unadjusted"
  version := 1
  checksum := "b" ++ toString date
  rawMetadata := none

/-- An adapter that answers with the bars of both days. -/
def closingAdapter : Adapter where
  fetchAssetMetadata := fun symbol =>
    .ok ⟨symbol, "Atom Corp", "equity", "XNYS", "USD", none, none, 0, 0, [], 1, "m0"⟩
  fetchHistoricalBars := fun _ _ _ _ => .ok [closingBar 0, closingBar 1]
  fetchCorporateActions := fun _ _ _ => .ok []

def closingSurroundings : Surroundings where
  registry := fun _ => some fun _ => closingAdapter
  clock := fun _ => 0
  heartbeat := none

/-- From an instant of the first day to 20:00 of the second. -/
def requestFrom (start : Instant) : ImportRequest :=
  { dailyRequest with start := start, finish := day + 72000000000 }

/-- Both days are open from 14:30. -/
def queueFrom (start : Instant) : Database :=
  { dailyQueue with
    calendar := [⟨0, 52200000000, true⟩, ⟨1, day + 52200000000, true⟩]
    jobs := [queuedJob (requestFrom start)] }

def contextFrom (start : Instant) : Context where
  library := plainLibrary
  adapter := fun _ => closingAdapter
  clock := fun _ => 0
  heartbeat := none
  request := requestFrom start
  provider := "demo"
  source := sourceName "demo"
  validSessions := validSessionDates start (day + 72000000000) (queueFrom start).calendar
  startIndex := 0

theorem openRun_from (start : Instant) :
    openRun plainLibrary closingSurroundings (queuedJob (requestFrom start)) (queueFrom start) =
      .ok (contextFrom start) := rfl

/-- From midnight on both sessions open within the request. -/
theorem midnight_unflagged :
    exists answer, validatedRecords (contextFrom 0) 0 "ATOM" 0 = .ok answer ∧
      forall before record after, answer.records = before ++ record :: after ->
        OnOpenSession (requestFrom 0) (queueFrom 0).calendar record ->
          ¬ FlagsMissing (contextFrom 0) answer before record := by
  refine ⟨_, rfl, (sessionCheck_iff plainLibrary closingSurroundings (queuedJob (requestFrom 0))
    (queueFrom 0) (contextFrom 0) 0 "ATOM" 0 _ (openRun_from 0) rfl).mpr ?_⟩
  intro record member _
  refine .inl ?_
  rcases List.mem_cons.mp member with same | later
  · exact ⟨⟨0, 52200000000, true⟩, List.mem_cons_self, by unfold OpensWithin; decide,
      by rw [same]; decide⟩
  · rw [List.mem_singleton.mp later]
    exact ⟨⟨1, day + 52200000000, true⟩, List.mem_cons_of_mem _ List.mem_cons_self,
      by unfold OpensWithin; decide, by decide⟩

/-- From 15:00 on the bar of the first day fails the job. -/
theorem afternoon_flagged :
    OnOpenSession (requestFrom 54000000000) (queueFrom 54000000000).calendar (closingBar 0) ∧
    (exists answer, validatedRecords (contextFrom 54000000000) 0 "ATOM" 54000000000 = .ok answer ∧
      answer.records = [closingBar 0, closingBar 1] ∧
      FlagsMissing (contextFrom 54000000000) answer [] (closingBar 0)) ∧
    (forall job database, runImportJob plainLibrary closingSurroundings
        (queuedJob (requestFrom 54000000000)) (queueFrom 54000000000) = .ok job database ->
      job.status = .failed ∧ job.errorSummary = some "validation failed for ATOM") := by
  refine ⟨⟨by decide, by decide, ⟨0, 52200000000, true⟩, List.mem_cons_self, rfl, by decide⟩,
    ⟨_, rfl, rfl, ?_⟩, ?_⟩
  · have answered : validatedRecords (contextFrom 54000000000) 0 "ATOM" 54000000000 = .ok _ := rfl
    exact (flagsMissing_answered answered rfl).mpr ⟨[1], by decide, by decide⟩
  · intro job database returned
    have outcome : ((runImportJob plainLibrary closingSurroundings
        (queuedJob (requestFrom 54000000000)) (queueFrom 54000000000)) |>
          fun result => match result with
            | .ok job _ => (job.status, job.errorSummary)
            | .error _ _ => (.queued, none)) =
        (.failed, some "validation failed for ATOM") := by
      decide +kernel
    rw [returned] at outcome
    exact Prod.mk.inj outcome

end MarketData
end MarketIntelligence
