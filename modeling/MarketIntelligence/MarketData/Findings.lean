import MarketIntelligence.MarketData.Reconciliation

namespace MarketIntelligence
namespace MarketData
namespace Reconciliation

open Foundations
open SortedLists
open RunningNotes

/-!
# What a reconciliation finds

A finding says what is wrong with the stored bars of a scope, in the terms of the tables: two bars of
one key, a bar without a session, a first bar more than seven days after every earlier one of its
symbol.  The report of the pass lists exactly the findings.
-/

section Findings

variable (library : Library) (texts : Texts) (scope : Scope) (current : Instant)
  (database : Database)

def moment (bar : PriceBar) : String × Instant := (bar.asset, bar.eventTime)

inductive Finding : Issue -> Prop
  | duplicateProvider {bar other : PriceBar}
      (stored : bar ∈ storedBars library scope database)
      (second : other ∈ storedBars library scope database)
      (apart : other ≠ bar) (same : providerKey other = providerKey bar) :
      Finding (issueOf "duplicate_provider_record" "error" (identifier library bar))
  | duplicateCanonical {bar other : PriceBar}
      (stored : bar ∈ storedBars library scope database)
      (second : other ∈ storedBars library scope database)
      (apart : other ≠ bar) (same : canonicalKey other = canonicalKey bar) :
      Finding (issueOf "duplicate_canonical_record" "error" (identifier library bar))
  | closedSession {bar : PriceBar} (stored : bar ∈ storedBars library scope database)
      (closed : forall session, session ∈ database.calendar ->
        session.sessionDate ≠ dateOf bar.eventTime) :
      Finding (issueOf "closed_session_bar" "error" (identifier library bar))
  | invalidOhlc {bar : PriceBar} (stored : bar ∈ storedBars library scope database)
      (broken : bar.high < max bar.openPrice bar.closePrice ∨
        min bar.openPrice bar.closePrice < bar.low) :
      Finding (issueOf "invalid_ohlc" "error" (identifier library bar))
  | negativeVolume {bar : PriceBar} (stored : bar ∈ storedBars library scope database)
      (negative : bar.volume < 0) :
      Finding (issueOf "negative_volume" "error" (identifier library bar))
  | zeroVolume {bar : PriceBar} (stored : bar ∈ storedBars library scope database)
      (zero : bar.volume = 0) :
      Finding (issueOf "zero_volume_anomaly" "warning" (identifier library bar))
  | symbolMismatch {bar : PriceBar} (stored : bar ∈ storedBars library scope database)
      (different : bar.originalSymbol = "" ∨
        library.upper bar.originalSymbol ≠ library.upper bar.asset) :
      Finding (issueOf "symbol_mismatch" "error" (identifier library bar))
  | adjustment {bar : PriceBar} (stored : bar ∈ storedBars library scope database)
      (unadjusted : bar.adjustmentStatus = "unadjusted")
      (different : bar.adjustedClose ≠ bar.closePrice) :
      Finding (issueOf "adjustment_inconsistency" "error" (identifier library bar))
  /-- The first bar of its time, with earlier bars that are all more than seven days older. -/
  | dateGap {bar earlier : PriceBar}
      (first : (storedBars library scope database).find?
        (fun other => moment other = moment bar) = some bar)
      (stored : earlier ∈ storedBars library scope database)
      (same : earlier.asset = bar.asset) (sooner : earlier.eventTime < bar.eventTime)
      (quiet : forall other, other ∈ storedBars library scope database ->
        other.asset = bar.asset -> other.eventTime < bar.eventTime ->
          7 * day < bar.eventTime - other.eventTime) :
      Finding (issueOf "unexpected_date_gap" "warning" (identifier library bar))
  | stale {bar : PriceBar} (stored : bar ∈ storedBars library scope database)
      (newest : forall other, other ∈ storedBars library scope database ->
        other.asset = bar.asset -> other.eventTime ≤ bar.eventTime)
      (old : scope.staleAfterDays * day < current - bar.eventTime) :
      Finding (issueOf "stale_latest_bar" "warning" bar.asset)
  /-- A session between two bars of the symbol, on whose day it has none. -/
  | missingSession {before after : PriceBar} {session : TradingSession}
      (stored : before ∈ storedBars library scope database)
      (second : after ∈ storedBars library scope database)
      (same : after.asset = before.asset) (listed : session ∈ database.calendar)
      (start : dateOf before.eventTime ≤ session.sessionDate)
      (finish : session.sessionDate ≤ dateOf after.eventTime)
      (missing : forall other, other ∈ storedBars library scope database ->
        other.asset = before.asset -> dateOf other.eventTime ≠ session.sessionDate) :
      Finding (issueOf "missing_expected_session" "warning"
        (before.asset ++ ":" ++ texts.isodate session.sessionDate))
  | conflict {error : ImportError} {job : ImportJob} (listed : error ∈ database.errors)
      (code : error.errorCode = "conflicting_reimport")
      (found : Tables.lookup ImportJob.id error.jobId database.jobs = some job)
      (own : forall id, scope.providerId = some id -> job.request.providerId = id) :
      Finding (conflictIssue texts error)

end Findings

/-! ## The pass over the bars -/

section Pass

variable {library : Library} {validSessions : List Int} {rows : List PriceBar} {issue : Issue}

theorem mem_flag {broken : Bool} {type severity record : String} :
    issue ∈ flag broken type severity record <->
      broken = true ∧ issue = issueOf type severity record := by
  unfold flag
  by_cases holds : broken = true
  · rw [if_pos holds, List.mem_singleton]
    exact (and_iff_right holds).symm
  · rw [if_neg holds]
    exact iff_of_false List.not_mem_nil fun found => holds found.1

/-- The issues of the pass stand at the places of their bars. -/
theorem mem_checkBars (list : List PriceBar) (progress : Progress) :
    issue ∈ (list.foldl (checkBar library validSessions rows) progress).issues <->
      issue ∈ progress.issues ∨ exists before bar after, list = before ++ bar :: after ∧
        (issue ∈ barIssues library validSessions rows bar ∨
          issue ∈ gapIssues library
            (noted (before.foldl (note PriceBar.asset (lastValue PriceBar.eventTime))
              progress.previous) bar.asset) bar) := by
  induction list generalizing progress with
  | nil => simp
  | cons head tail ih =>
      rw [List.foldl_cons, ih]
      simp only [checkBar, List.mem_append]
      constructor
      · rintro (((known | own) | gap) | ⟨before, bar, after, split, found⟩)
        · exact Or.inl known
        · exact Or.inr ⟨[], head, tail, rfl, Or.inl own⟩
        · exact Or.inr ⟨[], head, tail, rfl, Or.inr gap⟩
        · exact Or.inr ⟨head :: before, bar, after, congrArg (head :: ·) split, found⟩
      · rintro (known | ⟨before, bar, after, split, found⟩)
        · exact Or.inl (Or.inl (Or.inl known))
        · cases before with
          | nil =>
              cases split
              rcases found with own | gap
              · exact Or.inl (Or.inl (Or.inr own))
              · exact Or.inl (Or.inr gap)
          | cons first front =>
              cases split
              exact Or.inr ⟨front, bar, after, rfl, found⟩

theorem latest_checkBars (list : List PriceBar) (progress : Progress) :
    (list.foldl (checkBar library validSessions rows) progress).latest =
      list.foldl (note PriceBar.asset (largestValue PriceBar.eventTime)) progress.latest := by
  induction list generalizing progress with
  | nil => rfl
  | cons head tail ih => exact ih _

/-- Another row of the key, where no row is listed twice. -/
theorem repeated_iff {κ : Type} [DecidableEq κ] {key : PriceBar -> κ} {bar : PriceBar}
    (distinct : rows.Nodup) (member : bar ∈ rows) :
    1 < rows.countP (fun other => key other = key bar) <->
      exists other, other ∈ rows ∧ other ≠ bar ∧ key other = key bar := by
  have own : decide (key bar = key bar) = true := decide_eq_true rfl
  rw [(List.perm_cons_erase member).countP_eq, List.countP_cons_of_pos (by exact own),
    Nat.lt_add_left_iff_pos, List.countP_pos_iff]
  constructor
  · rintro ⟨other, inside, same⟩
    rcases (List.Nodup.mem_erase_iff distinct).mp inside with ⟨apart, listed⟩
    exact ⟨other, listed, apart, of_decide_eq_true same⟩
  · rintro ⟨other, listed, apart, same⟩
    exact ⟨other, (List.Nodup.mem_erase_iff distinct).mpr ⟨apart, listed⟩, decide_eq_true same⟩

end Pass

/-! ## The bars in their order -/

section Ordered

variable {library : Library} {texts : Texts} {scope : Scope} {current : Instant}
  {database : Database} {bar other : PriceBar} {issue : Issue}

theorem mem_orderedBars : bar ∈ orderedBars library scope database <->
    bar ∈ storedBars library scope database :=
  mem_sortedBy

theorem orderedBars_nodup (distinct : database.rows.bars.Nodup) :
    (orderedBars library scope database).Nodup :=
  nodup_sortedBy.mpr (distinct.filter _)

theorem time_le (same : other.asset = bar.asset)
    (order : toLex (other.asset, other.eventTime) ≤ toLex (bar.asset, bar.eventTime)) :
    other.eventTime ≤ bar.eventTime := by
  rcases Prod.Lex.toLex_le_toLex.mp order with less | ⟨_, le⟩
  · exact absurd same (ne_of_lt less)
  · exact le

section Split

variable {before after : List PriceBar}

theorem before_le (split : orderedBars library scope database = before ++ bar :: after)
    (member : other ∈ before) (same : other.asset = bar.asset) :
    other.eventTime ≤ bar.eventTime := by
  have sorted := List.pairwise_insertionSort
    (KeyOrder fun bar : PriceBar => toLex (bar.asset, bar.eventTime))
    (storedBars library scope database)
  rw [show List.insertionSort _ _ = _ from split] at sorted
  exact time_le same ((List.pairwise_append.mp sorted).2.2 other member bar List.mem_cons_self)

theorem before_of_lt (split : orderedBars library scope database = before ++ bar :: after)
    (stored : other ∈ storedBars library scope database) (same : other.asset = bar.asset)
    (sooner : other.eventTime < bar.eventTime) : other ∈ before := by
  have sorted := List.pairwise_insertionSort
    (KeyOrder fun bar : PriceBar => toLex (bar.asset, bar.eventTime))
    (storedBars library scope database)
  rw [show List.insertionSort _ _ = _ from split] at sorted
  have listed := mem_orderedBars.mpr stored
  rw [split] at listed
  rcases List.mem_append.mp listed with front | back
  · exact front
  · rcases List.mem_cons.mp back with here | later
    · exact absurd sooner (here ▸ lt_irrefl _)
    · have order := (List.pairwise_cons.mp (List.pairwise_append.mp sorted).2.1).1 other later
      exact absurd sooner (not_lt.mpr (time_le same.symm order))

/-- The note of the last time is the latest time of the symbol among the bars before. -/
theorem noted_previous (split : orderedBars library scope database = before ++ bar :: after)
    {prior : Instant} :
    noted (before.foldl (note PriceBar.asset (lastValue PriceBar.eventTime)) []) bar.asset =
        some prior <->
      exists known, known ∈ before ∧ known.asset = bar.asset ∧ known.eventTime = prior ∧
        forall other, other ∈ before -> other.asset = bar.asset -> other.eventTime ≤ prior := by
  have sorted := List.pairwise_insertionSort
    (KeyOrder fun bar : PriceBar => toLex (bar.asset, bar.eventTime))
    (storedBars library scope database)
  rw [show List.insertionSort _ _ = _ from split] at sorted
  have ordered := ((List.pairwise_append.mp sorted).1).filter fun row => row.asset = bar.asset
  have last : noted (before.foldl (note PriceBar.asset (lastValue PriceBar.eventTime)) [])
      bar.asset = ((before.filter fun row => row.asset = bar.asset).getLast?).map
        PriceBar.eventTime := by
    rw [noted_foldl, foldl_lastValue]
    exact Option.or_none
  have latest : forall known, (before.filter fun row => row.asset = bar.asset).getLast? =
      some known -> known ∈ before ∧ known.asset = bar.asset ∧
        forall other, other ∈ before -> other.asset = bar.asset ->
          other.eventTime ≤ known.eventTime := by
    intro known ends
    rcases List.getLast?_eq_some_iff.mp ends with ⟨front, parts⟩
    rw [parts] at ordered
    have inside : known ∈ before.filter fun row => row.asset = bar.asset :=
      parts ▸ List.mem_append_right front (List.mem_singleton.mpr rfl)
    rcases List.mem_filter.mp inside with ⟨member, asset⟩
    have own : known.asset = bar.asset := of_decide_eq_true asset
    refine ⟨member, own, fun other listed same => ?_⟩
    have selected : other ∈ before.filter fun row => row.asset = bar.asset :=
      List.mem_filter.mpr ⟨listed, decide_eq_true same⟩
    rw [parts] at selected
    rcases List.mem_append.mp selected with earlier | here
    · exact time_le (same.trans own.symm) ((List.pairwise_append.mp ordered).2.2 other earlier
        known (List.mem_singleton.mpr rfl))
    · exact le_of_eq (congrArg PriceBar.eventTime (List.mem_singleton.mp here))
  rw [last]
  constructor
  · intro found
    rcases Option.map_eq_some_iff.mp found with ⟨known, ends, time⟩
    rcases latest known ends with ⟨member, own, all⟩
    exact ⟨known, member, own, time, time ▸ all⟩
  · rintro ⟨known, member, own, time, all⟩
    have inside : known ∈ before.filter fun row => row.asset = bar.asset :=
      List.mem_filter.mpr ⟨member, decide_eq_true own⟩
    cases ends : (before.filter fun row => row.asset = bar.asset).getLast? with
    | none =>
        rw [List.getLast?_eq_none_iff.mp ends] at inside
        exact absurd inside List.not_mem_nil
    | some top =>
        rcases latest top ends with ⟨listed, asset, above⟩
        refine congrArg some (le_antisymm (all top listed asset) ?_)
        rw [← time]
        exact above known member own

end Split

/-- A gap is found at a place of the pass exactly when the stored bars have it. -/
theorem gap_iff : (exists before after, orderedBars library scope database =
        before ++ bar :: after ∧ issue ∈ gapIssues library
          (noted (before.foldl (note PriceBar.asset (lastValue PriceBar.eventTime)) [])
            bar.asset) bar) <->
      issue = issueOf "unexpected_date_gap" "warning" (identifier library bar) ∧
        (storedBars library scope database).find? (fun other => moment other = moment bar) =
          some bar ∧
        (exists earlier, earlier ∈ storedBars library scope database ∧
          earlier.asset = bar.asset ∧ earlier.eventTime < bar.eventTime) ∧
        forall other, other ∈ storedBars library scope database -> other.asset = bar.asset ->
          other.eventTime < bar.eventTime -> 7 * day < bar.eventTime - other.eventTime := by
  have found : (storedBars library scope database).find? (fun other => moment other = moment bar) =
      (orderedBars library scope database).find? fun other => moment other = moment bar :=
    (find?_sortedBy (fun bar : PriceBar => toLex (bar.asset, bar.eventTime)) _ _).symm
  have week : 0 < 7 * day := by decide
  rw [found]
  constructor
  · rintro ⟨before, after, split, inside⟩
    unfold gapIssues at inside
    rcases mem_flag.mp inside with ⟨wide, same⟩
    rcases (Option.any_eq_true _ _).mp wide with ⟨prior, noted_, far⟩
    have distance : 7 * day < bar.eventTime - prior := of_decide_eq_true far
    rcases (noted_previous split).mp noted_ with ⟨known, member, own, time, all⟩
    have stored : forall other, other ∈ before -> other ∈ storedBars library scope database := by
      intro other listed
      exact mem_orderedBars.mp (split ▸ List.mem_append_left _ listed)
    have priorSooner : prior < bar.eventTime := sub_pos.mp (week.trans distance)
    refine ⟨same, ?_, ⟨known, stored known member, own, time ▸ priorSooner⟩, ?_⟩
    · refine List.find?_eq_some_iff_append.mpr ⟨decide_eq_true rfl, before, after, split, ?_⟩
      intro other listed
      rw [Bool.not_eq_true', decide_eq_false_iff_not]
      intro equal
      have bound := all other listed (congrArg Prod.fst equal)
      rw [show other.eventTime = bar.eventTime from congrArg Prod.snd equal] at bound
      exact absurd priorSooner (not_lt.mpr bound)
    · intro other listed asset sooner
      have bound := all other (before_of_lt split listed asset sooner) asset
      exact distance.trans_le (sub_le_sub_left bound bar.eventTime)
  · rintro ⟨same, first, ⟨earlier, listed, asset, sooner⟩, quiet⟩
    rcases List.find?_eq_some_iff_append.mp first with ⟨-, before, after, split, none_⟩
    refine ⟨before, after, split, ?_⟩
    have inside := before_of_lt split listed asset sooner
    have prior : exists prior,
        noted (before.foldl (note PriceBar.asset (lastValue PriceBar.eventTime)) []) bar.asset =
          some prior := by
      rw [noted_foldl, foldl_lastValue]
      cases ends : (before.filter fun row => row.asset = bar.asset).getLast? with
      | none =>
          have selected : earlier ∈ before.filter fun row => row.asset = bar.asset :=
            List.mem_filter.mpr ⟨inside, decide_eq_true asset⟩
          rw [List.getLast?_eq_none_iff.mp ends] at selected
          exact absurd selected List.not_mem_nil
      | some top => exact ⟨top.eventTime, rfl⟩
    rcases prior with ⟨prior, here⟩
    rcases (noted_previous split).mp here with ⟨known, member, own, time, all⟩
    have apart : known.eventTime ≠ bar.eventTime := by
      intro equal
      have failed := none_ known member
      rw [Bool.not_eq_true', decide_eq_false_iff_not] at failed
      exact failed (Prod.ext own equal)
    have earlierKnown : known.eventTime < bar.eventTime :=
      lt_of_le_of_ne (before_le split member own) apart
    have far := quiet known (mem_orderedBars.mp (split ▸ List.mem_append_left _ member)) own
      earlierKnown
    unfold gapIssues
    refine mem_flag.mpr ⟨(Option.any_eq_true _ _).mpr ⟨prior, here, ?_⟩, same⟩
    rw [← time]
    exact decide_eq_true far

/-! ## The parts of the report -/

theorem mem_volumeIssues : issue ∈ volumeIssues library bar <->
    (bar.volume < 0 ∧ issue = issueOf "negative_volume" "error" (identifier library bar)) ∨
      (bar.volume = 0 ∧
        issue = issueOf "zero_volume_anomaly" "warning" (identifier library bar)) := by
  unfold volumeIssues
  by_cases negative : bar.volume < 0
  · rw [if_pos negative, List.mem_singleton]
    simp [negative, negative.ne]
  · rw [if_neg negative]
    by_cases zero : bar.volume = 0
    · rw [if_pos zero, List.mem_singleton]
      simp [zero]
    · rw [if_neg zero]
      simp [negative, zero]

theorem mem_barIssues {validSessions : List Int} {rows : List PriceBar} :
    issue ∈ barIssues library validSessions rows bar <->
      (1 < rows.countP (fun other => providerKey other = providerKey bar) ∧
        issue = issueOf "duplicate_provider_record" "error" (identifier library bar)) ∨
      (1 < rows.countP (fun other => canonicalKey other = canonicalKey bar) ∧
        issue = issueOf "duplicate_canonical_record" "error" (identifier library bar)) ∨
      (dateOf bar.eventTime ∉ validSessions ∧
        issue = issueOf "closed_session_bar" "error" (identifier library bar)) ∨
      ((bar.high < max bar.openPrice bar.closePrice ∨
          min bar.openPrice bar.closePrice < bar.low) ∧
        issue = issueOf "invalid_ohlc" "error" (identifier library bar)) ∨
      (bar.volume < 0 ∧ issue = issueOf "negative_volume" "error" (identifier library bar)) ∨
      (bar.volume = 0 ∧
        issue = issueOf "zero_volume_anomaly" "warning" (identifier library bar)) ∨
      ((bar.originalSymbol = "" ∨ library.upper bar.originalSymbol ≠ library.upper bar.asset) ∧
        issue = issueOf "symbol_mismatch" "error" (identifier library bar)) ∨
      ((bar.adjustmentStatus = "unadjusted" ∧ bar.adjustedClose ≠ bar.closePrice) ∧
        issue = issueOf "adjustment_inconsistency" "error" (identifier library bar)) := by
  unfold barIssues
  simp only [List.mem_append, mem_flag, mem_volumeIssues, decide_eq_true_iff, Bool.or_eq_true,
    Bool.and_eq_true, or_assoc, gt_iff_lt]

theorem finding_of_bar (distinct : database.rows.bars.Nodup)
    (stored : bar ∈ storedBars library scope database)
    (found : issue ∈ barIssues library (sessionDates database)
      (orderedBars library scope database) bar) :
    Finding library texts scope current database issue := by
  have listed := mem_orderedBars.mpr stored
  have once : (orderedBars library scope database).Nodup := orderedBars_nodup distinct
  rcases mem_barIssues.mp found with ⟨twice, rfl⟩ | ⟨twice, rfl⟩ | ⟨closed, rfl⟩ | ⟨broken, rfl⟩ |
    ⟨negative, rfl⟩ | ⟨zero, rfl⟩ | ⟨different, rfl⟩ | ⟨⟨unadjusted, different⟩, rfl⟩
  · rcases (repeated_iff once listed).mp twice with ⟨other, second, apart, same⟩
    exact .duplicateProvider stored (mem_orderedBars.mp second) apart same
  · rcases (repeated_iff once listed).mp twice with ⟨other, second, apart, same⟩
    exact .duplicateCanonical stored (mem_orderedBars.mp second) apart same
  · refine .closedSession stored fun session known same => closed ?_
    exact same ▸ List.mem_map_of_mem known
  · exact .invalidOhlc stored broken
  · exact .negativeVolume stored negative
  · exact .zeroVolume stored zero
  · exact .symbolMismatch stored different
  · exact .adjustment stored unadjusted different

theorem mem_staleIssues {staleAfterDays : Int} {rows : List PriceBar} :
    issue ∈ staleIssues staleAfterDays current
        (rows.foldl (note PriceBar.asset (largestValue PriceBar.eventTime)) []) <->
      exists bar, bar ∈ rows ∧ (forall other, other ∈ rows -> other.asset = bar.asset ->
          other.eventTime ≤ bar.eventTime) ∧
        staleAfterDays * day < current - bar.eventTime ∧
          issue = issueOf "stale_latest_bar" "warning" bar.asset := by
  unfold staleIssues
  rw [List.mem_flatMap]
  constructor
  · rintro ⟨⟨symbol, time⟩, entry, inside⟩
    rcases mem_flag.mp inside with ⟨old, same⟩
    rcases foldl_largestValue.mp ((mem_foldl_iff rows).mp entry) with ⟨⟨bar, selected, here⟩, all⟩
    rcases List.mem_filter.mp selected with ⟨member, asset⟩
    have own : bar.asset = symbol := of_decide_eq_true asset
    subst own
    subst here
    refine ⟨bar, member, fun other listed named => ?_, of_decide_eq_true old, same⟩
    exact all other (List.mem_filter.mpr ⟨listed, decide_eq_true named⟩)
  · rintro ⟨bar, member, newest, old, same⟩
    refine ⟨(bar.asset, bar.eventTime), (mem_foldl_iff rows).mpr ?_,
      mem_flag.mpr ⟨decide_eq_true old, same⟩⟩
    refine foldl_largestValue.mpr ⟨⟨bar, List.mem_filter.mpr ⟨member, decide_eq_true rfl⟩, rfl⟩, ?_⟩
    intro other selected
    rcases List.mem_filter.mp selected with ⟨listed, asset⟩
    exact newest other listed (of_decide_eq_true asset)

theorem mem_missingDates {validSessions observed : List Int} {date : Int} :
    date ∈ missingDates validSessions observed <->
      date ∈ validSessions ∧ date ∉ observed ∧ (exists first, first ∈ observed ∧ first ≤ date) ∧
        exists last, last ∈ observed ∧ date ≤ last := by
  unfold missingDates
  cases least : observed.min? with
  | none =>
      rw [List.min?_eq_none_iff.mp least]
      simp
  | some first =>
      cases greatest : observed.max? with
      | none =>
          rw [List.max?_eq_none_iff.mp greatest] at least
          cases least
      | some last =>
          rcases List.min?_eq_some_iff.mp least with ⟨low, below⟩
          rcases List.max?_eq_some_iff.mp greatest with ⟨high, above⟩
          simp only [mem_sortedBy, List.mem_dedup, List.mem_filter, decide_eq_true_iff]
          constructor
          · rintro ⟨listed, start, finish, absent⟩
            exact ⟨listed, absent, ⟨first, low, start⟩, last, high, finish⟩
          · rintro ⟨listed, absent, ⟨before, early, start⟩, after, late, finish⟩
            exact ⟨listed, (below before early).trans start, finish.trans (above after late), absent⟩

theorem mem_observedDates {rows : List PriceBar} {symbol : String} {dates : List Int} :
    (symbol, dates) ∈ observedDates rows <->
      (exists bar, bar ∈ rows ∧ bar.asset = symbol) ∧
        dates = (rows.filter fun row => row.asset = symbol).map fun row => dateOf row.eventTime := by
  unfold observedDates
  rw [mem_foldl_iff, foldl_allValues]
  by_cases none_ : rows.filter (fun row => decide (row.asset = symbol)) = []
  · rw [if_pos none_]
    refine iff_of_false (fun found => by cases found) ?_
    rintro ⟨⟨bar, member, same⟩, _⟩
    have selected : bar ∈ rows.filter fun row => row.asset = symbol :=
      List.mem_filter.mpr ⟨member, decide_eq_true same⟩
    rw [none_] at selected
    exact absurd selected List.not_mem_nil
  · rw [if_neg none_, Option.some.injEq]
    have some_ : exists bar, bar ∈ rows ∧ bar.asset = symbol := by
      rcases List.exists_mem_of_ne_nil _ none_ with ⟨bar, selected⟩
      rcases List.mem_filter.mp selected with ⟨member, same⟩
      exact ⟨bar, member, of_decide_eq_true same⟩
    rw [and_iff_right some_]
    exact ⟨fun same => same.symm, fun same => same.symm⟩

theorem mem_missingIssues : issue ∈ missingIssues texts (sessionDates database)
      (orderedBars library scope database) <->
    exists before after session, before ∈ storedBars library scope database ∧
      after ∈ storedBars library scope database ∧ after.asset = before.asset ∧
      session ∈ database.calendar ∧ dateOf before.eventTime ≤ session.sessionDate ∧
      session.sessionDate ≤ dateOf after.eventTime ∧
      (forall other, other ∈ storedBars library scope database -> other.asset = before.asset ->
        dateOf other.eventTime ≠ session.sessionDate) ∧
      issue = issueOf "missing_expected_session" "warning"
        (before.asset ++ ":" ++ texts.isodate session.sessionDate) := by
  have dated : forall symbol date, date ∈ ((orderedBars library scope database).filter
      fun row => row.asset = symbol).map (fun row => dateOf row.eventTime) <->
        exists bar, bar ∈ storedBars library scope database ∧ bar.asset = symbol ∧
          dateOf bar.eventTime = date := by
    intro symbol date
    simp only [List.mem_map, List.mem_filter, mem_orderedBars, decide_eq_true_iff, and_assoc]
  unfold missingIssues
  rw [List.mem_flatMap]
  constructor
  · rintro ⟨⟨symbol, dates⟩, entry, inside⟩
    rcases List.mem_map.mp inside with ⟨date, missing, same⟩
    rcases mem_observedDates.mp entry with ⟨-, all⟩
    subst all
    rcases mem_missingDates.mp missing with ⟨listed, absent, ⟨first, early, start⟩, last, late, finish⟩
    rcases (dated symbol first).mp early with ⟨before, stored, own, day⟩
    rcases (dated symbol last).mp late with ⟨after, second, named, lastDay⟩
    rcases List.mem_map.mp listed with ⟨session, known, sessionDay⟩
    subst own
    subst sessionDay
    refine ⟨before, after, session, stored, second, named, known, day ▸ start, lastDay ▸ finish,
      fun other member asset equal => ?_, same.symm⟩
    exact absent ((dated before.asset session.sessionDate).mpr ⟨other, member, asset, equal⟩)
  · rintro ⟨before, after, session, stored, second, same, listed, start, finish, missing, rfl⟩
    refine ⟨(before.asset, _), mem_observedDates.mpr
      ⟨⟨before, mem_orderedBars.mpr stored, rfl⟩, rfl⟩, List.mem_map.mpr
        ⟨session.sessionDate, mem_missingDates.mpr ⟨List.mem_map_of_mem listed, ?_, ?_, ?_⟩, rfl⟩⟩
    · intro inside
      rcases (dated before.asset session.sessionDate).mp inside with ⟨other, member, asset, equal⟩
      exact missing other member asset equal
    · exact ⟨_, (dated before.asset _).mpr ⟨before, stored, rfl, rfl⟩, start⟩
    · exact ⟨_, (dated before.asset _).mpr ⟨after, second, same, rfl⟩, finish⟩

theorem mem_conflicts {error : ImportError} : error ∈ conflicts scope database <->
    error ∈ database.errors ∧ error.errorCode = "conflicting_reimport" ∧
      exists job, Tables.lookup ImportJob.id error.jobId database.jobs = some job ∧
        forall id, scope.providerId = some id -> job.request.providerId = id := by
  unfold conflicts
  rw [List.mem_filter, Bool.and_eq_true, decide_eq_true_iff, Option.any_eq_true]
  simp only [Option.all_eq_true, decide_eq_true_iff]

end Ordered

/-- The issues of the pass over the bars. -/
theorem mem_passIssues {library : Library} {scope : Scope} {database : Database} {issue : Issue} :
    issue ∈ (checkBars library (sessionDates database)
        (orderedBars library scope database)).issues <->
      (exists bar, bar ∈ storedBars library scope database ∧ issue ∈ barIssues library
        (sessionDates database) (orderedBars library scope database) bar) ∨
      exists bar before after, orderedBars library scope database = before ++ bar :: after ∧
        issue ∈ gapIssues library
          (noted (before.foldl (note PriceBar.asset (lastValue PriceBar.eventTime)) [])
            bar.asset) bar := by
  unfold checkBars
  rw [mem_checkBars, or_iff_right List.not_mem_nil]
  constructor
  · rintro ⟨before, bar, after, split, own | gap⟩
    · refine Or.inl ⟨bar, mem_orderedBars.mp ?_, own⟩
      exact split ▸ List.mem_append_right before List.mem_cons_self
    · exact Or.inr ⟨bar, before, after, split, gap⟩
  · rintro (⟨bar, stored, own⟩ | ⟨bar, before, after, split, gap⟩)
    · rcases List.append_of_mem (mem_orderedBars.mpr stored) with ⟨before, after, split⟩
      exact ⟨before, bar, after, split, Or.inl own⟩
    · exact ⟨before, bar, after, split, Or.inr gap⟩

section Report

variable {library : Library} {texts : Texts} {scope : Scope} {current : Instant}
  {database : Database} {issue : Issue}

/-- The parts of the report, each with what its issues are about. -/
theorem mem_previewIssues : issue ∈ previewIssues library texts scope current database <->
    ((((exists bar, bar ∈ storedBars library scope database ∧ issue ∈ barIssues library
        (sessionDates database) (orderedBars library scope database) bar) ∨
      exists bar before after, orderedBars library scope database = before ++ bar :: after ∧
        issue ∈ gapIssues library
          (noted (before.foldl (note PriceBar.asset (lastValue PriceBar.eventTime)) [])
            bar.asset) bar) ∨
      issue ∈ staleIssues scope.staleAfterDays current
        ((orderedBars library scope database).foldl
          (note PriceBar.asset (largestValue PriceBar.eventTime)) [])) ∨
      issue ∈ missingIssues texts (sessionDates database) (orderedBars library scope database)) ∨
      exists error, error ∈ conflicts scope database ∧ conflictIssue texts error = issue := by
  have latest : (checkBars library (sessionDates database)
      (orderedBars library scope database)).latest =
        (orderedBars library scope database).foldl
          (note PriceBar.asset (largestValue PriceBar.eventTime)) [] :=
    latest_checkBars _ _
  unfold previewIssues
  rw [latest, List.mem_append, List.mem_append, List.mem_append, mem_passIssues, List.mem_map]

theorem finding_of_listed (distinct : database.rows.bars.Nodup)
    (listed : issue ∈ previewIssues library texts scope current database) :
    Finding library texts scope current database issue := by
  rcases mem_previewIssues.mp listed with
    (((⟨bar, stored, own⟩ | ⟨bar, gap⟩) | stale) | missing) | ⟨error, known, rfl⟩
  · exact finding_of_bar distinct stored own
  · rcases gap_iff.mp gap with ⟨rfl, first, ⟨earlier, stored, same, sooner⟩, quiet⟩
    exact .dateGap first stored same sooner quiet
  · rcases mem_staleIssues.mp stale with ⟨bar, member, newest, old, rfl⟩
    exact .stale (mem_orderedBars.mp member)
      (fun other stored => newest other (mem_orderedBars.mpr stored)) old
  · rcases mem_missingIssues.mp missing with
      ⟨before, after, session, stored, second, same, open_, start, finish, absent, rfl⟩
    exact .missingSession stored second same open_ start finish absent
  · rcases mem_conflicts.mp known with ⟨recorded, code, job, found, own⟩
    exact .conflict recorded code found own

theorem listed_of_bar {bar : PriceBar} (stored : bar ∈ storedBars library scope database)
    (own : issue ∈ barIssues library (sessionDates database) (orderedBars library scope database)
      bar) : issue ∈ previewIssues library texts scope current database :=
  mem_previewIssues.mpr (Or.inl (Or.inl (Or.inl (Or.inl ⟨bar, stored, own⟩))))

theorem listed_of_finding (distinct : database.rows.bars.Nodup)
    (finding : Finding library texts scope current database issue) :
    issue ∈ previewIssues library texts scope current database := by
  have once : (orderedBars library scope database).Nodup := orderedBars_nodup distinct
  cases finding with
  | @duplicateProvider bar other stored second apart same =>
      refine listed_of_bar stored (mem_barIssues.mpr (Or.inl ⟨?_, rfl⟩))
      exact (repeated_iff once (mem_orderedBars.mpr stored)).mpr
        ⟨other, mem_orderedBars.mpr second, apart, same⟩
  | @duplicateCanonical bar other stored second apart same =>
      refine listed_of_bar stored (mem_barIssues.mpr (Or.inr (Or.inl ⟨?_, rfl⟩)))
      exact (repeated_iff once (mem_orderedBars.mpr stored)).mpr
        ⟨other, mem_orderedBars.mpr second, apart, same⟩
  | @closedSession bar stored closed =>
      refine listed_of_bar stored (mem_barIssues.mpr (Or.inr (Or.inr (Or.inl ⟨?_, rfl⟩))))
      intro inside
      rcases List.mem_map.mp inside with ⟨session, listed, same⟩
      exact closed session listed same
  | invalidOhlc stored broken =>
      exact listed_of_bar stored
        (mem_barIssues.mpr (Or.inr (Or.inr (Or.inr (Or.inl ⟨broken, rfl⟩)))))
  | negativeVolume stored negative =>
      exact listed_of_bar stored
        (mem_barIssues.mpr (Or.inr (Or.inr (Or.inr (Or.inr (Or.inl ⟨negative, rfl⟩))))))
  | zeroVolume stored zero =>
      exact listed_of_bar stored
        (mem_barIssues.mpr (Or.inr (Or.inr (Or.inr (Or.inr (Or.inr (Or.inl ⟨zero, rfl⟩)))))))
  | symbolMismatch stored different =>
      exact listed_of_bar stored (mem_barIssues.mpr
        (Or.inr (Or.inr (Or.inr (Or.inr (Or.inr (Or.inr (Or.inl ⟨different, rfl⟩))))))))
  | adjustment stored unadjusted different =>
      exact listed_of_bar stored (mem_barIssues.mpr
        (Or.inr (Or.inr (Or.inr (Or.inr (Or.inr (Or.inr (Or.inr
          ⟨⟨unadjusted, different⟩, rfl⟩))))))))
  | @dateGap bar earlier first stored same sooner quiet =>
      exact mem_previewIssues.mpr (Or.inl (Or.inl (Or.inl (Or.inr ⟨bar,
        gap_iff.mpr ⟨rfl, first, ⟨earlier, stored, same, sooner⟩, quiet⟩⟩))))
  | @stale bar stored newest old =>
      exact mem_previewIssues.mpr (Or.inl (Or.inl (Or.inr (mem_staleIssues.mpr
        ⟨bar, mem_orderedBars.mpr stored,
          fun other listed => newest other (mem_orderedBars.mp listed), old, rfl⟩))))
  | @missingSession before after session stored second same listed start finish missing =>
      exact mem_previewIssues.mpr (Or.inl (Or.inr (mem_missingIssues.mpr
        ⟨before, after, session, stored, second, same, listed, start, finish, missing, rfl⟩)))
  | @conflict error job listed code found own =>
      exact mem_previewIssues.mpr (Or.inr
        ⟨error, mem_conflicts.mpr ⟨listed, code, job, found, own⟩, rfl⟩)

end Report

/-- The report lists exactly the findings about the stored bars and the earlier imports. -/
theorem preview_exact (library : Library) (texts : Texts) (scope : Scope) (current : Instant)
    (database : Database) (distinct : database.rows.bars.Nodup) (issue : Issue) :
    issue ∈ (previewReconciliation library texts scope current database).issues <->
      Finding library texts scope current database issue :=
  ⟨finding_of_listed distinct, listed_of_finding distinct⟩

/-! ## The rows of a kept run -/

section Runs

variable {library : Library} {texts : Texts} {request : RunRequest} {database : Database}
  {kept after : Reconciliations} {run : ReconciliationRun}

theorem runReconciliation_ok
    (done : runReconciliation library texts request database kept = .ok (run, after)) :
    run.id = request.id ∧
      run.issueCount =
        (previewIssues library texts request.scope request.current database).length ∧
      run.conflictCount =
        (previewIssues library texts request.scope request.current database).countP
          (fun item => item.type ∈ conflictTypes) ∧
      after.issues = kept.issues ++
        (previewIssues library texts request.scope request.current database).map
          (newIssue request) := by
  unfold runReconciliation at done
  split at done
  · cases done
  · cases done
    exact ⟨rfl, rfl, rfl, rfl⟩

/-- A run adds one row for each finding, and its counts are the numbers of its rows.  The rows of
the runs before it stay. -/
theorem run_exact (distinct : database.rows.bars.Nodup)
    (fresh : forall row, row ∈ kept.issues -> row.runId ≠ request.id)
    (done : runReconciliation library texts request database kept = .ok (run, after)) :
    after.issues.filter (·.runId ≠ run.id) = kept.issues ∧
      (after.issues.filter (·.runId = run.id)).length = run.issueCount ∧
      (after.issues.filter (·.runId = run.id)).countP (·.issueType ∈ conflictTypes) =
        run.conflictCount ∧
      forall row, row ∈ after.issues.filter (·.runId = run.id) <->
        exists issue, Finding library texts request.scope request.current database issue ∧
          newIssue request issue = row := by
  rcases runReconciliation_ok done with ⟨id, issueCount, conflictCount, issues⟩
  have others : kept.issues.filter (fun row => row.runId = request.id) = [] :=
    List.filter_eq_nil_iff.mpr fun row member same => fresh row member (of_decide_eq_true same)
  have earlier : kept.issues.filter (fun row => row.runId ≠ request.id) = kept.issues :=
    List.filter_eq_self.mpr fun row member => decide_eq_true (fresh row member)
  have own : forall issues : List Issue,
      (issues.map (newIssue request)).filter (fun row => row.runId = request.id) =
        issues.map (newIssue request) := by
    intro issues
    refine List.filter_eq_self.mpr fun row member => ?_
    rcases List.mem_map.mp member with ⟨issue, _, same⟩
    exact same ▸ decide_eq_true rfl
  have foreign : forall issues : List Issue,
      (issues.map (newIssue request)).filter (fun row => row.runId ≠ request.id) = [] := by
    intro issues
    refine List.filter_eq_nil_iff.mpr fun row member different => ?_
    rcases List.mem_map.mp member with ⟨issue, _, same⟩
    exact of_decide_eq_true different (same ▸ rfl)
  have written : after.issues.filter (fun row => row.runId = run.id) =
      (previewIssues library texts request.scope request.current database).map
        (newIssue request) := by
    rw [issues, id, List.filter_append, others, own, List.nil_append]
  refine ⟨?_, ?_, ?_, ?_⟩
  · rw [issues, id, List.filter_append, earlier, foreign, List.append_nil]
  · rw [written, List.length_map, issueCount]
  · rw [written, List.countP_map, conflictCount]
    rfl
  · intro row
    rw [written, List.mem_map]
    constructor
    · rintro ⟨issue, listed, same⟩
      exact ⟨issue, (preview_exact library texts request.scope request.current database distinct
        issue).mp listed, same⟩
    · rintro ⟨issue, finding, same⟩
      exact ⟨issue, (preview_exact library texts request.scope request.current database distinct
        issue).mpr finding, same⟩

end Runs

/-! ## A symbol with a gap -/

def plainTexts : Texts := ⟨toString, fun error => toString error.jobId⟩

/-- A bar of a day, at noon. -/
def noonBar (date : Int) : PriceBar where
  asset := "ATOM"
  interval := "1d"
  eventTime := date * day + 43200000000
  publicationTime := date * day + 43200000000
  effectiveTime := date * day + 43200000000
  retrievalTime := date * day + 43200000000
  openPrice := 10
  high := 12
  low := 9
  closePrice := 11
  adjustedClose := 11
  volume := 100
  dataSource := "provider:demo"
  provider := some "demo"
  originalSymbol := "ATOM"
  adjustmentStatus := "unadjusted"
  checksum := "b"
  recordVersion := 1
  importJob := some 1
  rawProviderMetadata := []
  isDemonstrationData := false

/-- Sessions on three days, and bars on the first and the last of them. -/
def gappedDatabase : Database where
  rows := { Canonical.empty with
    assets := [⟨"ATOM", "Atom Corp", "equity", "XNYS", "USD", none, none⟩]
    bars := [noonBar 9, noonBar 0] }
  sources := []
  providers := [⟨7, "demo", true, .healthy, none⟩]
  rateLimits := []
  calendar := [⟨0, 0, true⟩, ⟨4, 4 * day, true⟩, ⟨9, 9 * day, true⟩]
  jobs := []
  batches := []
  errors := []
  fleet := ⟨[], []⟩
  events := []

def gapRequest : RunRequest := ⟨5, some 7, none, true, 10 * day, 10 * day⟩

def gapRun : ReconciliationRun × Reconciliations :=
  match runReconciliation plainLibrary plainTexts gapRequest gappedDatabase ⟨[], []⟩ with
  | .ok written => written
  | .error _ => (⟨0, none, "", true, [], 0, 0, 0, 0⟩, ⟨[], []⟩)

example : gapRun.2.issues.map (fun row => (row.issueType, row.recordIdentifier)) =
    [("unexpected_date_gap", "ATOM:1d:820800000000"), ("missing_expected_session", "ATOM:4")] := by
  decide +kernel

theorem run_exact_gap :
    gapRun.2.issues.filter (·.runId ≠ gapRun.1.id) = [] ∧
      (gapRun.2.issues.filter (·.runId = gapRun.1.id)).length = gapRun.1.issueCount ∧
      (gapRun.2.issues.filter (·.runId = gapRun.1.id)).countP (·.issueType ∈ conflictTypes) =
        gapRun.1.conflictCount ∧
      forall row, row ∈ gapRun.2.issues.filter (·.runId = gapRun.1.id) <->
        exists issue, Finding plainLibrary plainTexts gapRequest.scope gapRequest.current
          gappedDatabase issue ∧ newIssue gapRequest issue = row := by
  have distinct : gappedDatabase.rows.bars.Nodup := by decide +kernel
  have done : runReconciliation plainLibrary plainTexts gapRequest gappedDatabase ⟨[], []⟩ =
      .ok (gapRun.1, gapRun.2) := by
    decide +kernel
  exact run_exact distinct (fun _ none_ => absurd none_ List.not_mem_nil) done

end Reconciliation
end MarketData
end MarketIntelligence
