import MarketIntelligence.Operations.Scheduling

namespace MarketIntelligence
namespace Operations
namespace Freshness

open Scheduling

/-!
# Freshness of a dataset

The age of a dataset is graded against the next update that is expected.  On the market
calendar a closed day counts as the end of the last open day before it, so a dataset does
not age while the market is closed.  A success on that last open day, or after it, makes
the dataset current for as long as the market stays closed, whatever it was graded before.

Instants count from the Unix epoch and are read in UTC, and dates are numbers of days.
-/

inductive FreshnessStatus where
  | providerDelayed
  | unknown
  | current
  | due
  | stale
  | veryStale
  deriving DecidableEq, Repr

/-- The order of the statuses that an age can have. -/
def FreshnessStatus.severity : FreshnessStatus -> Nat
  | veryStale => 3
  | stale => 2
  | due => 1
  | _ => 0

/-- `date.min` -/
def earliestDate : Int := -719162

/-- `instant.date()` -/
def dateOf (instant : Instant) : Int := instant / day

/-- `datetime.combine(date, datetime.max.time())` -/
def endOf (date : Int) : Int := (date + 1) * day - 1

def Closed (holidays : List Int) (date : Int) : Prop :=
  5 ≤ weekday (date * day) ∨ date ∈ holidays

instance (holidays : List Int) (date : Int) : Decidable (Closed holidays date) :=
  inferInstanceAs (Decidable (_ ∨ _))

/-- The loop over the closed days before a date. -/
def lastOpenDate (holidays : List Int) (probe : Int) : Except Exception Int :=
  if Closed holidays probe then
    if probe ≤ earliestDate then .error overflowError else lastOpenDate holidays (probe - 1)
  else .ok probe
termination_by (probe - earliestDate).toNat
decreasing_by omega

/-- The comparisons with the instants of the dataset. -/
def grade (effectiveNow expectedNext staleAfter : Instant) : Except Exception FreshnessStatus :=
  if effectiveNow ≤ expectedNext then .ok .current
  else if effectiveNow ≤ staleAfter then .ok .due
  else do
    let veryStaleAt ← later staleAfter (max (staleAfter - expectedNext) day)
    if veryStaleAt < effectiveNow then .ok .veryStale else .ok .stale

def calculateFreshness (now : Instant) (lastSuccess expectedNext staleAfter : Option Instant)
    (marketCalendar providerDelayed : Bool) (holidays : Option (List Int)) :
    Except Exception FreshnessStatus :=
  if providerDelayed then .ok .providerDelayed
  else
    match lastSuccess, expectedNext, staleAfter with
    | some lastSuccess, some expectedNext, some staleAfter =>
        if marketCalendar then do
          let probe ← lastOpenDate (holidays.getD []) (dateOf now)
          if probe < dateOf now ∧ probe ≤ dateOf lastSuccess then .ok .current
          else if probe < dateOf now then grade (endOf probe) expectedNext staleAfter
          else grade now expectedNext staleAfter
        else grade now expectedNext staleAfter
    | _, _, _ => .ok .unknown

/-! ## The last open date -/

theorem day_positive : (0 : Int) < day := by decide

section Dates

variable {holidays : List Int} {date probe : Int}

theorem lastOpenDate_ok (found : lastOpenDate holidays date = .ok probe) :
    probe ≤ date ∧ ¬ Closed holidays probe ∧
      forall other, probe < other -> other ≤ date -> Closed holidays other := by
  induction date using lastOpenDate.induct holidays with
  | case1 date closed first =>
      rw [lastOpenDate, if_pos closed, if_pos first] at found
      cases found
  | case2 date closed later ih =>
      rw [lastOpenDate, if_pos closed, if_neg later] at found
      rcases ih found with ⟨before, open_, between⟩
      refine ⟨by omega, open_, fun other after within => ?_⟩
      by_cases same : other = date
      · exact same ▸ closed
      · exact between other after (by omega)
  | case3 date open_ =>
      rw [lastOpenDate, if_neg open_] at found
      cases found
      refine ⟨le_refl _, open_, fun other after within => ?_⟩
      omega

/-- A day is open exactly when it is its own last open date. -/
theorem lastOpenDate_lt_iff (found : lastOpenDate holidays date = .ok probe) :
    probe < date <-> Closed holidays date := by
  rcases lastOpenDate_ok found with ⟨before, open_, between⟩
  constructor
  · exact fun less => between date less (le_refl _)
  · intro closed
    apply lt_of_le_of_ne before
    intro same
    exact open_ (same ▸ closed)

theorem lastOpenDate_mono {later laterProbe : Int} (order : date ≤ later)
    (found : lastOpenDate holidays date = .ok probe)
    (laterFound : lastOpenDate holidays later = .ok laterProbe) : probe ≤ laterProbe := by
  rcases lastOpenDate_ok found with ⟨before, open_, _⟩
  rcases lastOpenDate_ok laterFound with ⟨_, _, between⟩
  by_contra less
  exact open_ (between probe (not_le.mp less) (le_trans before order))

end Dates

/-! ## Ageing -/

section Ageing

variable {expectedNext staleAfter now first second : Int}
  {status firstStatus secondStatus : FreshnessStatus}

theorem grade_ok (graded : grade now expectedNext staleAfter = .ok status) :
    now ≤ expectedNext ∧ status = .current ∨
      expectedNext < now ∧ now ≤ staleAfter ∧ status = .due ∨
      expectedNext < now ∧ staleAfter < now ∧
        (now ≤ staleAfter + max (staleAfter - expectedNext) day ∧ status = .stale ∨
          staleAfter + max (staleAfter - expectedNext) day < now ∧ status = .veryStale) := by
  rw [grade] at graded
  split at graded
  · rename_i early
    cases graded
    exact Or.inl ⟨early, rfl⟩
  rename_i late
  split at graded
  · rename_i early
    cases graded
    exact Or.inr (Or.inl ⟨not_le.mp late, early, rfl⟩)
  rename_i later_
  refine Or.inr (Or.inr ⟨not_le.mp late, not_le.mp later_, ?_⟩)
  rw [later] at graded
  split at graded
  · cases graded
  change (if staleAfter + max (staleAfter - expectedNext) day < now then _ else _) = _ at graded
  split at graded
  · rename_i beyond
    cases graded
    exact Or.inr ⟨beyond, rfl⟩
  · rename_i within
    cases graded
    exact Or.inl ⟨not_lt.mp within, rfl⟩

theorem grade_mono (order : first ≤ second)
    (firstGraded : grade first expectedNext staleAfter = .ok firstStatus)
    (secondGraded : grade second expectedNext staleAfter = .ok secondStatus) :
    firstStatus.severity ≤ secondStatus.severity := by
  rcases grade_ok firstGraded with ⟨early, rfl⟩ | ⟨late, within, rfl⟩ |
    ⟨late, beyond, ⟨within, rfl⟩ | ⟨elapsed, rfl⟩⟩
  · exact Nat.zero_le _
  · rcases grade_ok secondGraded with ⟨_, rfl⟩ | ⟨_, _, rfl⟩ | ⟨_, _, ⟨_, rfl⟩ | ⟨_, rfl⟩⟩
    · omega
    · exact le_refl _
    · decide
    · decide
  · rcases grade_ok secondGraded with ⟨_, rfl⟩ | ⟨_, _, rfl⟩ | ⟨_, _, ⟨_, rfl⟩ | ⟨_, rfl⟩⟩
    · omega
    · omega
    · exact le_refl _
    · decide
  · rcases grade_ok secondGraded with ⟨_, rfl⟩ | ⟨_, _, rfl⟩ | ⟨_, _, ⟨_, rfl⟩ | ⟨_, rfl⟩⟩
    · omega
    · omega
    · omega
    · exact le_refl _

end Ageing

/-! ## One instant and a later one -/

/-- The market is closed on the day of the instant, and no open day has come after the day of the
last success. -/
def Exempt (holidays : List Int) (lastSuccess now : Instant) : Prop :=
  Closed holidays (dateOf now) ∧ forall date, dateOf lastSuccess < date -> date ≤ dateOf now ->
    Closed holidays date

section Order

variable {lastSuccess expectedNext staleAfter now first second : Int}
  {holidays : Option (List Int)} {status firstStatus secondStatus : FreshnessStatus}

theorem dateOf_mono (order : first ≤ second) : dateOf first ≤ dateOf second :=
  Int.ediv_le_ediv day_positive order

theorem le_endOf (instant : Int) : instant ≤ endOf (dateOf instant) := by
  have next : instant < (dateOf instant + 1) * day := Int.lt_ediv_add_one_mul_self instant day_positive
  unfold endOf
  omega

theorem endOf_lt {date : Int} (before : date < dateOf now) : endOf date < now := by
  have whole : (date + 1) * day ≤ dateOf now * day :=
    Int.mul_le_mul_of_nonneg_right before day_positive.le
  have start : dateOf now * day ≤ now := Int.ediv_mul_le now day_positive.ne'
  unfold endOf
  omega

theorem endOf_mono {date later : Int} (order : date ≤ later) : endOf date ≤ endOf later := by
  have product : (date + 1) * day ≤ (later + 1) * day :=
    Int.mul_le_mul_of_nonneg_right (by omega) day_positive.le
  unfold endOf
  omega

/-- The instant that a dataset on the market calendar is graded at. -/
inductive GradedAt (holidays : List Int) (now : Instant) : Instant -> Prop where
  | open_ (isOpen : ¬ Closed holidays (dateOf now)) : GradedAt holidays now now
  | closed (probe : Int) (isClosed : Closed holidays (dateOf now))
      (found : lastOpenDate holidays (dateOf now) = .ok probe) :
      GradedAt holidays now (endOf probe)

theorem GradedAt.mono {holidays : List Int} {firstAt secondAt : Instant} (order : first ≤ second)
    (firstGraded : GradedAt holidays first firstAt)
    (secondGraded : GradedAt holidays second secondAt) : firstAt ≤ secondAt := by
  have dates := dateOf_mono order
  cases firstGraded with
  | open_ isOpen =>
      cases secondGraded with
      | open_ _ => exact order
      | closed probe _ found =>
          have reached : dateOf first ≤ probe := by
            by_contra less
            exact isOpen ((lastOpenDate_ok found).2.2 (dateOf first) (not_le.mp less) dates)
          exact le_trans (le_endOf first) (endOf_mono reached)
  | closed probe isClosed found =>
      have before : probe < dateOf first := (lastOpenDate_lt_iff found).mpr isClosed
      cases secondGraded with
      | open_ _ => exact (endOf_lt (lt_of_lt_of_le before dates)).le
      | closed laterProbe _ laterFound => exact endOf_mono (lastOpenDate_mono dates found laterFound)

/-- On the market calendar a dataset is exempt and current, or it is graded. -/
theorem marketFreshness_ok
    (fresh : calculateFreshness now (some lastSuccess) (some expectedNext) (some staleAfter) true false
      holidays = .ok status) :
    Exempt (holidays.getD []) lastSuccess now ∧ status = .current ∨
      ¬ Exempt (holidays.getD []) lastSuccess now ∧
        exists at_, GradedAt (holidays.getD []) now at_ ∧
          grade at_ expectedNext staleAfter = .ok status := by
  change (lastOpenDate (holidays.getD []) (dateOf now) >>= fun probe => _) = _ at fresh
  cases found : lastOpenDate (holidays.getD []) (dateOf now) with
  | error raised =>
      rw [found] at fresh
      cases fresh
  | ok probe =>
      rw [found] at fresh
      change (if probe < dateOf now ∧ probe ≤ dateOf lastSuccess then _ else _) = _ at fresh
      rcases lastOpenDate_ok found with ⟨before, open_, between⟩
      have closed := lastOpenDate_lt_iff found
      split at fresh
      · rename_i current
        cases fresh
        refine Or.inl ⟨⟨closed.mp current.1, fun date after within => ?_⟩, rfl⟩
        exact between date (lt_of_le_of_lt current.2 after) within
      · rename_i aged
        have unexempt : ¬ Exempt (holidays.getD []) lastSuccess now := by
          rintro ⟨shut, quiet⟩
          have less := closed.mpr shut
          refine aged ⟨less, ?_⟩
          by_contra after
          exact open_ (quiet probe (not_le.mp after) before)
        refine Or.inr ⟨unexempt, ?_⟩
        split at fresh
        · rename_i less
          exact ⟨endOf probe, .closed probe (closed.mp less) found, fresh⟩
        · rename_i same
          exact ⟨now, .open_ (fun shut => same (closed.mpr shut)), fresh⟩

/-- A dataset gets no fresher with time, but for one that is exempt at the later instant: it is
current then. -/
theorem calculateFreshness_mono (order : first ≤ second) (marketCalendar : Bool)
    (firstFresh : calculateFreshness first (some lastSuccess) (some expectedNext) (some staleAfter)
      marketCalendar false holidays = .ok firstStatus)
    (secondFresh : calculateFreshness second (some lastSuccess) (some expectedNext)
      (some staleAfter) marketCalendar false holidays = .ok secondStatus) :
    (marketCalendar = true ∧ Exempt (holidays.getD []) lastSuccess second ->
        secondStatus = .current) ∧
      (¬ (marketCalendar = true ∧ Exempt (holidays.getD []) lastSuccess second) ->
        firstStatus.severity ≤ secondStatus.severity) := by
  cases marketCalendar with
  | false =>
      refine ⟨fun impossible => absurd impossible.1 Bool.false_ne_true, fun _ => ?_⟩
      exact grade_mono order firstFresh secondFresh
  | true =>
      rcases marketFreshness_ok secondFresh with ⟨exempt, current⟩ | ⟨aged, secondAt, at_, graded⟩
      · exact ⟨fun _ => current, fun unexempt => absurd ⟨rfl, exempt⟩ unexempt⟩
      · refine ⟨fun exempt => absurd exempt.2 aged, fun _ => ?_⟩
        rcases marketFreshness_ok firstFresh with
          ⟨_, current⟩ | ⟨_, firstAt, firstGradedAt, firstGraded⟩
        · rw [current]
          exact Nat.zero_le _
        · exact grade_mono (firstGradedAt.mono order at_) firstGraded graded

end Order

/-! ## A Friday evening and the Saturday after it -/

/-- A day and an hour after the epoch.  The first day is a Thursday. -/
def hourOf (date hour : Int) : Instant := date * day + hour * 3600 * second

/-- A Friday's success, with an update expected an hour later, is graded as due that night and as
current on the next day. -/
theorem weekend_freshness :
    calculateFreshness (hourOf 1 24 - 1) (some (hourOf 1 22)) (some (hourOf 1 23))
        (some (hourOf 2 2)) true false none = .ok .due ∧
      calculateFreshness (hourOf 2 22) (some (hourOf 1 22)) (some (hourOf 1 23))
        (some (hourOf 2 2)) true false none = .ok .current := by
  decide +kernel

theorem freshness_improves :
    ¬ forall (first second lastSuccess expectedNext staleAfter : Instant) (marketCalendar : Bool)
        (holidays : Option (List Int)) (firstStatus secondStatus : FreshnessStatus),
      first ≤ second -> expectedNext ≤ staleAfter ->
        calculateFreshness first (some lastSuccess) (some expectedNext) (some staleAfter)
          marketCalendar false holidays = .ok firstStatus ->
        calculateFreshness second (some lastSuccess) (some expectedNext) (some staleAfter)
          marketCalendar false holidays = .ok secondStatus ->
        firstStatus.severity ≤ secondStatus.severity := by
  intro ordered
  have worse := ordered (hourOf 1 24 - 1) (hourOf 2 22) (hourOf 1 22) (hourOf 1 23) (hourOf 2 2)
    true none .due .current (by decide) (by decide) weekend_freshness.1 weekend_freshness.2
  exact absurd worse (by decide)

/-- Without an exemption, from the same Friday to the Monday after it. -/
theorem monday_freshness :
    calculateFreshness (hourOf 4 12) (some (hourOf 1 22)) (some (hourOf 1 23))
        (some (hourOf 2 2)) true false none = .ok .veryStale ∧
      FreshnessStatus.due.severity ≤ FreshnessStatus.veryStale.severity := by
  have monday : calculateFreshness (hourOf 4 12) (some (hourOf 1 22)) (some (hourOf 1 23))
      (some (hourOf 2 2)) true false none = .ok .veryStale := by
    decide +kernel
  refine ⟨monday, ?_⟩
  apply (calculateFreshness_mono (by decide) true weekend_freshness.1 monday).2
  rintro ⟨_, shut, _⟩
  revert shut
  decide

end Freshness
end Operations
end MarketIntelligence
