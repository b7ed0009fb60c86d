import MarketIntelligence.Core.Values
import MarketIntelligence.Foundations.SortedLists
import Mathlib.Tactic.Linarith

namespace MarketIntelligence
namespace MarketData
namespace OperatingModes

open Foundations
open SortedLists

/-!
# The operating mode

The mode is read off the stored sessions of a calendar.  Around a session there are a
window of two hours before its open, the session itself, and a window of two hours after
its close; outside all of them the mode is that of the economy.

Each window is closed at its end, so the announced end of a session still belongs to the
session, and the announced end of the window after it still belongs to that window.
-/

inductive Mode where
  | economy
  | preMarket
  | market
  | postMarket
  deriving DecidableEq, Repr

structure TradingSession where
  calendar : String
  sessionDate : String
  openTime : Instant
  closeTime : Instant
  deriving DecidableEq, Repr

structure SchedulerState where
  ingestionHeavyLimit : Nat
  lightweightIntelligenceLimit : Nat
  deferCpuHeavy : Bool
  minimumHeadroomMb : Nat
  deriving DecidableEq, Repr

structure MarketOperatingState where
  calendarCode : String
  mode : Mode
  effectiveAt : Instant
  sessionDate : Option String
  marketOpen : Option Instant
  marketClose : Option Instant
  nextTransitionAt : Option Instant
  reason : String
  schedulerState : SchedulerState
  deriving DecidableEq, Repr

/-- The tables that are read and written.  Calendars are known by their codes. -/
structure Tables where
  calendars : List String
  sessions : List TradingSession
  states : List MarketOperatingState
  deriving DecidableEq, Repr

inductive ModeError where
  | notConfigured (calendarCode : String)
  deriving DecidableEq, Repr

def twoHours : Int := 2 * 3600000000

/-- The two first sessions that closed no more than two hours ago. -/
def relevantSessions (sessions : List TradingSession) (calendarCode : String) (now : Instant) :
    List TradingSession :=
  (sortedBy TradingSession.openTime (sessions.filter fun session =>
    session.calendar = calendarCode ∧ now - twoHours ≤ session.closeTime)).take 2

/-- The instant is in one of the windows of the session. -/
def surrounds (now : Instant) (session : TradingSession) : Bool :=
  session.openTime - twoHours ≤ now ∧ now ≤ session.closeTime + twoHours

def currentSession (relevant : List TradingSession) (now : Instant) : Option TradingSession :=
  relevant.find? (surrounds now)

/-- The mode, its reason and the next transition. -/
def resolveMode (relevant : List TradingSession) (now : Instant) :
    Mode × String × Option Instant :=
  match currentSession relevant now with
  | none =>
      (.economy, "Outside the maintained session transition window",
        relevant.head?.map fun session => session.openTime - twoHours)
  | some current =>
      if now < current.openTime then
        (.preMarket, "Within two hours of maintained exchange open", some current.openTime)
      else if now ≤ current.closeTime then
        (.market, "Maintained exchange core session is open", some current.closeTime)
      else
        (.postMarket, "Within two hours after maintained exchange close",
          some (current.closeTime + twoHours))

def operatingState (sessions : List TradingSession) (calendarCode : String) (now : Instant) :
    MarketOperatingState :=
  let relevant := relevantSessions sessions calendarCode now
  let current := currentSession relevant now
  let (mode, reason, nextTransition) := resolveMode relevant now
  { calendarCode, mode, effectiveAt := now
    sessionDate := current.map TradingSession.sessionDate
    marketOpen := current.map TradingSession.openTime
    marketClose := current.map TradingSession.closeTime
    nextTransitionAt := nextTransition, reason
    schedulerState :=
      { ingestionHeavyLimit := 1, lightweightIntelligenceLimit := 1
        deferCpuHeavy := mode = .market, minimumHeadroomMb := 1024 } }

def determineOperatingMode (tables : Tables) (calendarCode : String) (now : Instant) :
    Except ModeError (MarketOperatingState × Tables) :=
  if calendarCode ∈ tables.calendars then
    let state := operatingState tables.sessions calendarCode now
    .ok (state, { tables with states := tables.states ++ [state] })
  else .error (.notConfigured calendarCode)

/-! ## The windows of a session -/

/-- The instant is in a window of that mode. -/
def InWindow (sessions : List TradingSession) (now : Instant) : Mode -> Prop
  | .preMarket => exists session, session ∈ sessions ∧
      session.openTime - twoHours ≤ now ∧ now < session.openTime
  | .market => exists session, session ∈ sessions ∧
      session.openTime ≤ now ∧ now ≤ session.closeTime
  | .postMarket => exists session, session ∈ sessions ∧
      session.closeTime < now ∧ now ≤ session.closeTime + twoHours
  | .economy => forall session, session ∈ sessions ->
      now < session.openTime - twoHours ∨ session.closeTime + twoHours < now

/-- A label keeps its value up to an instant, and has another one there. -/
def ChangesNext {κ : Type} (label : Instant -> κ) (now next : Instant) : Prop :=
  now < next ∧ (forall later, now ≤ later -> later < next -> label later = label now) ∧
    label next ≠ label now

/-- The sessions are more than four hours apart. -/
def Apart (first second : TradingSession) : Prop :=
  first.closeTime + 2 * twoHours < second.openTime ∨
    second.closeTime + 2 * twoHours < first.openTime

def calendarSessions (tables : Tables) (calendarCode : String) : List TradingSession :=
  tables.sessions.filter fun session => session.calendar = calendarCode

/-- Every session closes after it opens, and any two sessions lie far enough apart that the
windows around them do not meet. -/
structure Spaced (sessions : List TradingSession) : Prop where
  ordered : forall session, session ∈ sessions -> session.openTime < session.closeTime
  apart : sessions.Pairwise Apart

section Windows

variable {tables : Tables} {code : String} {now : Instant} {session : TradingSession}

theorem mem_calendarSessions :
    session ∈ calendarSessions tables code <->
      session ∈ tables.sessions ∧ session.calendar = code := by
  unfold calendarSessions
  rw [List.mem_filter, decide_eq_true_iff]

theorem surrounds_iff :
    surrounds now session = true <->
      session.openTime - twoHours ≤ now ∧ now ≤ session.closeTime + twoHours := by
  unfold surrounds
  rw [decide_eq_true_iff]

instance : Std.Symm Apart where
  symm _ _ apart := apart.elim .inr .inl

/-- Of two sessions with an overlapping range the one is the other. -/
theorem Spaced.unique {sessions : List TradingSession} (spaced : Spaced sessions)
    {first second : TradingSession} (left : first ∈ sessions) (right : second ∈ sessions)
    (overlaps : ¬ Apart first second) : first = second := by
  by_contra different
  exact overlaps (spaced.apart.forall left right different)

theorem mem_recent {sessions : List TradingSession} :
    session ∈ sortedBy TradingSession.openTime (sessions.filter fun session =>
        session.calendar = code ∧ now - twoHours ≤ session.closeTime) <->
      session ∈ sessions ∧ session.calendar = code ∧ now - twoHours ≤ session.closeTime := by
  rw [mem_sortedBy, List.mem_filter, decide_eq_true_iff]

theorem mem_relevant (member : session ∈ relevantSessions tables.sessions code now) :
    session ∈ calendarSessions tables code ∧ now - twoHours ≤ session.closeTime := by
  rcases mem_recent.mp (List.mem_of_mem_take member) with ⟨stored, own, recent⟩
  exact ⟨mem_calendarSessions.mpr ⟨stored, own⟩, recent⟩

theorem head?_relevant :
    (relevantSessions tables.sessions code now).head? =
      (sortedBy TradingSession.openTime (tables.sessions.filter fun session =>
        session.calendar = code ∧ now - twoHours ≤ session.closeTime)).head? := by
  unfold relevantSessions
  rw [List.head?_take]
  rfl

/-- A session that surrounds the instant opens first of those that are still relevant. -/
theorem relevant_first (spaced : Spaced (calendarSessions tables code))
    (member : session ∈ calendarSessions tables code) (inside : surrounds now session = true) :
    (relevantSessions tables.sessions code now).head? = some session := by
  rcases surrounds_iff.mp inside with ⟨low, high⟩
  rcases mem_calendarSessions.mp member with ⟨stored, own⟩
  have listed := mem_recent.mpr ⟨stored, own, (by linarith : now - twoHours ≤ session.closeTime)⟩
  cases first : (relevantSessions tables.sessions code now).head? with
  | none =>
      rw [head?_relevant, List.head?_eq_none_iff] at first
      rw [first] at listed
      cases listed
  | some head =>
      have least := head?_sortedBy (head?_relevant.symm.trans first)
      have known := mem_relevant (List.mem_of_mem_head? first)
      have early := least.2 session (mem_sortedBy.mp listed)
      have ordered := spaced.ordered head known.1
      have same : head = session := by
        refine spaced.unique known.1 member fun apart => ?_
        rcases apart with before | after
        · linarith
        · have opens := spaced.ordered session member
          have positive : 0 < twoHours := by decide
          linarith
      rw [same]

theorem current_inside (spaced : Spaced (calendarSessions tables code))
    (member : session ∈ calendarSessions tables code) (inside : surrounds now session = true) :
    currentSession (relevantSessions tables.sessions code now) now = some session := by
  have first := relevant_first spaced member inside
  unfold currentSession
  cases listed : relevantSessions tables.sessions code now with
  | nil =>
      rw [listed] at first
      cases first
  | cons head tail =>
      rw [listed] at first
      cases first
      exact List.find?_cons_of_pos inside

theorem current_outside
    (outside : forall session, session ∈ calendarSessions tables code ->
      surrounds now session = false) :
    currentSession (relevantSessions tables.sessions code now) now = none := by
  refine List.find?_eq_none.mpr fun session member => ?_
  rw [outside session (mem_relevant member).1]
  exact Bool.false_ne_true

/-- Either a session surrounds the instant, or none does. -/
theorem surrounded_or (tables : Tables) (code : String) (now : Instant) :
    (exists session, session ∈ calendarSessions tables code ∧ surrounds now session = true) ∨
      forall session, session ∈ calendarSessions tables code -> surrounds now session = false := by
  by_cases found : exists session, session ∈ calendarSessions tables code ∧
      surrounds now session = true
  · exact .inl found
  · refine .inr fun session member => ?_
    exact Bool.eq_false_iff.mpr fun inside => found ⟨session, member, inside⟩

end Windows

/-! ## The resolved mode -/

section Resolution

variable {tables : Tables} {code : String} {now : Instant} {session : TradingSession}

def modeAround (session : TradingSession) (now : Instant) : Mode :=
  if now < session.openTime then .preMarket
  else if now ≤ session.closeTime then .market
  else .postMarket

theorem resolveMode_inside (spaced : Spaced (calendarSessions tables code))
    (member : session ∈ calendarSessions tables code) (inside : surrounds now session = true) :
    (operatingState tables.sessions code now).mode = modeAround session now ∧
      (operatingState tables.sessions code now).nextTransitionAt = some
        (if now < session.openTime then session.openTime
        else if now ≤ session.closeTime then session.closeTime
        else session.closeTime + twoHours) := by
  unfold operatingState resolveMode modeAround
  dsimp only
  rw [current_inside spaced member inside]
  dsimp only
  split
  · exact ⟨rfl, rfl⟩
  · split <;> exact ⟨rfl, rfl⟩

theorem resolveMode_outside
    (outside : forall session, session ∈ calendarSessions tables code ->
      surrounds now session = false) :
    (operatingState tables.sessions code now).mode = .economy ∧
      (operatingState tables.sessions code now).nextTransitionAt =
        (relevantSessions tables.sessions code now).head?.map
          fun session => session.openTime - twoHours := by
  unfold operatingState resolveMode
  dsimp only
  rw [current_outside outside]
  exact ⟨rfl, rfl⟩

theorem outside_cases (outside : surrounds now session = false) :
    now < session.openTime - twoHours ∨ session.closeTime + twoHours < now := by
  by_contra neither
  rcases not_or.mp neither with ⟨low, high⟩
  rw [surrounds_iff.mpr ⟨not_lt.mp low, not_lt.mp high⟩] at outside
  cases outside

/-- The mode is that of the window. -/
theorem mode_inWindow (spaced : Spaced (calendarSessions tables code)) :
    InWindow (calendarSessions tables code) now
      (operatingState tables.sessions code now).mode := by
  rcases surrounded_or tables code now with ⟨session, member, inside⟩ | outside
  · rw [(resolveMode_inside spaced member inside).1]
    rcases surrounds_iff.mp inside with ⟨low, high⟩
    unfold modeAround
    split
    · rename_i early
      exact ⟨session, member, low, early⟩
    · rename_i opened
      split
      · rename_i within
        exact ⟨session, member, not_lt.mp opened, within⟩
      · rename_i closed
        exact ⟨session, member, not_le.mp closed, high⟩
  · rw [(resolveMode_outside outside).1]
    exact fun session member => outside_cases (outside session member)

/-- The next transition outside all windows is the first one of the next session. -/
theorem economy_changes (spaced : Spaced (calendarSessions tables code))
    (outside : forall session, session ∈ calendarSessions tables code ->
      surrounds now session = false) {next : Instant}
    (announced : (operatingState tables.sessions code now).nextTransitionAt = some next) :
    ChangesNext (fun time => (operatingState tables.sessions code time).mode) now next := by
  rw [(resolveMode_outside outside).2] at announced
  rcases Option.map_eq_some_iff.mp announced with ⟨first, head, same⟩
  subst same
  have known := mem_relevant (List.mem_of_mem_head? head)
  have least := (head?_sortedBy (head?_relevant.symm.trans head)).2
  have opens := spaced.ordered first known.1
  have positive : 0 < twoHours := by decide
  have later : now < first.openTime - twoHours := by
    rcases outside_cases (outside first known.1) with before | after
    · exact before
    · linarith [known.2]
  refine ⟨later, fun time after before => ?_, ?_⟩
  · have free : forall session, session ∈ calendarSessions tables code ->
        surrounds time session = false := by
      intro session member
      refine Bool.eq_false_iff.mpr fun inside => ?_
      rcases surrounds_iff.mp inside with ⟨low, high⟩
      rcases mem_calendarSessions.mp member with ⟨stored, own⟩
      have recent : now - twoHours ≤ session.closeTime := by linarith
      have order := least session (mem_sortedBy.mp (mem_recent.mpr ⟨stored, own, recent⟩))
      linarith
    dsimp only
    rw [(resolveMode_outside free).1, (resolveMode_outside outside).1]
  · have inside : surrounds (first.openTime - twoHours) first = true :=
      surrounds_iff.mpr ⟨le_refl _, by linarith⟩
    dsimp only
    rw [(resolveMode_inside spaced known.1 inside).1, (resolveMode_outside outside).1]
    unfold modeAround
    rw [if_pos (by linarith)]
    nofun

/-- The next transition before the open is the open. -/
theorem preMarket_changes (spaced : Spaced (calendarSessions tables code))
    (member : session ∈ calendarSessions tables code)
    (low : session.openTime - twoHours ≤ now) (early : now < session.openTime) {next : Instant}
    (announced : (operatingState tables.sessions code now).nextTransitionAt = some next) :
    ChangesNext (fun time => (operatingState tables.sessions code time).mode) now next := by
  have opens := spaced.ordered session member
  have positive : 0 < twoHours := by decide
  have around : forall time, now ≤ time -> time ≤ session.openTime ->
      (operatingState tables.sessions code time).mode = modeAround session time := by
    intro time after before
    refine (resolveMode_inside spaced member (surrounds_iff.mpr ⟨?_, ?_⟩)).1
    · exact low.trans after
    · linarith
  have inside : surrounds now session = true := surrounds_iff.mpr ⟨low, by linarith⟩
  rw [(resolveMode_inside spaced member inside).2, if_pos early] at announced
  have same := Option.some.inj announced
  subst same
  refine ⟨early, fun time after before => ?_, ?_⟩
  · dsimp only
    rw [around time after before.le, around now (le_refl _) early.le]
    unfold modeAround
    rw [if_pos before, if_pos early]
  · dsimp only
    rw [around _ early.le (le_refl _), around now (le_refl _) early.le]
    unfold modeAround
    rw [if_neg (lt_irrefl _), if_pos opens.le, if_pos early]
    nofun

/-- The announced end of a session, and of the window after it, has the mode that ends. -/
theorem closed_stays (spaced : Spaced (calendarSessions tables code))
    (member : session ∈ calendarSessions tables code)
    (opened : session.openTime ≤ now) (high : now ≤ session.closeTime + twoHours) :
    exists next, (operatingState tables.sessions code now).nextTransitionAt = some next ∧
      (operatingState tables.sessions code next).mode =
        (operatingState tables.sessions code now).mode := by
  have opens := spaced.ordered session member
  have positive : 0 < twoHours := by decide
  have inside : surrounds now session = true := surrounds_iff.mpr ⟨by linarith, high⟩
  have resolved := resolveMode_inside spaced member inside
  rw [if_neg (not_lt.mpr opened)] at resolved
  refine ⟨_, resolved.2, ?_⟩
  rw [resolved.1]
  unfold modeAround
  rw [if_neg (not_lt.mpr opened)]
  by_cases within : now ≤ session.closeTime
  · rw [if_pos within, if_pos within]
    have ends : surrounds session.closeTime session = true :=
      surrounds_iff.mpr ⟨by linarith, by linarith⟩
    rw [(resolveMode_inside spaced member ends).1]
    unfold modeAround
    rw [if_neg (not_lt.mpr opens.le), if_pos (le_refl _)]
  · rw [if_neg within, if_neg within]
    have ends : surrounds (session.closeTime + twoHours) session = true :=
      surrounds_iff.mpr ⟨by linarith, le_refl _⟩
    rw [(resolveMode_inside spaced member ends).1]
    unfold modeAround
    rw [if_neg (by linarith), if_neg (by linarith)]

end Resolution

/-! ## The step function -/

/-- The mode that a call returns. -/
def modeAt (tables : Tables) (code : String) (now : Instant) : Option Mode :=
  (determineOperatingMode tables code now).toOption.map fun result => result.1.mode

/-- The call returns the mode of the window, and the next transition is the next change of the
mode. -/
def Consistent (tables : Tables) (code : String) (now : Instant) : Prop :=
  exists state after, determineOperatingMode tables code now = .ok (state, after) ∧
    InWindow (calendarSessions tables code) now state.mode ∧
    forall next, state.nextTransitionAt = some next -> ChangesNext (modeAt tables code) now next

section Steps

variable {tables : Tables} {code : String} {now : Instant}

theorem determine_ok (configured : code ∈ tables.calendars) :
    determineOperatingMode tables code now =
      .ok (operatingState tables.sessions code now,
        { tables with states := tables.states ++ [operatingState tables.sessions code now] }) :=
  if_pos configured

theorem modeAt_ok (configured : code ∈ tables.calendars) (time : Instant) :
    modeAt tables code time = some (operatingState tables.sessions code time).mode := by
  unfold modeAt
  rw [determine_ok configured]
  rfl

theorem changesNext_modeAt (configured : code ∈ tables.calendars) {next : Instant} :
    ChangesNext (modeAt tables code) now next <->
      ChangesNext (fun time => (operatingState tables.sessions code time).mode) now next := by
  unfold ChangesNext
  simp only [modeAt_ok configured, Option.some.injEq, ne_eq]

/-- The mode and the next transition agree exactly outside the sessions and the windows of two
hours after them.  Inside them the transition that is announced is not the one that comes next.
-/
theorem operatingMode_iff (tables : Tables) (code : String)
    (configured : code ∈ tables.calendars) (spaced : Spaced (calendarSessions tables code))
    (now : Instant) :
    Consistent tables code now <->
      forall session, session ∈ calendarSessions tables code ->
        ¬ (session.openTime ≤ now ∧ now ≤ session.closeTime + twoHours) := by
  constructor
  · rintro ⟨state, after, returned, -, changes⟩ session member ⟨opened, high⟩
    rw [determine_ok configured] at returned
    cases returned
    rcases closed_stays spaced member opened high with ⟨next, announced, same⟩
    have change := (changesNext_modeAt configured).mp (changes next announced)
    exact change.2.2 same
  · intro clear
    refine ⟨_, _, determine_ok configured, mode_inWindow spaced, fun next announced => ?_⟩
    rw [changesNext_modeAt configured]
    rcases surrounded_or tables code now with ⟨session, member, inside⟩ | outside
    · rcases surrounds_iff.mp inside with ⟨low, high⟩
      have early : now < session.openTime :=
        not_le.mp fun opened => clear session member ⟨opened, high⟩
      exact preMarket_changes spaced member low early announced
    · exact economy_changes spaced outside announced

/-- One session from 14:30 to 21:00, as microseconds of a day. -/
def januarySession : TradingSession where
  calendar := "XNYS"
  sessionDate := "2026-01-02"
  openTime := 52200000000
  closeTime := 75600000000

def januaryTables : Tables := ⟨["XNYS"], [januarySession], []⟩

theorem januaryTables_spaced : Spaced (calendarSessions januaryTables "XNYS") where
  ordered := by decide
  apart := by
    rw [show calendarSessions januaryTables "XNYS" = [januarySession] by decide]
    exact List.pairwise_singleton _ _

/-- Two hours before the open the announced transition is the next change. -/
theorem januaryOpen_consistent : Consistent januaryTables "XNYS" 45000000000 := by
  refine (operatingMode_iff januaryTables "XNYS" (by decide) januaryTables_spaced _).mpr ?_
  decide

/-- At noon the close is announced, and the market is still open then; at the close the
announced transition is that same instant. -/
theorem januaryClose_inconsistent :
    modeAt januaryTables "XNYS" 60000000000 = some .market ∧
      (operatingState januaryTables.sessions "XNYS" 60000000000).nextTransitionAt =
        some 75600000000 ∧
      modeAt januaryTables "XNYS" 75600000000 = some .market ∧
      (operatingState januaryTables.sessions "XNYS" 75600000000).nextTransitionAt =
        some 75600000000 ∧
      ¬ Consistent januaryTables "XNYS" 60000000000 := by
  refine ⟨by decide, by decide, by decide, by decide, ?_⟩
  rintro ⟨state, after, returned, -, changes⟩
  have own : state = operatingState januaryTables.sessions "XNYS" 60000000000 := by
    rw [determine_ok (by decide)] at returned
    cases returned
    rfl
  subst own
  have change := changes 75600000000 (by decide)
  exact absurd change.2.2 (by decide)

end Steps

end OperatingModes
end MarketData
end MarketIntelligence
