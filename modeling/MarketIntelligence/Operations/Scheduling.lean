import MarketIntelligence.Foundations.Runs
import MarketIntelligence.Foundations.SortedLists
import MarketIntelligence.Foundations.Trails
import MarketIntelligence.Operations.Worker
import Mathlib.Data.Prod.Lex

namespace MarketIntelligence
namespace Operations
namespace Scheduling

open Foundations

/-!
# The operations scheduler

A round of a scheduler reads the definitions that are due, inserts an occurrence for each
and moves the definition to its next due time, and commits.  Any number of schedulers do
so at once.  An insert that meets a committed row of the same key fails; one that meets an
uncommitted row waits.  What a round raises rolls it back.

Instants count from the Unix epoch.  Upper casing and the digest of a key are parameters.
-/

/-! ## Due times -/

/-- An entry of a schedule: absent, a number, or a value that `int` refuses. -/
inductive ScheduleNumber where
  | absent
  | integer (value : Int)
  | unreadable (refusal : Exception)
  deriving DecidableEq, Repr

def ScheduleNumber.read (default : Int) : ScheduleNumber -> Except Exception Int
  | absent => .ok default
  | integer value => .ok value
  | unreadable refusal => .error refusal

structure Schedule where
  seconds : ScheduleNumber
  days : ScheduleNumber
  deriving DecidableEq, Repr

structure ScheduledTaskDefinition where
  id : Identifier
  workspaceId : Option Identifier
  enabled : Bool
  scheduleType : String
  schedule : Schedule
  nextDueAt : Instant
  lastScheduledAt : Option Instant
  deriving DecidableEq, Repr

def second : Instant := 1000000

def day : Instant := 86400 * second

/-- `datetime.max` -/
def latestInstant : Instant := 253402300799999999

def overflowError : Exception := ⟨.otherException, "OverflowError"⟩

/-- Monday is 0, and the epoch was a Thursday. -/
def weekday (instant : Instant) : Int :=
  (instant / day + 3) % 7

/-- `due + timedelta(...)` -/
def later (due delta : Instant) : Except Exception Instant :=
  if latestInstant < due + delta then .error overflowError else .ok (due + delta)

/-- The loop of `next_due` over the days of a weekend. -/
def skipWeekend (candidate : Instant) : Except Exception Instant :=
  if 5 ≤ weekday candidate then
    if latestInstant < candidate + day then .error overflowError
    else skipWeekend (candidate + day)
  else .ok candidate
termination_by if 5 ≤ weekday candidate then (7 - weekday candidate).toNat else 0
decreasing_by
  have next : weekday (candidate + day) = (weekday candidate + 1) % 7 := by
    unfold weekday day second
    omega
  have bound : weekday candidate < 7 := by
    unfold weekday
    omega
  simp only [next]
  split <;> omega

section NextDue

variable (upper : String -> String)

def nextDue (definition : ScheduledTaskDefinition) (due : Instant) : Except Exception Instant :=
  let scheduleType := upper definition.scheduleType
  if scheduleType = "INTERVAL" then do
    let seconds ← definition.schedule.seconds.read 3600
    later due (max 60 seconds * second)
  else if scheduleType = "DAILY" then later due day
  else if scheduleType = "WEEKLY" then later due (7 * day)
  else if scheduleType = "MARKET_CALENDAR" ∨ scheduleType = "DATASET_CADENCE" then do
    let days ← definition.schedule.days.read 1
    let candidate ← later due (max 1 days * day)
    if scheduleType = "MARKET_CALENDAR" then skipWeekend candidate else .ok candidate
  else .error valueError

end NextDue

/-! ## Rounds of schedulers -/

structure ScheduledTaskOccurrence where
  definitionId : Identifier
  workspaceId : Option Identifier
  scheduledFor : Instant
  status : Status
  idempotencyKey : String
  scheduledBy : String
  deriving DecidableEq, Repr

/-- An occurrence that is inserted but not committed, and where its definition moves.  The two
are committed together or not at all. -/
structure Pending where
  occurrence : ScheduledTaskOccurrence
  nextDueAt : Instant
  deriving DecidableEq, Repr

/-- An open transaction of a scheduler: the definitions that it has read, those that the
loop has not reached, and what it has written. -/
structure Round where
  schedulerId : String
  read : List ScheduledTaskDefinition
  remaining : List ScheduledTaskDefinition
  written : List Pending
  deriving DecidableEq, Repr

/-- The committed tables, and the open rounds.  A round sees its own writes, and the others see
them once it has committed. -/
structure System where
  definitions : List ScheduledTaskDefinition
  occurrences : List ScheduledTaskOccurrence
  rounds : List Round
  deriving DecidableEq, Repr

inductive Step where
  | read (schedulerId : String) (now : Instant) (limit : Nat)
  | claim (schedulerId : String)
  | commit (schedulerId : String)
  | abort (schedulerId : String)
  deriving DecidableEq, Repr

def clashes (first second : ScheduledTaskOccurrence) : Bool :=
  (first.definitionId = second.definitionId && first.scheduledFor = second.scheduledFor) ||
    first.idempotencyKey = second.idempotencyKey

def System.others (system : System) (schedulerId : String) : List Round :=
  system.rounds.filter fun round => round.schedulerId ≠ schedulerId

/-- The occurrence meets a committed row, or one of its own round. -/
def System.refuses (system : System) (round : Round) (occurrence : ScheduledTaskOccurrence) :
    Bool :=
  system.occurrences.any (clashes · occurrence) ||
    round.written.any fun pending => clashes pending.occurrence occurrence

/-- The occurrence meets an uncommitted row of another round. -/
def System.blocks (system : System) (round : Round) (occurrence : ScheduledTaskOccurrence) :
    Bool :=
  (system.others round.schedulerId).any fun other =>
    other.written.any fun pending => clashes pending.occurrence occurrence

/-- Another open round has read the definition. -/
def System.locked (system : System) (schedulerId : String) (definitionId : Identifier) : Bool :=
  (system.others schedulerId).any fun other =>
    other.read.any fun definition => definition.id = definitionId

section Rounds

variable (upper : String -> String) (digest : Identifier × Instant -> String)
  (postgresql : Bool)

/-- The definitions that are due, without the locked rows on PostgreSQL. -/
def System.due (system : System) (schedulerId : String) (now : Instant) (limit : Nat) :
    List ScheduledTaskDefinition :=
  (SortedLists.sortedBy
    (fun definition : ScheduledTaskDefinition => toLex (definition.nextDueAt, definition.id))
    (system.definitions.filter fun definition =>
      definition.enabled && definition.nextDueAt ≤ now &&
        !(postgresql && system.locked schedulerId definition.id))).take limit

def occurrenceOf (schedulerId : String) (definition : ScheduledTaskDefinition) :
    ScheduledTaskOccurrence where
  definitionId := definition.id
  workspaceId := definition.workspaceId
  scheduledFor := definition.nextDueAt
  status := .queued
  idempotencyKey := digest (definition.id, definition.nextDueAt)
  scheduledBy := schedulerId

def System.write (system : System) (round : Round) : System :=
  { system with rounds := Tables.put Round.schedulerId round system.rounds }

def System.close (system : System) (schedulerId : String) : System :=
  { system with rounds := system.others schedulerId }

/-- One pass of the loop.  A refused insert is passed over, and a blocked one waits. -/
def System.claim (system : System) (round : Round) : System :=
  match round.remaining with
  | [] => system
  | definition :: rest =>
      let occurrence := occurrenceOf digest round.schedulerId definition
      if system.refuses round occurrence then system.write { round with remaining := rest }
      else if system.blocks round occurrence then system
      else
        match nextDue upper definition definition.nextDueAt with
        | .error _ => system.close round.schedulerId
        | .ok next =>
            system.write { round with
              remaining := rest
              written := round.written ++ [{ occurrence := occurrence, nextDueAt := next }] }

/-- What a round has written about a definition. -/
def Round.pending (round : Round) (definitionId : Identifier) : Option Pending :=
  Tables.lookup (fun pending : Pending => pending.occurrence.definitionId) definitionId
    round.written

def Round.moved (round : Round) (definition : ScheduledTaskDefinition) :
    ScheduledTaskDefinition :=
  match round.pending definition.id with
  | none => definition
  | some pending =>
      { definition with
        lastScheduledAt := some pending.occurrence.scheduledFor
        nextDueAt := pending.nextDueAt }

/-- A round commits when its loop has ended. -/
def System.commit (system : System) (round : Round) : System :=
  if round.remaining = [] then
    { definitions := system.definitions.map round.moved
      occurrences := system.occurrences ++ round.written.map Pending.occurrence
      rounds := system.others round.schedulerId }
  else system

def System.round (system : System) (schedulerId : String) : Option Round :=
  Tables.lookup Round.schedulerId schedulerId system.rounds

/-- A scheduler reads when it has no round, and its other steps need one. -/
def System.step (system : System) : Step -> System
  | .read schedulerId now limit =>
      match system.round schedulerId with
      | some _ => system
      | none =>
          let definitions := system.due postgresql schedulerId now limit
          system.write
            { schedulerId := schedulerId
              read := definitions
              remaining := definitions
              written := [] }
  | .claim schedulerId =>
      (system.round schedulerId).elim system (system.claim upper digest)
  | .commit schedulerId => (system.round schedulerId).elim system system.commit
  | .abort schedulerId => system.close schedulerId

end Rounds

/-- The definitions before the first round. -/
structure Timetable where
  definitions : List ScheduledTaskDefinition
  ids_nodup : (definitions.map ScheduledTaskDefinition.id).Nodup

def Timetable.opening (timetable : Timetable) : System where
  definitions := timetable.definitions
  occurrences := []
  rounds := []

end Scheduling
end Operations
end MarketIntelligence
