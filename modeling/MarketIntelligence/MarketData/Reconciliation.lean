import MarketIntelligence.Foundations.RunningNotes
import MarketIntelligence.Foundations.SortedLists
import MarketIntelligence.MarketData.Ingestion
import Mathlib.Data.Prod.Lex
import Mathlib.Data.String.Basic

namespace MarketIntelligence
namespace MarketData
namespace Reconciliation

open Foundations
open SortedLists
open RunningNotes

/-!
# Reconciliation of the stored bars

A reconciliation reads the stored bars of its scope in the order of their symbols and times, and
reports what is wrong with them.  Most of it is read off from one bar and the bars of the same key.
Gaps come from a note of the last time of each symbol, stale symbols from a note of the latest one.
Neither note depends on how the pass mixes the symbols, so the report is exactly what is wrong with
the stored bars themselves.

A conflict of an earlier import is reported whatever symbols are asked for.
-/

structure Issue where
  type : String
  severity : String
  record : String
  existingChecksum : Option String
  incomingChecksum : Option String
  deriving DecidableEq, Repr

/-- The arguments of a reconciliation. -/
structure Scope where
  providerId : Option Identifier
  symbols : Option (List String)
  staleAfterDays : Int
  deriving DecidableEq, Repr

/-- The text of a date, by the number of its day, and of the identifier of an error row. -/
structure Texts where
  isodate : Int -> String
  errorId : ImportError -> String

structure Report where
  dryRun : Bool
  recordsChecked : Nat
  issueCount : Nat
  conflictCount : Nat
  issues : List Issue
  deriving DecidableEq, Repr

/-! ## The bars in scope -/

section Rows

variable (library : Library) (scope : Scope) (database : Database)

def Scope.ofProvider (bar : PriceBar) : Bool :=
  match scope.providerId with
  | none => true
  | some id => (Tables.lookup (·.id) id database.providers).any fun row =>
      bar.provider = some row.code

def Scope.ofSymbols (bar : PriceBar) : Bool :=
  match scope.symbols with
  | none | some [] => true
  | some (first :: rest) => bar.asset ∈ (first :: rest).map library.upper

/-- The bars of the query, in the order of their insertion. -/
def storedBars : List PriceBar :=
  database.rows.bars.filter fun bar =>
    database.rows.assets.any (·.symbol = bar.asset) && scope.ofProvider database bar &&
      scope.ofSymbols library bar

/-- `order_by(Asset.symbol, PriceBar.event_time)` -/
def orderedBars : List PriceBar :=
  sortedBy (fun bar => toLex (bar.asset, bar.eventTime)) (storedBars library scope database)

end Rows

/-! ## The checks of a bar -/

def identifier (library : Library) (bar : PriceBar) : String :=
  bar.asset ++ ":" ++ bar.interval ++ ":" ++ library.isoformat bar.eventTime

def providerKey (bar : PriceBar) : Option String × String × String × Instant :=
  (bar.provider, bar.asset, bar.interval, bar.eventTime)

def canonicalKey (bar : PriceBar) : String × String × Instant :=
  (bar.asset, bar.interval, bar.eventTime)

def issueOf (type severity record : String) : Issue := ⟨type, severity, record, none, none⟩

def flag (broken : Bool) (type severity record : String) : List Issue :=
  if broken then [issueOf type severity record] else []

section Checks

variable (library : Library) (validSessions : List Int) (rows : List PriceBar)

def volumeIssues (bar : PriceBar) : List Issue :=
  if bar.volume < 0 then [issueOf "negative_volume" "error" (identifier library bar)]
  else if bar.volume = 0 then
    [issueOf "zero_volume_anomaly" "warning" (identifier library bar)]
  else []

/-- The issues that the body of the loop finds in a bar without its predecessors. -/
def barIssues (bar : PriceBar) : List Issue :=
  flag (1 < rows.countP fun other => providerKey other = providerKey bar)
      "duplicate_provider_record" "error" (identifier library bar) ++
    flag (1 < rows.countP fun other => canonicalKey other = canonicalKey bar)
      "duplicate_canonical_record" "error" (identifier library bar) ++
    flag (dateOf bar.eventTime ∉ validSessions) "closed_session_bar" "error"
      (identifier library bar) ++
    flag (bar.high < max bar.openPrice bar.closePrice || bar.low > min bar.openPrice bar.closePrice)
      "invalid_ohlc" "error" (identifier library bar) ++
    volumeIssues library bar ++
    flag (bar.originalSymbol = "" || library.upper bar.originalSymbol ≠ library.upper bar.asset)
      "symbol_mismatch" "error" (identifier library bar) ++
    flag (bar.adjustmentStatus = "unadjusted" && bar.adjustedClose ≠ bar.closePrice)
      "adjustment_inconsistency" "error" (identifier library bar)

def gapIssues (prior : Option Instant) (bar : PriceBar) : List Issue :=
  flag (prior.any fun instant => bar.eventTime - instant > 7 * day) "unexpected_date_gap" "warning"
    (identifier library bar)

structure Progress where
  issues : List Issue
  latest : List (String × Instant)
  previous : List (String × Instant)
  deriving DecidableEq, Repr

/-- The body of the loop over the bars. -/
def checkBar (progress : Progress) (bar : PriceBar) : Progress where
  issues := progress.issues ++ barIssues library validSessions rows bar ++
    gapIssues library (noted progress.previous bar.asset) bar
  previous := note PriceBar.asset (lastValue PriceBar.eventTime) progress.previous bar
  latest := note PriceBar.asset (largestValue PriceBar.eventTime) progress.latest bar

def checkBars : Progress := rows.foldl (checkBar library validSessions rows) ⟨[], [], []⟩

end Checks

/-! ## The report -/

def staleIssues (staleAfterDays : Int) (current : Instant) (latest : List (String × Instant)) :
    List Issue :=
  latest.flatMap fun entry =>
    flag (current - entry.2 > staleAfterDays * day) "stale_latest_bar" "warning" entry.1

/-- The dates on which a symbol has bars. -/
def observedDates (rows : List PriceBar) : List (String × List Int) :=
  rows.foldl (note PriceBar.asset (allValues fun bar => dateOf bar.eventTime)) []

/-- `sorted(expected - observed)` -/
def missingDates (validSessions observed : List Int) : List Int :=
  match observed.min?, observed.max? with
  | some first, some last =>
      sortedBy id (validSessions.filter fun date =>
        first ≤ date ∧ date ≤ last ∧ date ∉ observed).dedup
  | _, _ => []

def missingIssues (texts : Texts) (validSessions : List Int) (rows : List PriceBar) : List Issue :=
  (observedDates rows).flatMap fun entry =>
    (missingDates validSessions entry.2).map fun missing =>
      issueOf "missing_expected_session" "warning" (entry.1 ++ ":" ++ texts.isodate missing)

/-- The conflicting reimports of the provider asked for. -/
def conflicts (scope : Scope) (database : Database) : List ImportError :=
  database.errors.filter fun error =>
    error.errorCode = "conflicting_reimport" &&
      (Tables.lookup ImportJob.id error.jobId database.jobs).any fun job =>
        scope.providerId.all fun id => job.request.providerId = id

def conflictIssue (texts : Texts) (error : ImportError) : Issue where
  type := "checksum_change"
  severity := "error"
  record := match error.recordIdentifier with
    | none | some "" => texts.errorId error
    | some known => known
  existingChecksum := error.payloadSummary.lookup "existing_checksum"
  incomingChecksum := error.payloadSummary.lookup "incoming_checksum"

def conflictTypes : List String :=
  ["duplicate_provider_record", "duplicate_canonical_record", "checksum_change"]

section Preview

variable (library : Library) (texts : Texts) (scope : Scope) (current : Instant)
  (database : Database)

/-- `select(TradingSession.session_date)`, open or not. -/
def sessionDates : List Int := database.calendar.map TradingSession.sessionDate

def previewIssues : List Issue :=
  (checkBars library (sessionDates database) (orderedBars library scope database)).issues ++
    staleIssues scope.staleAfterDays current
      (checkBars library (sessionDates database) (orderedBars library scope database)).latest ++
    missingIssues texts (sessionDates database) (orderedBars library scope database) ++
    (conflicts scope database).map (conflictIssue texts)

def previewReconciliation : Report where
  dryRun := true
  recordsChecked := (orderedBars library scope database).length
  issueCount := (previewIssues library texts scope current database).length
  conflictCount :=
    (previewIssues library texts scope current database).countP fun item =>
      item.type ∈ conflictTypes
  issues := previewIssues library texts scope current database

end Preview

/-! ## A run that is kept -/

structure ReconciliationRun where
  id : Identifier
  providerId : Option Identifier
  status : String
  dryRun : Bool
  symbols : List String
  recordsChecked : Nat
  issueCount : Nat
  conflictCount : Nat
  completedAt : Instant
  deriving DecidableEq, Repr

structure ReconciliationIssue where
  runId : Identifier
  providerId : Option Identifier
  issueType : String
  severity : String
  recordIdentifier : String
  outcome : String
  resolutionDecision : String
  existingChecksum : Option String
  incomingChecksum : Option String
  mutated : Bool
  deriving DecidableEq, Repr

structure Reconciliations where
  runs : List ReconciliationRun
  issues : List ReconciliationIssue
  deriving DecidableEq, Repr

/-- What a run is asked for.  `symbols` and the stale limit are those of a scope. -/
structure RunRequest where
  id : Identifier
  providerId : Option Identifier
  symbols : Option (List String)
  dryRun : Bool
  current : Instant
  completedAt : Instant
  deriving DecidableEq, Repr

def RunRequest.scope (request : RunRequest) : Scope := ⟨request.providerId, request.symbols, 7⟩

def newIssue (request : RunRequest) (issue : Issue) : ReconciliationIssue where
  runId := request.id
  providerId := request.providerId
  issueType := issue.type
  severity := issue.severity
  recordIdentifier := issue.record
  outcome := "preserved"
  resolutionDecision := if request.dryRun then "dry_run" else "manual_review"
  existingChecksum := issue.existingChecksum
  incomingChecksum := issue.incomingChecksum
  mutated := false

def runReconciliation (library : Library) (texts : Texts) (request : RunRequest)
    (database : Database) (kept : Reconciliations) :
    Except Exception (ReconciliationRun × Reconciliations) :=
  if request.providerId.any fun id => (Tables.lookup (·.id) id database.providers).isNone then
    .error (.valueError "provider was not found")
  else
    let report := previewReconciliation library texts request.scope request.current database
    let run : ReconciliationRun :=
      { id := request.id
        providerId := request.providerId
        status := "succeeded"
        dryRun := request.dryRun
        symbols := request.symbols.getD []
        recordsChecked := report.recordsChecked
        issueCount := report.issueCount
        conflictCount := report.conflictCount
        completedAt := request.completedAt }
    .ok (run,
      { runs := kept.runs ++ [run]
        issues := kept.issues ++ report.issues.map (newIssue request) })

end Reconciliation
end MarketData
end MarketIntelligence
