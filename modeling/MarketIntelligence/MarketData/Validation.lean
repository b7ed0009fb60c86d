import MarketIntelligence.MarketData.Types

namespace MarketIntelligence
namespace MarketData

/-!
# Validation of provider records

Every record is checked against every rule, and a report is valid when none of
its issues is an error.  Text is normalised by the functions of the standard
library, which are parameters.
-/

/-- What the package takes from the standard library, and its SHA-256 digests. -/
structure Library where
  strip : String -> String
  upper : String -> String
  isoformat : Instant -> String
  barDigest : HistoricalBarRecord -> String
  actionDigest : CorporateActionRecord -> String
  metadataDigest : AssetMetadataRecord -> String
  batchDigest : String -> List String -> String

/-- Text as it is, for runs on given records. -/
def plainLibrary : Library where
  strip := id
  upper := id
  isoformat := toString
  barDigest := fun record => record.symbol ++ toString record.eventTime
  actionDigest := fun record => record.symbol ++ toString record.effectiveTime
  metadataDigest := fun record => record.symbol
  batchDigest := fun symbol checksums => String.join (symbol :: checksums)

def day : Int := 24 * 60 * 60 * 1000000

/-- `value.date()` in UTC. -/
def dateOf (instant : Instant) : Int := instant / day

/-- `SYMBOL_PATTERN.fullmatch` -/
def symbolPattern (text : String) : Bool :=
  match text.toList with
  | [] => false
  | head :: tail =>
      head.isUpper && tail.length ≤ 15 &&
        tail.all fun letter => letter.isUpper || letter.isDigit || letter = '.' || letter = '-'

section Bars

variable (library : Library)

def validateSymbol (symbol : String) : Bool :=
  symbolPattern (library.upper (library.strip symbol))

def recordIdentifier (record : HistoricalBarRecord) : String :=
  record.symbol ++ ":" ++ record.interval ++ ":" ++ library.isoformat record.eventTime

/-- The key under which a second bar of a batch is a duplicate. -/
def duplicateKey (record : HistoricalBarRecord) : String × String × Instant :=
  (library.upper record.symbol, record.interval, record.eventTime)

/-- An issue about the record when the rule is broken. -/
def issueWhen (broken : Bool) (code message severity : String) (record : HistoricalBarRecord) :
    List ValidationIssue :=
  if broken then [⟨code, message, severity, recordIdentifier library record⟩] else []

def issuesOf (validSessionDates : Option (List Int)) (staleAfter : Int) (now : Instant)
    (seen : List (String × String × Instant)) (record : HistoricalBarRecord) :
    List ValidationIssue :=
  issueWhen library (!validateSymbol library record.symbol) "invalid_symbol"
      ("Invalid symbol '" ++ record.symbol ++ "'.") "error" record ++
    issueWhen library
      (record.high < max record.openPrice record.closePrice ||
        record.low > min record.openPrice record.closePrice || record.high < record.low)
      "impossible_ohlc" "OHLC values are internally inconsistent." "error" record ++
    issueWhen library
      (min record.openPrice
        (min record.high (min record.low (min record.closePrice record.adjustedClose))) ≤ 0)
      "nonpositive_price" "Prices must be positive." "error" record ++
    issueWhen library (record.volume < 0) "negative_volume" "Volume cannot be negative." "error"
      record ++
    issueWhen library (duplicateKey library record ∈ seen) "duplicate_bar"
      "Duplicate symbol/interval/event-time bar." "error" record ++
    issueWhen library
      (validSessionDates.any fun dates => dateOf record.eventTime ∉ dates) "missing_session"
      "Bar falls on a closed exchange session." "error" record ++
    issueWhen library (now - record.retrievalTime > staleAfter) "stale_import"
      "Retrieval timestamp exceeds the freshness threshold." "warning" record

/-- The report so far, and the keys of the records seen. -/
def checkRecord (validSessionDates : Option (List Int)) (staleAfter : Int) (now : Instant)
    (progress : ValidationReport × List (String × String × Instant))
    (record : HistoricalBarRecord) : ValidationReport × List (String × String × Instant) :=
  let issues := issuesOf library validSessionDates staleAfter now progress.2 record
  ({ recordsChecked := progress.1.recordsChecked + 1
     validRecords := progress.1.validRecords + (if issues = [] then 1 else 0)
     issues := progress.1.issues ++ issues },
    duplicateKey library record :: progress.2)

def validateHistoricalBars (records : List HistoricalBarRecord)
    (validSessionDates : Option (List Int)) (staleAfter : Int) (now : Instant) :
    ValidationReport :=
  (records.foldl (checkRecord library validSessionDates staleAfter now) (⟨0, 0, []⟩, [])).1

end Bars

def supportedActionTypes : List String := ["split", "reverse_split", "dividend", "symbol_change"]

/-- An absent text, or an empty one. -/
def blank (text : Option String) : Bool := text.getD "" = ""

def validateCorporateAction (action : CorporateActionRecord) : Except Exception PUnit :=
  if action.actionType ∉ supportedActionTypes then
    .error (.valueError ("unsupported corporate action '" ++ action.actionType ++ "'"))
  else if (action.actionType = "split" ∨ action.actionType = "reverse_split") ∧
      action.ratio.all (· ≤ 0) then
    .error (.valueError "split and reverse-split actions require a positive ratio")
  else if action.actionType = "dividend" ∧
      (action.amount.all (· < 0) ∨ blank action.currency) then
    .error (.valueError "dividend actions require a nonnegative amount and currency")
  else if action.actionType = "symbol_change" ∧ (blank action.oldSymbol ∨ blank action.newSymbol) then
    .error (.valueError "symbol changes require old_symbol and new_symbol")
  else .ok ⟨⟩

end MarketData
end MarketIntelligence
