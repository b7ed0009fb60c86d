import MarketIntelligence.Payloads.Rules

namespace MarketIntelligence
namespace Payloads
namespace TwelveData

open Foundations
open Foundations.CalendarDates
open Foundations.DecimalText
open Foundations.Loops
open Foundations.Outcomes
open Foundations.TextLines

/-!
# Daily bars in the JSON of Twelve Data

The answer is an object.  It tells of an error, whose code decides which error is raised, or it
lists the bars under `values`.  Each bar is an object whose values are read through their texts.

The request and `json.loads` are parameters.
-/

def required : List String := ["datetime", "open", "high", "low", "close", "volume"]

/-- `sorted(required)`. -/
def sortedRequired : List String := ["close", "datetime", "high", "low", "open", "volume"]

def maxRangeDays : Int := 3650

/-- `[A-Z][A-Z0-9.-]{0,15}`. -/
def wellFormed : Text -> Bool
  | [] => false
  | first :: rest =>
      first.isUpper && decide (rest.length ≤ 15) &&
        rest.all fun char => char.isUpper || char.isDigit || char = '.' || char = '-'

def normalizeSymbol (library : Library) (symbol : Text) : Except Raised Text :=
  let normalized := library.upper (strip symbol)
  if wellFormed normalized then .ok normalized
  else raise .unsupportedSymbol "Unsupported Twelve Data symbol format"

/-! ## Bars -/

section Bars

variable (library : Library) (start finish : DateTime)

structure Values where
  date : Date
  prices : Prices
  volume : Decimal
  deriving DecidableEq, Repr

def readValues (members : List (String × Json)) (dateText : Text) :
    Except PyException Values := do
  let date ← strptime library dateText
  let openPrice ← number library members "open"
  let high ← number library members "high"
  let low ← number library members "low"
  let closePrice ← number library members "close"
  let volume ← number library members "volume"
  pure ⟨date, ⟨openPrice, high, low, closePrice⟩, volume⟩

def checkPrices (prices : Prices) : Except Raised Unit :=
  prices.check "Twelve Data bar contained a non-positive price"
    "Twelve Data bar contained inconsistent OHLC values"

def checkSession (seen : List Text) (dateText : Text) (date : Date) : Except Raised Unit :=
  if dateText ∈ seen ∨ (date.ordinal : Int) < start.day ∨ finish.day < date.ordinal then
    raise .data "Twelve Data returned duplicate or out-of-range sessions"
  else .ok ()

def checkVolume (volume : Decimal) : Except Raised Unit := do
  if ← unguarded (negativeOrFractional volume) then
    raise .data "Twelve Data bar contained invalid volume"
  else pure ()

def normalizedRow (members : List (String × Json)) :
    Except PyException (List (String × Text)) :=
  sortedRequired.mapM fun key => do pure (key, ← strOf library members key)

def dumpRow (row : List (String × Text)) : Except PyException Text :=
  orValueError (library.dumps (.object (row.map fun pair => (pair.1, .string pair.2))))

def record (canonical : Text) (retrieved : DateTime) (prices : Prices) (volume : Int)
    (eventTime : DateTime) (checksum : String) : BarRecord where
  symbol := canonical
  interval := "1d"
  eventTime := eventTime
  publicationTime := retrieved
  effectiveTime := eventTime
  retrievalTime := retrieved
  openPrice := prices.openPrice
  high := prices.high
  low := prices.low
  closePrice := prices.closePrice
  adjustedClose := prices.closePrice
  volume := volume
  adjustmentStatus := "provider_adjusted"
  checksum := checksum
  providerSymbol := canonical
  rawMetadata := .object [("provider_timezone", .string "America/New_York".toList),
    ("publication_time", .string "not_provided; retrieval time retained".toList)]

/-- The record of a bar whose values have been checked. -/
def buildRecord (canonical : Text) (retrieved : DateTime) (members : List (String × Json))
    (values : Values) : Except PyException BarRecord := do
  let eventTime ← sessionClose library values.date
  let normalized ← normalizedRow library members
  let dumped ← dumpRow library normalized
  let volume ← intOfDecimal values.volume
  pure (record canonical retrieved values.prices volume eventTime (library.sha256 dumped))

/-- One of the values, after the records and the texts of the dates of those before it. -/
def bar (canonical : Text) (retrieved : DateTime) (state : List BarRecord × List Text)
    (row : Json) : Except Raised (List BarRecord × List Text) :=
  match row with
  | .object members => do
      if ¬ forall key, key ∈ required -> (member members key).isSome = true then
        raise .schema "Twelve Data bar omitted required OHLCV fields"
      else do
        let dateText ← unguarded (strOf library members "datetime")
        let values ← excepting [.valueError, .invalidOperation] .data
          "Twelve Data bar contained an invalid value" (readValues library members dateText)
        checkSession start finish state.2 dateText values.date
        checkPrices values.prices
        checkVolume values.volume
        let made ← unguarded (buildRecord library canonical retrieved members values)
        pure (state.1 ++ [made], dateText :: state.2)
  | _ => raise .schema "Twelve Data returned a malformed bar"

end Bars

/-! ## The answer -/

/-- Whether a value counts as true. -/
def truthy : Json -> Bool
  | .null => false
  | .bool value => value
  | .int value => value ≠ 0
  | .float value => value ≠ 0
  | .infinity _ => true
  | .notANumber => true
  | .string value => value ≠ []
  | .list values => !values.isEmpty
  | .object members => !members.isEmpty

/-- The answer tells of an error. -/
def tellsError (members : List (String × Json)) : Bool :=
  (match member members "status" with
    | some (.string status) => status = "error".toList
    | _ => false) ||
  ((member members "code").isSome && (member members "values").isNone)

/-- `int(payload.get("code", 0) or 0)`. -/
def errorCode (library : Library) (members : List (String × Json)) : Except PyException Int :=
  match member members "code" with
  | some code => if truthy code then intOf library code else .ok 0
  | none => .ok 0

def raiseError (code : Int) : Except Raised (List BarRecord) :=
  if code = 429 then raise .rateLimit "Twelve Data rate limit reached; retry later"
  else if code = 401 ∨ code = 403 then
    raise .accessDenied "Twelve Data rejected the configured credential"
  else raise .rejectedRequest "Twelve Data returned a provider error"

section Answers

variable (library : Library) (start finish : DateTime) (canonical : Text) (retrieved : DateTime)

def readBars (rows : List Json) : Except Raised (List BarRecord) := do
  let (records, _) ← rows.foldlM (bar library start finish canonical retrieved) ([], [])
  pure records

def readCollection : Option Json -> Except Raised (List BarRecord)
  | none => raise .noData "Twelve Data returned no bars for the bounded request"
  | some .null => raise .noData "Twelve Data returned no bars for the bounded request"
  | some (.list rows) =>
      if rows.isEmpty then raise .noData "Twelve Data returned no bars for the bounded request"
      else if 10000 < rows.length then
        raise .schema "Twelve Data returned an invalid values collection"
      else readBars library start finish canonical retrieved rows
  | some _ => raise .schema "Twelve Data returned an invalid values collection"

def readPayload : Json -> Except Raised (List BarRecord)
  | .object members => do
      if tellsError members then do
        let code ← unguarded (errorCode library members)
        raiseError code
      else readCollection library start finish canonical retrieved (member members "values")
  | _ => raise .schema "Twelve Data response root was not an object"

end Answers

/-- The answer of the provider, or an error that the request raises. -/
def answered : Except (ProviderErrorClass × String) ByteArray -> Except Raised ByteArray
  | .ok body => .ok body
  | .error (kind, message) => raise kind message

def fetchHistoricalBars (library : Library)
    (request : Text -> DateTime -> DateTime -> Except (ProviderErrorClass × String) ByteArray)
    (loads : ByteArray -> Except PyException Json) (symbol : Text) (start finish : DateTime)
    (interval : String) (retrieved : DateTime) : Except Raised (List BarRecord) := do
  if interval ≠ "1d" then
    raise .invalidDateRange "Twelve Data adapter supports daily bars only"
  else if start.offset = none ∨ finish.offset = none ∨ finish.instant ≤ start.instant then
    raise .invalidDateRange "Date range must be timezone-aware and ordered"
  else if maxRangeDays < (finish.instant - start.instant) / dayMicroseconds then
    raise .invalidDateRange "Twelve Data date range cannot exceed 3650 days"
  else do
    let canonical ← normalizeSymbol library symbol
    let body ← answered (request canonical start finish)
    let payload ← excepting [.unicodeDecodeError, .jsonDecodeError] .schema
      "Twelve Data returned malformed JSON" (loads body)
    readPayload library start finish canonical retrieved payload

end TwelveData
end Payloads
end MarketIntelligence
