import MarketIntelligence.Foundations.CsvReader
import MarketIntelligence.Foundations.SortedLists
import MarketIntelligence.Payloads.Rules

namespace MarketIntelligence
namespace Payloads
namespace Stooq

open Foundations
open Foundations.CalendarDates
open Foundations.DecimalText
open Foundations.Loops
open Foundations.Outcomes
open Foundations.TextLines

/-!
# Daily bars in the CSV of Stooq

The bytes are decoded and read as a table, whose first row names the columns.  Rows of blanks are
left out.  Every other row is a bar, or the whole table is refused.

`Rules` says of a row when it is a bar, and of which prices and volume.
-/

inductive Column where
  | date
  | openPrice
  | high
  | low
  | closePrice
  | volume
  deriving DecidableEq, Repr

def Column.name : Column -> Text
  | .date => "date".toList
  | .openPrice => "open".toList
  | .high => "high".toList
  | .low => "low".toList
  | .closePrice => "close".toList
  | .volume => "volume".toList

def Column.title : Column -> String
  | .date => "Date"
  | .openPrice => "Open"
  | .high => "High"
  | .low => "Low"
  | .closePrice => "Close"
  | .volume => "Volume"

def required : List Column := [.date, .openPrice, .high, .low, .closePrice, .volume]

structure StooqPayload where
  body : ByteArray
  contentType : Text

/-- `utf-8-sig`, which leaves out the mark of the byte order before a text. -/
def decode (body : ByteArray) : Except Raised Text :=
  match String.fromUTF8? body with
  | some text =>
      match text.toList with
      | '\uFEFF' :: rest => .ok rest
      | text => .ok text
  | none => raise .encoding "Stooq returned data in an unsupported character encoding"

def firstLine (text : Text) : Text :=
  ((splitlines text).find? fun line => strip line ≠ []).getD []

/-- A row without anything but blanks in its cells. -/
def blank (row : List Text) : Bool := row.all fun cell => strip cell = []

/-- `csv.field_size_limit()`. -/
def fieldLimit : Nat := 131072

def parsedRows (text : Text) : Except Raised (List (List Text)) :=
  match CsvReader.reader fieldLimit text with
  | .ok rows => .ok (rows.filter fun row => !blank row)
  | .error _ => raise .schema "Stooq CSV syntax was malformed"

def headerOf (library : Library) (row : List Text) : List Text :=
  row.map fun cell => library.lower (strip cell)

def checkHeader (header : List Text) : Except Raised Unit :=
  if ¬ header.Nodup then raise .schema "Stooq CSV contained duplicate columns"
  else if header.length ≠ required.length ∨
      ¬ ((forall name, name ∈ header -> name ∈ required.map Column.name) ∧
        forall name, name ∈ required.map Column.name -> name ∈ header) then
    raise .schema "Stooq CSV columns were missing or malformed"
  else .ok ()

/-- The cell of a column.  The rows are as long as the header, so the position is inside them. -/
def cell (header row : List Text) (column : Column) : Text :=
  strip (row.getD (header.idxOf column.name) [])

def missing (library : Library) (value : Text) : Bool :=
  value = [] || library.upper value = "N/D".toList

section Rows

variable (library : Library) (start finish : DateTime)

def sessionDate (seen : List Date) (text : Text) : Except Raised Date := do
  let date ← excepting [.valueError] .data "Stooq CSV contained an invalid market date"
    (strptime library text)
  if text ≠ date.isoformat then raise .data "Stooq CSV contained a non-canonical market date"
  else if (date.ordinal : Int) < start.day ∨ finish.day < date.ordinal then
    raise .data "Stooq CSV contained a date outside the bounded request"
  else if date ∈ seen then raise .data "Stooq CSV contained a duplicate market date"
  else pure date

def readPrice (text : Text) : Except Raised Decimal := do
  let value ← excepting [.invalidOperation] .data "Stooq CSV contained an invalid market value"
    (decimal library text)
  if ← unguarded (refused value) then raise .data "Stooq CSV contained an invalid market value"
  else pure value

def refusedVolume (volume : Decimal) : Except PyException Bool :=
  if volume.isFinite then negativeOrFractional volume else .ok true

def readVolume (text : Text) : Except Raised Decimal := do
  let volume ← excepting [.invalidOperation] .data "Stooq CSV contained an invalid volume"
    (decimal library text)
  if ← unguarded (refusedVolume volume) then raise .data "Stooq CSV contained an invalid volume"
  else pure volume

def inconsistent (prices : Prices) : Except PyException Bool := do
  if ← prices.inconsistent then pure true
  else less prices.high prices.low

def readPrices (values : Column -> Text) : Except Raised Prices := do
  let openPrice ← readPrice library (values .openPrice)
  let high ← readPrice library (values .high)
  let low ← readPrice library (values .low)
  let closePrice ← readPrice library (values .closePrice)
  pure ⟨openPrice, high, low, closePrice⟩

/-- `source_row`. -/
def sourceRow (values : Column -> Text) : Json :=
  .object ((required.map fun column => (column.title, values column)).map fun pair =>
    (pair.1, .string pair.2))

/-- What the request and the answer give to every record. -/
structure Context where
  symbol : Text
  providerSymbol : Text
  contentType : Text
  retrieved : DateTime

def record (context : Context) (values : Column -> Text) (prices : Prices) (volume : Int)
    (eventTime : DateTime) (checksum : String) : BarRecord where
  symbol := context.symbol
  interval := "1d"
  eventTime := eventTime
  publicationTime := context.retrieved
  effectiveTime := eventTime
  retrievalTime := context.retrieved
  openPrice := prices.openPrice
  high := prices.high
  low := prices.low
  closePrice := prices.closePrice
  adjustedClose := prices.closePrice
  volume := volume
  adjustmentStatus := "provider_unspecified"
  checksum := checksum
  providerSymbol := context.providerSymbol
  rawMetadata := .object [("source_row", sourceRow values),
    ("provider_symbol", .string context.providerSymbol),
    ("content_type", .string
      (if context.contentType = [] then "unspecified".toList else context.contentType))]

/-- One row of the table, after the records and the dates of the rows before it. -/
def bar (context : Context) (header : List Text) (state : List BarRecord × List Date)
    (row : List Text) : Except Raised (List BarRecord × List Date) := do
  if row.length ≠ header.length then
    raise .schema "Stooq CSV row did not match the declared schema"
  else if required.any fun column => missing library (cell header row column) then
    raise .data "Stooq CSV contained a missing market value"
  else do
    let date ← sessionDate library start finish state.2 (cell header row .date)
    let prices ← readPrices library (cell header row)
    let volume ← readVolume library (cell header row .volume)
    if ← unguarded (inconsistent prices) then
      raise .data "Stooq CSV contained inconsistent OHLC values"
    else do
      let eventTime ← unguarded (sessionClose library date)
      let dumped ← unguarded (orValueError (library.dumps (sourceRow (cell header row))))
      let units ← unguarded (intOfDecimal volume)
      pure (state.1 ++ [record context (cell header row) prices units eventTime
        (library.sha256 dumped)], date :: state.2)

end Rows

/-- `symbol.strip().upper().removesuffix(".US")`. -/
def canonicalSymbol (library : Library) (symbol : Text) : Text :=
  let upper := library.upper (strip symbol)
  if ".US".toList.isSuffixOf upper then upper.take (upper.length - 3) else upper

/-- The records of a table, in the order of their times. -/
def bars (library : Library) (start finish : DateTime) (context : Context) (header : List Text)
    (rows : List (List Text)) : Except Raised (List BarRecord) := do
  let (records, _) ← rows.foldlM (bar library start finish context header) ([], [])
  if records.isEmpty then
    raise .noData "Stooq returned no data for the requested symbol and dates"
  else pure (SortedLists.sortedBy (fun record => record.eventTime.instant) records)

def parseCsv (library : Library) (payload : StooqPayload) (symbol providerSymbol : Text)
    (start finish retrieved : DateTime) : Except Raised (List BarRecord) := do
  let text ← decode payload.body
  if ';' ∈ firstLine text ∧ ',' ∉ firstLine text then
    raise .schema "Stooq CSV used an unsupported delimiter"
  else do
    match ← parsedRows text with
    | [] => raise .noData "Stooq returned no data for the bounded request"
    | first :: rows =>
        let header := headerOf library first
        checkHeader header
        bars library start finish
          ⟨canonicalSymbol library symbol, providerSymbol, payload.contentType, retrieved⟩
          header rows

end Stooq
end Payloads
end MarketIntelligence
