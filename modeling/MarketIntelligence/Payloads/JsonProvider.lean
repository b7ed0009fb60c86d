import MarketIntelligence.Foundations.SortedLists
import MarketIntelligence.Payloads.Rules

namespace MarketIntelligence
namespace Payloads
namespace JsonProvider

open Foundations
open Foundations.CalendarDates
open Foundations.DecimalText
open Foundations.Loops
open Foundations.Outcomes

/-!
# Bars in the JSON of the other providers

The bars are the objects of a list.  The time of each is a number of milliseconds or a text, and
the volume is converted to an integer as it is.
-/

/-- What the caller says of its rows. -/
structure Layout where
  symbol : Text
  providerSymbol : Text
  timestampKey : String
  millisecondTimestamps : Bool
  metadata : Json

/-- `text.replace("Z", "+00:00")`. -/
def replaceZulu (text : Text) : Text :=
  text.flatMap fun char => if char = 'Z' then "+00:00".toList else [char]

/-- `row[key]`. -/
def field (members : List (String × Json)) (key : String) : Except PyException Json :=
  match member members key with
  | some value => .ok value
  | none => .error .keyError

section Bars

variable (library : Library) (layout : Layout)

def readTime (members : List (String × Json)) : Except PyException DateTime := do
  let raw ← field members layout.timestampKey
  if layout.millisecondTimestamps then do
    let milliseconds ← intOf library raw
    library.fromTimestamp milliseconds
  else do
    let text ← str library raw
    orValueError (library.fromisoformat (replaceZulu text))

def readPrices (members : List (String × Json)) : Except PyException Prices := do
  let openPrice ← number library members "o"
  let high ← number library members "h"
  let low ← number library members "l"
  let closePrice ← number library members "c"
  pure ⟨openPrice, high, low, closePrice⟩

def readVolume (members : List (String × Json)) : Except PyException Int := do
  intOf library (← field members "v")

structure Values where
  time : DateTime
  prices : Prices
  volume : Int
  deriving DecidableEq, Repr

def readValues (members : List (String × Json)) : Except PyException Values := do
  let time ← readTime library layout members
  let prices ← readPrices library members
  let volume ← readVolume library members
  pure ⟨time, prices, volume⟩

/-- What the clause around the conversions names. -/
def caught : List PyException := [.keyError, .valueError, .typeError, .invalidOperation]

def checkPrices (prices : Prices) : Except Raised Unit :=
  prices.check "Provider bar contained a non-positive price"
    "Provider bar contained inconsistent OHLC values"

/-- The checks between the conversions and the record. -/
def checkValues (values : Values) : Except Raised Unit :=
  if values.time.offset = none then raise .data "Provider bar timestamp omitted timezone"
  else do
    checkPrices values.prices
    if values.volume < 0 then raise .data "Provider bar contained invalid volume"
    else pure ()

def record (retrieved : DateTime) (values : Values) (eventTime : DateTime) (checksum : String) :
    BarRecord where
  symbol := layout.symbol
  interval := "1d"
  eventTime := eventTime
  publicationTime := retrieved
  effectiveTime := eventTime
  retrievalTime := retrieved
  openPrice := values.prices.openPrice
  high := values.prices.high
  low := values.prices.low
  closePrice := values.prices.closePrice
  adjustedClose := values.prices.closePrice
  volume := values.volume
  adjustmentStatus := "provider_adjusted"
  checksum := checksum
  providerSymbol := layout.providerSymbol
  rawMetadata := layout.metadata

def buildRecord (retrieved : DateTime) (members : List (String × Json)) (values : Values) :
    Except PyException BarRecord := do
  let dumped ← orValueError (library.dumps (.object members))
  let eventTime ← values.time.toUtc
  pure (record layout retrieved values eventTime (library.sha256 dumped))

def bar (retrieved : DateTime) : Json -> Except Raised BarRecord
  | .object members => do
      let values ← excepting caught .data "Provider bar contained an invalid value"
        (readValues library layout members)
      checkValues values
      unguarded (buildRecord library layout retrieved members values)
  | _ => raise .schema "Provider returned a malformed bar"

/-- `_bars`. -/
def bars (retrieved : DateTime) : Json -> Except Raised (List BarRecord)
  | .list rows => do
      let records ← rows.mapM (bar library layout retrieved)
      if records.isEmpty then
        raise .noData "Provider returned no bars for the bounded request"
      else pure (SortedLists.sortedBy (fun record => record.eventTime.instant) records)
  | _ => raise .schema "Provider response omitted the bars array"

end Bars

end JsonProvider
end Payloads
end MarketIntelligence
