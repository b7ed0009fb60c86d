import MarketIntelligence.Core.Values
import MarketIntelligence.Foundations.SortedLists
import Mathlib.Data.Prod.Lex
import Mathlib.Data.String.Basic
import Mathlib.Order.OrderDual

namespace MarketIntelligence
namespace MarketData
namespace Universe

open Foundations
open SortedLists

/-!
# The dynamic universe

A selection reads the stored assets, their listings, capabilities and bars, and what a
workspace watches, holds and has ordered.  It closes the open memberships of the workspace
and writes those of seven layers.

Scores are floats.  Their type, its order and the operations on it are parameters; no
operation of the score has a value that is not a number on stored bars.  `UUID` texts have
the order of the identifiers.  A run is known by its checksum, which is unique, and the
digest that the checksum is read off is a parameter.
-/

/-! ## Rows -/

structure Asset where
  id : Identifier
  symbol : String
  isActive : Bool
  deriving DecidableEq, Repr

structure AssetListing where
  asset : Identifier
  isActive : Bool
  eligibilityStatus : String
  validTo : Option Instant
  deriving DecidableEq, Repr

structure AssetCapability where
  asset : Identifier
  capability : String
  status : String
  deriving DecidableEq, Repr

structure PriceBar where
  asset : Identifier
  eventTime : Instant
  openPrice : Rat
  closePrice : Rat
  volume : Int
  isDemonstrationData : Bool
  deriving DecidableEq, Repr

/-- A watchlist or a paper portfolio. -/
structure Owned where
  id : Identifier
  workspace : Identifier
  deriving DecidableEq, Repr

structure WatchlistAsset where
  watchlist : Identifier
  asset : Identifier
  deriving DecidableEq, Repr

structure PaperPosition where
  portfolio : Identifier
  asset : Identifier
  quantity : Rat
  deriving DecidableEq, Repr

structure PaperOrder where
  portfolio : Identifier
  asset : Identifier
  status : String
  deriving DecidableEq, Repr

inductive Layer where
  | usEligible
  | referenceReady
  | historicalReady
  | screening
  | candidate
  | activeIntelligence
  | realtime
  deriving DecidableEq, Repr

def Layer.value : Layer -> String
  | .usEligible => "US_ELIGIBLE"
  | .referenceReady => "REFERENCE_READY"
  | .historicalReady => "HISTORICAL_READY"
  | .screening => "SCREENING"
  | .candidate => "CANDIDATE"
  | .activeIntelligence => "ACTIVE_INTELLIGENCE"
  | .realtime => "REALTIME"

def layers : List Layer :=
  [.usEligible, .referenceReady, .historicalReady, .screening, .candidate, .activeIntelligence,
    .realtime]

structure UniverseSelectionRun where
  workspace : Option Identifier
  effectiveAt : Instant
  policyVersion : String
  providerCode : String
  realtimeCapacity : Int
  inputAssetCount : Nat
  candidateCount : Nat
  activeCount : Nat
  realtimeCount : Nat
  status : String
  checksum : String
  layers : List String
  syntheticBarsExcluded : Bool
  deriving DecidableEq, Repr

structure UniverseLayerMembership (V : Type) where
  selectionRun : String
  workspace : Option Identifier
  asset : Identifier
  layer : Layer
  rank : Nat
  score : Option Rat
  scoreComponents : List (String × V)
  reasonCodes : List String
  effectiveFrom : Instant
  effectiveTo : Option Instant
  deriving DecidableEq, Repr

structure Tables (V : Type) where
  assets : List Asset
  listings : List AssetListing
  capabilities : List AssetCapability
  bars : List PriceBar
  watchlists : List Owned
  watchlistAssets : List WatchlistAsset
  portfolios : List Owned
  positions : List PaperPosition
  orders : List PaperOrder
  runs : List UniverseSelectionRun
  memberships : List (UniverseLayerMembership V)
  deriving DecidableEq, Repr

inductive SelectionError where
  | negativeCapacity
  | zeroDivision
  | duplicateChecksum
  deriving DecidableEq, Repr

/-! ## Scores -/

/-- What the score does with floats.  `literal` is the float nearest to a number, and `stored`
is the decimal that a score is written as. -/
structure ScoreOperations (V : Type) where
  literal : Rat -> V
  add : V -> V -> V
  subtract : V -> V -> V
  multiply : V -> V -> V
  divide : V -> V -> Option V
  absolute : V -> V
  maximum : V -> V -> V
  minimum : V -> V -> V
  log10 : V -> V
  pstdev : List V -> V
  sum : List V -> V
  truthy : V -> Bool
  stored : V -> Rat

variable {V : Type}

def quotient (operations : ScoreOperations V) (dividend divisor : V) : Except SelectionError V :=
  match operations.divide dividend divisor with
  | some value => .ok value
  | none => .error .zeroDivision

/-- `first / second - 1` -/
def changeOf (operations : ScoreOperations V) (first second : V) : Except SelectionError V := do
  let ratio <- quotient operations first second
  return operations.subtract ratio (operations.literal 1)

/-- The last thirty bars in the order of their time. -/
def orderedBars (rows : List PriceBar) : List PriceBar :=
  let ordered := sortedBy PriceBar.eventTime rows
  ordered.drop (ordered.length - 30)

/-- The score of at least two bars, by their closes, their volumes and the last open. -/
def scoreSeries (operations : ScoreOperations V) (closes volumes : List V) (lastOpen : V)
    (first previous last lastVolume : V) : Except SelectionError (V × List (String × V)) := do
  let literal := operations.literal
  let returns <- (closes.tail.zip closes).mapM fun pair => changeOf operations pair.1 pair.2
  let dollarVolume <- quotient operations
    (operations.sum (List.zipWith operations.multiply closes volumes)) (literal closes.length)
  let recentReturn <- changeOf operations last (closes.getD (closes.length - 6) first)
  let gapChange <- changeOf operations lastOpen previous
  let gap := operations.absolute gapChange
  let averageVolume <- quotient operations (operations.sum volumes.dropLast)
    (literal (max (volumes.length - 1) 1 : Nat))
  let volumeAnomaly <- if operations.truthy averageVolume then
    quotient operations lastVolume averageVolume else .ok (literal 0)
  let volatility := if 1 < returns.length then operations.pstdev returns else literal 0
  let momentum <- changeOf operations last first
  let completeness := operations.minimum (literal (closes.length / 20)) (literal 1)
  let liquidity := operations.log10 (operations.maximum dollarVolume (literal 1))
  let components :=
    [("liquidity", liquidity), ("dollar_volume", dollarVolume), ("recent_return", recentReturn),
      ("price_gap", gap), ("volume_anomaly", volumeAnomaly), ("realized_volatility", volatility),
      ("relative_strength", recentReturn), ("momentum", momentum),
      ("data_completeness", completeness)]
  let terms :=
    [operations.multiply (operations.absolute recentReturn) (literal 15),
      operations.multiply (operations.minimum volumeAnomaly (literal 5)) (literal (15 / 100)),
      operations.multiply volatility (literal 8), operations.multiply momentum (literal 2),
      completeness]
  return (terms.foldl operations.add (operations.multiply liquidity (literal (35 / 100))),
    components)

/-- `_score` -/
def score (operations : ScoreOperations V) (rows : List PriceBar) :
    Except SelectionError (V × List (String × V)) :=
  let ordered := orderedBars rows
  match ordered.head?, ordered.dropLast.getLast?, ordered.getLast? with
  | some first, some previous, some last =>
      let price := fun bar : PriceBar => operations.literal bar.closePrice
      let volume := fun bar : PriceBar => operations.literal bar.volume
      scoreSeries operations (ordered.map price) (ordered.map volume)
        (operations.literal last.openPrice) (price first) (price previous) (price last)
        (volume last)
  | _, _, _ =>
      .ok (operations.literal 0, [("data_completeness", operations.literal (ordered.length / 30))])

/-! ## Selection -/

def isEligible (tables : Tables V) (asset : Asset) : Bool :=
  asset.isActive ∧ tables.listings.any fun listing =>
    listing.asset = asset.id ∧ listing.isActive ∧ listing.eligibilityStatus = "ELIGIBLE" ∧
      listing.validTo = none

def eligibleAssets (tables : Tables V) : List Identifier :=
  (sortedBy Asset.symbol (tables.assets.filter (isEligible tables))).map Asset.id

def referenceReady (tables : Tables V) : List Identifier :=
  ((tables.capabilities.filter fun row =>
    row.asset ∈ eligibleAssets tables ∧ row.capability = "REFERENCE" ∧
      row.status = "REFERENCE_AVAILABLE").map AssetCapability.asset).dedup

/-- The thirty latest bars of an asset that are no demonstration data, the latest first. -/
def barsOf (tables : Tables V) (asset : Identifier) : List PriceBar :=
  ((sortedBy (fun bar : PriceBar => -bar.eventTime) (tables.bars.filter fun bar =>
    bar.asset = asset ∧ bar.isDemonstrationData = false))).take 30

def screenedAssets (tables : Tables V) : List Identifier :=
  (eligibleAssets tables).filter fun asset => barsOf tables asset ≠ []

structure Scored (V : Type) where
  asset : Identifier
  value : V
  components : List (String × V)

def scoreAsset (operations : ScoreOperations V) (tables : Tables V) (asset : Identifier) :
    Except SelectionError (Scored V) :=
  (score operations (barsOf tables asset)).map fun result => ⟨asset, result.1, result.2⟩

section Ordered

variable [LinearOrder V]

/-- `(-item[1], str(item[0]))` -/
def Scored.key (item : Scored V) : Lex (OrderDual V × Identifier) :=
  toLex (OrderDual.toDual item.value, item.asset)

def scoredAssets (operations : ScoreOperations V) (tables : Tables V) :
    Except SelectionError (List (Scored V)) :=
  ((screenedAssets tables).mapM (scoreAsset operations tables)).map (sortedBy Scored.key)

end Ordered

def watchedAssets (tables : Tables V) (workspace : Identifier) : List Identifier :=
  (tables.watchlistAssets.filter fun link => tables.watchlists.any fun watchlist =>
    watchlist.id = link.watchlist ∧ watchlist.workspace = workspace).map WatchlistAsset.asset

def ownsPortfolio (tables : Tables V) (workspace portfolio : Identifier) : Bool :=
  tables.portfolios.any fun owned => owned.id = portfolio ∧ owned.workspace = workspace

def heldAssets (tables : Tables V) (workspace : Identifier) : List Identifier :=
  (tables.positions.filter fun position =>
    ownsPortfolio tables workspace position.portfolio ∧ 0 < position.quantity).map
      PaperPosition.asset

def orderedAssets (tables : Tables V) (workspace : Identifier) : List Identifier :=
  (tables.orders.filter fun order =>
    ownsPortfolio tables workspace order.portfolio ∧
      order.status ∈ ["open", "pending", "accepted"]).map PaperOrder.asset

/-- What a workspace promotes, with the reasons. -/
def listedReasons (tables : Tables V) : Option Identifier -> List (Identifier × String)
  | none => []
  | some workspace =>
      (watchedAssets tables workspace).map (·, "WATCHLIST") ++
        (heldAssets tables workspace).map (·, "PAPER_HOLDING") ++
        (orderedAssets tables workspace).map (·, "OPEN_PAPER_ORDER")

def promoted (tables : Tables V) (workspace : Option Identifier) (ranked : List Identifier) :
    List (Identifier × String) :=
  listedReasons tables workspace ++ ranked.map (·, "RANKED_CANDIDATE")

/-- `(value not in ranked_ids, str(value))` -/
def activeKey (ranked : List Identifier) (asset : Identifier) : Lex (Bool × Identifier) :=
  toLex (decide (asset ∉ ranked), asset)

def activeOrder (tables : Tables V) (workspace : Option Identifier) (ranked : List Identifier) :
    List Identifier :=
  sortedBy (activeKey ranked) ((promoted tables workspace ranked).map Prod.fst).dedup

structure ChecksumPayload where
  policy : String
  workspace : Option Identifier
  eligible : List Identifier
  active : List Identifier
  realtime : List Identifier
  effectiveAt : Instant
  deriving DecidableEq, Repr

structure Request where
  workspace : Option Identifier
  realtimeCapacity : Int
  candidateCapacity : Int
  activeCapacity : Int
  providerCode : String
  now : Instant
  deriving DecidableEq, Repr

/-- The assets of the layers, from all that are eligible down to those in the realtime layer,
with a reason for each exclusion. -/
structure Selection (V : Type) where
  eligible : List Identifier
  referenceReady : List Identifier
  historicalReady : List Identifier
  scored : List (Scored V)
  candidates : List (Scored V)
  reasons : List (Identifier × String)
  active : List Identifier
  realtime : List Identifier

def Selection.ranked (selection : Selection V) : List Identifier :=
  selection.candidates.map Scored.asset

def Selection.layerAssets (selection : Selection V) : Layer -> List Identifier
  | .usEligible => selection.eligible
  | .referenceReady => sortedBy id selection.referenceReady
  | .historicalReady => sortedBy id selection.historicalReady
  | .screening => selection.scored.map Scored.asset
  | .candidate => selection.ranked
  | .activeIntelligence => selection.active
  | .realtime => selection.realtime

def selectAssets [LinearOrder V] (operations : ScoreOperations V) (tables : Tables V)
    (request : Request) : Except SelectionError (Selection V) := do
  let scored <- scoredAssets operations tables
  let candidates := scored.take request.candidateCapacity.toNat
  let ranked := candidates.map Scored.asset
  let active := (activeOrder tables request.workspace ranked).take request.activeCapacity.toNat
  return {
    eligible := eligibleAssets tables
    referenceReady := referenceReady tables
    historicalReady := screenedAssets tables
    scored := scored
    candidates := candidates
    reasons := promoted tables request.workspace ranked
    active := active
    realtime := active.take request.realtimeCapacity.toNat }

/-- The reasons of a promoted asset, in their order and without repetitions. -/
def reasonsOf (selection : Selection V) (layer : Layer) (asset : Identifier) : List String :=
  if layer = .activeIntelligence ∨ layer = .realtime then
    let reasons := ((selection.reasons.filter fun reason => reason.1 = asset).map Prod.snd).dedup
    if reasons = [] then [layer.value] else sortedBy id reasons
  else [layer.value]

def membershipOf (operations : ScoreOperations V) (selection : Selection V) (request : Request)
    (checksum : String) (layer : Layer) (place : Identifier × Nat) :
    UniverseLayerMembership V :=
  let found := selection.scored.find? fun item => item.asset = place.1
  { selectionRun := checksum
    workspace := request.workspace
    asset := place.1
    layer := layer
    rank := place.2
    score := found.map fun item => operations.stored item.value
    scoreComponents := (found.map Scored.components).getD []
    reasonCodes := reasonsOf selection layer place.1
    effectiveFrom := request.now
    effectiveTo := none }

def newMemberships (operations : ScoreOperations V) (selection : Selection V) (request : Request)
    (checksum : String) : List (UniverseLayerMembership V) :=
  layers.flatMap fun layer =>
    ((selection.layerAssets layer).zipIdx 1).map
      (membershipOf operations selection request checksum layer)

/-- `membership.effective_to = now` for the open memberships of the workspace. -/
def closeMemberships (request : Request) (memberships : List (UniverseLayerMembership V)) :
    List (UniverseLayerMembership V) :=
  memberships.map fun membership =>
    if membership.workspace = request.workspace ∧ membership.effectiveTo = none then
      { membership with effectiveTo := some request.now }
    else membership

def payloadOf (selection : Selection V) (request : Request) : ChecksumPayload where
  policy := "v0.15.0"
  workspace := request.workspace
  eligible := selection.eligible
  active := selection.active
  realtime := selection.realtime
  effectiveAt := request.now

def runOf (selection : Selection V) (request : Request) (checksum : String) :
    UniverseSelectionRun where
  workspace := request.workspace
  effectiveAt := request.now
  policyVersion := "v0.15.0"
  providerCode := request.providerCode
  realtimeCapacity := request.realtimeCapacity
  inputAssetCount := selection.eligible.length
  candidateCount := selection.candidates.length
  activeCount := selection.active.length
  realtimeCount := selection.realtime.length
  status := "SUCCEEDED"
  checksum := checksum
  layers := layers.map Layer.value
  syntheticBarsExcluded := true

def selectDynamicUniverse [LinearOrder V] (operations : ScoreOperations V)
    (digest : ChecksumPayload -> String) (tables : Tables V) (request : Request) :
    Except SelectionError (UniverseSelectionRun × Tables V) := do
  if min request.realtimeCapacity (min request.candidateCapacity request.activeCapacity) < 0 then
    throw .negativeCapacity
  let selection <- selectAssets operations tables request
  let checksum := digest (payloadOf selection request)
  let run := runOf selection request checksum
  if tables.runs.any (·.checksum = checksum) then throw .duplicateChecksum
  return (run, { tables with
    runs := tables.runs ++ [run]
    memberships := closeMemberships request tables.memberships ++
      newMemberships operations selection request checksum })

end Universe
end MarketData
end MarketIntelligence
