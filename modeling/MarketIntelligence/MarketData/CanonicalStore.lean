import MarketIntelligence.MarketData.Validation

namespace MarketIntelligence
namespace MarketData

open Foundations

/-!
# The canonical part of an import

These programs read and write the canonical rows only.  A session does not flush
on its own: a query sees the stored rows, and the rows added since the last
flush become stored, and meet the constraints, at the next one.

An adapter answers a call or raises.  Its answers may differ from call to call.
-/

structure Adapter where
  fetchAssetMetadata : String -> Except Exception AssetMetadataRecord
  fetchHistoricalBars :
    String -> Instant -> Instant -> String -> Except Exception (List HistoricalBarRecord)
  fetchCorporateActions :
    String -> Instant -> Instant -> Except Exception (List CorporateActionRecord)

/-- An adapter that raises at every call. -/
def Adapter.raising (raised : Exception) : Adapter where
  fetchAssetMetadata := fun _ => .error raised
  fetchHistoricalBars := fun _ _ _ _ => .error raised
  fetchCorporateActions := fun _ _ _ => .error raised

/-- The canonical rows of a session, flushed and still to be flushed. -/
structure Store where
  stored : Canonical
  pending : Canonical
  deriving DecidableEq, Repr

abbrev StoreProgram (α : Type) := EStateM Exception Store α

/-- A value of `Except` inside a program. -/
def raise {σ α : Type} (outcome : Except Exception α) : EStateM Exception σ α :=
  fun state =>
    match outcome with
    | .ok value => .ok value state
    | .error raised => .error raised state

/-- `session.flush()` -/
def flush : StoreProgram PUnit :=
  fun store =>
    let flushed := store.stored.append store.pending
    if flushed.Consistent then .ok ⟨⟩ ⟨flushed, .empty⟩
    else .error (.integrityError "a constraint of the canonical tables failed") store

def add (rows : Canonical) : StoreProgram PUnit :=
  modify fun store => { store with pending := store.pending.append rows }

section Assets

variable (library : Library) (adapter : Adapter) (provider : String)

def activeMapping (selects : ProviderAssetMapping -> Bool) (rows : Canonical) :
    Option ProviderAssetMapping :=
  rows.assetMappings.find? fun row =>
    row.provider = provider && selects row && row.isActive && row.validTo.isNone

/-- The symbol an asset is looked up by: through its mapping, when it has one. -/
def knownAsset (symbol : String) (rows : Canonical) : Option Asset :=
  match activeMapping provider (·.providerSymbol = symbol) rows with
  | some mapping => Tables.lookup (·.symbol) mapping.asset rows.assets
  | none => Tables.lookup (·.symbol) symbol rows.assets

def newAsset (symbol : String) (metadata : AssetMetadataRecord) : Asset where
  symbol := symbol
  name := metadata.name
  assetType := metadata.assetType
  exchange := metadata.exchange
  currency := metadata.currency
  sector := metadata.sector
  industry := metadata.industry

def metadataVersion (asset : Asset) (metadata : AssetMetadataRecord) : AssetMetadataVersion where
  asset := asset.symbol
  provider := provider
  originalSymbol := metadata.symbol
  metadata := metadata.metadata.foldl (fun merged entry => Tables.put Prod.fst entry merged)
    [("name", metadata.name)]
  effectiveTime := metadata.effectiveTime
  retrievalTime := metadata.retrievalTime
  checksum := if metadata.checksum = "" then library.metadataDigest metadata else metadata.checksum
  version := metadata.version

def providerSymbolOf (metadata : AssetMetadataRecord) : String :=
  (metadata.metadata.lookup "provider_symbol").getD metadata.symbol

/-- The rows that tell the provider's view of an asset, where they are missing. -/
def missingMappings (symbol : String) (asset : Asset) (metadata : AssetMetadataRecord)
    (rows : Canonical) : Canonical :=
  let known := (activeMapping provider (·.providerSymbol = symbol) rows).or
    (activeMapping provider (·.asset = asset.symbol) rows)
  { Canonical.empty with
    versions :=
      if rows.versions.any fun row =>
          row.asset = asset.symbol ∧ row.provider = provider ∧ row.version = metadata.version
      then [] else [metadataVersion library provider asset metadata]
    assetMappings :=
      if known.isSome then []
      else [{
        provider := provider
        asset := asset.symbol
        providerSymbol := providerSymbolOf metadata
        exchangeCode := if asset.exchange = "" then "UNKNOWN" else asset.exchange
        validTo := none
        isActive := true
        source := provider }]
    symbolMappings :=
      if rows.symbolMappings.any fun row =>
          row.provider = provider ∧ row.canonicalSymbol = asset.symbol
      then []
      else [{
        provider := provider
        canonicalSymbol := asset.symbol
        providerSymbol := providerSymbolOf metadata
        exchangeCode := asset.exchange }] }

/-- The asset, added and flushed where it is not known. -/
def ensureAsset (symbol : String) (metadata : AssetMetadataRecord) :
    Option Asset -> StoreProgram Asset
  | some asset => pure asset
  | none => do
      add { Canonical.empty with assets := [newAsset symbol metadata] }
      flush
      pure (newAsset symbol metadata)

/-- `_asset` -/
def assetOf (symbol : String) : StoreProgram Asset := do
  let before ← get
  let metadata ← raise (adapter.fetchAssetMetadata symbol)
  let asset ← ensureAsset symbol metadata (knownAsset provider symbol before.stored)
  let current ← get
  add (missingMappings library provider symbol asset metadata current.stored)
  pure asset

end Assets

section Bars

variable (library : Library) (request : ImportRequest) (provider source : String)

def latestBar (selects : PriceBar -> Bool) (rows : Canonical) : Option PriceBar :=
  (rows.bars.filter selects).foldl
    (fun latest bar =>
      match latest with
      | none => some bar
      | some known => if known.eventTime < bar.eventTime then some bar else some known)
    none

/-- Where the request for a symbol's bars starts. -/
def fetchStart (asset : Asset) : StoreProgram Instant := do
  let current ← get
  match request.mode with
  | .full => pure request.start
  | .incremental =>
      match latestBar (fun bar => bar.asset = asset.symbol ∧ bar.interval = request.interval ∧
          bar.dataSource = source) current.stored with
      | none => pure request.start
      | some latest => pure (max request.start (latest.eventTime + 1))

def adjustedStatuses : List String := ["adjusted", "split_adjusted", "total_return"]

/-- An empty range is not asked for. -/
def requestedRecords (adapter : Adapter) (symbol : String) (start : Instant) :
    Except Exception (List HistoricalBarRecord) :=
  if start < request.finish then
    adapter.fetchHistoricalBars symbol start request.finish request.interval
  else .ok []

/-- The answer of the provider, refused when it is not the adjusted series asked for. -/
def fetchRecords (adapter : Adapter) (symbol : String) (start : Instant) :
    Except Exception (List HistoricalBarRecord) := do
  let records ← requestedRecords request adapter symbol start
  if request.adjustmentPreference = "adjusted" ∧
      records.any (fun record => record.adjustmentStatus ∉ adjustedStatuses) then
    .error (.valueError
      ("provider '" ++ provider ++ "' cannot satisfy the requested adjusted series"))
  else .ok records

def recordChecksum (record : HistoricalBarRecord) : String :=
  if record.checksum = "" then library.barDigest record else record.checksum

def newBar (asset : Asset) (record : HistoricalBarRecord) : PriceBar where
  asset := asset.symbol
  interval := record.interval
  eventTime := record.eventTime
  publicationTime := record.publicationTime
  effectiveTime := record.effectiveTime
  retrievalTime := record.retrievalTime
  openPrice := record.openPrice
  high := record.high
  low := record.low
  closePrice := record.closePrice
  adjustedClose := record.adjustedClose
  volume := record.volume
  dataSource := source
  provider := some provider
  originalSymbol := record.symbol
  adjustmentStatus := record.adjustmentStatus
  checksum := recordChecksum library record
  recordVersion := record.version
  importJob := some request.id
  rawProviderMetadata := record.rawMetadata.getD []
  isDemonstrationData := false

/-- What became of one record. -/
inductive RecordOutcome where
  | inserted
  | skipped
  | conflicting (existing : String)
  deriving DecidableEq, Repr

/-- A bar is added where there is no duplicate of it. -/
def storeBar (bar : PriceBar) : Option PriceBar -> StoreProgram RecordOutcome
  | some duplicate =>
      if duplicate.checksum ≠ "" ∧ duplicate.checksum ≠ bar.checksum then
        pure (.conflicting duplicate.checksum)
      else pure .skipped
  | none =>
      if request.dryRun then pure .skipped
      else do
        add { Canonical.empty with bars := [bar] }
        pure .inserted

/-- The body of the loop over the records of a batch. -/
def storeRecord (asset : Asset) (record : HistoricalBarRecord) : StoreProgram RecordOutcome := do
  let current ← get
  let bar := newBar library request provider source asset record
  storeBar request bar (Tables.lookup PriceBar.identity bar.identity current.stored.bars)

def newAction (asset : Asset) (record : CorporateActionRecord) : CorporateAction where
  asset := asset.symbol
  provider := provider
  actionType := record.actionType
  originalSymbol := record.symbol
  effectiveTime := record.effectiveTime
  publicationTime := record.publicationTime
  retrievalTime := record.retrievalTime
  ratio := record.ratio
  amount := record.amount
  currency := record.currency
  oldSymbol := record.oldSymbol
  newSymbol := record.newSymbol
  checksum := if record.checksum = "" then library.actionDigest record else record.checksum
  recordVersion := record.version

def persistAction (asset : Asset) (record : CorporateActionRecord) : StoreProgram PUnit := do
  raise (validateCorporateAction record)
  let current ← get
  let action := newAction library provider asset record
  if current.stored.actions.any fun row =>
      row.provider = provider ∧ row.checksum = action.checksum then
    pure ⟨⟩
  else add { Canonical.empty with actions := [action] }

/-- `_persist_actions` -/
def persistActions (adapter : Adapter) (asset : Asset) (symbol : String) : StoreProgram PUnit := do
  let records ← raise (adapter.fetchCorporateActions symbol request.start request.finish)
  records.forM (persistAction library provider asset)

def capabilityOf (asset : Asset) (bar : PriceBar) : AssetCapability where
  asset := asset.symbol
  capability := "HISTORICAL"
  providerCode := provider
  status := "HISTORICAL_AVAILABLE"
  feedType :=
    if bar.isDemonstrationData then "DEMO"
    else (bar.rawProviderMetadata.lookup "feed").getD "END_OF_DAY"
  asOfTime := bar.eventTime
  barIdentity := bar.identity
  barChecksum := bar.checksum

def AssetCapability.identity (row : AssetCapability) : String × String × String :=
  (row.asset, row.capability, row.providerCode)

/-- `_historical_capability` -/
def historicalCapability (asset : Asset) : StoreProgram PUnit := do
  flush
  modify fun store =>
    match latestBar (fun bar => bar.asset = asset.symbol ∧ bar.provider = some provider)
        store.stored with
    | none => store
    | some bar =>
        { store with
          stored := { store.stored with
            capabilities := Tables.put AssetCapability.identity (capabilityOf provider asset bar)
              store.stored.capabilities } }

/-- The capability is published by a run that is not a dry one. -/
def publishCapability (asset : Asset) : StoreProgram PUnit :=
  if request.dryRun then pure ⟨⟩ else historicalCapability provider asset

end Bars

end MarketData
end MarketIntelligence
