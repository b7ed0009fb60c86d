import MarketIntelligence.Core.Values
import MarketIntelligence.Foundations.Sessions

namespace MarketIntelligence
namespace ReferenceData

open Foundations
open Sessions

/-!
# Reconciliation of reference records

One call takes the records of a feed one after the other.  Each finds the listing that is open
under its key, or else the one that is open under its symbol and exchange, and writes it, the
asset and what is known of them.  Then the listings of the feed's sources whose keys were not
in the feed are closed.

The sessions do not flush before a query.  The flushes of the source are those of the model.
-/

structure ReferenceSecurityRecord where
  source : String
  sourceRecordKey : String
  symbol : String
  securityName : String
  exchangeCode : String
  mic : Option String
  assetType : String
  isActive : Bool
  isTestIssue : Bool
  isEtf : Bool
  cik : Option String
  metadata : List (String × String)
  deriving DecidableEq, Repr

/-! ## Eligibility -/

inductive EligibilityStatus where
  | eligible
  | excluded
  deriving DecidableEq, Repr

/-- The values of `MIC_BY_EXCHANGE`. -/
def supportedMics : List String :=
  ["XNAS", "XNYS", "XASE", "ARCX", "BATS", "IEXG"]

/-- One of `EXCLUDED_NAME_PATTERNS`: the words it matches between boundaries, and the reason
that is read off it. -/
structure NamePattern where
  words : List String
  reason : String

def excludedNamePatterns : List NamePattern :=
  [⟨["WARRANT", "WARRANTS"], "WARRANTS?"⟩, ⟨["RIGHT", "RIGHTS"], "RIGHTS?"⟩,
    ⟨["UNIT", "UNITS"], "UNITS?"⟩, ⟨["PREFERRED"], "PREFERRED"⟩]

/-- What `IGNORECASE` takes a character of a name for. -/
def ignoreCase (char : Char) : Char :=
  if char = 'ı' ∨ char = 'İ' then 'I' else if char = 'ſ' then 'S' else char.toUpper

/-- What is used of the standard library: the identifiers of a namespace, the checksum of a
record, case folding, and the characters that are part of a word. -/
structure Library where
  uuid5 : String -> Identifier
  checksum : ReferenceSecurityRecord -> String
  casefold : String -> String
  isWord : Char -> Bool

section Eligibility

variable (library : Library)

/-- `pattern.search(name)`: a word of the pattern is a longest run of word characters. -/
def NamePattern.search (pattern : NamePattern) (name : String) : Bool :=
  (name.toList.splitOnP fun char => !library.isWord char).any fun run =>
    pattern.words.contains (String.ofList (run.map ignoreCase))

def eligibility (record : ReferenceSecurityRecord) : EligibilityStatus × Option String :=
  if record.isTestIssue then (.excluded, some "TEST_ISSUE")
  else if ¬ record.mic.any (supportedMics.contains ·) then
    (.excluded, some "UNSUPPORTED_EXCHANGE")
  else if ¬ ["equity", "etf"].contains record.assetType then
    (.excluded, some "UNSUPPORTED_SECURITY_TYPE")
  else
    match excludedNamePatterns.find? fun pattern =>
      pattern.search library record.securityName with
    | some pattern => (.excluded, some pattern.reason)
    | none => (.eligible, none)

end Eligibility

/-! ## Tables -/

structure Asset where
  id : Identifier
  symbol : String
  name : String
  assetType : String
  exchange : String
  currency : String
  isActive : Bool
  deriving DecidableEq, Repr

structure Issuer where
  id : Identifier
  canonicalName : String
  searchName : String
  cik : Option String
  country : Option String
  provenance : List (String × String)
  deriving DecidableEq, Repr

inductive ListingStatus where
  | active
  | inactive
  | delisted
  deriving DecidableEq, Repr

structure AssetListing where
  assetId : Identifier
  issuerId : Option Identifier
  symbol : String
  normalizedSymbol : String
  securityName : String
  exchangeCode : String
  mic : Option String
  assetType : String
  listingStatus : ListingStatus
  isActive : Bool
  isTestIssue : Bool
  isEtf : Bool
  eligibilityStatus : EligibilityStatus
  exclusionReason : Option String
  validFrom : Instant
  validTo : Option Instant
  source : String
  sourceRecordKey : String
  provenance : List (String × String)
  deriving DecidableEq, Repr

structure AssetIdentifier where
  assetId : Identifier
  issuerId : Option Identifier
  identifierType : String
  identifierValue : String
  source : String
  validFrom : Instant
  validTo : Option Instant
  provenance : List (String × String)
  deriving DecidableEq, Repr

structure ReferenceObservation where
  source : String
  sourceRecordKey : String
  retrievalTime : Instant
  checksum : String
  mediaType : String
  reconciliationOutcome : String
  assetId : Option Identifier
  issuerId : Option Identifier
  payload : List (String × String)
  deriving DecidableEq, Repr

structure AssetCapability where
  assetId : Identifier
  capability : String
  status : String
  providerCode : String
  feedType : String
  asOfTime : Instant
  reason : Option String
  details : List (String × String)
  deriving DecidableEq, Repr

/-- The columns of `uq_listing_symbol_period`.  None of them is ever changed. -/
def AssetListing.period (listing : AssetListing) : String × String × Instant :=
  (listing.exchangeCode, listing.normalizedSymbol, listing.validFrom)

/-- The columns of `uq_asset_identifier_period`. -/
def AssetIdentifier.period (known : AssetIdentifier) : Identifier × String × String × Instant :=
  (known.assetId, known.identifierType, known.source, known.validFrom)

/-- The columns of `uq_asset_capability_provider`. -/
def AssetCapability.provider (known : AssetCapability) : Identifier × String × String :=
  (known.assetId, known.capability, known.providerCode)

structure Catalog where
  assets : List Asset
  issuers : List Issuer
  listings : List AssetListing
  identifiers : List AssetIdentifier
  observations : List ReferenceObservation
  capabilities : List AssetCapability
  deriving DecidableEq, Repr

def validRange (validFrom : Instant) (validTo : Option Instant) : Bool :=
  validTo.all fun instant => validFrom < instant

/-- The constraints of the tables, which the database checks at every flush: unique identifiers,
symbols, CIKs, periods and checksums, ranges that do not end before they start, and listings of
assets that are there. -/
structure Catalog.Accepted (catalog : Catalog) : Prop where
  assetIds : (catalog.assets.map Asset.id).Nodup
  assetSymbols : (catalog.assets.map Asset.symbol).Nodup
  issuerIds : (catalog.issuers.map Issuer.id).Nodup
  issuerCiks : (catalog.issuers.filterMap Issuer.cik).Nodup
  listingPeriods : (catalog.listings.map AssetListing.period).Nodup
  listingRanges : forall listing, listing ∈ catalog.listings ->
    validRange listing.validFrom listing.validTo = true
  listingAssets : forall listing, listing ∈ catalog.listings ->
    listing.assetId ∈ catalog.assets.map Asset.id
  identifierPeriods : (catalog.identifiers.map AssetIdentifier.period).Nodup
  identifierRanges : forall known, known ∈ catalog.identifiers ->
    validRange known.validFrom known.validTo = true
  observationChecksums :
    (catalog.observations.map fun known => (known.source, known.checksum)).Nodup
  capabilityProviders : (catalog.capabilities.map AssetCapability.provider).Nodup

instance (catalog : Catalog) : Decidable catalog.Accepted :=
  decidable_of_iff
    ((catalog.assets.map Asset.id).Nodup ∧ (catalog.assets.map Asset.symbol).Nodup ∧
      (catalog.issuers.map Issuer.id).Nodup ∧ (catalog.issuers.filterMap Issuer.cik).Nodup ∧
      (catalog.listings.map AssetListing.period).Nodup ∧
      (forall listing, listing ∈ catalog.listings ->
        validRange listing.validFrom listing.validTo = true) ∧
      (forall listing, listing ∈ catalog.listings ->
        listing.assetId ∈ catalog.assets.map Asset.id) ∧
      (catalog.identifiers.map AssetIdentifier.period).Nodup ∧
      (forall known, known ∈ catalog.identifiers ->
        validRange known.validFrom known.validTo = true) ∧
      (catalog.observations.map fun known => (known.source, known.checksum)).Nodup ∧
      (catalog.capabilities.map AssetCapability.provider).Nodup)
    ⟨fun ⟨h1, h2, h3, h4, h5, h6, h7, h8, h9, h10, h11⟩ =>
      ⟨h1, h2, h3, h4, h5, h6, h7, h8, h9, h10, h11⟩,
    fun ⟨h1, h2, h3, h4, h5, h6, h7, h8, h9, h10, h11⟩ =>
      ⟨h1, h2, h3, h4, h5, h6, h7, h8, h9, h10, h11⟩⟩

/-! ## One call -/

inductive ReferenceError where
  | integrityError
  deriving DecidableEq, Repr

structure ReconcileCounts where
  records : Nat
  assetsInserted : Nat
  listingsInserted : Nat
  listingsUpdated : Nat
  listingsInactivated : Nat
  excluded : Nat
  secEnriched : Nat
  deriving DecidableEq, Repr

/-- The objects of the session, and the counts so far.  A tracked object keeps its stored row
apart from its attributes, since queries ask the rows. -/
structure Pass where
  assets : List (Tracked Asset)
  issuers : List (Tracked Issuer)
  listings : List (Tracked AssetListing)
  identifiers : List (Tracked AssetIdentifier)
  observations : List (Tracked ReferenceObservation)
  capabilities : List (Tracked AssetCapability)
  counts : ReconcileCounts

def Catalog.load (catalog : Catalog) (counts : ReconcileCounts) : Pass where
  assets := Sessions.load catalog.assets
  issuers := Sessions.load catalog.issuers
  listings := Sessions.load catalog.listings
  identifiers := Sessions.load catalog.identifiers
  observations := Sessions.load catalog.observations
  capabilities := Sessions.load catalog.capabilities
  counts := counts

def Pass.catalog (pass : Pass) : Catalog where
  assets := rows pass.assets
  issuers := rows pass.issuers
  listings := rows pass.listings
  identifiers := rows pass.identifiers
  observations := rows pass.observations
  capabilities := rows pass.capabilities

/-- `session.flush()` -/
def Pass.flush (pass : Pass) : Except ReferenceError Pass :=
  if pass.catalog.Accepted then .ok (pass.catalog.load pass.counts) else .error .integrityError

section Program

variable (library : Library) (now : Instant) (record : ReferenceSecurityRecord)

/-- The listing that is open under the key of the record. -/
def AssetListing.keyed (listing : AssetListing) : Bool :=
  listing.source = record.source ∧ listing.sourceRecordKey = record.sourceRecordKey ∧
    listing.validTo = none

/-- The listing that is open under its symbol and exchange. -/
def AssetListing.paired (listing : AssetListing) : Bool :=
  listing.normalizedSymbol = record.symbol ∧ listing.exchangeCode = record.exchangeCode ∧
    listing.validTo = none

def Pass.listing (pass : Pass) : Option AssetListing :=
  (select (AssetListing.keyed record) pass.listings).or
    (select (AssetListing.paired record) pass.listings)

def Pass.asset (listing : Option AssetListing) (pass : Pass) : Option Asset :=
  (listing.bind fun listing =>
    select (fun asset => asset.id = listing.assetId) pass.assets).or
    (select (fun asset => asset.symbol = record.symbol) pass.assets)

def newAsset : Asset where
  id := library.uuid5 ("security:" ++ record.exchangeCode ++ ":" ++ record.symbol)
  symbol := record.symbol
  name := record.securityName
  assetType := record.assetType
  exchange := record.exchangeCode
  currency := "USD"
  isActive := record.isActive

/-- The asset of the record, which is added where there is none. -/
def ensureAsset (listing : Option AssetListing) (pass : Pass) :
    Except ReferenceError (Identifier × Pass) :=
  match pass.asset record listing with
  | some asset => .ok (asset.id, pass)
  | none => do
      let added := { pass with assets := add (newAsset library record) pass.assets }
      let flushed ← added.flush
      pure ((newAsset library record).id, { flushed with
        counts.assetsInserted := flushed.counts.assetsInserted + 1 })

def newIssuer (cik : String) : Issuer where
  id := library.uuid5 ("issuer:cik:" ++ cik)
  canonicalName := record.securityName
  searchName := library.casefold record.securityName
  cik := some cik
  country := some "US"
  provenance := [("source", record.source)]

/-- `record.cik`, where it is truthy. -/
def ReferenceSecurityRecord.issuerCik : Option String :=
  record.cik.filter fun cik => cik ≠ ""

/-- The issuer of the record, if it has one, which is added where there is none. -/
def ensureIssuer (pass : Pass) : Except ReferenceError (Option Identifier × Pass) :=
  match record.issuerCik with
  | none => .ok (none, pass)
  | some cik =>
      match select (fun issuer => issuer.cik = some cik) pass.issuers with
      | some issuer => .ok (some issuer.id, { pass with
          counts.secEnriched := pass.counts.secEnriched + 1 })
      | none => do
          let added := { pass with issuers := add (newIssuer library record cik) pass.issuers }
          let flushed ← added.flush
          pure (some (newIssuer library record cik).id, { flushed with
            counts.secEnriched := flushed.counts.secEnriched + 1 })

def newListing (assetId : Identifier) (issuerId : Option Identifier) : AssetListing where
  assetId := assetId
  issuerId := issuerId
  symbol := record.symbol
  normalizedSymbol := record.symbol
  securityName := record.securityName
  exchangeCode := record.exchangeCode
  mic := record.mic
  assetType := record.assetType
  listingStatus := .active
  isActive := record.isActive
  isTestIssue := record.isTestIssue
  isEtf := record.isEtf
  eligibilityStatus := (eligibility library record).1
  exclusionReason := (eligibility library record).2
  validFrom := now
  validTo := none
  source := record.source
  sourceRecordKey := record.sourceRecordKey
  provenance := [("checksum", library.checksum record)]

/-- What a record writes to the listing it has found.  The symbol, the exchange and the key of
the listing stay as they were. -/
def writeListing (issuerId : Option Identifier) (listing : AssetListing) : AssetListing :=
  { listing with
    issuerId := issuerId.or listing.issuerId
    securityName := record.securityName
    mic := record.mic
    assetType := record.assetType
    isTestIssue := record.isTestIssue
    isEtf := record.isEtf
    eligibilityStatus := (eligibility library record).1
    exclusionReason := (eligibility library record).2
    isActive := record.isActive
    listingStatus := if record.isActive then .active else .inactive
    provenance := [("checksum", library.checksum record)] }

def storeListing (assetId : Identifier) (issuerId : Option Identifier)
    (listing : Option AssetListing) (pass : Pass) : Except ReferenceError Pass :=
  match listing with
  | none => do
      let added := { pass with
        listings := add (newListing library now record assetId issuerId) pass.listings }
      let flushed ← added.flush
      pure { flushed with counts.listingsInserted := flushed.counts.listingsInserted + 1 }
  | some listing =>
      .ok { pass with
        listings := update AssetListing.period listing.period
          (writeListing library record issuerId) pass.listings
        counts.listingsUpdated := pass.counts.listingsUpdated + 1 }

def writeAsset (asset : Asset) : Asset :=
  { asset with
    name := record.securityName
    assetType := record.assetType
    exchange := record.exchangeCode
    isActive := record.isActive }

def storeAsset (assetId : Identifier) (pass : Pass) : Pass :=
  { pass with assets := update Asset.id assetId (writeAsset record) pass.assets }

def newIdentifier (assetId issuerId : Identifier) (cik : String) : AssetIdentifier where
  assetId := assetId
  issuerId := some issuerId
  identifierType := "CIK"
  identifierValue := cik
  source := record.source
  validFrom := now
  validTo := none
  provenance := [("checksum", library.checksum record)]

def ensureIdentifier (assetId : Identifier) (issuerId : Option Identifier) (pass : Pass) : Pass :=
  match issuerId, record.issuerCik with
  | some issuerId, some cik =>
      match select (fun known => known.assetId = assetId ∧ known.identifierType = "CIK" ∧
          known.identifierValue = cik ∧ known.validTo = none) pass.identifiers with
      | some _ => pass
      | none =>
          { pass with
            identifiers :=
              add (newIdentifier library now record assetId issuerId cik) pass.identifiers }
  | _, _ => pass

def newObservation (assetId : Identifier) (issuerId : Option Identifier) :
    ReferenceObservation where
  source := record.source
  sourceRecordKey := record.sourceRecordKey
  retrievalTime := now
  checksum := library.checksum record
  mediaType := if "sec:".toList.isPrefixOf record.source.toList then "application/json"
    else "text/plain"
  reconciliationOutcome :=
    if (eligibility library record).1 = .excluded then "EXCLUDED" else "MATCHED"
  assetId := some assetId
  issuerId := issuerId
  payload := record.metadata

def ensureObservation (assetId : Identifier) (issuerId : Option Identifier) (pass : Pass) : Pass :=
  match select (fun known => known.source = record.source ∧
      known.checksum = library.checksum record) pass.observations with
  | some _ => pass
  | none =>
      { pass with
        observations :=
          add (newObservation library now record assetId issuerId) pass.observations }

/-- `status`, which is also that of a capability that is found. -/
def capabilityStatus : String :=
  if (eligibility library record).1 = .eligible then "REFERENCE_AVAILABLE" else "INACTIVE"

def newCapability (assetId : Identifier) : AssetCapability where
  assetId := assetId
  capability := "REFERENCE"
  status := capabilityStatus library record
  providerCode := record.source
  feedType := "REFERENCE"
  asOfTime := now
  reason := (eligibility library record).2
  details := [("checksum", library.checksum record)]

def writeCapability (known : AssetCapability) : AssetCapability :=
  { known with
    status := capabilityStatus library record
    asOfTime := now
    reason := (eligibility library record).2
    details := [("checksum", library.checksum record)] }

def storeCapability (assetId : Identifier) (pass : Pass) : Pass :=
  match select (fun known => known.assetId = assetId ∧ known.capability = "REFERENCE" ∧
      known.providerCode = record.source) pass.capabilities with
  | some known =>
      { pass with
        capabilities := update AssetCapability.provider known.provider
          (writeCapability library now record) pass.capabilities }
  | none =>
      { pass with
        capabilities := add (newCapability library now record assetId) pass.capabilities }

def countExcluded (pass : Pass) : Pass :=
  if (eligibility library record).1 = .excluded then
    { pass with counts.excluded := pass.counts.excluded + 1 }
  else pass

/-- The body of `for record in records`.  Whatever it adds is flushed where a later statement
needs its identifier. -/
def reconcileRecord (pass : Pass) : Except ReferenceError Pass := do
  let pass := countExcluded library record pass
  let listing := pass.listing record
  let (assetId, pass) ← ensureAsset library record listing pass
  let (issuerId, pass) ← ensureIssuer library record pass
  let pass ← storeListing library now record assetId issuerId listing pass
  let pass := storeAsset record assetId pass
  let pass := ensureIdentifier library now record assetId issuerId pass
  let pass := ensureObservation library now record assetId issuerId pass
  pure (storeCapability library now record assetId pass)

end Program

/-- `seen_by_source.setdefault(source, set()).add(key)` -/
def addSeen (seen : List (String × List String)) (record : ReferenceSecurityRecord) :
    List (String × List String) :=
  if record.source ∈ seen.map Prod.fst then
    seen.map fun entry =>
      if entry.1 = record.source then (entry.1, entry.2 ++ [record.sourceRecordKey]) else entry
  else seen ++ [(record.source, [record.sourceRecordKey])]

def closeListing (now : Instant) (listing : AssetListing) : AssetListing :=
  { listing with
    isActive := false
    listingStatus := .delisted
    validTo := some now }

/-- The listing is in the query of the sweep, and its key is missing. -/
def missing (source : String) (keys : List String) (object : Tracked AssetListing) : Bool :=
  object.stored.any (fun listing => listing.source = source ∧ listing.validTo = none ∧
      listing.isActive) &&
    !keys.contains object.current.sourceRecordKey

/-- The body of the loop over the sources of the feed. -/
def markMissing (now : Instant) (pass : Pass) (entry : String × List String) : Pass :=
  { pass with
    listings := pass.listings.map fun object =>
      if missing entry.1 entry.2 object then ⟨object.stored, closeListing now object.current⟩
      else object
    counts.listingsInactivated := pass.counts.listingsInactivated +
      (pass.listings.filter (missing entry.1 entry.2)).length }

def reconcileReferenceRecords (library : Library) (now : Instant)
    (records : List ReferenceSecurityRecord) (markMissingInactive : Bool) (catalog : Catalog) :
    Except ReferenceError (Catalog × ReconcileCounts) := do
  let pass ← records.foldlM (fun pass record => reconcileRecord library now record pass)
    (catalog.load ⟨records.length, 0, 0, 0, 0, 0, 0⟩)
  let pass := if markMissingInactive then
    (records.foldl addSeen []).foldl (markMissing now) pass else pass
  let flushed ← pass.flush
  pure (flushed.catalog, flushed.counts)

end ReferenceData
end MarketIntelligence
