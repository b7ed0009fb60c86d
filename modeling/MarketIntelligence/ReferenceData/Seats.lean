import MarketIntelligence.ReferenceData.Feeds

namespace MarketIntelligence
namespace ReferenceData

open Foundations
open Sessions
open Loops

/-!
# The asset of a record

A record writes one asset, and the listings and capabilities it writes or adds belong to that
asset.  Which asset it is depends on the places of the listings and on the identifiers and symbols
of the assets, and a call only adds to these.
-/

/-- The columns by which an asset is found. -/
def Catalog.seats (catalog : Catalog) : List (Identifier × String) :=
  catalog.assets.map fun asset => (asset.id, asset.symbol)

/-- The asset that a record finds: that of its listing, or else that of its symbol. -/
def seatOf (record : ReferenceSecurityRecord) (catalog : Catalog) : Option (Identifier × String) :=
  ((aim record catalog.places).bind fun place =>
    catalog.seats.find? fun seat => seat.1 = place.assetId).or
      (catalog.seats.find? fun seat => seat.2 = record.symbol)

/-- The symbol of the asset that a record writes, which is its own where it finds none. -/
def reached (record : ReferenceSecurityRecord) (catalog : Catalog) : String :=
  ((seatOf record catalog).map Prod.snd).getD record.symbol

/-- The identifier of the asset that a record writes. -/
def home (library : Library) (record : ReferenceSecurityRecord) (catalog : Catalog) : Identifier :=
  ((seatOf record catalog).map Prod.fst).getD (newAsset library record).id

/-- The issuer of a record, which is found by its CIK or added. -/
def issuerFor (library : Library) (issuers : List Issuer) (record : ReferenceSecurityRecord) :
    Option Identifier :=
  record.issuerCik.map fun cik =>
    ((issuers.find? fun issuer => issuer.cik = some cik).map Issuer.id).getD
      (library.uuid5 ("issuer:cik:" ++ cik))

/-! ## What a record does to each table -/

def missingAsset (library : Library) (record : ReferenceSecurityRecord) (catalog : Catalog) :
    List Asset :=
  match seatOf record catalog with
  | some _ => []
  | none => [newAsset library record]

def takeListing (library : Library) (now : Instant) (assetId : Identifier)
    (issuer : ReferenceSecurityRecord -> Option Identifier) (listings : List AssetListing)
    (record : ReferenceSecurityRecord) : List AssetListing :=
  match aim record (listings.map AssetListing.place) with
  | some place =>
      listings.map (atPeriod place.period (writeListing library record (issuer record)))
  | none => listings ++ [newListing library now record assetId (issuer record)]

def takeCapability (library : Library) (now : Instant) (assetId : Identifier)
    (capabilities : List AssetCapability) (record : ReferenceSecurityRecord) :
    List AssetCapability :=
  if (assetId, "REFERENCE", record.source) ∈ capabilities.map AssetCapability.provider then
    capabilities.map (atProvider library now record assetId)
  else capabilities ++ [newCapability library now record assetId]

/-- What a record does to the assets, the listings and the capabilities, as far as the capability
that it adds is a new one. -/
structure Takes (library : Library) (now : Instant) (record : ReferenceSecurityRecord)
    (before after : Catalog) : Prop where
  assets : after.assets = (before.assets ++ missingAsset library record before).map
    (atAsset (home library record before) record)
  issuers : issuerFor library after.issuers = issuerFor library before.issuers
  listings : after.listings = takeListing library now (home library record before)
    (issuerFor library before.issuers) before.listings record
  providers : before.capabilities.map AssetCapability.provider <+:
    after.capabilities.map AssetCapability.provider
  capabilities : (after.capabilities.map AssetCapability.provider).Nodup ->
    after.capabilities =
      takeCapability library now (home library record before) before.capabilities record

/-- Assets are told apart by their identifiers and by their symbols. -/
structure Seated (catalog : Catalog) : Prop where
  ids : (catalog.seats.map Prod.fst).Nodup
  symbols : (catalog.seats.map Prod.snd).Nodup

theorem Catalog.Accepted.seated {catalog : Catalog} (accepted : catalog.Accepted) :
    Seated catalog := by
  constructor
  · rw [Catalog.seats, List.map_map]
    exact accepted.assetIds
  · rw [Catalog.seats, List.map_map]
    exact accepted.assetSymbols

section Steps

variable {library : Library} {now : Instant} {record : ReferenceSecurityRecord} {pass : Pass}
  {free : Place -> Bool}

/-- The session finds the asset that the catalog has. -/
theorem InSession.asset_seat (session : InSession free pass) :
    (pass.asset record (pass.listing record)).map (fun asset => (asset.id, asset.symbol)) =
      seatOf record pass.catalog := by
  have byId : forall assetId : Identifier,
      (select (fun asset : Asset => asset.id = assetId) pass.assets).map
          (fun asset => (asset.id, asset.symbol)) =
        pass.catalog.seats.find? fun seat => seat.1 = assetId := by
    intro assetId
    have found := session.assets.select fun seat => decide (seat.1 = assetId)
    rw [Catalog.seats, List.find?_map]
    exact congrArg (Option.map _) found
  have bySymbol : (select (fun asset : Asset => asset.symbol = record.symbol) pass.assets).map
      (fun asset => (asset.id, asset.symbol)) =
        pass.catalog.seats.find? fun seat => seat.2 = record.symbol := by
    have found := session.assets.select fun seat => decide (seat.2 = record.symbol)
    rw [Catalog.seats, List.find?_map]
    exact congrArg (Option.map _) found
  rw [Pass.asset, Option.map_or, bySymbol, seatOf, ← session.listing_place]
  cases pass.listing record with
  | none => rfl
  | some listing => exact congrArg (Option.or · _) (byId listing.assetId)

theorem ensureAsset_home (session : InSession free pass) (seated : Seated pass.catalog)
    {assetId : Identifier} {next : Pass}
    (done : ensureAsset library record (pass.listing record) pass = .ok (assetId, next)) :
    assetId = home library record pass.catalog ∧ Seated next.catalog ∧
      next.catalog = { pass.catalog with
        assets := pass.catalog.assets ++ missingAsset library record pass.catalog } := by
  have seat : (pass.asset record (pass.listing record)).map (fun asset => (asset.id, asset.symbol)) =
      seatOf record pass.catalog := session.asset_seat
  rw [ensureAsset] at done
  cases known : pass.asset record (pass.listing record) with
  | some asset =>
      rw [known] at done seat
      cases done
      have present : missingAsset library record pass.catalog = [] := by
        rw [missingAsset, ← seat]
        rfl
      rw [home, present, ← seat, List.append_nil]
      exact ⟨rfl, seated, rfl⟩
  | none =>
      rw [known] at done seat
      rcases except_bind_ok done with ⟨flushed, stored, ends⟩
      cases ends
      rcases flush_ok stored with ⟨accepted, loaded⟩
      have after : flushed.catalog = { pass.catalog with
          assets := pass.catalog.assets ++ [newAsset library record] } := by
        rw [loaded, catalog_load]
        simp only [Pass.catalog, rows_add]
      have kept : Seated flushed.catalog := by
        rw [loaded, catalog_load]
        exact accepted.seated
      rw [home, missingAsset, ← seat]
      exact ⟨rfl, kept, after⟩

/-- The identifier of the issuer that is added is that of its CIK. -/
theorem ensureIssuer_for (session : InSession free pass) {issuerId : Option Identifier}
    {next : Pass} (done : ensureIssuer library record pass = .ok (issuerId, next)) :
    issuerId = issuerFor library pass.catalog.issuers record ∧
      issuerFor library next.catalog.issuers = issuerFor library pass.catalog.issuers ∧
      next.catalog.assets = pass.catalog.assets ∧
      next.catalog.listings = pass.catalog.listings ∧
      next.catalog.capabilities = pass.catalog.capabilities := by
  cases ensureIssuer_cases session done with
  | unnamed known =>
      refine ⟨?_, rfl, rfl, rfl, rfl⟩
      rw [issuerFor, known]
      rfl
  | found cik issuer known found =>
      refine ⟨?_, rfl, rfl, rfl, rfl⟩
      rw [issuerFor, known, Option.map_some, found]
      rfl
  | added cik flushed known missing stored catalog =>
      have issuers : flushed.catalog.issuers =
          pass.catalog.issuers ++ [newIssuer library record cik] :=
        congrArg Catalog.issuers catalog
      have assets := congrArg Catalog.assets catalog
      have listings := congrArg Catalog.listings catalog
      have capabilities := congrArg Catalog.capabilities catalog
      refine ⟨?_, ?_, assets, listings, capabilities⟩
      · rw [issuerFor, known, Option.map_some, missing]
        rfl
      · funext other
        change issuerFor library flushed.catalog.issuers other = _
        rw [issuers, issuerFor, issuerFor]
        congr 1
        funext wanted
        rw [List.find?_append]
        cases earlier : pass.catalog.issuers.find? fun issuer => issuer.cik = some wanted with
        | some issuer => rfl
        | none =>
            rw [Option.none_or, List.find?_singleton]
            by_cases same : (newIssuer library record cik).cik = some wanted
            · rw [if_pos (decide_eq_true same)]
              have equal : cik = wanted := Option.some.inj same
              rw [← equal]
              rfl
            · rw [if_neg fun holds => same (of_decide_eq_true holds)]

theorem atAsset_seat (assetId : Identifier) (record : ReferenceSecurityRecord) (asset : Asset) :
    ((atAsset assetId record asset).id, (atAsset assetId record asset).symbol) =
      (asset.id, asset.symbol) := by
  rw [atAsset]
  by_cases same : asset.id = assetId
  · rw [if_pos same]
    rfl
  · rw [if_neg same]

theorem atProvider_provider (assetId : Identifier) (known : AssetCapability) :
    (atProvider library now record assetId known).provider = known.provider := by
  rw [atProvider]
  by_cases same : known.provider = (assetId, "REFERENCE", record.source)
  · rw [if_pos same]
    rfl
  · rw [if_neg same]

/-- The assets that a record adds are the seats that it adds. -/
theorem Takes.seats {before after : Catalog} (takes : Takes library now record before after) :
    after.seats = before.seats ++ (missingAsset library record before).map
      fun asset => (asset.id, asset.symbol) := by
  rw [Catalog.seats, takes.assets, List.map_map, Catalog.seats, ← List.map_append]
  exact List.map_congr_left fun asset _ => atAsset_seat _ record asset

theorem takes_of_completed {before middle after : Catalog}
    (complete : Completed library now record (home library record before) middle after)
    (assets : middle.assets = before.assets ++ missingAsset library record before)
    (issuers : issuerFor library middle.issuers = issuerFor library before.issuers)
    (listings : middle.listings = takeListing library now (home library record before)
      (issuerFor library before.issuers) before.listings record)
    (capabilities : middle.capabilities = before.capabilities) :
    Takes library now record before after := by
  refine ⟨?_, ?_, complete.listings.trans listings, ?_, ?_⟩
  · rw [complete.assets, assets]
  · rw [complete.issuers, issuers]
  · rw [← capabilities]
    rcases complete.capabilities with ⟨mapped, _⟩ | appended
    · refine ⟨[], ?_⟩
      rw [mapped, List.append_nil, List.map_map]
      exact List.map_congr_left fun known _ => (atProvider_provider _ known).symm
    · rw [appended, List.map_append]
      exact ⟨_, rfl⟩
  · intro distinct
    rw [takeCapability, ← capabilities]
    rcases complete.capabilities with ⟨mapped, known, member, provider⟩ | appended
    · rw [if_pos (List.mem_map.mpr ⟨known, member, provider⟩), mapped]
    · rw [appended, List.map_append] at distinct
      have fresh : (home library record before, "REFERENCE", record.source) ∉
          middle.capabilities.map AssetCapability.provider :=
        fun member => (List.nodup_append.mp distinct).2.2 _ member _ List.mem_cons_self rfl
      rw [if_neg fresh, appended]

/-- What a record does where it is taken. -/
theorem reconcileRecord_takes (session : InSession free pass) (linked : Linked pass.catalog)
    (seated : Seated pass.catalog)
    (written : forall listing, listing ∈ pass.catalog.listings ->
      aim record pass.catalog.places = some listing.place ->
        free listing.place = true ∨ listing.isActive = record.isActive)
    {next : Pass} (done : reconcileRecord library now record pass = .ok next) :
    InSession free next ∧ Linked next.catalog ∧ Seated next.catalog ∧
      Takes library now record pass.catalog next.catalog := by
  rcases @countExcluded_catalog library record pass free session with ⟨begins, same⟩
  rw [reconcileRecord] at done
  rcases except_bind_ok done with ⟨⟨assetId, owned⟩, first, rest⟩
  rcases except_bind_ok rest with ⟨⟨issuerId, issued⟩, second, further⟩
  rcases except_bind_ok further with ⟨listed, third, ends⟩
  rw [← same] at linked seated written ⊢
  rcases ensureAsset_ok begins linked rfl first with ⟨ownedSession, ownedLinked, _, _, _⟩
  rcases ensureAsset_home begins seated first with ⟨homes, ownedSeated, ownedCatalog⟩
  subst homes
  rcases ensureIssuer_ok ownedSession ownedLinked second with
    ⟨issuedSession, issuedLinked, _, _, present⟩
  rcases ensureIssuer_for ownedSession second with
    ⟨issuer, issuers, assets, listings, capabilities⟩
  rw [ownedCatalog] at issuer issuers assets listings capabilities ownedSeated
  have aimed := @InSession.listing_place record _ free begins
  have stored : InSession free listed ∧ Linked listed.catalog ∧
      listed.catalog = { issued.catalog with
        listings := takeListing library now
          (home library record (countExcluded library record pass).catalog)
          (issuerFor library (countExcluded library record pass).catalog.issuers)
          (countExcluded library record pass).catalog.listings record } := by
    cases listing : (countExcluded library record pass).listing record with
    | none =>
        rw [listing] at third aimed
        rcases storeListing_new third with ⟨listedSession, listedLinked, listedCatalog⟩
        refine ⟨listedSession, listedLinked, listedCatalog.trans ?_⟩
        have missed : aim record ((countExcluded library record pass).catalog.listings.map
            AssetListing.place) = none := aimed.symm
        rw [takeListing, missed, listings, issuer]
    | some known =>
        rw [listing] at third aimed
        have member := begins.listing_mem listing
        rcases storeListing_known issuedSession issuedLinked (listings ▸ member)
            (written known member aimed.symm) third with
          ⟨listedSession, listedLinked, listedCatalog⟩
        refine ⟨listedSession, listedLinked, listedCatalog.trans ?_⟩
        have hit : aim record ((countExcluded library record pass).catalog.listings.map
            AssetListing.place) = some known.place := aimed.symm
        rw [takeListing, hit, listings, issuer]
        rfl
  rcases stored with ⟨listedSession, listedLinked, listedCatalog⟩
  rcases @completed library now record _ free listedSession listedLinked _ issuerId present
    with ⟨finalSession, finalLinked, complete⟩
  cases ends
  have takes := takes_of_completed complete
    ((congrArg Catalog.assets listedCatalog).trans assets)
    ((congrArg (fun catalog => issuerFor library catalog.issuers) listedCatalog).trans issuers)
    (congrArg Catalog.listings listedCatalog)
    ((congrArg Catalog.capabilities listedCatalog).trans capabilities)
  refine ⟨finalSession, finalLinked, ?_, takes⟩
  have seats := takes.seats
  have kept : ({ (countExcluded library record pass).catalog with
      assets := (countExcluded library record pass).catalog.assets ++
        missingAsset library record (countExcluded library record pass).catalog } :
          Catalog).seats = _ := List.map_append
  constructor
  · rw [seats]
    exact kept ▸ ownedSeated.ids
  · rw [seats]
    exact kept ▸ ownedSeated.symbols

end Steps

end ReferenceData
end MarketIntelligence
