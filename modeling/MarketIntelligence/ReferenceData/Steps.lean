import MarketIntelligence.ReferenceData.Listings

namespace MarketIntelligence
namespace ReferenceData

open Foundations
open Sessions
open Loops

/-!
# What one record does to the catalog

The session sees the columns by which assets, issuers and listings are found as they are, since
it flushes what it adds to them and never changes these columns.  Whether a listing is active
is seen as it is where no record writes the listing.  Of the other tables the session sees what
was flushed.
-/

/-- The place of a listing, and whether it is active unless its place is one of those that may
be written. -/
def AssetListing.seen (free : Place -> Bool) (listing : AssetListing) : Place × Option Bool :=
  (listing.place, if free listing.place then none else some listing.isActive)

/-- Queries of the session see the columns they look at as they are: what a record has written to
them is flushed before the next query asks. -/
structure InSession (free : Place -> Bool) (pass : Pass) : Prop where
  assets : Synced (fun asset : Asset => (asset.id, asset.symbol)) pass.assets
  issuers : Synced (fun issuer : Issuer => issuer) pass.issuers
  listings : Synced (AssetListing.seen free) pass.listings
  identifiers : Held (fun known : AssetIdentifier => known) pass.identifiers
  observations : Held (fun known : ReferenceObservation => known) pass.observations
  capabilities : Held AssetCapability.provider pass.capabilities

/-- Listings are told apart by their periods, and each has an asset of the catalog.  The unique
constraint and the foreign key see to it. -/
structure Linked (catalog : Catalog) : Prop where
  periods : (catalog.listings.map AssetListing.period).Nodup
  assets : forall listing, listing ∈ catalog.listings ->
    listing.assetId ∈ catalog.assets.map Asset.id

theorem inSession_load (free : Place -> Bool) (catalog : Catalog) (counts : ReconcileCounts) :
    InSession free (catalog.load counts) :=
  ⟨synced_load _ _, synced_load _ _, synced_load _ _, (synced_load _ _).held,
    (synced_load _ _).held, (synced_load _ _).held⟩

@[simp]
theorem catalog_load (catalog : Catalog) (counts : ReconcileCounts) :
    (catalog.load counts).catalog = catalog := by
  simp only [Pass.catalog, Catalog.load, rows_load]

theorem flush_ok {pass next : Pass} (done : pass.flush = .ok next) :
    pass.catalog.Accepted ∧ next = pass.catalog.load pass.counts := by
  rw [Pass.flush] at done
  by_cases accepted : pass.catalog.Accepted
  · rw [if_pos accepted] at done
    cases done
    exact ⟨accepted, rfl⟩
  · rw [if_neg accepted] at done
    cases done

theorem Catalog.Accepted.linked {catalog : Catalog} (accepted : catalog.Accepted) :
    Linked catalog :=
  ⟨accepted.listingPeriods, accepted.listingAssets⟩

theorem flush_session {pass next : Pass} (done : pass.flush = .ok next) :
    next.catalog = pass.catalog ∧ (forall free, InSession free next) ∧ Linked next.catalog := by
  rcases flush_ok done with ⟨accepted, same⟩
  rw [same, catalog_load]
  exact ⟨rfl, fun free => inSession_load free _ _, accepted.linked⟩

/-- The counts are no part of what the session holds. -/
theorem InSession.counted {free : Place -> Bool} {pass : Pass} (session : InSession free pass)
    (counts : ReconcileCounts) : InSession free { pass with counts := counts } :=
  ⟨session.assets, session.issuers, session.listings, session.identifiers, session.observations,
    session.capabilities⟩

section Parts

variable {library : Library} {now : Instant} {record : ReferenceSecurityRecord} {pass : Pass}
  {free : Place -> Bool}

/-- The listing that is found is the one in the place the record aims at. -/
theorem InSession.listing_eq (session : InSession free pass) :
    pass.listing record =
      (pass.catalog.listings.find? fun listing => listing.place.Keyed record).or
        (pass.catalog.listings.find? fun listing => listing.place.Paired record) := by
  have keyed := session.listings.select fun seen => decide (seen.1.Keyed record)
  have paired := session.listings.select fun seen => decide (seen.1.Paired record)
  exact congr (congrArg Option.or keyed) paired

theorem InSession.listing_place (session : InSession free pass) :
    (pass.listing record).map AssetListing.place = aim record pass.catalog.places := by
  rw [session.listing_eq, aim, Catalog.places, List.find?_map, List.find?_map, Option.map_or]
  rfl

theorem InSession.listing_mem (session : InSession free pass) {listing : AssetListing}
    (found : pass.listing record = some listing) : listing ∈ pass.catalog.listings := by
  rw [session.listing_eq, Option.or_eq_some_iff] at found
  rcases found with keyed | ⟨_, paired⟩
  · exact List.mem_of_find?_eq_some keyed
  · exact List.mem_of_find?_eq_some paired

/-- The asset of the listing that is found is found. -/
theorem InSession.owned (session : InSession free pass) (linked : Linked pass.catalog)
    {known : AssetListing} (found : pass.listing record = some known) :
    exists asset, select (fun asset : Asset => asset.id = known.assetId) pass.assets =
      some asset := by
  have byId : select (fun asset : Asset => asset.id = known.assetId) pass.assets =
      pass.catalog.assets.find? fun asset => asset.id = known.assetId :=
    session.assets.select fun columns => decide (columns.1 = known.assetId)
  have listed := linked.assets known (session.listing_mem found)
  rcases List.mem_map.mp listed with ⟨asset, member, equal⟩
  rw [byId]
  exact Option.isSome_iff_exists.mp
    (List.find?_isSome.mpr ⟨asset, member, decide_eq_true equal⟩)

/-- An asset is found by its identifier, or else by the symbol. -/
theorem ensureAsset_ok (session : InSession free pass) (linked : Linked pass.catalog)
    {listing : Option AssetListing} (found : pass.listing record = listing)
    {assetId : Identifier} {next : Pass}
    (done : ensureAsset library record listing pass = .ok (assetId, next)) :
    InSession free next ∧ Linked next.catalog ∧
      (exists added, next.catalog =
          { pass.catalog with assets := pass.catalog.assets ++ added } ∧
        forall asset, asset ∈ added -> asset.id = assetId) ∧
      assetId ∈ next.catalog.assets.map Asset.id ∧
      forall known, listing = some known -> assetId = known.assetId := by
  have byId : forall known : AssetListing,
      select (fun asset : Asset => asset.id = known.assetId) pass.assets =
        pass.catalog.assets.find? fun asset => asset.id = known.assetId :=
    fun known => session.assets.select fun columns => decide (columns.1 = known.assetId)
  have bySymbol : select (fun asset : Asset => asset.symbol = record.symbol) pass.assets =
      pass.catalog.assets.find? fun asset => asset.symbol = record.symbol :=
    session.assets.select fun columns => decide (columns.2 = record.symbol)
  rw [ensureAsset] at done
  cases known : pass.asset record listing with
  | some asset =>
      rw [known] at done
      cases done
      have member : asset ∈ pass.catalog.assets := by
        rw [Pass.asset, bySymbol, Option.or_eq_some_iff] at known
        rcases known with there | ⟨_, there⟩
        · rcases Option.bind_eq_some_iff.mp there with ⟨other, _, selected⟩
          rw [byId] at selected
          exact List.mem_of_find?_eq_some selected
        · exact List.mem_of_find?_eq_some there
      refine ⟨session, linked, ⟨[], ?_, fun _ impossible => absurd impossible List.not_mem_nil⟩,
        List.mem_map_of_mem member, ?_⟩
      · rw [List.append_nil]
      · intro other same
        rcases session.owned linked (found.trans same) with ⟨owner, selected⟩
        rw [Pass.asset, same, Option.bind_some, selected, Option.some_or] at known
        cases known
        rw [byId] at selected
        have holds := List.find?_some selected
        exact of_decide_eq_true holds
  | none =>
      rw [known] at done
      rcases except_bind_ok done with ⟨flushed, stored, ends⟩
      cases ends
      rcases flush_session stored with ⟨same, loaded, sound⟩
      have after : flushed.catalog = { pass.catalog with
          assets := pass.catalog.assets ++ [newAsset library record] } := by
        rw [same]
        simp only [Pass.catalog, rows_add]
      refine ⟨(loaded free).counted _, sound, ⟨_, after, ?_⟩, ?_, ?_⟩
      · intro asset added
        rw [List.mem_singleton.mp added]
      · have ids : flushed.catalog.assets = pass.catalog.assets ++ [newAsset library record] :=
          congrArg Catalog.assets after
        have member : newAsset library record ∈ flushed.catalog.assets := by
          rw [ids]
          exact List.mem_append_right _ List.mem_cons_self
        exact List.mem_map_of_mem member
      · intro other equal
        rcases session.owned linked (found.trans equal) with ⟨owner, selected⟩
        rw [Pass.asset, equal, Option.bind_some, selected, Option.some_or] at known
        cases known

/-- The issuer a record finds, once it is stored. -/
def issuerOf (record : ReferenceSecurityRecord) (issuers : List Issuer) : Option Identifier :=
  record.issuerCik.bind fun cik =>
    (issuers.find? fun issuer => issuer.cik = some cik).map Issuer.id

/-- How the issuer of a record is found: it has none, it is known, or it is added. -/
inductive EnsuresIssuer (library : Library) (record : ReferenceSecurityRecord) (pass : Pass) :
    Option Identifier -> Pass -> Prop where
  | unnamed (known : record.issuerCik = none) : EnsuresIssuer library record pass none pass
  | found (cik : String) (issuer : Issuer) (known : record.issuerCik = some cik)
      (found : (pass.catalog.issuers.find? fun issuer => issuer.cik = some cik) = some issuer) :
      EnsuresIssuer library record pass (some issuer.id)
        { pass with counts.secEnriched := pass.counts.secEnriched + 1 }
  | added (cik : String) (flushed : Pass) (known : record.issuerCik = some cik)
      (missing : (pass.catalog.issuers.find? fun issuer => issuer.cik = some cik) = none)
      (stored : { pass with issuers := add (newIssuer library record cik) pass.issuers }.flush =
        .ok flushed)
      (catalog : flushed.catalog = { pass.catalog with
        issuers := pass.catalog.issuers ++ [newIssuer library record cik] }) :
      EnsuresIssuer library record pass (some (newIssuer library record cik).id)
        { flushed with counts.secEnriched := flushed.counts.secEnriched + 1 }

theorem ensureIssuer_cases (session : InSession free pass) {issuerId : Option Identifier}
    {next : Pass} (done : ensureIssuer library record pass = .ok (issuerId, next)) :
    EnsuresIssuer library record pass issuerId next := by
  have byCik : forall cik : String,
      select (fun issuer : Issuer => issuer.cik = some cik) pass.issuers =
        pass.catalog.issuers.find? fun issuer => issuer.cik = some cik :=
    fun cik => session.issuers.select fun issuer => decide (issuer.cik = some cik)
  rw [ensureIssuer] at done
  cases known : record.issuerCik with
  | none =>
      rw [known] at done
      cases done
      exact .unnamed known
  | some cik =>
      simp only [known, byCik] at done
      cases found : pass.catalog.issuers.find? fun issuer => issuer.cik = some cik with
      | some issuer =>
          simp only [found] at done
          cases done
          exact .found cik issuer known found
      | none =>
          simp only [found] at done
          rcases except_bind_ok done with ⟨flushed, stored, ends⟩
          cases ends
          refine .added cik flushed known found stored ?_
          rw [(flush_session stored).1]
          simp only [Pass.catalog, rows_add]

theorem ensureIssuer_ok (session : InSession free pass) (linked : Linked pass.catalog)
    {issuerId : Option Identifier} {next : Pass}
    (done : ensureIssuer library record pass = .ok (issuerId, next)) :
    InSession free next ∧ Linked next.catalog ∧
      (exists added, next.catalog =
          { pass.catalog with issuers := pass.catalog.issuers ++ added } ∧
        forall issuer, issuer ∈ added -> issuer.cik = record.issuerCik) ∧
      issuerId = issuerOf record next.catalog.issuers ∧
      (record.issuerCik.isSome = true -> issuerId.isSome = true) := by
  cases ensureIssuer_cases session done with
  | unnamed known =>
      refine ⟨session, linked, ⟨[], ?_, fun _ none => absurd none List.not_mem_nil⟩, ?_, ?_⟩
      · rw [List.append_nil]
      · rw [issuerOf, known]
        rfl
      · intro impossible
        rw [known] at impossible
        cases impossible
  | found cik issuer known found =>
      refine ⟨session.counted _, linked, ⟨[], ?_, fun _ none => absurd none List.not_mem_nil⟩, ?_,
        fun _ => rfl⟩
      · rw [List.append_nil]
        rfl
      · rw [issuerOf, known, Option.bind_some]
        exact (congrArg (Option.map Issuer.id) found).symm
  | added cik flushed known missing stored catalog =>
      rcases flush_session stored with ⟨_, loaded, sound⟩
      refine ⟨(loaded free).counted _, sound, ⟨_, catalog, ?_⟩, ?_, fun _ => rfl⟩
      · intro issuer member
        rw [List.mem_singleton.mp member, known]
        rfl
      have issuers : flushed.catalog.issuers =
          pass.catalog.issuers ++ [newIssuer library record cik] :=
        congrArg Catalog.issuers catalog
      change some (newIssuer library record cik).id =
        issuerOf record flushed.catalog.issuers
      have own : decide ((newIssuer library record cik).cik = some cik) = true :=
        decide_eq_true rfl
      rw [issuers, issuerOf, known, Option.bind_some, List.find?_append, missing,
        Option.none_or, List.find?_singleton, if_pos own]
      rfl

/-- A change of the listing at a period. -/
def atPeriod (period : String × String × Instant) (change : AssetListing -> AssetListing)
    (listing : AssetListing) : AssetListing :=
  if listing.period = period then change listing else listing

theorem atPeriod_place {period : String × String × Instant} {change : AssetListing -> AssetListing}
    (keeps : forall listing, (change listing).place = listing.place) (listing : AssetListing) :
    (atPeriod period change listing).place = listing.place := by
  rw [atPeriod]
  by_cases same : listing.period = period
  · rw [if_pos same, keeps]
  · rw [if_neg same]

/-- What depends on the places of the listings alone stays. -/
theorem places_of_listings {before after : Catalog} {change : AssetListing -> AssetListing}
    (keeps : forall listing, (change listing).place = listing.place)
    (listings : after.listings = before.listings.map change) : after.places = before.places := by
  rw [Catalog.places, Catalog.places, listings, List.map_map]
  exact List.map_congr_left fun listing _ => keeps listing

theorem periods_eq (catalog : Catalog) :
    catalog.listings.map AssetListing.period = catalog.places.map Place.period := by
  rw [Catalog.places, List.map_map]
  rfl

theorem Linked.of_places {before after : Catalog} (linked : Linked before)
    (places : after.places = before.places)
    (assets : forall assetId, assetId ∈ before.assets.map Asset.id ->
      assetId ∈ after.assets.map Asset.id) : Linked after := by
  constructor
  · rw [periods_eq, places, ← periods_eq]
    exact linked.periods
  · intro listing member
    have placed : listing.place ∈ before.places := places ▸ List.mem_map_of_mem member
    rcases List.mem_map.mp placed with ⟨other, listed, same⟩
    have owner := assets _ (linked.assets other listed)
    have ids : other.assetId = listing.assetId := congrArg Place.assetId same
    exact ids ▸ owner

theorem storeListing_new {assetId : Identifier} {issuerId : Option Identifier} {next : Pass}
    (done : storeListing library now record assetId issuerId none pass = .ok next) :
    InSession free next ∧ Linked next.catalog ∧
      next.catalog = { pass.catalog with
        listings := pass.catalog.listings ++
          [newListing library now record assetId issuerId] } := by
  rcases except_bind_ok done with ⟨flushed, stored, ends⟩
  cases ends
  rcases flush_session stored with ⟨same, loaded, sound⟩
  have after : flushed.catalog = { pass.catalog with
      listings := pass.catalog.listings ++
        [newListing library now record assetId issuerId] } := by
    rw [same]
    simp only [Pass.catalog, rows_add]
  exact ⟨(loaded free).counted _, sound, after⟩

theorem storeListing_known (session : InSession free pass) (linked : Linked pass.catalog)
    {known : AssetListing} (member : known ∈ pass.catalog.listings)
    (written : free known.place = true ∨ known.isActive = record.isActive) {assetId : Identifier}
    {issuerId : Option Identifier} {next : Pass}
    (done : storeListing library now record assetId issuerId (some known) pass = .ok next) :
    InSession free next ∧ Linked next.catalog ∧
      next.catalog = { pass.catalog with
        listings := pass.catalog.listings.map
          (atPeriod known.period (writeListing library record issuerId)) } := by
  cases done
  have listings : rows (update AssetListing.period known.period
      (writeListing library record issuerId) pass.listings) =
      pass.catalog.listings.map
        (atPeriod known.period (writeListing library record issuerId)) :=
    rows_update _ _ _ _
  have seen : Synced (AssetListing.seen free) (update AssetListing.period known.period
      (writeListing library record issuerId) pass.listings) := by
    apply session.listings.update
    intro listing listed same
    have equal := List.inj_on_of_nodup_map linked.periods listed member same
    rw [equal, AssetListing.seen, AssetListing.seen]
    rcases written with written | kept
    · rw [if_pos written]
      exact congrArg (Prod.mk known.place) (if_pos written)
    · rw [kept]
      rfl
  refine ⟨⟨session.assets, session.issuers, seen, session.identifiers, session.observations,
    session.capabilities⟩, ?_, ?_⟩
  · have keeps : forall listing, (atPeriod known.period (writeListing library record issuerId)
        listing).place = listing.place :=
      atPeriod_place fun _ => rfl
    exact linked.of_places (places_of_listings keeps listings) fun _ member => member
  · simp only [Pass.catalog, listings]

/-- The catalog with the asset of the record written. -/
def atAsset (assetId : Identifier) (record : ReferenceSecurityRecord) (asset : Asset) : Asset :=
  if asset.id = assetId then writeAsset record asset else asset

theorem atAsset_id (assetId : Identifier) (record : ReferenceSecurityRecord) (asset : Asset) :
    (atAsset assetId record asset).id = asset.id := by
  rw [atAsset]
  by_cases same : asset.id = assetId
  · rw [if_pos same]
    rfl
  · rw [if_neg same]

theorem map_atAsset_id (assetId : Identifier) (assets : List Asset) :
    (assets.map (atAsset assetId record)).map Asset.id = assets.map Asset.id := by
  rw [List.map_map]
  exact List.map_congr_left fun asset _ => atAsset_id assetId record asset

theorem storeAsset_catalog (session : InSession free pass) (linked : Linked pass.catalog)
    (assetId : Identifier) :
    InSession free (storeAsset record assetId pass) ∧
      Linked (storeAsset record assetId pass).catalog ∧
      (storeAsset record assetId pass).catalog = { pass.catalog with
        assets := pass.catalog.assets.map (atAsset assetId record) } := by
  have assets : rows (update Asset.id assetId (writeAsset record) pass.assets) =
      pass.catalog.assets.map (atAsset assetId record) :=
    rows_update _ _ _ _
  have after : (storeAsset record assetId pass).catalog = { pass.catalog with
      assets := pass.catalog.assets.map (atAsset assetId record) } := by
    simp only [storeAsset, Pass.catalog, assets]
  refine ⟨⟨session.assets.update _ _ fun _ _ _ => rfl, session.issuers, session.listings,
    session.identifiers, session.observations, session.capabilities⟩, ?_, after⟩
  rw [after]
  apply linked.of_places
  · rfl
  · intro other member
    rw [map_atAsset_id]
    exact member

/-- The CIK of the record is known of the asset. -/
def Identified (record : ReferenceSecurityRecord) (assetId : Identifier)
    (known : AssetIdentifier) : Prop :=
  known.assetId = assetId ∧ known.identifierType = "CIK" ∧
    record.issuerCik = some known.identifierValue ∧ known.validTo = none

theorem ensureIdentifier_catalog (session : InSession free pass) (linked : Linked pass.catalog)
    (assetId : Identifier) {issuerId : Option Identifier}
    (issued : record.issuerCik.isSome = true -> issuerId.isSome = true) :
    InSession free (ensureIdentifier library now record assetId issuerId pass) ∧
      Linked (ensureIdentifier library now record assetId issuerId pass).catalog ∧
      exists added, (ensureIdentifier library now record assetId issuerId pass).catalog =
          { pass.catalog with identifiers := pass.catalog.identifiers ++ added } ∧
        (record.issuerCik.isSome = true ->
          exists known, known ∈ pass.catalog.identifiers ++ added ∧
            Identified record assetId known) := by
  cases issuer : issuerId with
  | none =>
      refine ⟨session, linked, [], ?_, ?_⟩
      · rw [List.append_nil]
        rfl
      · intro present
        rw [issuer] at issued
        cases issued present
  | some issuerId =>
      cases cik : record.issuerCik with
      | none =>
          have same : ensureIdentifier library now record assetId (some issuerId) pass = pass := by
            simp only [ensureIdentifier, cik]
          rw [same]
          refine ⟨session, linked, [], ?_, ?_⟩
          · rw [List.append_nil]
          · intro impossible
            cases impossible
      | some cik_ =>
          cases found : select (fun known : AssetIdentifier => known.assetId = assetId ∧
              known.identifierType = "CIK" ∧ known.identifierValue = cik_ ∧
              known.validTo = none) pass.identifiers with
          | some known =>
              have same : ensureIdentifier library now record assetId (some issuerId) pass =
                  pass := by
                simp only [ensureIdentifier, cik, found]
              rw [same]
              refine ⟨session, linked, [], ?_, fun _ => ⟨known, ?_, ?_⟩⟩
              · rw [List.append_nil]
              · rw [List.append_nil]
                exact (session.identifiers.select_some found).1
              · have holds := of_decide_eq_true (session.identifiers.select_some found).2
                exact ⟨holds.1, holds.2.1, cik.trans (congrArg some holds.2.2.1.symm),
                  holds.2.2.2⟩
          | none =>
              have same : ensureIdentifier library now record assetId (some issuerId) pass =
                  { pass with
                    identifiers := add (newIdentifier library now record assetId issuerId cik_)
                      pass.identifiers } := by
                simp only [ensureIdentifier, cik, found]
              rw [same]
              refine ⟨⟨session.assets, session.issuers, session.listings,
                session.identifiers.add _, session.observations, session.capabilities⟩,
                ⟨linked.periods, linked.assets⟩,
                [newIdentifier library now record assetId issuerId cik_], ?_, fun _ => ?_⟩
              · simp only [Pass.catalog, rows_add]
              · exact ⟨_, List.mem_append_right _ List.mem_cons_self, rfl, rfl, cik, rfl⟩

theorem ensureObservation_catalog (session : InSession free pass) (linked : Linked pass.catalog)
    (assetId : Identifier) (issuerId : Option Identifier) :
    InSession free (ensureObservation library now record assetId issuerId pass) ∧
      Linked (ensureObservation library now record assetId issuerId pass).catalog ∧
      exists added, (ensureObservation library now record assetId issuerId pass).catalog =
          { pass.catalog with observations := pass.catalog.observations ++ added } ∧
        exists known, known ∈ pass.catalog.observations ++ added ∧
          known.source = record.source ∧ known.checksum = library.checksum record := by
  cases found : select (fun known : ReferenceObservation => known.source = record.source ∧
      known.checksum = library.checksum record) pass.observations with
  | some known =>
      have same : ensureObservation library now record assetId issuerId pass = pass := by
        simp only [ensureObservation, found]
      have seen := session.observations.select_some found
      have holds := of_decide_eq_true seen.2
      rw [same]
      refine ⟨session, linked, [], ?_, known, ?_, holds⟩
      · rw [List.append_nil]
      · rw [List.append_nil]
        exact seen.1
  | none =>
      have same : ensureObservation library now record assetId issuerId pass =
          { pass with
            observations := add (newObservation library now record assetId issuerId)
              pass.observations } := by
        simp only [ensureObservation, found]
      rw [same]
      refine ⟨⟨session.assets, session.issuers, session.listings, session.identifiers,
        session.observations.add _, session.capabilities⟩, ⟨linked.periods, linked.assets⟩,
        [newObservation library now record assetId issuerId], ?_, _,
        List.mem_append_right _ List.mem_cons_self, rfl, rfl⟩
      simp only [Pass.catalog, rows_add]

/-- The capability of the record, written. -/
def atProvider (library : Library) (now : Instant) (record : ReferenceSecurityRecord)
    (assetId : Identifier) (known : AssetCapability) : AssetCapability :=
  if known.provider = (assetId, "REFERENCE", record.source) then
    writeCapability library now record known
  else known

theorem storeCapability_catalog (session : InSession free pass) (linked : Linked pass.catalog)
    (assetId : Identifier) :
    InSession free (storeCapability library now record assetId pass) ∧
      Linked (storeCapability library now record assetId pass).catalog ∧
      ((storeCapability library now record assetId pass).catalog = { pass.catalog with
          capabilities := pass.catalog.capabilities.map
            (atProvider library now record assetId) } ∧
        (exists known, known ∈ pass.catalog.capabilities ∧
          known.provider = (assetId, "REFERENCE", record.source)) ∨
      (storeCapability library now record assetId pass).catalog = { pass.catalog with
          capabilities := pass.catalog.capabilities ++
            [newCapability library now record assetId] }) := by
  cases found : select (fun known : AssetCapability => known.assetId = assetId ∧
      known.capability = "REFERENCE" ∧ known.providerCode = record.source)
      pass.capabilities with
  | some known =>
      have seen := @Held.select_some _ _ AssetCapability.provider _ session.capabilities
        (fun provider => provider.1 = assetId ∧ provider.2.1 = "REFERENCE" ∧
          provider.2.2 = record.source) _ found
      have holds := of_decide_eq_true seen.2
      have provider : known.provider = (assetId, "REFERENCE", record.source) := by
        rw [← holds.1, ← holds.2.1, ← holds.2.2]
      have same : storeCapability library now record assetId pass =
          { pass with
            capabilities := update AssetCapability.provider known.provider
              (writeCapability library now record) pass.capabilities } := by
        simp only [storeCapability, found]
      have capabilities : rows (update AssetCapability.provider known.provider
          (writeCapability library now record) pass.capabilities) =
          pass.catalog.capabilities.map (atProvider library now record assetId) := by
        rw [provider]
        exact rows_update _ _ _ _
      rw [same]
      refine ⟨⟨session.assets, session.issuers, session.listings, session.identifiers,
        session.observations, session.capabilities.update _ _ fun _ => rfl⟩,
        ⟨linked.periods, linked.assets⟩, Or.inl ⟨?_, known, seen.1, provider⟩⟩
      simp only [Pass.catalog, capabilities]
  | none =>
      have same : storeCapability library now record assetId pass =
          { pass with
            capabilities := add (newCapability library now record assetId)
              pass.capabilities } := by
        simp only [storeCapability, found]
      rw [same]
      refine ⟨⟨session.assets, session.issuers, session.listings, session.identifiers,
        session.observations, session.capabilities.add _⟩, ⟨linked.periods, linked.assets⟩,
        Or.inr ?_⟩
      simp only [Pass.catalog, rows_add]

/-- What a record does to the catalog: the place it aims at is there, and its listing, its asset
and what is known of them are written or added. -/
structure Advanced (library : Library) (now : Instant) (record : ReferenceSecurityRecord)
    (before after : Catalog) (place : Place) : Prop where
  listings :
    (aim record before.places = some place ∧
      after.listings = before.listings.map (atPeriod place.period
        (writeListing library record (issuerOf record after.issuers)))) ∨
    (aim record before.places = none ∧ place = newPlace now record place.assetId ∧
      after.listings = before.listings ++
        [newListing library now record place.assetId (issuerOf record after.issuers)])
  assets : exists added,
    after.assets = (before.assets ++ added).map (atAsset place.assetId record) ∧
      forall asset, asset ∈ added -> asset.id = place.assetId
  asset : place.assetId ∈ after.assets.map Asset.id
  issuers : exists added, after.issuers = before.issuers ++ added ∧
    forall issuer, issuer ∈ added -> issuer.cik = record.issuerCik
  issuer : record.issuerCik.isSome = true -> (issuerOf record after.issuers).isSome = true
  identifiers : exists added, after.identifiers = before.identifiers ++ added
  identified : record.issuerCik.isSome = true ->
    exists known, known ∈ after.identifiers ∧ Identified record place.assetId known
  observations : exists added, after.observations = before.observations ++ added
  observed : exists known, known ∈ after.observations ∧
    known.source = record.source ∧ known.checksum = library.checksum record
  capabilities :
    (after.capabilities =
        before.capabilities.map (atProvider library now record place.assetId) ∧
      exists known, known ∈ before.capabilities ∧
        known.provider = (place.assetId, "REFERENCE", record.source)) ∨
    after.capabilities =
      before.capabilities ++ [newCapability library now record place.assetId]

theorem countExcluded_catalog (session : InSession free pass) :
    InSession free (countExcluded library record pass) ∧
      (countExcluded library record pass).catalog = pass.catalog := by
  rw [countExcluded]
  by_cases excluded : (eligibility library record).1 = .excluded
  · rw [if_pos excluded]
    exact ⟨session.counted _, rfl⟩
  · rw [if_neg excluded]
    exact ⟨session, rfl⟩

/-- What is written once the listing of a record is stored. -/
structure Completed (library : Library) (now : Instant) (record : ReferenceSecurityRecord)
    (assetId : Identifier) (before after : Catalog) : Prop where
  listings : after.listings = before.listings
  issuers : after.issuers = before.issuers
  assets : after.assets = before.assets.map (atAsset assetId record)
  identifiers : exists added, after.identifiers = before.identifiers ++ added
  identified : record.issuerCik.isSome = true ->
    exists known, known ∈ after.identifiers ∧ Identified record assetId known
  observations : exists added, after.observations = before.observations ++ added
  observed : exists known, known ∈ after.observations ∧
    known.source = record.source ∧ known.checksum = library.checksum record
  capabilities :
    (after.capabilities = before.capabilities.map (atProvider library now record assetId) ∧
      exists known, known ∈ before.capabilities ∧
        known.provider = (assetId, "REFERENCE", record.source)) ∨
    after.capabilities = before.capabilities ++ [newCapability library now record assetId]

theorem completed (session : InSession free pass) (linked : Linked pass.catalog)
    (assetId : Identifier) {issuerId : Option Identifier}
    (issued : record.issuerCik.isSome = true -> issuerId.isSome = true) :
    InSession free (storeCapability library now record assetId
        (ensureObservation library now record assetId issuerId
          (ensureIdentifier library now record assetId issuerId
            (storeAsset record assetId pass)))) ∧
      Linked (storeCapability library now record assetId
        (ensureObservation library now record assetId issuerId
          (ensureIdentifier library now record assetId issuerId
            (storeAsset record assetId pass)))).catalog ∧
      Completed library now record assetId pass.catalog
        (storeCapability library now record assetId
          (ensureObservation library now record assetId issuerId
            (ensureIdentifier library now record assetId issuerId
              (storeAsset record assetId pass)))).catalog := by
  rcases @storeAsset_catalog record pass free session linked assetId with
    ⟨firstSession, firstLinked, first⟩
  rcases @ensureIdentifier_catalog library now record _ free firstSession firstLinked assetId issuerId
    issued with ⟨secondSession, secondLinked, addedIdentifiers, second, identified⟩
  rcases @ensureObservation_catalog library now record _ free secondSession secondLinked assetId
    issuerId with ⟨thirdSession, thirdLinked, addedObservations, third, observed⟩
  rcases @storeCapability_catalog library now record _ free thirdSession thirdLinked assetId with
    ⟨lastSession, lastLinked, last⟩
  refine ⟨lastSession, lastLinked, ?_⟩
  rw [first] at second identified
  rw [second] at third observed
  rw [third] at last
  rcases last with ⟨last, known⟩ | last
  · rw [last]
    exact ⟨rfl, rfl, rfl, ⟨addedIdentifiers, rfl⟩, identified, ⟨addedObservations, rfl⟩, observed,
      Or.inl ⟨rfl, known⟩⟩
  · rw [last]
    exact ⟨rfl, rfl, rfl, ⟨addedIdentifiers, rfl⟩, identified, ⟨addedObservations, rfl⟩, observed,
      Or.inr rfl⟩

/-- The parts of a record, put together. -/
theorem Completed.advanced {assetId : Identifier} {issuerId : Option Identifier}
    {before after : Catalog} {addedAssets : List Asset} {addedIssuers : List Issuer}
    {listings : List AssetListing} {place : Place}
    (complete : Completed library now record assetId
      { before with
        assets := before.assets ++ addedAssets
        issuers := before.issuers ++ addedIssuers
        listings := listings } after)
    (asset : assetId ∈ (before.assets ++ addedAssets).map Asset.id)
    (own : forall asset, asset ∈ addedAssets -> asset.id = assetId)
    (named : forall issuer, issuer ∈ addedIssuers -> issuer.cik = record.issuerCik)
    (issuer : issuerId = issuerOf record (before.issuers ++ addedIssuers))
    (present : record.issuerCik.isSome = true -> issuerId.isSome = true)
    (placed : place.assetId = assetId)
    (stored :
      (aim record before.places = some place ∧ listings = before.listings.map (atPeriod place.period
        (writeListing library record issuerId))) ∨
      (aim record before.places = none ∧ place = newPlace now record assetId ∧
        listings = before.listings ++ [newListing library now record assetId issuerId])) :
    Advanced library now record before after place := by
  have issued : issuerId = issuerOf record after.issuers := by
    rw [complete.issuers]
    exact issuer
  subst placed
  constructor
  · rw [complete.listings, ← issued]
    exact stored
  · exact ⟨addedAssets, complete.assets, own⟩
  · rw [complete.assets, map_atAsset_id]
    exact asset
  · exact ⟨addedIssuers, complete.issuers, named⟩
  · rw [← issued]
    exact present
  · exact complete.identifiers
  · exact complete.identified
  · exact complete.observations
  · exact complete.observed
  · exact complete.capabilities

theorem reconcileRecord_ok (session : InSession free pass) (linked : Linked pass.catalog)
    (written : forall place, aim record pass.catalog.places = some place -> free place = true)
    {next : Pass} (done : reconcileRecord library now record pass = .ok next) :
    InSession free next ∧ Linked next.catalog ∧
      exists place, Advanced library now record pass.catalog next.catalog place := by
  rcases @countExcluded_catalog library record pass free session with ⟨begins, same⟩
  rw [reconcileRecord] at done
  rcases except_bind_ok done with ⟨⟨assetId, owned⟩, first, rest⟩
  rcases except_bind_ok rest with ⟨⟨issuerId, issued⟩, second, further⟩
  rcases except_bind_ok further with ⟨listed, third, ends⟩
  rcases ensureAsset_ok begins (same ▸ linked) rfl first with
    ⟨ownedSession, ownedLinked, ⟨addedAssets, ownedCatalog, own⟩, asset, agrees⟩
  rcases ensureIssuer_ok ownedSession ownedLinked second with
    ⟨issuedSession, issuedLinked, ⟨addedIssuers, issuedCatalog, named⟩, issuer, present⟩
  have aimed := @InSession.listing_place record _ free begins
  rw [same] at aimed ownedCatalog
  rw [ownedCatalog] at issuedCatalog asset
  rw [issuedCatalog] at issuer
  cases listing : (countExcluded library record pass).listing record with
  | none =>
      rw [listing] at third aimed
      rcases storeListing_new third with ⟨listedSession, listedLinked, listedCatalog⟩
      rcases @completed library now record _ free listedSession listedLinked assetId issuerId present with
        ⟨finalSession, finalLinked, complete⟩
      cases ends
      rw [listedCatalog, issuedCatalog] at complete
      refine ⟨finalSession, finalLinked, newPlace now record assetId, ?_⟩
      exact complete.advanced asset own named issuer present rfl (Or.inr ⟨aimed.symm, rfl, rfl⟩)
  | some known =>
      rw [listing] at third aimed
      have member : known ∈ issued.catalog.listings := by
        rw [issuedCatalog]
        exact congrArg Catalog.listings same ▸ begins.listing_mem listing
      rcases storeListing_known issuedSession issuedLinked member
          (Or.inl (written known.place aimed.symm)) third with
        ⟨listedSession, listedLinked, listedCatalog⟩
      rcases @completed library now record _ free listedSession listedLinked assetId issuerId present with
        ⟨finalSession, finalLinked, complete⟩
      cases ends
      rw [listedCatalog, issuedCatalog] at complete
      refine ⟨finalSession, finalLinked, known.place, ?_⟩
      exact complete.advanced asset own named issuer present (agrees known listing).symm
        (Or.inl ⟨aimed.symm, rfl⟩)

end Parts

end ReferenceData
end MarketIntelligence
