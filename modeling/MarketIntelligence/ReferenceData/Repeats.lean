import MarketIntelligence.ReferenceData.Coverage

namespace MarketIntelligence
namespace ReferenceData

open Foundations
open Sessions
open Loops

/-!
# The same feed again

Where every record finds what it looks for, nothing is added and nothing is flushed, and each
row is written by the same records in the same order.  So the last of them writes what is there,
and the last of them that names an issuer names the one that is there.
-/

/-- The catalog without the instants up to which capabilities are known. -/
def Catalog.timeless (catalog : Catalog) : Catalog :=
  { catalog with capabilities := catalog.capabilities.map fun known => { known with asOfTime := 0 } }

/-- The rows a record writes, by where it aims in a catalog. -/
def restamp (library : Library) (now : Instant) (base catalog : Catalog)
    (record : ReferenceSecurityRecord) : Catalog :=
  { catalog with
    listings := catalog.listings.map fun listing =>
      stamped (listingTarget base.places) (stampListing library base.issuers) listing record
    assets := catalog.assets.map fun asset =>
      stamped (assetTarget base.places) writeAsset asset record
    capabilities := catalog.capabilities.map fun known =>
      stamped (capabilityTarget base.places) (writeCapability library now) known record }

/-- The session has the rows of the catalog, and has flushed none since. -/
structure Reloaded (base : Catalog) (pass : Pass) : Prop where
  assets : Unflushed base.assets (fun asset => (asset.id, asset.symbol)) pass.assets
  issuers : Unflushed base.issuers (fun issuer => issuer) pass.issuers
  listings : Unflushed base.listings AssetListing.place pass.listings
  identifiers : Unflushed base.identifiers (fun known => known) pass.identifiers
  observations : Unflushed base.observations (fun known => known) pass.observations
  capabilities : Unflushed base.capabilities AssetCapability.provider pass.capabilities

theorem reloaded_load (base : Catalog) (counts : ReconcileCounts) :
    Reloaded base (base.load counts) :=
  ⟨unflushed_load _ _, unflushed_load _ _, unflushed_load _ _, unflushed_load _ _,
    unflushed_load _ _, unflushed_load _ _⟩

section Again

variable {library : Library} {now : Instant} {record : ReferenceSecurityRecord} {base : Catalog}
  {pass : Pass} {place : Place}

theorem Reloaded.session (reloaded : Reloaded base pass) : InSession (fun _ => true) pass := by
  refine ⟨reloaded.assets.synced, reloaded.issuers.synced, ?_, reloaded.identifiers.synced.held,
    reloaded.observations.synced.held, reloaded.capabilities.synced.held⟩
  intro object member
  rcases Option.map_eq_some_iff.mp (reloaded.listings.synced object member) with
    ⟨stored, held, same⟩
  rw [held]
  exact congrArg (fun place => some (place, none)) same

theorem Reloaded.places (reloaded : Reloaded base pass) : pass.catalog.places = base.places :=
  reloaded.listings.rows_view

theorem Reloaded.counted (reloaded : Reloaded base pass) (counts : ReconcileCounts) :
    Reloaded base { pass with counts := counts } :=
  ⟨reloaded.assets, reloaded.issuers, reloaded.listings, reloaded.identifiers,
    reloaded.observations, reloaded.capabilities⟩

theorem Reloaded.listing (reloaded : Reloaded base pass) (aimed : aim record base.places = some place) :
    exists listing, pass.listing record = some listing ∧ listing.place = place := by
  have found := @InSession.listing_place record pass _ reloaded.session
  rw [reloaded.places, aimed] at found
  exact Option.map_eq_some_iff.mp found

/-- The asset of the listing is found. -/
theorem Reloaded.asset (reloaded : Reloaded base pass) (linked : Linked base)
    {listing : AssetListing} (found : pass.listing record = some listing) :
    exists asset, pass.asset record (some listing) = some asset ∧ asset.id = listing.assetId := by
  have placed : listing.place ∈ base.places := by
    rw [← reloaded.places]
    exact List.mem_map_of_mem (reloaded.session.listing_mem found)
  rcases List.mem_map.mp placed with ⟨other, listed, same⟩
  have owner := linked.assets other listed
  have ids : other.assetId = listing.assetId := congrArg Place.assetId same
  have views := reloaded.assets.rows_view
  have known : listing.assetId ∈ (rows pass.assets).map Asset.id := by
    have columns := congrArg (List.map Prod.fst) views
    rw [List.map_map, List.map_map] at columns
    have same : (rows pass.assets).map Asset.id = base.assets.map Asset.id := columns
    rw [same, ← ids]
    exact owner
  rcases List.mem_map.mp known with ⟨owned, member, equal⟩
  rcases @Synced.select_some _ _ _ _ reloaded.assets.synced
      (fun columns => decide (columns.1 = listing.assetId)) _ member (decide_eq_true equal) with
    ⟨asset, selected, holds⟩
  refine ⟨asset, ?_, of_decide_eq_true holds⟩
  rw [Pass.asset, Option.bind_some]
  exact (congrArg (Option.or · _) selected).trans rfl

theorem Reloaded.issuers_eq (reloaded : Reloaded base pass) : rows pass.issuers = base.issuers := by
  have views := reloaded.issuers.rows_view
  rw [List.map_id', List.map_id'] at views
  exact views

theorem ensureIssuer_again (reloaded : Reloaded base pass)
    (issued : record.issuerCik.isSome = true -> (issuerOf record base.issuers).isSome = true) :
    exists counts, ensureIssuer library record pass =
      .ok (issuerOf record base.issuers, { pass with counts := counts }) := by
  have byCik : forall cik : String,
      select (fun issuer : Issuer => issuer.cik = some cik) pass.issuers =
        (rows pass.issuers).find? fun issuer => issuer.cik = some cik :=
    fun cik => reloaded.issuers.synced.select fun issuer => decide (issuer.cik = some cik)
  cases cik : record.issuerCik with
  | none =>
      refine ⟨pass.counts, ?_⟩
      rw [ensureIssuer, issuerOf, cik]
      rfl
  | some cik_ =>
      have present := issued (cik ▸ rfl)
      rw [issuerOf, cik, Option.bind_some] at present
      cases found : base.issuers.find? fun issuer => issuer.cik = some cik_ with
      | none =>
          rw [found] at present
          cases present
      | some issuer =>
          refine ⟨{ pass.counts with secEnriched := pass.counts.secEnriched + 1 }, ?_⟩
          rw [ensureIssuer, issuerOf, cik, Option.bind_some]
          simp only [byCik, reloaded.issuers_eq, found]
          rfl

theorem ensureIdentifier_again (reloaded : Reloaded base pass) (now : Instant)
    {assetId : Identifier} (issuerId : Option Identifier)
    (identified : record.issuerCik.isSome = true ->
      exists known, known ∈ base.identifiers ∧ Identified record assetId known) :
    ensureIdentifier library now record assetId issuerId pass = pass := by
  cases issuer : issuerId with
  | none => rfl
  | some issuerId =>
      cases cik : record.issuerCik with
      | none => simp only [ensureIdentifier, cik]
      | some cik_ =>
          rcases identified (cik ▸ rfl) with ⟨known, member, there⟩
          have views := reloaded.identifiers.rows_view
          rw [List.map_id', List.map_id'] at views
          rw [← views] at member
          rcases @Synced.select_some _ _ _ _ reloaded.identifiers.synced
              (fun known => decide (known.assetId = assetId ∧
                known.identifierType = "CIK" ∧ known.identifierValue = cik_ ∧
                known.validTo = none)) _ member
              (decide_eq_true ⟨there.1, there.2.1,
                Option.some.inj (there.2.2.1.symm.trans cik), there.2.2.2⟩) with
            ⟨found, selected, _⟩
          simp only [ensureIdentifier, cik, selected]

theorem ensureObservation_again (reloaded : Reloaded base pass) (now : Instant)
    (assetId : Identifier) (issuerId : Option Identifier)
    (observed : exists known, known ∈ base.observations ∧
      known.source = record.source ∧ known.checksum = library.checksum record) :
    ensureObservation library now record assetId issuerId pass = pass := by
  rcases observed with ⟨known, member, there⟩
  have views := reloaded.observations.rows_view
  rw [List.map_id', List.map_id'] at views
  rw [← views] at member
  rcases @Synced.select_some _ _ _ _ reloaded.observations.synced
      (fun known => decide (known.source = record.source ∧
        known.checksum = library.checksum record)) _ member (decide_eq_true there) with
    ⟨found, selected, _⟩
  simp only [ensureObservation, selected]

theorem storeCapability_again (reloaded : Reloaded base pass) (now : Instant)
    {assetId : Identifier}
    (capable : (assetId, "REFERENCE", record.source) ∈
      base.capabilities.map AssetCapability.provider) :
    storeCapability library now record assetId pass =
      { pass with
        capabilities := update AssetCapability.provider (assetId, "REFERENCE", record.source)
          (writeCapability library now record) pass.capabilities } := by
  rw [← reloaded.capabilities.rows_view] at capable
  rcases List.mem_map.mp capable with ⟨known, member, provider⟩
  have here : known.assetId = assetId ∧ known.capability = "REFERENCE" ∧
      known.providerCode = record.source :=
    ⟨congrArg Prod.fst provider, congrArg (fun columns => columns.2.1) provider,
      congrArg (fun columns => columns.2.2) provider⟩
  rcases @Synced.select_some _ _ _ _ reloaded.capabilities.synced
      (fun columns => decide (columns.1 = assetId ∧ columns.2.1 = "REFERENCE" ∧
        columns.2.2 = record.source)) _ member (decide_eq_true here) with
    ⟨found, selected, holds⟩
  have there := of_decide_eq_true holds
  have same : found.provider = (assetId, "REFERENCE", record.source) := by
    rw [← there.1, ← there.2.1, ← there.2.2]
  have step : select (fun known : AssetCapability => known.assetId = assetId ∧
      known.capability = "REFERENCE" ∧ known.providerCode = record.source) pass.capabilities =
      some found := selected
  simp only [storeCapability, step]
  rw [same]

theorem countExcluded_counts (library : Library) (record : ReferenceSecurityRecord) (pass : Pass) :
    exists counts, countExcluded library record pass = { pass with counts := counts } := by
  rw [countExcluded]
  split
  · exact ⟨_, rfl⟩
  · exact ⟨pass.counts, rfl⟩

/-- A record that finds what it looks for writes its rows and nothing else. -/
theorem reconcileRecord_again (reloaded : Reloaded base pass) (linked : Linked base)
    (now : Instant) (ready : Ready library record base place) :
    exists next, reconcileRecord library now record pass = .ok next ∧
      next.catalog = restamp library now base pass.catalog record ∧ Reloaded base next := by
  rcases countExcluded_counts library record pass with ⟨counts, begun⟩
  have first := reloaded.counted counts
  rcases first.listing ready.aimed with ⟨listing, found, placed⟩
  rcases first.asset linked found with ⟨asset, owned, ids⟩
  rcases @ensureIssuer_again library record base _ first ready.issuer with ⟨issuedCounts, issued⟩
  have assetId : asset.id = place.assetId := by
    rw [ids, ← placed]
    rfl
  have period : listing.period = place.period := by
    rw [← placed]
    rfl
  let stored : Pass := { pass with
    listings := update AssetListing.period place.period
      (stampListing library base.issuers record) pass.listings
    assets := update Asset.id place.assetId (writeAsset record) pass.assets
    counts := { issuedCounts with listingsUpdated := issuedCounts.listingsUpdated + 1 } }
  have kept : Reloaded base stored :=
    ⟨reloaded.assets.update _ _ fun _ => rfl, reloaded.issuers,
      reloaded.listings.update _ _ fun _ => rfl, reloaded.identifiers, reloaded.observations,
      reloaded.capabilities⟩
  let next : Pass := { stored with
    capabilities := update AssetCapability.provider (place.assetId, "REFERENCE", record.source)
      (writeCapability library now record) pass.capabilities }
  have run : reconcileRecord library now record pass = .ok next := by
    have step : ensureAsset library record (some listing) { pass with counts := counts } =
        .ok (place.assetId, { pass with counts := counts }) := by
      rw [ensureAsset, owned, ← assetId]
    rw [reconcileRecord, begun, found, except_bind_eq step]
    refine (except_bind_eq issued _).trans ?_
    have last : storeCapability library now record place.assetId
        (ensureObservation library now record place.assetId (issuerOf record base.issuers)
          (ensureIdentifier library now record place.assetId (issuerOf record base.issuers)
            stored)) = next := by
      rw [ensureIdentifier_again kept now _ ready.identified,
        ensureObservation_again kept now _ _ ready.observed,
        storeCapability_again kept now ready.capable]
    rw [← last]
    simp only [storeListing, period]
    rfl
  refine ⟨next, run, ?_, ⟨kept.assets, kept.issuers, kept.listings, kept.identifiers,
    kept.observations, reloaded.capabilities.update _ _ fun _ => rfl⟩⟩
  have listings : rows next.listings = (restamp library now base pass.catalog record).listings :=
    rows_update_stamped (fun row => by
      rw [listingTarget, ready.aimed, Option.any_some, decide_eq_true_iff, eq_comm]) _
  have assets : rows next.assets = (restamp library now base pass.catalog record).assets :=
    rows_update_stamped (fun row => by
      rw [assetTarget, ready.aimed, Option.any_some, decide_eq_true_iff, eq_comm]) _
  have capabilities : rows next.capabilities =
      (restamp library now base pass.catalog record).capabilities :=
    rows_update_stamped (fun row => by
      rw [capabilityTarget, ready.aimed, Option.any_some, decide_eq_true_iff]) _
  rw [Pass.catalog, listings, assets, capabilities]
  rfl

theorem records_again (linked : Linked base) (now : Instant)
    {records : List ReferenceSecurityRecord} (reloaded : Reloaded base pass)
    (ready : forall record, record ∈ records -> exists place, Ready library record base place) :
    exists next, records.foldlM (fun pass record => reconcileRecord library now record pass) pass =
        .ok next ∧
      next.catalog = records.foldl (restamp library now base) pass.catalog ∧
      Reloaded base next := by
  induction records generalizing pass with
  | nil => exact ⟨pass, rfl, rfl, reloaded⟩
  | cons record rest ih =>
      rcases ready record List.mem_cons_self with ⟨place, here⟩
      rcases reconcileRecord_again reloaded linked now here with ⟨middle, step, catalog, kept⟩
      rcases ih kept fun other member =>
          ready other (List.mem_cons_of_mem _ member) with ⟨next, run, result, last⟩
      refine ⟨next, ?_, ?_, last⟩
      · rw [List.foldlM_cons, except_bind_eq step]
        exact run
      · rw [result, catalog]
        rfl

/-- Each table of the catalog is stamped on its own. -/
theorem foldl_restamp (library : Library) (now : Instant) (base catalog : Catalog)
    (records : List ReferenceSecurityRecord) :
    records.foldl (restamp library now base) catalog =
      { catalog with
        listings := catalog.listings.map fun listing =>
          records.foldl (stamped (listingTarget base.places) (stampListing library base.issuers))
            listing
        assets := catalog.assets.map fun asset =>
          records.foldl (stamped (assetTarget base.places) writeAsset) asset
        capabilities := catalog.capabilities.map fun known =>
          records.foldl (stamped (capabilityTarget base.places) (writeCapability library now))
            known } := by
  induction records generalizing catalog with
  | nil =>
      simp only [List.foldl_nil, List.map_id']
  | cons record rest ih =>
      rw [List.foldl_cons, ih]
      simp only [restamp, List.map_map, List.foldl_cons]
      rfl

end Again

section Stamps

variable {library : Library} {places : List Place} {issuers : List Issuer}
  {records : List ReferenceSecurityRecord}

/-- Records without an issuer do not matter for the issuer of a listing. -/
theorem foldl_stampListing_issuerId (records : List ReferenceSecurityRecord) :
    forall first second : AssetListing, first.period = second.period ->
      first.issuerId = second.issuerId ->
        (records.foldl (stamped (listingTarget places) (stampListing library issuers))
            first).issuerId =
          (records.foldl (stamped (issuerTarget places) (stampListing library issuers))
            second).issuerId := by
  induction records with
  | nil => exact fun _ _ _ same => same
  | cons record rest ih =>
      intro first second periods same
      have target : listingTarget places record second = listingTarget places record first := by
        rw [listingTarget, listingTarget, periods]
      rw [List.foldl_cons, List.foldl_cons, stamped, stamped, issuerTarget, target]
      by_cases hit : listingTarget places record first = true
      · rw [if_pos hit, hit, Bool.and_true]
        cases named : record.issuerCik.isSome with
        | true =>
            rw [if_pos rfl]
            exact ih _ _ periods (congrArg (Option.or _) same)
        | false =>
            have absent : record.issuerCik = none := by simpa using named
            have unnamed : issuerOf record issuers = none := by
              rw [issuerOf, absent, Option.bind_none]
            have kept : (stampListing library issuers record first).issuerId = first.issuerId := by
              rw [stampListing, unnamed]
              rfl
            rw [if_neg Bool.false_ne_true]
            exact ih _ _ periods (kept.trans same)
      · rw [if_neg hit, Bool.eq_false_iff.mpr hit, Bool.and_false, if_neg Bool.false_ne_true]
        exact ih _ _ periods same

/-- A listing that has what the last record that wrote it writes, and the issuer that the last
of them named, is left as it is by all of them. -/
theorem foldl_stampListing_settled
    (issued : forall record, record ∈ records -> record.issuerCik.isSome = true ->
      (issuerOf record issuers).isSome = true) {listing : AssetListing}
    (settled : Settled (listingTarget places) (stampListing library issuers) id records listing)
    (named : Settled (issuerTarget places) (stampListing library issuers) AssetListing.issuerId
      records listing) :
    records.foldl (stamped (listingTarget places) (stampListing library issuers)) listing =
      listing := by
  let unissued : AssetListing -> AssetListing := fun listing => { listing with issuerId := none }
  have rest : unissued (records.foldl
      (stamped (listingTarget places) (stampListing library issuers)) listing) =
        unissued listing := by
    refine foldl_stamped_settled (fun _ _ _ => rfl) (fun _ _ _ _ _ _ _ => rfl) ?_
    intro record found
    exact congrArg unissued (settled record found)
  have issuer : (records.foldl
      (stamped (listingTarget places) (stampListing library issuers)) listing).issuerId =
        listing.issuerId := by
    rw [foldl_stampListing_issuerId records listing listing rfl rfl]
    refine foldl_stamped_settled (fun _ _ _ => rfl) ?_ named
    intro record other row member _ targeted _
    have cik := (Bool.and_eq_true _ _ ▸ targeted :
      record.issuerCik.isSome = true ∧ listingTarget places record row = true).1
    rcases Option.isSome_iff_exists.mp (issued record member cik) with ⟨issuerId, found⟩
    rw [stampListing, stampListing, found]
    rfl
  calc
    records.foldl (stamped (listingTarget places) (stampListing library issuers)) listing
        = { unissued (records.foldl
              (stamped (listingTarget places) (stampListing library issuers)) listing) with
            issuerId := (records.foldl
              (stamped (listingTarget places) (stampListing library issuers)) listing).issuerId } :=
          rfl
    _ = { unissued listing with issuerId := listing.issuerId } := by rw [rest, issuer]
    _ = listing := rfl

end Stamps

section Idempotence

variable {library : Library} {now : Instant} {source : String}
  {records : List ReferenceSecurityRecord} {prior base : Catalog}

/-- Stamping a catalog whose rows are settled changes nothing but the instants. -/
theorem restamp_settled (later : Instant)
    (listings : forall listing, listing ∈ base.listings ->
      Settled (listingTarget base.places) (stampListing library base.issuers) id records listing)
    (issuers : forall listing, listing ∈ base.listings ->
      Settled (issuerTarget base.places) (stampListing library base.issuers)
        AssetListing.issuerId records listing)
    (issued : forall record, record ∈ records -> record.issuerCik.isSome = true ->
      (issuerOf record base.issuers).isSome = true)
    (assets : forall asset, asset ∈ base.assets ->
      Settled (assetTarget base.places) writeAsset id records asset)
    (capabilities : forall known, known ∈ base.capabilities ->
      Settled (capabilityTarget base.places) (writeCapability library now) id records known) :
    (records.foldl (restamp library later base) base).timeless = base.timeless := by
  have sameListings : (base.listings.map fun listing => records.foldl
      (stamped (listingTarget base.places) (stampListing library base.issuers)) listing) =
        base.listings := by
    rw [List.map_congr_left, List.map_id']
    intro listing member
    exact foldl_stampListing_settled issued (listings listing member) (issuers listing member)
  have sameAssets : (base.assets.map fun asset => records.foldl
      (stamped (assetTarget base.places) writeAsset) asset) = base.assets := by
    have keeps : forall entry other asset,
        assetTarget base.places entry (writeAsset other asset) =
          assetTarget base.places entry asset :=
      fun _ _ _ => rfl
    rw [List.map_congr_left, List.map_id']
    intro asset member
    exact foldl_stamped_settled keeps (fun _ _ _ _ _ _ _ => rfl) (assets asset member)
  have sameCapabilities : (base.capabilities.map fun known => records.foldl
      (stamped (capabilityTarget base.places) (writeCapability library later)) known).map
        (fun known => { known with asOfTime := 0 }) =
      base.capabilities.map fun known => { known with asOfTime := 0 } := by
    rw [List.map_map]
    apply List.map_congr_left
    intro known member
    have view : Settled (capabilityTarget base.places) (writeCapability library later)
        (fun known => { known with asOfTime := 0 }) records known := by
      intro record found
      have written := capabilities known member record found
      exact congrArg (fun known : AssetCapability => { known with asOfTime := 0 }) written
    have keeps : forall entry other known,
        capabilityTarget base.places entry (writeCapability library later other known) =
          capabilityTarget base.places entry known :=
      fun _ _ _ => rfl
    exact foldl_stamped_settled keeps (fun _ _ _ _ _ _ _ => rfl) view
  rw [foldl_restamp, Catalog.timeless, Catalog.timeless, sameListings, sameAssets,
    sameCapabilities]

section Swept

variable {pass : Pass} {keys : List String}

/-- The sweep leaves open what the records have found, and no other live listing of the source. -/
structure SweptClean (source : String) (records : List ReferenceSecurityRecord) (pass : Pass) :
    Prop where
  found : forall record, record ∈ records -> forall object, object ∈ pass.listings ->
    aim record pass.catalog.places = some object.current.place ->
      missing source (records.map ReferenceSecurityRecord.sourceRecordKey) object = false
  named : forall object, object ∈ pass.listings ->
    missing source (records.map ReferenceSecurityRecord.sourceRecordKey) object = false ->
      object.current.source = source -> object.current.validTo = none ->
        object.current.isActive = true ->
          object.current.sourceRecordKey ∈ records.map ReferenceSecurityRecord.sourceRecordKey

/-- A record finds after the sweep what it has found before, unless this was closed. -/
theorem aim_swept (formed : Formed pass.catalog.places) {record : ReferenceSecurityRecord}
    {place : Place} (aimed : aim record pass.catalog.places = some place)
    (left : forall object, object ∈ pass.listings -> object.current.place = place ->
      missing source keys object = false) :
    aim record (pass.swept now source keys).places = some place := by
  have listed : place ∈ (pass.swept now source keys).places := by
    rcases List.mem_map.mp (aim_mem aimed) with ⟨listing, there, placed⟩
    rcases List.mem_map.mp there with ⟨object, tracked, current⟩
    rw [← placed, ← current]
    apply List.mem_map_of_mem
    exact swept_kept tracked (left object tracked ((congrArg AssetListing.place current).trans placed))
  have after := @swept_formed now source keys pass formed
  rcases (aim_some aimed).2 with keyed | ⟨paired, unkeyed⟩
  · exact aim_keyed after listed keyed
  · apply aim_paired after listed paired
    intro other there keyed
    rcases List.mem_map.mp there with ⟨listing, sweptListing, placed⟩
    have open_ : listing.validTo = none := (congrArg Place.validTo placed).trans keyed.2.2
    have before := swept_open_mem sweptListing open_
    exact unkeyed other (placed ▸ List.mem_map_of_mem before) keyed

section Clean

variable (progress : Progress library now id records pass.catalog)
  (clean : SweptClean source records pass)

include progress clean

theorem aims_swept {record : ReferenceSecurityRecord} (member : record ∈ records) :
    exists place, Ready library record pass.catalog place ∧
      aim record (pass.swept now source
        (records.map ReferenceSecurityRecord.sourceRecordKey)).places = some place := by
  rcases progress.ready record member with ⟨place, ready⟩
  refine ⟨place, ready, aim_swept progress.formed ready.aimed ?_⟩
  intro object tracked placed
  exact clean.found record member object tracked (placed ▸ ready.aimed)

/-- Each record finds after the sweep what it looks for. -/
theorem ready_swept {record : ReferenceSecurityRecord} (member : record ∈ records) :
    exists place, Ready library record (pass.swept now source
      (records.map ReferenceSecurityRecord.sourceRecordKey)) place := by
  rcases aims_swept progress clean member with ⟨place, ready, aimed⟩
  exact ⟨place, aimed, ready.issuer, ready.identified, ready.observed, ready.capable⟩

theorem aim_swept_eq {record : ReferenceSecurityRecord} (member : record ∈ records) :
    aim record (pass.swept now source
      (records.map ReferenceSecurityRecord.sourceRecordKey)).places =
        aim record pass.catalog.places := by
  rcases aims_swept progress clean member with ⟨place, ready, aimed⟩
  rw [aimed, ready.aimed]

variable (accepted : (pass.swept now source
  (records.map ReferenceSecurityRecord.sourceRecordKey)).Accepted)

include accepted

/-- What the sweep has closed no record writes. -/
theorem untargeted_swept {listing : AssetListing} (listed : listing ∈ (pass.swept now source
      (records.map ReferenceSecurityRecord.sourceRecordKey)).listings)
    (closed : listing.validTo ≠ none) {record : ReferenceSecurityRecord}
    (member : record ∈ records) :
    listingTarget (pass.swept now source
      (records.map ReferenceSecurityRecord.sourceRecordKey)).places record listing = false := by
  rcases aims_swept progress clean member with ⟨place, _, aimed⟩
  rw [listingTarget, aimed, Option.any_some]
  apply decide_eq_false
  intro same
  have equal := place_of_period accepted.linked (aim_mem aimed) (List.mem_map_of_mem listed) same
  exact closed ((congrArg Place.validTo equal).symm.trans (aim_open aimed))

/-- After the sweep every row still has what the last record that wrote it writes. -/
theorem listings_settled_swept {listing : AssetListing} (listed : listing ∈ (pass.swept now source
      (records.map ReferenceSecurityRecord.sourceRecordKey)).listings) :
    Settled (listingTarget (pass.swept now source
        (records.map ReferenceSecurityRecord.sourceRecordKey)).places)
      (stampListing library pass.catalog.issuers) id records listing := by
  by_cases open_ : listing.validTo = none
  · apply (progress.listings listing (swept_open_mem listed open_)).congr
    intro record member
    rw [listingTarget, listingTarget, aim_swept_eq progress clean member]
    exact ⟨rfl, rfl⟩
  · exact settled_of_untargeted fun record member =>
      untargeted_swept progress clean accepted listed open_ member

theorem issuers_settled_swept {listing : AssetListing} (listed : listing ∈ (pass.swept now source
      (records.map ReferenceSecurityRecord.sourceRecordKey)).listings) :
    Settled (issuerTarget (pass.swept now source
        (records.map ReferenceSecurityRecord.sourceRecordKey)).places)
      (stampListing library pass.catalog.issuers) AssetListing.issuerId records listing := by
  by_cases open_ : listing.validTo = none
  · apply (progress.issuers listing (swept_open_mem listed open_)).congr
    intro record member
    rw [issuerTarget, issuerTarget, listingTarget, listingTarget,
      aim_swept_eq progress clean member]
    exact ⟨rfl, rfl⟩
  · apply settled_of_untargeted
    intro record member
    rw [issuerTarget, untargeted_swept progress clean accepted listed open_ member, Bool.and_false]

/-- The records, taken once more, leave the catalog as it is but for the instants. -/
theorem timeless_swept (later : Instant) :
    (records.foldl (restamp library later (pass.swept now source
        (records.map ReferenceSecurityRecord.sourceRecordKey)))
      (pass.swept now source (records.map ReferenceSecurityRecord.sourceRecordKey))).timeless =
        (pass.swept now source
          (records.map ReferenceSecurityRecord.sourceRecordKey)).timeless := by
  refine @restamp_settled library now records _ later
    (fun listing member => listings_settled_swept progress clean accepted member)
    (fun listing member => issuers_settled_swept progress clean accepted member) ?_ ?_ ?_
  · intro record member
    rcases progress.ready record member with ⟨place, ready⟩
    exact ready.issuer
  · intro asset member
    apply (progress.assets asset member).congr
    intro record listed
    rw [assetTarget, assetTarget, aim_swept_eq progress clean listed]
    exact ⟨rfl, rfl⟩
  · intro known member
    apply (progress.capabilities accepted.capabilityProviders known member).congr
    intro record listed
    rw [capabilityTarget, capabilityTarget, aim_swept_eq progress clean listed]
    exact ⟨rfl, rfl⟩

end Clean

/-- In the second call nothing is missing. -/
theorem nothing_missing (clean : SweptClean source records pass) {next : Pass}
    (reloaded : Reloaded (pass.swept now source
      (records.map ReferenceSecurityRecord.sourceRecordKey)) next)
    {object : Tracked AssetListing} (member : object ∈ next.listings) :
    missing source (records.map ReferenceSecurityRecord.sourceRecordKey) object = false := by
  apply Bool.eq_false_iff.mpr
  intro closed
  rcases reloaded.session.seen member with ⟨stored, held, placed, _⟩
  have storedMember : some stored ∈ next.listings.map Tracked.stored :=
    held ▸ List.mem_map_of_mem member
  rw [reloaded.listings.stored] at storedMember
  have listed : stored ∈ (pass.swept now source
      (records.map ReferenceSecurityRecord.sourceRecordKey)).listings := by
    rcases List.mem_map.mp storedMember with ⟨other, there, equal⟩
    exact Option.some.inj equal ▸ there
  have untouchable := missing_untouchable reloaded.session member closed
  rw [← placed] at untouchable
  rcases touchable_iff.mp untouchable.1 with ⟨ours, absent⟩
  have active : stored.isActive = true := by
    rw [missing, held, Option.any_some, Bool.and_eq_true, decide_eq_true_eq] at closed
    exact closed.1.2.2
  have open_ : stored.validTo = none :=
    (congrArg Place.validTo placed).trans untouchable.2
  rcases swept_open listed open_ with ⟨before, tracked, kept, equal⟩
  rw [equal] at ours absent open_ active
  exact absent (clean.named before tracked kept ours open_ active)

end Swept

/-- The constraints do not look at the instants of capabilities. -/
theorem Catalog.Accepted.of_timeless {first second : Catalog} (accepted : second.Accepted)
    (same : first.timeless = second.timeless) : first.Accepted := by
  have assets : first.timeless.assets = second.timeless.assets := congrArg Catalog.assets same
  change first.assets = second.assets at assets
  have issuers : first.timeless.issuers = second.timeless.issuers := congrArg Catalog.issuers same
  change first.issuers = second.issuers at issuers
  have listings : first.timeless.listings = second.timeless.listings := congrArg Catalog.listings same
  change first.listings = second.listings at listings
  have identifiers : first.timeless.identifiers = second.timeless.identifiers := congrArg Catalog.identifiers same
  change first.identifiers = second.identifiers at identifiers
  have observations : first.timeless.observations = second.timeless.observations :=
    congrArg Catalog.observations same
  change first.observations = second.observations at observations
  have capabilities := congrArg (fun catalog : Catalog =>
    catalog.capabilities.map AssetCapability.provider) same
  simp only [Catalog.timeless, List.map_map] at capabilities
  have providers : first.capabilities.map AssetCapability.provider =
      second.capabilities.map AssetCapability.provider := capabilities
  constructor
  · rw [assets]
    exact accepted.assetIds
  · rw [assets]
    exact accepted.assetSymbols
  · rw [issuers]
    exact accepted.issuerIds
  · rw [issuers]
    exact accepted.issuerCiks
  · rw [listings]
    exact accepted.listingPeriods
  · rw [listings]
    exact accepted.listingRanges
  · rw [listings, assets]
    exact accepted.listingAssets
  · rw [identifiers]
    exact accepted.identifierPeriods
  · rw [identifiers]
    exact accepted.identifierRanges
  · rw [observations]
    exact accepted.observationChecksums
  · rw [providers]
    exact accepted.capabilityProviders

/-- A sweep that finds nothing missing changes no row. -/
theorem swept_nothing {pass : Pass} {keys : List String}
    (nothing : forall object, object ∈ pass.listings -> missing source keys object = false) :
    pass.swept now source keys = pass.catalog := by
  have listings : (pass.swept now source keys).listings = pass.catalog.listings := by
    rw [swept_listings]
    apply List.map_congr_left
    intro object member
    rw [if_neg (Bool.eq_false_iff.mp (nothing object member))]
  have same : pass.swept now source keys =
      { pass.catalog with listings := (pass.swept now source keys).listings } := rfl
  rw [same, listings]

/-- Where the sweep is clean, the same feed again, at any instant, changes nothing but instants. -/
theorem reconcile_again (feed : Feed source records) (nonempty : records ≠ []) {pass : Pass}
    (progress : Progress library now id records pass.catalog)
    (clean : SweptClean source records pass)
    (accepted : (pass.swept now source
      (records.map ReferenceSecurityRecord.sourceRecordKey)).Accepted)
    (later : Instant) :
    exists again counts, reconcileReferenceRecords library later records true
        (pass.swept now source (records.map ReferenceSecurityRecord.sourceRecordKey)) =
          .ok (again, counts) ∧
      again.timeless = (pass.swept now source
        (records.map ReferenceSecurityRecord.sourceRecordKey)).timeless := by
  rcases records_again accepted.linked later (reloaded_load _
      ⟨records.length, 0, 0, 0, 0, 0, 0⟩)
      (fun record member => ready_swept progress clean member) with ⟨next, run, result, reloaded⟩
  rw [catalog_load] at result
  have timeless := timeless_swept progress clean accepted later
  rw [← result] at timeless
  have swept : next.swept later source (records.map ReferenceSecurityRecord.sourceRecordKey) =
      next.catalog := swept_nothing fun object member => nothing_missing clean reloaded member
  have final := accepted.of_timeless timeless
  refine ⟨next.catalog, (markMissing later next
    (source, records.map ReferenceSecurityRecord.sourceRecordKey)).counts, ?_, timeless⟩
  rw [reconcileReferenceRecords, except_bind_eq run, if_pos rfl, feed.seen nonempty]
  have flushed : (markMissing later next
      (source, records.map ReferenceSecurityRecord.sourceRecordKey)).flush =
      .ok ((next.catalog).load (markMissing later next
        (source, records.map ReferenceSecurityRecord.sourceRecordKey)).counts) := by
    have catalog : (markMissing later next
        (source, records.map ReferenceSecurityRecord.sourceRecordKey)).catalog = next.catalog :=
      swept
    rw [Pass.flush, catalog, if_pos final]
  refine (except_bind_eq flushed _).trans ?_
  rw [catalog_load]
  rfl

end Idempotence

end ReferenceData
end MarketIntelligence
