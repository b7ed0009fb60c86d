import MarketIntelligence.ReferenceData.Steps

namespace MarketIntelligence
namespace ReferenceData

open Foundations
open Sessions
open Loops

/-!
# The records of a feed

A record that has been taken keeps its place, and the last record that wrote a listing, an
asset or a capability has left there what it writes.
-/

/-- The records of one source, with distinct keys and distinct pairs of symbol and exchange, as a
directory of a provider lists them. -/
structure Feed (source : String) (records : List ReferenceSecurityRecord) : Prop where
  sources : forall record, record ∈ records -> record.source = source
  keys : (records.map ReferenceSecurityRecord.sourceRecordKey).Nodup
  pairs : (records.map fun record => (record.symbol, record.exchangeCode)).Nodup

section Steps

variable {library : Library} {now : Instant} {record other : ReferenceSecurityRecord}
  {before after : Catalog} {place found : Place}

/-- A place is aimed at, or it is added. -/
theorem Advanced.places (advanced : Advanced library now record before after place) :
    (aim record before.places = some place ∧ after.places = before.places) ∨
    (aim record before.places = none ∧ place = newPlace now record place.assetId ∧
      after.places = before.places ++ [place]) := by
  rcases advanced.listings with ⟨aimed, listings⟩ | ⟨missed, new, listings⟩
  · have keeps : forall listing, (atPeriod place.period (writeListing library record
        (issuerOf record after.issuers)) listing).place = listing.place :=
      atPeriod_place fun _ => rfl
    exact Or.inl ⟨aimed, places_of_listings keeps listings⟩
  · refine Or.inr ⟨missed, new, ?_⟩
    rw [Catalog.places, listings, List.map_append, Catalog.places]
    exact congrArg (fun added => before.listings.map AssetListing.place ++ [added]) new.symm

theorem Advanced.formed (advanced : Advanced library now record before after place)
    (formed : Formed before.places) : Formed after.places := by
  rcases advanced.places with ⟨_, places⟩ | ⟨missed, new, places⟩
  · rw [places]
    exact formed
  · rw [places, new]
    exact formed.add _ missed

theorem Advanced.aimed (advanced : Advanced library now record before after place)
    (formed : Formed before.places) : aim record after.places = some place := by
  rcases advanced.places with ⟨aimed, places⟩ | ⟨_, new, places⟩
  · rw [places]
    exact aimed
  · apply aim_keyed (advanced.formed formed)
    · rw [places]
      exact List.mem_append_right _ List.mem_cons_self
    · rw [new]
      exact newPlace_keyed now record place.assetId

/-- Another record keeps the place it has found. -/
theorem Advanced.aim_other (advanced : Advanced library now record before after place)
    (formed : Formed before.places)
    (apart : forall assetId, ¬ (newPlace now record assetId).Keyed other)
    (aimed : aim other before.places = some found) : aim other after.places = some found := by
  rcases advanced.places with ⟨_, places⟩ | ⟨_, new, places⟩
  · rw [places]
    exact aimed
  · have after_ := advanced.formed formed
    have member : found ∈ after.places := by
      rw [places]
      exact List.mem_append_left _ (aim_mem aimed)
    rcases (aim_some aimed).2 with keyed | ⟨paired, unkeyed⟩
    · exact aim_keyed after_ member keyed
    · apply aim_paired after_ member paired
      intro there listed
      rw [places] at listed
      rcases List.mem_append.mp listed with old | added
      · exact unkeyed there old
      · rw [List.mem_singleton.mp added, new]
        exact apart place.assetId

theorem issuerOf_append {issuers added : List Issuer}
    (present : record.issuerCik.isSome = true -> (issuerOf record issuers).isSome = true) :
    issuerOf record (issuers ++ added) = issuerOf record issuers := by
  cases cik : record.issuerCik with
  | none =>
      rw [issuerOf, issuerOf, cik]
      rfl
  | some cik_ =>
      have known := present (cik ▸ rfl)
      rw [issuerOf, cik, Option.bind_some] at known
      rw [issuerOf, issuerOf, cik, Option.bind_some, Option.bind_some, List.find?_append]
      cases first : issuers.find? fun issuer => issuer.cik = some cik_ with
      | none =>
          rw [first] at known
          cases known
      | some issuer => rfl

end Steps

/-- Everything a record looks for is there. -/
structure Ready (library : Library) (record : ReferenceSecurityRecord) (catalog : Catalog)
    (place : Place) : Prop where
  aimed : aim record catalog.places = some place
  issuer : record.issuerCik.isSome = true -> (issuerOf record catalog.issuers).isSome = true
  identified : record.issuerCik.isSome = true ->
    exists known, known ∈ catalog.identifiers ∧ Identified record place.assetId known
  observed : exists known, known ∈ catalog.observations ∧
    known.source = record.source ∧ known.checksum = library.checksum record
  capable : (place.assetId, "REFERENCE", record.source) ∈
    catalog.capabilities.map AssetCapability.provider

def listingTarget (places : List Place) (record : ReferenceSecurityRecord)
    (listing : AssetListing) : Bool :=
  (aim record places).any fun place => place.period = listing.period

/-- The record names the issuer of the listing. -/
def issuerTarget (places : List Place) (record : ReferenceSecurityRecord)
    (listing : AssetListing) : Bool :=
  record.issuerCik.isSome && listingTarget places record listing

def assetTarget (places : List Place) (record : ReferenceSecurityRecord) (asset : Asset) : Bool :=
  (aim record places).any fun place => place.assetId = asset.id

def capabilityTarget (places : List Place) (record : ReferenceSecurityRecord)
    (known : AssetCapability) : Bool :=
  (aim record places).any fun place =>
    known.provider = (place.assetId, "REFERENCE", record.source)

def stampListing (library : Library) (issuers : List Issuer) (record : ReferenceSecurityRecord) :
    AssetListing -> AssetListing :=
  writeListing library record (issuerOf record issuers)

/-- The records that have been taken find what they look for, and every row has what the last
record that wrote it writes. -/
structure Progress {β : Type} (library : Library) (now : Instant) (view : AssetListing -> β)
    (taken : List ReferenceSecurityRecord) (catalog : Catalog) : Prop where
  formed : Formed catalog.places
  ready : forall record, record ∈ taken -> exists place, Ready library record catalog place
  listings : forall listing, listing ∈ catalog.listings ->
    Settled (listingTarget catalog.places) (stampListing library catalog.issuers) view taken listing
  issuers : forall listing, listing ∈ catalog.listings ->
    Settled (issuerTarget catalog.places) (stampListing library catalog.issuers)
      AssetListing.issuerId taken listing
  assets : forall asset, asset ∈ catalog.assets ->
    Settled (assetTarget catalog.places) writeAsset id taken asset
  capabilities : (catalog.capabilities.map AssetCapability.provider).Nodup ->
    forall known, known ∈ catalog.capabilities ->
      Settled (capabilityTarget catalog.places) (writeCapability library now) id taken known

section Advances

variable {library : Library} {now : Instant} {record other : ReferenceSecurityRecord}
  {before after : Catalog} {place found : Place}

theorem Advanced.capability_providers
    (advanced : Advanced library now record before after place) :
    exists added, after.capabilities.map AssetCapability.provider =
      before.capabilities.map AssetCapability.provider ++ added := by
  rcases advanced.capabilities with ⟨capabilities, _⟩ | capabilities
  · refine ⟨[], ?_⟩
    rw [capabilities, List.map_map, List.append_nil]
    apply List.map_congr_left
    intro known _
    rw [Function.comp_apply, atProvider]
    by_cases same : known.provider = (place.assetId, "REFERENCE", record.source)
    · rw [if_pos same]
      rfl
    · rw [if_neg same]
  · refine ⟨[(newCapability library now record place.assetId).provider], ?_⟩
    rw [capabilities, List.map_append]
    rfl

/-- The record that is taken finds what it looks for. -/
theorem Advanced.ready (advanced : Advanced library now record before after place)
    (formed : Formed before.places) : Ready library record after place := by
  refine ⟨advanced.aimed formed, advanced.issuer, advanced.identified, advanced.observed, ?_⟩
  rcases advanced.capabilities with ⟨capabilities, known, member, provider⟩ | capabilities
  · rcases advanced.capability_providers with ⟨added, providers⟩
    rw [providers, ← provider]
    exact List.mem_append_left _ (List.mem_map_of_mem member)
  · rw [capabilities, List.map_append]
    exact List.mem_append_right _ List.mem_cons_self

/-- The records that were taken before still do. -/
theorem Ready.advance (ready : Ready library other before found)
    (advanced : Advanced library now record before after place) (formed : Formed before.places)
    (apart : forall assetId, ¬ (newPlace now record assetId).Keyed other) :
    Ready library other after found := by
  rcases advanced.issuers with ⟨addedIssuers, issuers, _⟩
  rcases advanced.identifiers with ⟨addedIdentifiers, identifiers⟩
  rcases advanced.observations with ⟨addedObservations, observations⟩
  rcases advanced.capability_providers with ⟨added, providers⟩
  refine ⟨advanced.aim_other formed apart ready.aimed, ?_, ?_, ?_, ?_⟩
  · rw [issuers, issuerOf_append ready.issuer]
    exact ready.issuer
  · intro cik
    rcases ready.identified cik with ⟨known, member, identified⟩
    rw [identifiers]
    exact ⟨known, List.mem_append_left _ member, identified⟩
  · rcases ready.observed with ⟨known, member, observed⟩
    rw [observations]
    exact ⟨known, List.mem_append_left _ member, observed⟩
  · rw [providers]
    exact List.mem_append_left _ ready.capable

theorem Advanced.aim_same {taken : List ReferenceSecurityRecord}
    (advanced : Advanced library now record before after place) (formed : Formed before.places)
    (ready : forall other, other ∈ taken -> exists found, Ready library other before found)
    (apart : forall other, other ∈ taken -> forall assetId,
      ¬ (newPlace now record assetId).Keyed other) :
    forall other, other ∈ taken -> aim other after.places = aim other before.places ∧
      issuerOf other after.issuers = issuerOf other before.issuers := by
  intro other member
  rcases ready other member with ⟨found, ready⟩
  rcases advanced.issuers with ⟨added, issuers, _⟩
  constructor
  · rw [advanced.aim_other formed (apart other member) ready.aimed, ready.aimed]
  · rw [issuers, issuerOf_append ready.issuer]

theorem writeListing_twice (library : Library) (record : ReferenceSecurityRecord)
    (issuerId : Option Identifier) (listing : AssetListing) :
    writeListing library record issuerId (writeListing library record issuerId listing) =
      writeListing library record issuerId listing := by
  cases issuerId <;> rfl

/-- The listing that is added looks as if it had been found and written. -/
def AddedAsWritten {β : Type} (library : Library) (now : Instant) (view : AssetListing -> β)
    (record : ReferenceSecurityRecord) : Prop :=
  forall assetId issuerId,
    view (writeListing library record issuerId
        (newListing library now record assetId issuerId)) =
      view (newListing library now record assetId issuerId)

theorem issuerTarget_of_aim {places : List Place} (aimed : aim record places = some place)
    (row : AssetListing) : issuerTarget places record row =
      (record.issuerCik.isSome && decide (place.period = row.period)) := by
  rw [issuerTarget, listingTarget, aimed]
  rfl

/-- A record without an issuer leaves the issuer of the listing that it finds as it is. -/
theorem issuer_settled_written {taken : List ReferenceSecurityRecord} {old : AssetListing}
    (aimed : aim record after.places = some place) (hit : old.period = place.period)
    (settled : Settled (issuerTarget after.places) (stampListing library after.issuers)
      AssetListing.issuerId taken old) :
    Settled (issuerTarget after.places) (stampListing library after.issuers)
      AssetListing.issuerId (taken ++ [record])
      (writeListing library record (issuerOf record after.issuers) old) := by
  cases named : record.issuerCik.isSome with
  | true =>
      have targeted : issuerTarget after.places record
          (writeListing library record (issuerOf record after.issuers) old) = true := by
        rw [issuerTarget_of_aim aimed, named, Bool.true_and]
        exact decide_eq_true hit.symm
      apply (settled_concat targeted).mpr
      exact congrArg AssetListing.issuerId (writeListing_twice library record _ old)
  | false =>
      have untargeted : issuerTarget after.places record
          (writeListing library record (issuerOf record after.issuers) old) = false := by
        rw [issuerTarget_of_aim aimed, named, Bool.false_and]
      apply (settled_concat_other untargeted).mpr
      have unnamed : issuerOf record after.issuers = none := by
        have absent : record.issuerCik = none := by simpa using named
        rw [issuerOf, absent, Option.bind_none]
      rw [unnamed]
      exact settled.of_view (fun _ => rfl) rfl (fun _ => rfl)

/-- The listing that a record adds has the issuer of that record, and no earlier record aims at
it. -/
theorem issuer_settled_added {taken : List ReferenceSecurityRecord} {listing : AssetListing}
    (aimed : aim record after.places = some place) (hit : place.period = listing.period)
    (written : listing.issuerId = issuerOf record after.issuers)
    (earlier : forall entry, entry ∈ taken -> issuerTarget after.places entry listing = false) :
    Settled (issuerTarget after.places) (stampListing library after.issuers)
      AssetListing.issuerId (taken ++ [record]) listing := by
  cases named : record.issuerCik.isSome with
  | true =>
      have targeted : issuerTarget after.places record listing = true := by
        rw [issuerTarget_of_aim aimed, named, Bool.true_and]
        exact decide_eq_true hit
      apply (settled_concat targeted).mpr
      change (issuerOf record after.issuers).or listing.issuerId = listing.issuerId
      rw [written]
      exact Option.or_self
  | false =>
      have untargeted : issuerTarget after.places record listing = false := by
        rw [issuerTarget_of_aim aimed, named, Bool.false_and]
      apply (settled_concat_other untargeted).mpr
      exact settled_of_untargeted earlier

section Tables

variable {taken : List ReferenceSecurityRecord}
  (advanced : Advanced library now record before after place)
  (aimed : aim record after.places = some place)
  (same : forall other, other ∈ taken -> aim other after.places = aim other before.places ∧
    issuerOf other after.issuers = issuerOf other before.issuers)

include advanced aimed same

theorem Advanced.listings_settled {β : Type} {view : AssetListing -> β} (linked : Linked after)
    (settled : forall listing, listing ∈ before.listings ->
      Settled (listingTarget before.places) (stampListing library before.issuers) view taken listing)
    (fresh : aim record before.places = none -> AddedAsWritten library now view record) :
    forall listing, listing ∈ after.listings ->
      Settled (listingTarget after.places) (stampListing library after.issuers) view
        (taken ++ [record]) listing := by
  have target : forall row : AssetListing, listingTarget after.places record row =
      decide (place.period = row.period) := by
    intro row
    rw [listingTarget, aimed]
    rfl
  have other : forall row, row ∈ before.listings -> row.period ≠ place.period ->
      Settled (listingTarget after.places) (stampListing library after.issuers) view
        (taken ++ [record]) row := by
    intro row member missed
    apply (settled row member).advance
    · intro entry listed
      rcases same entry listed with ⟨places, issuers⟩
      rw [listingTarget, listingTarget, stampListing, stampListing, places, issuers]
      exact ⟨rfl, rfl⟩
    · exact (target row).trans (decide_eq_false missed.symm)
  intro listing member
  rcases advanced.listings with ⟨_, listings⟩ | ⟨missed, new, listings⟩
  · rw [listings] at member
    rcases List.mem_map.mp member with ⟨old, listed, equal⟩
    rw [← equal, atPeriod]
    by_cases hit : old.period = place.period
    · rw [if_pos hit]
      have targeted : listingTarget after.places record
          (writeListing library record (issuerOf record after.issuers) old) = true :=
        (target _).trans (decide_eq_true hit.symm)
      apply (settled_concat targeted).mpr
      exact congrArg view (writeListing_twice library record _ old)
    · rw [if_neg hit]
      exact other old listed hit
  · have periods := linked.periods
    rw [listings] at member periods
    rcases List.mem_append.mp member with old | added
    · apply other listing old
      rw [List.map_append] at periods
      have apart := (List.nodup_append.mp periods).2.2 listing.period
        (List.mem_map_of_mem old) _ List.mem_cons_self
      rw [new]
      exact apart
    · rw [List.mem_singleton.mp added]
      have targeted : listingTarget after.places record
          (newListing library now record place.assetId (issuerOf record after.issuers)) = true := by
        rw [target]
        apply decide_eq_true
        rw [new]
        rfl
      apply (settled_concat targeted).mpr
      exact fresh missed place.assetId (issuerOf record after.issuers)

theorem Advanced.issuers_settled (linked : Linked after)
    (settled : forall listing, listing ∈ before.listings ->
      Settled (issuerTarget before.places) (stampListing library before.issuers)
        AssetListing.issuerId taken listing) :
    forall listing, listing ∈ after.listings ->
      Settled (issuerTarget after.places) (stampListing library after.issuers)
        AssetListing.issuerId (taken ++ [record]) listing := by
  have agrees : forall row entry, entry ∈ taken ->
      issuerTarget after.places entry row = issuerTarget before.places entry row ∧
        stampListing library after.issuers entry row =
          stampListing library before.issuers entry row := by
    intro row entry listed
    rcases same entry listed with ⟨places, issuers⟩
    rw [issuerTarget, issuerTarget, listingTarget, listingTarget, stampListing, stampListing,
      places, issuers]
    exact ⟨rfl, rfl⟩
  have other : forall row, row ∈ before.listings -> place.period ≠ row.period ->
      Settled (issuerTarget after.places) (stampListing library after.issuers)
        AssetListing.issuerId (taken ++ [record]) row := by
    intro row listed missed
    apply (settled_concat_other _).mpr ((settled row listed).congr (agrees row))
    rw [issuerTarget_of_aim aimed, decide_eq_false missed, Bool.and_false]
  intro listing member
  rcases advanced.listings with ⟨_, listings⟩ | ⟨missed, new, listings⟩
  · rw [listings] at member
    rcases List.mem_map.mp member with ⟨old, listed, equal⟩
    rw [← equal, atPeriod]
    by_cases hit : old.period = place.period
    · rw [if_pos hit]
      exact issuer_settled_written aimed hit ((settled old listed).congr (agrees old))
    · rw [if_neg hit]
      exact other old listed (Ne.symm hit)
  · have periods := linked.periods
    rw [listings] at member periods
    rw [List.map_append] at periods
    have apart := (List.nodup_append.mp periods).2.2
    rcases List.mem_append.mp member with old | added
    · apply other listing old
      rw [new]
      exact (apart listing.period (List.mem_map_of_mem old) _ List.mem_cons_self).symm
    · rw [List.mem_singleton.mp added]
      refine issuer_settled_added aimed ?_ rfl ?_
      · rw [new]
        rfl
      · intro entry listed
        -- what an earlier record aims at was there before the listing
        rw [issuerTarget, listingTarget, (same entry listed).1]
        cases there : aim entry before.places with
        | none => rw [Option.any_none, Bool.and_false]
        | some found =>
            have known : found.period ∈ before.listings.map AssetListing.period := by
              rw [periods_eq]
              exact List.mem_map_of_mem (aim_mem there)
            have differs := apart found.period known _ List.mem_cons_self
            rw [Option.any_some, decide_eq_false differs, Bool.and_false]

theorem Advanced.assets_settled
    (settled : forall asset, asset ∈ before.assets ->
      Settled (assetTarget before.places) writeAsset id taken asset) :
    forall asset, asset ∈ after.assets ->
      Settled (assetTarget after.places) writeAsset id (taken ++ [record]) asset := by
  have target : forall row : Asset, assetTarget after.places record row =
      decide (place.assetId = row.id) := by
    intro row
    rw [assetTarget, aimed]
    rfl
  rcases advanced.assets with ⟨added, assets, own⟩
  intro asset member
  rw [assets] at member
  rcases List.mem_map.mp member with ⟨old, listed, equal⟩
  rw [← equal, atAsset]
  by_cases hit : old.id = place.assetId
  · rw [if_pos hit]
    have targeted : assetTarget after.places record (writeAsset record old) = true :=
      (target _).trans (decide_eq_true hit.symm)
    exact (settled_concat targeted).mpr rfl
  · rw [if_neg hit]
    rcases List.mem_append.mp listed with here | there
    · apply (settled old here).advance
      · intro entry listed
        rw [assetTarget, assetTarget, (same entry listed).1]
        exact ⟨rfl, rfl⟩
      · exact (target old).trans (decide_eq_false (Ne.symm hit))
    · exact absurd (own old there) hit

theorem Advanced.capabilities_settled
    (settled : (before.capabilities.map AssetCapability.provider).Nodup ->
      forall known, known ∈ before.capabilities ->
        Settled (capabilityTarget before.places) (writeCapability library now) id taken known)
    (distinct : (after.capabilities.map AssetCapability.provider).Nodup) :
    forall known, known ∈ after.capabilities ->
      Settled (capabilityTarget after.places) (writeCapability library now) id
        (taken ++ [record]) known := by
  have target : forall row : AssetCapability, capabilityTarget after.places record row =
      decide (row.provider = (place.assetId, "REFERENCE", record.source)) := by
    intro row
    rw [capabilityTarget, aimed]
    rfl
  have earlier : (before.capabilities.map AssetCapability.provider).Nodup := by
    rcases advanced.capability_providers with ⟨added, providers⟩
    rw [providers] at distinct
    exact (List.nodup_append.mp distinct).1
  have other : forall row, row ∈ before.capabilities ->
      row.provider ≠ (place.assetId, "REFERENCE", record.source) ->
      Settled (capabilityTarget after.places) (writeCapability library now) id
        (taken ++ [record]) row := by
    intro row member missed
    apply (settled earlier row member).advance
    · intro entry listed
      rw [capabilityTarget, capabilityTarget, (same entry listed).1]
      exact ⟨rfl, rfl⟩
    · exact (target row).trans (decide_eq_false missed)
  intro known member
  rcases advanced.capabilities with ⟨capabilities, _⟩ | capabilities
  · rw [capabilities] at member
    rcases List.mem_map.mp member with ⟨old, listed, equal⟩
    rw [← equal, atProvider]
    by_cases hit : old.provider = (place.assetId, "REFERENCE", record.source)
    · rw [if_pos hit]
      have targeted : capabilityTarget after.places record
          (writeCapability library now record old) = true :=
        (target _).trans (decide_eq_true hit)
      exact (settled_concat targeted).mpr rfl
    · rw [if_neg hit]
      exact other old listed hit
  · rw [capabilities] at member distinct
    rcases List.mem_append.mp member with old | added
    · apply other known old
      rw [List.map_append] at distinct
      exact (List.nodup_append.mp distinct).2.2 known.provider (List.mem_map_of_mem old) _
        List.mem_cons_self
    · rw [List.mem_singleton.mp added]
      have targeted : capabilityTarget after.places record
          (newCapability library now record place.assetId) = true :=
        (target _).trans (decide_eq_true rfl)
      exact (settled_concat targeted).mpr rfl

end Tables

theorem Progress.advance {β : Type} {view : AssetListing -> β}
    {taken : List ReferenceSecurityRecord} (progress : Progress library now view taken before)
    (advanced : Advanced library now record before after place) (linked : Linked after)
    (apart : forall other, other ∈ taken -> forall assetId,
      ¬ (newPlace now record assetId).Keyed other)
    (fresh : aim record before.places = none -> AddedAsWritten library now view record) :
    Progress library now view (taken ++ [record]) after := by
  have formed := progress.formed
  have same := advanced.aim_same formed progress.ready apart
  have aimed := advanced.aimed formed
  refine ⟨advanced.formed formed, ?_, ?_, ?_, ?_, ?_⟩
  · intro other member
    rcases List.mem_append.mp member with old | new
    · rcases progress.ready other old with ⟨found, ready⟩
      exact ⟨found, ready.advance advanced formed (apart other old)⟩
    · rw [List.mem_singleton.mp new]
      exact ⟨place, advanced.ready formed⟩
  · exact advanced.listings_settled aimed same linked progress.listings fresh
  · exact advanced.issuers_settled aimed same linked progress.issuers
  · exact advanced.assets_settled aimed same progress.assets
  · exact advanced.capabilities_settled aimed same progress.capabilities

end Advances

/-! ## The loop over the records -/

/-- Only places of records that found nothing are added, at the end, each of them as new as the
pass. -/
def Grown (now : Instant) (records : List ReferenceSecurityRecord) (before after : List Place) :
    Prop :=
  exists added, after = before ++ added ∧ forall place, place ∈ added ->
    exists record, record ∈ records ∧ aim record before = none ∧
      exists assetId, place = newPlace now record assetId

section Loop

variable {library : Library} {now : Instant} {source : String}
  {records : List ReferenceSecurityRecord} {prior : Catalog} {free : Place -> Bool}

theorem Grown.mem {before after : List Place} (grown : Grown now records before after)
    {place : Place} (member : place ∈ before) : place ∈ after := by
  rcases grown with ⟨added, same, _⟩
  rw [same]
  exact List.mem_append_left _ member

/-- What finds nothing in the end found nothing in the beginning. -/
theorem Grown.aim_none {before after : List Place} (grown : Grown now records before after)
    {record : ReferenceSecurityRecord} (missed : aim record after = none) :
    aim record before = none := by
  cases first : aim record before with
  | none => rfl
  | some place =>
      have apart := ReferenceData.aim_none missed place (grown.mem (aim_mem first))
      rcases (aim_some first).2 with keyed | ⟨paired, _⟩
      · exact absurd keyed apart.1
      · exact absurd paired apart.2

/-- The place that a record of the feed adds is one of its own. -/
theorem Grown.advance {before middle after : Catalog} {place : Place}
    {record : ReferenceSecurityRecord} (grown : Grown now records before.places middle.places)
    (member : record ∈ records) (advanced : Advanced library now record middle after place) :
    Grown now records before.places after.places := by
  rcases advanced.places with ⟨_, places⟩ | ⟨missed, new, places⟩
  · rw [places]
    exact grown
  · have first := grown.aim_none missed
    rcases grown with ⟨added, same, own⟩
    refine ⟨added ++ [place], ?_, ?_⟩
    · rw [places, same, List.append_assoc]
    · intro other listed
      rcases List.mem_append.mp listed with old | last
      · exact own other old
      · rw [List.mem_singleton.mp last]
        exact ⟨record, member, first, place.assetId, new⟩

theorem grown_refl (now : Instant) (records : List ReferenceSecurityRecord)
    (places : List Place) : Grown now records places places :=
  ⟨[], (List.append_nil _).symm, fun _ impossible => absurd impossible List.not_mem_nil⟩

/-- A place of the beginning that a record finds later on is the one it finds in the beginning. -/
theorem aim_of_grown {places : List Place} (formed : Formed prior.places)
    (grown : Grown now records prior.places places) {place : Place}
    {record : ReferenceSecurityRecord} (aimed : aim record places = some place)
    (old : place ∈ prior.places) :
    aim record prior.places = some place := by
  rcases (aim_some aimed).2 with keyed | ⟨paired, unkeyed⟩
  · exact aim_keyed formed old keyed
  · exact aim_paired formed old paired fun other listed => unkeyed other (grown.mem listed)

theorem Grown.mono {before after : List Place} {among : List ReferenceSecurityRecord}
    (grown : Grown now records before after)
    (within : forall record, record ∈ records -> record ∈ among) : Grown now among before after := by
  rcases grown with ⟨added, same, own⟩
  refine ⟨added, same, fun place member => ?_⟩
  rcases own place member with ⟨record, listed, missed, assetId, equal⟩
  exact ⟨record, within record listed, missed, assetId, equal⟩

theorem Feed.eq_of_key (feed : Feed source records) {record other : ReferenceSecurityRecord}
    (member : record ∈ records) (listed : other ∈ records)
    (same : record.sourceRecordKey = other.sourceRecordKey) : record = other :=
  List.inj_on_of_nodup_map feed.keys member listed same

theorem Feed.eq_of_pair (feed : Feed source records) {record other : ReferenceSecurityRecord}
    (member : record ∈ records) (listed : other ∈ records) (symbols : record.symbol = other.symbol)
    (exchanges : record.exchangeCode = other.exchangeCode) : record = other :=
  List.inj_on_of_nodup_map feed.pairs member listed
    (congr (congrArg Prod.mk symbols) exchanges)

/-- The loop over the records of a feed. -/
theorem records_progress {β : Type} {view : AssetListing -> β} (feed : Feed source records)
    (formed : Formed prior.places) (linked : Linked prior)
    (fresh : forall record, record ∈ records -> aim record prior.places = none ->
      AddedAsWritten library now view record)
    (written : forall record, record ∈ records -> forall places, Grown now records prior.places places ->
      forall place, aim record places = some place -> free place = true)
    {counts : ReconcileCounts} {pass : Pass}
    (done : records.foldlM (fun pass record => reconcileRecord library now record pass)
      (prior.load counts) = .ok pass) :
    InSession free pass ∧ Linked pass.catalog ∧ Progress library now view records pass.catalog ∧
      Grown now records prior.places pass.catalog.places := by
  let motive : List ReferenceSecurityRecord -> Pass -> Prop := fun rest pass =>
    exists taken, records = taken ++ rest ∧ InSession free pass ∧ Linked pass.catalog ∧
      Progress library now view taken pass.catalog ∧
      Grown now records prior.places pass.catalog.places
  have start : motive records (prior.load counts) := by
    refine ⟨[], rfl, inSession_load _ _ _, ?_, ?_, ?_⟩
    · rw [catalog_load]
      exact linked
    · rw [catalog_load]
      exact ⟨formed, fun _ impossible => absurd impossible List.not_mem_nil,
        fun _ _ => settled_of_untargeted fun _ impossible => absurd impossible List.not_mem_nil,
        fun _ _ => settled_of_untargeted fun _ impossible => absurd impossible List.not_mem_nil,
        fun _ _ => settled_of_untargeted fun _ impossible => absurd impossible List.not_mem_nil,
        fun _ _ _ => settled_of_untargeted fun _ impossible => absurd impossible List.not_mem_nil⟩
    · rw [catalog_load]
      exact grown_refl now records prior.places
  have ends := foldlM_induction (motive := motive) ?_ records (prior.load counts) pass start done
  · rcases ends with ⟨taken, same, session, sound, progress, grown⟩
    rw [List.append_nil] at same
    rw [← same] at progress
    exact ⟨session, sound, progress, grown⟩
  · rintro record tail before after ⟨taken, split, session, sound, progress, grown⟩ stepped
    have member : record ∈ records := by
      rw [split]
      exact List.mem_append_right _ List.mem_cons_self
    rcases reconcileRecord_ok session sound (written record member _ grown) stepped with
      ⟨nextSession, nextLinked, place, advanced⟩
    refine ⟨taken ++ [record], ?_, nextSession, nextLinked, ?_, ?_⟩
    · rw [split, List.append_assoc]
      rfl
    · apply progress.advance advanced nextLinked
      · intro other earlier assetId keyed
        have keys := feed.keys
        rw [split, List.map_append] at keys
        exact (List.nodup_append.mp keys).2.2 other.sourceRecordKey
          (List.mem_map_of_mem earlier) _ List.mem_cons_self keyed.2.1.symm
      · exact fun missed => fresh record member (grown.aim_none missed)
    · exact grown.advance member advanced

end Loop

end ReferenceData
end MarketIntelligence
