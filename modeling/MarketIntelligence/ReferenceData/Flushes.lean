import MarketIntelligence.ReferenceData.Feeds

namespace MarketIntelligence
namespace ReferenceData

open Foundations
open Sessions
open Loops

/-!
# When the session is flushed

A record that adds an asset, an issuer or a listing flushes the session, and with it what earlier
records have written to the listings.  A record that finds all three writes its listing and
flushes nothing, so the database, which the sweep asks, keeps what it had.
-/

section Objects

variable {library : Library} {now : Instant} {record : ReferenceSecurityRecord} {pass next : Pass}
  {free : Place -> Bool} {kept : Tracked AssetListing -> Prop}

theorem flush_objects (done : pass.flush = .ok next)
    (holds : forall object, object ∈ pass.listings ->
      kept ⟨some object.current, object.current⟩) :
    forall object, object ∈ next.listings -> kept object := by
  rw [(flush_ok done).2]
  intro object member
  rcases List.mem_map.mp member with ⟨row, listed, same⟩
  rcases List.mem_map.mp listed with ⟨before, there, current⟩
  rw [← same, ← current]
  exact holds before there

theorem ensureAsset_objects {listing : Option AssetListing} {assetId : Identifier}
    (flushes : pass.asset record listing = none -> forall object, kept object ->
      kept ⟨some object.current, object.current⟩)
    (done : ensureAsset library record listing pass = .ok (assetId, next))
    (holds : forall object, object ∈ pass.listings -> kept object) :
    forall object, object ∈ next.listings -> kept object := by
  rw [ensureAsset] at done
  cases known : pass.asset record listing with
  | some asset =>
      rw [known] at done
      cases done
      exact holds
  | none =>
      rw [known] at done
      rcases except_bind_ok done with ⟨flushed, stored, ends⟩
      have final : forall object, object ∈ flushed.listings -> kept object :=
        flush_objects stored fun object member => flushes known object (holds object member)
      cases ends
      exact final

theorem ensureIssuer_objects (session : InSession free pass) {issuerId : Option Identifier}
    (flushes : record.issuerCik.isSome = true -> issuerOf record pass.catalog.issuers = none ->
      forall object, kept object -> kept ⟨some object.current, object.current⟩)
    (done : ensureIssuer library record pass = .ok (issuerId, next))
    (holds : forall object, object ∈ pass.listings -> kept object) :
    forall object, object ∈ next.listings -> kept object := by
  cases ensureIssuer_cases session done with
  | unnamed known => exact holds
  | found cik issuer known found => exact holds
  | added cik flushed known missing stored catalog =>
      have unissued : issuerOf record pass.catalog.issuers = none := by
        rw [issuerOf, known, Option.bind_some, missing]
        rfl
      have final : forall object, object ∈ flushed.listings -> kept object :=
        flush_objects stored fun object member =>
          flushes (known ▸ rfl) unissued object (holds object member)
      exact final

theorem storeListing_objects (linked : Linked pass.catalog) {assetId : Identifier}
    {issuerId : Option Identifier} {listing : Option AssetListing}
    (flushes : listing = none -> forall object, object ∈ pass.listings ->
      kept ⟨some object.current, object.current⟩)
    (writes : forall known, listing = some known -> known ∈ pass.catalog.listings ∧
      forall object, kept object -> object.current.place = known.place ->
        kept ⟨object.stored, writeListing library record issuerId object.current⟩)
    (adds : listing = none -> kept ⟨some (newListing library now record assetId issuerId),
      newListing library now record assetId issuerId⟩)
    (done : storeListing library now record assetId issuerId listing pass = .ok next)
    (holds : listing ≠ none -> forall object, object ∈ pass.listings -> kept object) :
    forall object, object ∈ next.listings -> kept object := by
  cases listing with
  | none =>
      rcases except_bind_ok done with ⟨flushed, stored, ends⟩
      have final : forall object, object ∈ flushed.listings -> kept object := by
        refine flush_objects stored ?_
        intro object member
        rcases List.mem_append.mp member with old | new
        · exact flushes rfl object old
        · rw [List.mem_singleton.mp new]
          exact adds rfl
      cases ends
      exact final
  | some known =>
      cases done
      rcases writes known rfl with ⟨member, writes⟩
      intro object changed
      rcases List.mem_map.mp changed with ⟨before, listed, same⟩
      rw [← same]
      by_cases hit : before.current.period = known.period
      · rw [if_pos hit]
        have row : before.current ∈ pass.catalog.listings := List.mem_map_of_mem listed
        have equal := List.inj_on_of_nodup_map linked.periods row member hit
        exact writes before (holds (Option.some_ne_none known) before listed)
          (congrArg AssetListing.place equal)
      · rw [if_neg hit]
        exact holds (Option.some_ne_none known) before listed

theorem ensureIdentifier_listings (assetId : Identifier) (issuerId : Option Identifier) :
    (ensureIdentifier library now record assetId issuerId pass).listings = pass.listings := by
  unfold ensureIdentifier
  split
  · split <;> rfl
  · rfl

theorem ensureObservation_listings (assetId : Identifier) (issuerId : Option Identifier) :
    (ensureObservation library now record assetId issuerId pass).listings = pass.listings := by
  unfold ensureObservation
  split <;> rfl

theorem storeCapability_listings (assetId : Identifier) :
    (storeCapability library now record assetId pass).listings = pass.listings := by
  unfold storeCapability
  split <;> rfl

/-- The record adds a listing, an asset or an issuer, so that the session is flushed. -/
def Adds (record : ReferenceSecurityRecord) (catalog : Catalog) : Prop :=
  aim record catalog.places = none ∨
    record.issuerCik.isSome = true ∧ issuerOf record catalog.issuers = none

/-- The stages at which a record may flush: its asset, its issuer and its listing. -/
structure Stages (library : Library) (now : Instant) (record : ReferenceSecurityRecord)
    (free : Place -> Bool) (pass next counted owned issued listed : Pass)
    (assetId : Identifier) (issuerId : Option Identifier) : Prop where
  objects : counted.listings = pass.listings
  aimed : (counted.listing record).map AssetListing.place = aim record pass.catalog.places
  found : forall known, counted.listing record = some known ->
    known ∈ issued.catalog.listings ∧ counted.asset record (some known) ≠ none
  asset : ensureAsset library record (counted.listing record) counted = .ok (assetId, owned)
  session : InSession free owned
  issuers : owned.catalog.issuers = pass.catalog.issuers
  issuer : ensureIssuer library record owned = .ok (issuerId, issued)
  linked : Linked issued.catalog
  listing : storeListing library now record assetId issuerId (counted.listing record) issued =
    .ok listed
  last : next.listings = listed.listings

theorem reconcileRecord_stages (session : InSession free pass) (linked : Linked pass.catalog)
    (done : reconcileRecord library now record pass = .ok next) :
    exists counted owned issued listed assetId issuerId,
      Stages library now record free pass next counted owned issued listed assetId issuerId := by
  rcases @countExcluded_catalog library record pass free session with ⟨begins, same⟩
  rw [reconcileRecord] at done
  rcases except_bind_ok done with ⟨⟨assetId, owned⟩, first, rest⟩
  rcases except_bind_ok rest with ⟨⟨issuerId, issued⟩, second, further⟩
  rcases except_bind_ok further with ⟨listed, third, ends⟩
  rcases ensureAsset_ok begins (same ▸ linked) rfl first with
    ⟨ownedSession, ownedLinked, ⟨addedAssets, ownedCatalog, _⟩, _⟩
  rcases ensureIssuer_ok ownedSession ownedLinked second with
    ⟨_, issuedLinked, ⟨addedIssuers, issuedCatalog, _⟩, _⟩
  have aimed := @InSession.listing_place record _ free begins
  rw [same] at aimed ownedCatalog
  have rows : issued.catalog.listings = pass.catalog.listings := by
    rw [issuedCatalog, ownedCatalog]
  refine ⟨countExcluded library record pass, owned, issued, listed, assetId, issuerId,
    { objects := ?_
      aimed := aimed
      found := ?_
      asset := first
      session := ownedSession
      issuers := ?_
      issuer := second
      linked := issuedLinked
      listing := third
      last := ?_ }⟩
  · unfold countExcluded
    split <;> rfl
  · intro known found
    have member := begins.listing_mem found
    rw [same, ← rows] at member
    rcases begins.owned (same ▸ linked) found with ⟨asset, selected⟩
    refine ⟨member, ?_⟩
    rw [Pass.asset, Option.bind_some, selected, Option.some_or]
    exact Option.some_ne_none asset
  · rw [ownedCatalog]
  · cases ends
    rw [storeCapability_listings, ensureObservation_listings, ensureIdentifier_listings]
    rfl

section Stages

variable {counted owned issued listed : Pass} {assetId : Identifier}
  {issuerId : Option Identifier}

theorem Stages.missed
    (stages : Stages library now record free pass next counted owned issued listed assetId issuerId)
    (nothing : counted.listing record = none) : aim record pass.catalog.places = none := by
  rw [← stages.aimed, nothing]
  rfl

/-- A record whose asset is not found has found no listing. -/
theorem Stages.ownerless
    (stages : Stages library now record free pass next counted owned issued listed assetId issuerId)
    (without : counted.asset record (counted.listing record) = none) :
    counted.listing record = none := by
  cases listing : counted.listing record with
  | none => rfl
  | some known =>
      rw [listing] at without
      exact absurd without (stages.found known listing).2

/-- The write of the record, as a stage makes it. -/
theorem Stages.writes
    (stages : Stages library now record free pass next counted owned issued listed assetId issuerId)
    (writes : forall object issuerId, kept object ->
      aim record pass.catalog.places = some object.current.place ->
        kept ⟨object.stored, writeListing library record issuerId object.current⟩) :
    forall known, counted.listing record = some known -> known ∈ issued.catalog.listings ∧
      forall object, kept object -> object.current.place = known.place ->
        kept ⟨object.stored, writeListing library record issuerId object.current⟩ := by
  intro known listing
  refine ⟨(stages.found known listing).1, ?_⟩
  intro object holds placed
  refine writes object issuerId holds ?_
  rw [placed, ← stages.aimed, listing]
  rfl

end Stages

/-- The rule for the objects of the listings: what flushing, writing and adding keep is kept by
the record. -/
theorem reconcileRecord_objects (session : InSession free pass) (linked : Linked pass.catalog)
    (flushes : Adds record pass.catalog -> forall object, kept object ->
      kept ⟨some object.current, object.current⟩)
    (writes : forall object issuerId, kept object ->
      aim record pass.catalog.places = some object.current.place ->
        kept ⟨object.stored, writeListing library record issuerId object.current⟩)
    (adds : aim record pass.catalog.places = none -> forall assetId issuerId,
      kept ⟨some (newListing library now record assetId issuerId),
        newListing library now record assetId issuerId⟩)
    (done : reconcileRecord library now record pass = .ok next)
    (holds : forall object, object ∈ pass.listings -> kept object) :
    forall object, object ∈ next.listings -> kept object := by
  rcases reconcileRecord_stages session linked done with
    ⟨counted, owned, issued, listed, assetId, issuerId, stages⟩
  have ownedHolds : forall object, object ∈ owned.listings -> kept object :=
    ensureAsset_objects
      (fun without => flushes (Or.inl (stages.missed (stages.ownerless without)))) stages.asset
      (stages.objects ▸ holds)
  have issuedHolds : forall object, object ∈ issued.listings -> kept object :=
    ensureIssuer_objects stages.session
      (fun named unissued => flushes (Or.inr ⟨named, stages.issuers ▸ unissued⟩)) stages.issuer
      ownedHolds
  rw [stages.last]
  refine storeListing_objects stages.linked ?_ (stages.writes writes) ?_ stages.listing
    fun _ => issuedHolds
  · exact fun nothing object member =>
      flushes (Or.inl (stages.missed nothing)) object (issuedHolds object member)
  · exact fun nothing => adds (stages.missed nothing) assetId issuerId

/-- The rule for a record that adds something: what holds of the objects once they are flushed
holds after the record. -/
theorem reconcileRecord_flushed (session : InSession free pass) (linked : Linked pass.catalog)
    (adding : Adds record pass.catalog)
    (writes : forall object issuerId, kept object ->
      aim record pass.catalog.places = some object.current.place ->
        kept ⟨object.stored, writeListing library record issuerId object.current⟩)
    (adds : aim record pass.catalog.places = none -> forall assetId issuerId,
      kept ⟨some (newListing library now record assetId issuerId),
        newListing library now record assetId issuerId⟩)
    (done : reconcileRecord library now record pass = .ok next)
    (flushed : forall object, object ∈ pass.listings ->
      kept ⟨some object.current, object.current⟩) :
    forall object, object ∈ next.listings -> kept object := by
  rcases reconcileRecord_stages session linked done with
    ⟨counted, owned, issued, listed, assetId, issuerId, stages⟩
  have ownedHolds : forall object, object ∈ owned.listings ->
      kept ⟨some object.current, object.current⟩ :=
    ensureAsset_objects (fun _ _ holds => holds) stages.asset (stages.objects ▸ flushed)
  have issuedHolds : forall object, object ∈ issued.listings ->
      kept ⟨some object.current, object.current⟩ :=
    ensureIssuer_objects stages.session (fun _ _ _ holds => holds) stages.issuer ownedHolds
  rw [stages.last]
  refine storeListing_objects stages.linked (fun _ => issuedHolds) (stages.writes writes)
    (fun nothing => adds (stages.missed nothing) assetId issuerId) stages.listing ?_
  intro present
  rcases adding with missed | ⟨named, unissued⟩
  · rw [← stages.aimed, Option.map_eq_none_iff] at missed
    exact absurd missed present
  · have missing := stages.issuers ▸ unissued
    cases ensureIssuer_cases stages.session stages.issuer with
    | unnamed known =>
        rw [known] at named
        cases named
    | found cik issuer known there =>
        rw [issuerOf, known, Option.bind_some, there] at missing
        cases missing
    | added cik passed known missing stored catalog =>
        have final : forall object, object ∈ passed.listings -> kept object :=
          flush_objects stored ownedHolds
        exact final

end Objects

end ReferenceData
end MarketIntelligence
