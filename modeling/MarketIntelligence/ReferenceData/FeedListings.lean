import MarketIntelligence.ReferenceData.Flushes
import MarketIntelligence.ReferenceData.Repeats

namespace MarketIntelligence
namespace ReferenceData

open Foundations
open Sessions
open Loops

/-!
# The listings of a feed

After a call each active record of the feed should have its listing: open and active under the
key of the record, and saying what the record says.  The open active listings of the source
should be these and no others.

A record has its listing exactly if it finds none, or the one that is open under its key and has
its symbol and exchange.  A listing found under the key keeps its old symbol and exchange, and
one that is found by symbol and exchange keeps its old source and key, under which the sweep
closes it in the same call if the source is that of the feed.
-/

/-! ## What the feed should leave -/

/-- The listing is open and active, which is what the sweep looks for among the stored listings
of a source. -/
def Live (listing : AssetListing) : Prop :=
  listing.validTo = none ∧ listing.isActive = true

/-- The listing is that of the record: it has the key of the record and says what it says. -/
structure ListingOf (record : ReferenceSecurityRecord) (listing : AssetListing) : Prop where
  source : listing.source = record.source
  sourceRecordKey : listing.sourceRecordKey = record.sourceRecordKey
  agrees : Agrees record listing

/-- Each active record has its listing, which is the only live one that says what it says, and
the live listings of the source are those of the active records. -/
structure FeedListed (source : String) (records : List ReferenceSecurityRecord)
    (after : Catalog) : Prop where
  listed : forall record, record ∈ records -> record.isActive = true ->
    exists listing, listing ∈ after.listings ∧ Live listing ∧ ListingOf record listing ∧
      forall other, other ∈ after.listings -> Live other -> Agrees record other -> other = listing
  only : forall listing, listing ∈ after.listings -> Live listing -> listing.source = source ->
    exists record, record ∈ records ∧ record.isActive = true ∧ ListingOf record listing

/-- The record finds nothing, or it finds the listing under its key, and this listing has its
symbol and exchange already.  The code does not write these two columns of a listing that it
finds. -/
def KeepsPlace (record : ReferenceSecurityRecord) (places : List Place) : Prop :=
  forall place, place ∈ aim record places -> place.Keyed record ∧ place.Paired record

instance (record : ReferenceSecurityRecord) (places : List Place) :
    Decidable (KeepsPlace record places) :=
  inferInstanceAs (Decidable (forall place, place ∈ aim record places -> _ ∧ _))

theorem aim_of_paired {record : ReferenceSecurityRecord} {places : List Place} {place : Place}
    (member : place ∈ places) (paired : place.Paired record) :
    exists found, aim record places = some found := by
  cases aimed : aim record places with
  | none => exact absurd paired (aim_none aimed place member).2
  | some found => exact ⟨found, rfl⟩

section Places

variable {record : ReferenceSecurityRecord} {places : List Place}

theorem KeepsPlace.keepsKey (keeps : KeepsPlace record places) : KeepsKey record places := by
  intro place member _ paired
  rcases aim_of_paired member paired with ⟨found, aimed⟩
  exact ⟨found, aim_mem aimed, (keeps found aimed).1⟩

theorem KeepsPlace.keepsPair (keeps : KeepsPlace record places) (formed : Formed places) :
    KeepsPair record places :=
  fun place member keyed => (keeps place (aim_keyed formed member keyed)).2

theorem KeepsPlace.steady (keeps : KeepsPlace record places) (formed : Formed places) :
    Steady record places :=
  ⟨keeps.keepsKey, keeps.keepsPair formed⟩

/-- No listing of another source has the symbol and exchange of a record that keeps its place. -/
theorem KeepsPlace.not_heldElsewhere (keeps : KeepsPlace record places) (formed : Formed places) :
    ¬ HeldElsewhere record places := by
  rintro ⟨held, member, elsewhere, paired⟩
  rcases aim_of_paired member paired with ⟨found, aimed⟩
  rcases keeps found aimed with ⟨keyed, there⟩
  have foundMember := aim_mem aimed
  have equal := formed.pairs held found member foundMember paired.2.2 there.2.2
    (((formed.normalized held member).symm.trans (paired.1.trans there.1.symm)).trans
      (formed.normalized found foundMember))
    (paired.2.1.trans there.2.1.symm)
  exact elsewhere (equal ▸ keyed.1)

end Places

section Listed

variable {library : Library} {now : Instant} {source : String}
  {records : List ReferenceSecurityRecord} {prior : Catalog} {pass : Pass}
  {record : ReferenceSecurityRecord} {free : Place -> Bool}

/-- What a record that keeps its place aims at is under its key. -/
theorem KeepsPlace.aim_keyed (feed : Feed source records) (formed : Formed prior.places)
    (grown : Grown now records prior.places pass.catalog.places) (member : record ∈ records)
    (keeps : KeepsPlace record prior.places) {place : Place}
    (aimed : aim record pass.catalog.places = some place) : place.Keyed record := by
  rcases aim_keyed_or_elsewhere feed grown member keeps.keepsKey aimed with
    keyed | ⟨paired, elsewhere⟩
  · exact keyed
  rcases id grown with ⟨added, same, own⟩
  have listed := aim_mem aimed
  rw [same] at listed
  rcases List.mem_append.mp listed with old | new
  · have foreign : place.source ≠ record.source := by
      rw [feed.sources record member]
      exact elsewhere
    exact absurd ⟨place, old, foreign, paired⟩ (keeps.not_heldElsewhere formed)
  · rcases own place new with ⟨owner, ownerMember, _, assetId, equal⟩
    have sources : place.source = owner.source := congrArg Place.source equal
    exact absurd (sources.trans (feed.sources owner ownerMember)) elsewhere

/-- A listing of the source that no record of the feed names is active in the session only if
it is active in the database. -/
def StoredLive (source : String) (keys : List String) (object : Tracked AssetListing) : Prop :=
  touchable source keys object.current.place = false -> object.current.isActive = true ->
    object.stored.any AssetListing.isActive = true

/-- Only inactive records write such a listing. -/
theorem records_storedLive (feed : Feed source records)
    (linked : Linked prior)
    (keeps : forall record, record ∈ records -> record.isActive = true ->
      KeepsPlace record prior.places)
    {counts : ReconcileCounts}
    (done : records.foldlM (fun pass record => reconcileRecord library now record pass)
      (prior.load counts) = .ok pass) :
    forall object, object ∈ pass.listings ->
      StoredLive source (records.map ReferenceSecurityRecord.sourceRecordKey) object := by
  let motive : Pass -> Prop := fun pass =>
    InSession (fun _ => true) pass ∧ Linked pass.catalog ∧
      Grown now records prior.places pass.catalog.places ∧ forall object, object ∈ pass.listings ->
        StoredLive source (records.map ReferenceSecurityRecord.sourceRecordKey) object
  have ends : motive pass := by
    refine foldlM_invariant ?_ ?_ done
    · rintro record member before after ⟨session, sound, grown, stored⟩ stepped
      rcases reconcileRecord_ok session sound (fun _ _ => rfl) stepped with
        ⟨nextSession, nextLinked, place, advanced⟩
      refine ⟨nextSession, nextLinked, grown.advance member advanced, ?_⟩
      refine reconcileRecord_objects session sound ?_ ?_ ?_ stepped stored
      · exact fun _ object _ _ active => active
      · intro object issuerId _ aimed untouched active
        have named := aim_touchable feed grown member
          (keeps record member active).keepsKey aimed
        have same : touchable source (records.map ReferenceSecurityRecord.sourceRecordKey)
            object.current.place = false := untouched
        rw [named] at same
        cases same
      · exact fun _ _ _ _ active => active
    · refine ⟨inSession_load _ _ _, ?_, ?_, ?_⟩
      · rw [catalog_load]
        exact linked
      · rw [catalog_load]
        exact grown_refl now records prior.places
      · intro object member _ active
        rcases List.mem_map.mp member with ⟨row, _, same⟩
        rw [← same] at active ⊢
        exact active
  exact ends.2.2.2

/-- What the sweep leaves live of the source has a key of the feed. -/
theorem live_named (session : InSession free pass) {object : Tracked AssetListing}
    (tracked : object ∈ pass.listings)
    (stored : StoredLive source (records.map ReferenceSecurityRecord.sourceRecordKey) object)
    (kept : missing source (records.map ReferenceSecurityRecord.sourceRecordKey) object = false)
    (ours : object.current.source = source) (open_ : object.current.validTo = none)
    (active : object.current.isActive = true) :
    object.current.sourceRecordKey ∈ records.map ReferenceSecurityRecord.sourceRecordKey := by
  by_contra absent
  have untouched : touchable source (records.map ReferenceSecurityRecord.sourceRecordKey)
      object.current.place = false := touchable_iff.mpr ⟨ours, absent⟩
  rcases session.seen tracked with ⟨row, held, placed, _⟩
  have storedActive := stored untouched active
  have storedSource : row.source = source := (congrArg Place.source placed).trans ours
  have storedOpen : row.validTo = none := (congrArg Place.validTo placed).trans open_
  rw [held, Option.any_some] at storedActive
  rw [missing, held, Option.any_some] at kept
  simp [storedSource, storedOpen, storedActive] at kept
  rcases kept with ⟨other, member, key⟩
  exact absent (key ▸ List.mem_map_of_mem member)

/-- The live listing under the key of a record of the feed says what the record says. -/
theorem keyed_written (feed : Feed source records) (formed : Formed prior.places)
    (linked : Linked pass.catalog)
    (progress : Progress library now AssetListing.unstated records pass.catalog)
    (grown : Grown now records prior.places pass.catalog.places)
    (keeps : forall record, record ∈ records -> record.isActive = true ->
      KeepsPlace record prior.places) (member : record ∈ records) {listing : AssetListing}
    (listed : listing ∈ pass.catalog.listings) (keyed : listing.place.Keyed record)
    (active : listing.isActive = true) : record.isActive = true ∧ Agrees record listing := by
  have placed : listing.place ∈ pass.catalog.places := List.mem_map_of_mem listed
  have aimed := ReferenceData.aim_keyed progress.formed placed keyed
  have targeted : listingTarget pass.catalog.places record listing = true := by
    rw [listingTarget, aimed]
    exact decide_eq_true rfl
  have flag : record.isActive = true := by
    cases last : records.reverse.find? (fun other =>
        listingTarget pass.catalog.places other listing) with
    | none =>
        exact absurd targeted (List.find?_eq_none.mp last record (List.mem_reverse.mpr member))
    | some other =>
        have written := progress.listings listing listed other last
        have otherActive : other.isActive = true :=
          (congrArg AssetListing.isActive written).trans active
        have otherMember := List.mem_reverse.mp (List.mem_of_find?_eq_some last)
        have hit := List.find?_some last
        rcases (Option.any_eq_true _ _).mp hit with ⟨there, aimedToo, same⟩
        have equal := place_of_period linked (aim_mem aimedToo) placed (of_decide_eq_true same)
        have otherKeyed := (keeps other otherMember otherActive).aim_keyed feed formed grown
          otherMember aimedToo
        rw [equal] at otherKeyed
        rw [feed.eq_of_key member otherMember (keyed.2.1.symm.trans otherKeyed.2.1)]
        exact otherActive
  have steady := (keeps record member flag).steady formed
  exact ⟨flag, (steady_written feed linked progress grown member steady listed aimed).1⟩

/-- The listing of a record is there only if the record keeps its place. -/
theorem keepsPlace_of_listed (feed : Feed source records) (formed : Formed prior.places)
    (grown : Grown now records prior.places pass.catalog.places) (normal : Formed pass.catalog.places)
    (member : record ∈ records)
    {listing : AssetListing} (listed : listing ∈ pass.catalog.listings) (live : Live listing)
    (own : ListingOf record listing) : KeepsPlace record prior.places := by
  have placed : listing.place ∈ pass.catalog.places := List.mem_map_of_mem listed
  have keyed : listing.place.Keyed record := ⟨own.source, own.sourceRecordKey, live.1⟩
  have paired : listing.place.Paired record :=
    ⟨(normal.normalized _ placed).trans own.agrees.symbol, own.agrees.exchangeCode, live.1⟩
  rcases grown with ⟨added, same, added_⟩
  rw [same] at placed
  intro place aimed
  rcases List.mem_append.mp placed with old | new
  · rw [ReferenceData.aim_keyed formed old keyed] at aimed
    cases aimed
    exact ⟨keyed, paired⟩
  · rcases added_ _ new with ⟨owner, ownerMember, missed, assetId, equal⟩
    have keys : owner.sourceRecordKey = record.sourceRecordKey :=
      (congrArg Place.sourceRecordKey equal).symm.trans own.sourceRecordKey
    rw [← feed.eq_of_key ownerMember member keys, missed] at aimed
    cases aimed

/-- The feed has its listings exactly if each of its active records keeps its place. -/
theorem feedListed_iff (feed : Feed source records) (nonempty : records ≠ [])
    (formed : Formed prior.places) (linked : Linked prior) {after : Catalog}
    {counts : ReconcileCounts}
    (done : reconcileReferenceRecords library now records true prior = .ok (after, counts)) :
    FeedListed source records after <->
      forall record, record ∈ records -> record.isActive = true ->
        KeepsPlace record prior.places := by
  rcases reconcile_ok feed nonempty done with ⟨pass, looped, same, final⟩
  have anywhere : forall record, record ∈ records -> forall places,
      Grown now records prior.places places -> forall place, aim record places = some place ->
        (fun _ : Place => true) place = true :=
    fun _ _ _ _ _ _ => rfl
  rcases records_progress feed formed linked
      (fun record _ _ => addedAsWritten_unstated library now record) anywhere looped with
    ⟨session, sound, progress, grown⟩
  rw [same] at final ⊢
  constructor
  · intro reached record member active
    rcases reached.listed record member active with ⟨listing, listed, live, own, _⟩
    exact keepsPlace_of_listed feed formed grown progress.formed member
      (swept_open_mem listed live.1) live own
  · intro keeps
    have stored := records_storedLive feed linked keeps looped
    constructor
    · intro record member active
      have steady := (keeps record member active).steady formed
      rcases steady_swept feed sound progress grown session member steady final with
        ⟨listing, listed, open_, flag, agrees, aimed, sole⟩
      have keyed := (keeps record member active).aim_keyed feed formed grown member aimed
      refine ⟨listing, listed, ⟨open_, flag.trans active⟩, ⟨keyed.1, keyed.2.1, agrees⟩, ?_⟩
      intro other otherListed otherLive otherAgrees
      exact sole other otherListed otherLive.1 otherAgrees.symbol otherAgrees.exchangeCode
    · intro listing listed live ours
      rcases swept_open listed live.1 with ⟨object, tracked, kept, current⟩
      subst current
      rcases List.mem_map.mp (live_named session tracked (stored object tracked) kept ours live.1
        live.2) with ⟨record, member, key⟩
      have source_ : object.current.source = record.source :=
        ours.trans (feed.sources record member).symm
      rcases keyed_written feed formed sound progress grown keeps member (mem_catalog tracked)
        ⟨source_, key.symm, live.1⟩ live.2 with ⟨active, agrees⟩
      exact ⟨record, member, active, source_, key.symm, agrees⟩

end Listed

end ReferenceData
end MarketIntelligence
