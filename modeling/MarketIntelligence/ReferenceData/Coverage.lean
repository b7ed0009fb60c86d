import MarketIntelligence.ReferenceData.Feeds

namespace MarketIntelligence
namespace ReferenceData

open Foundations
open Sessions
open Loops

/-!
# The listings after a call

The sweep closes what the feed does not name.  It sees whether a listing is active as the
database has it, which is how it is for the listings that no record of the feed has written.
-/

/-- No listing of the source but one whose key is in the feed. -/
def touchable (source : String) (keys : List String) (place : Place) : Bool :=
  place.source ≠ source ∨ place.sourceRecordKey ∈ keys

/-- A listing of the source is open under the key of the record if one is under its symbol and
exchange. -/
def KeepsKey (record : ReferenceSecurityRecord) (places : List Place) : Prop :=
  forall place, place ∈ places -> place.source = record.source -> place.Paired record ->
    exists other, other ∈ places ∧ other.Keyed record

/-- The listing that is open under the key of the record has its symbol and exchange. -/
def KeepsPair (record : ReferenceSecurityRecord) (places : List Place) : Prop :=
  forall place, place ∈ places -> place.Keyed record -> place.Paired record

section Targets

variable {now : Instant} {source : String} {records : List ReferenceSecurityRecord}
  {prior places : List Place} {record other : ReferenceSecurityRecord} {place : Place}

theorem touchable_iff {keys : List String} :
    touchable source keys place = false <->
      place.source = source ∧ place.sourceRecordKey ∉ keys := by
  rw [touchable, decide_eq_false_iff_not, not_or, not_not]

/-- The place a record aims at is under its key, or it is of another source. -/
theorem aim_keyed_or_elsewhere (feed : Feed source records)
    (grown : Grown now records prior places) (member : record ∈ records)
    (keeps : KeepsKey record prior) (aimed : aim record places = some place) :
    place.Keyed record ∨ place.Paired record ∧ place.source ≠ source := by
  rcases (aim_some aimed).2 with keyed | ⟨paired, unkeyed⟩
  · exact Or.inl keyed
  have listed := aim_mem aimed
  rcases id grown with ⟨added, same, own⟩
  rw [same] at listed
  rcases List.mem_append.mp listed with old | new
  · refine Or.inr ⟨paired, fun ours => ?_⟩
    rcases keeps place old (ours.trans (feed.sources record member).symm) paired with
      ⟨there, known, keyed⟩
    exact unkeyed there (grown.mem known) keyed
  · rcases own place new with ⟨owner, ownerMember, _, assetId, equal⟩
    rw [equal] at paired ⊢
    have one := feed.eq_of_pair ownerMember member paired.1 paired.2.1
    rw [one]
    exact Or.inl (newPlace_keyed now record assetId)

theorem aim_touchable (feed : Feed source records) (grown : Grown now records prior places)
    (member : record ∈ records) (keeps : KeepsKey record prior)
    (aimed : aim record places = some place) :
    touchable source (records.map ReferenceSecurityRecord.sourceRecordKey) place = true := by
  apply decide_eq_true
  rcases aim_keyed_or_elsewhere feed grown member keeps aimed with keyed | ⟨_, elsewhere⟩
  · right
    rw [keyed.2.1]
    exact List.mem_map_of_mem member
  · exact Or.inl elsewhere

/-- The listing of a record that keeps its pair has that pair. -/
theorem aim_pair (feed : Feed source records) (grown : Grown now records prior places)
    (member : record ∈ records) (keeps : KeepsPair record prior)
    (aimed : aim record places = some place) : place.Paired record := by
  rcases (aim_some aimed).2 with keyed | ⟨paired, _⟩
  · have listed := aim_mem aimed
    rcases grown with ⟨added, same, own⟩
    rw [same] at listed
    rcases List.mem_append.mp listed with old | new
    · exact keeps place old keyed
    · rcases own place new with ⟨owner, ownerMember, _, assetId, equal⟩
      rw [equal] at keyed ⊢
      rw [feed.eq_of_key ownerMember member keyed.2.1]
      exact ⟨rfl, rfl, rfl⟩
  · exact paired

/-- Two records that keep their keys aim at different places. -/
theorem aim_injective (feed : Feed source records) (grown : Grown now records prior places)
    (member : record ∈ records) (keeps : KeepsKey record prior)
    (aimed : aim record places = some place) (listed : other ∈ records)
    (aimedToo : aim other places = some place) (paired : place.Paired record) : other = record := by
  rcases (aim_some aimedToo).2 with keyed | ⟨there, _⟩
  · rcases aim_keyed_or_elsewhere feed grown member keeps aimed with here | ⟨_, elsewhere⟩
    · exact feed.eq_of_key listed member (keyed.2.1.symm.trans here.2.1)
    · exact absurd (keyed.1.trans (feed.sources other listed)) elsewhere
  · exact feed.eq_of_pair listed member (there.1.symm.trans paired.1)
      (there.2.1.symm.trans paired.2.1)

end Targets

/-! ## The sweep -/

section Sweep

variable {now : Instant} {source : String} {keys : List String} {pass : Pass}
  {free : Place -> Bool} {object : Tracked AssetListing}

theorem foldl_addSeen {records : List ReferenceSecurityRecord}
    (sources : forall record, record ∈ records -> record.source = source) (keys : List String) :
    records.foldl addSeen [(source, keys)] =
      [(source, keys ++ records.map ReferenceSecurityRecord.sourceRecordKey)] := by
  induction records generalizing keys with
  | nil => rw [List.foldl_nil, List.map_nil, List.append_nil]
  | cons record rest ih =>
      have same := sources record List.mem_cons_self
      have step : addSeen [(source, keys)] record =
          [(source, keys ++ [record.sourceRecordKey])] := by
        simp [addSeen, same]
      rw [List.foldl_cons, step,
        ih fun other member => sources other (List.mem_cons_of_mem _ member),
        List.map_cons, List.append_assoc]
      rfl

theorem Feed.seen {records : List ReferenceSecurityRecord} (feed : Feed source records)
    (nonempty : records ≠ []) :
    records.foldl addSeen [] =
      [(source, records.map ReferenceSecurityRecord.sourceRecordKey)] := by
  cases records with
  | nil => exact absurd rfl nonempty
  | cons record rest =>
      have same := feed.sources record List.mem_cons_self
      have step : addSeen [] record = [(source, [record.sourceRecordKey])] := by
        rw [← same]
        rfl
      rw [List.foldl_cons, step,
        foldl_addSeen fun other member => feed.sources other (List.mem_cons_of_mem _ member)]
      rfl

theorem InSession.seen (session : InSession free pass) (member : object ∈ pass.listings) :
    exists stored, object.stored = some stored ∧ stored.place = object.current.place ∧
      (free object.current.place = false -> stored.isActive = object.current.isActive) := by
  have synced := session.listings object member
  rcases Option.map_eq_some_iff.mp synced with ⟨stored, held, same⟩
  have places : stored.place = object.current.place := congrArg Prod.fst same
  refine ⟨stored, held, places, ?_⟩
  intro written
  have flags : (if free stored.place then none else some stored.isActive) =
      if free object.current.place then none else some object.current.isActive :=
    congrArg Prod.snd same
  rw [places, written] at flags
  exact Option.some.inj flags

/-- What the sweep closes is open, of the source, and not in the feed. -/
theorem missing_untouchable (session : InSession free pass) (member : object ∈ pass.listings)
    (closed : missing source keys object = true) :
    touchable source keys object.current.place = false ∧ object.current.validTo = none := by
  rcases session.seen member with ⟨stored, held, same, _⟩
  rw [missing, held, Option.any_some, Bool.and_eq_true, decide_eq_true_eq] at closed
  rcases closed with ⟨⟨ours, open_, _⟩, absent⟩
  refine ⟨touchable_iff.mpr ⟨?_, ?_⟩, ?_⟩
  · rw [← same]
    exact ours
  · have outside : object.current.sourceRecordKey ∉ keys := by simpa using absent
    exact outside
  · exact (congrArg Place.validTo same).symm.trans open_

/-- The catalog after the sweep and the last flush. -/
def Pass.swept (now : Instant) (source : String) (keys : List String) (pass : Pass) : Catalog :=
  (markMissing now pass (source, keys)).catalog

theorem swept_listings : (pass.swept now source keys).listings =
    pass.listings.map fun object =>
      if missing source keys object then closeListing now object.current else object.current := by
  change (pass.listings.map fun object =>
      if missing source keys object then
        (⟨object.stored, closeListing now object.current⟩ : Tracked AssetListing)
      else object).map Tracked.current = _
  rw [List.map_map]
  apply List.map_congr_left
  intro object _
  rw [Function.comp_apply]
  by_cases closed : missing source keys object = true
  · rw [if_pos closed, if_pos closed]
  · rw [if_neg closed, if_neg closed]

/-- A listing that is open after the sweep was not closed. -/
theorem swept_open {listing : AssetListing} (member : listing ∈ (pass.swept now source keys).listings)
    (open_ : listing.validTo = none) :
    exists object, object ∈ pass.listings ∧ missing source keys object = false ∧
      listing = object.current := by
  rw [swept_listings] at member
  rcases List.mem_map.mp member with ⟨object, listed, same⟩
  by_cases closed : missing source keys object = true
  · rw [if_pos closed] at same
    rw [← same] at open_
    cases open_
  · rw [if_neg closed] at same
    exact ⟨object, listed, Bool.eq_false_iff.mpr closed, same.symm⟩

theorem swept_kept (member : object ∈ pass.listings) (kept : missing source keys object = false) :
    object.current ∈ (pass.swept now source keys).listings := by
  rw [swept_listings]
  apply List.mem_map.mpr
  refine ⟨object, member, ?_⟩
  rw [if_neg (Bool.eq_false_iff.mp kept)]

theorem mem_catalog (member : object ∈ pass.listings) :
    object.current ∈ pass.catalog.listings :=
  List.mem_map_of_mem member

theorem swept_open_mem {listing : AssetListing}
    (member : listing ∈ (pass.swept now source keys).listings) (open_ : listing.validTo = none) :
    listing ∈ pass.catalog.listings := by
  rcases swept_open member open_ with ⟨object, listed, _, same⟩
  rw [same]
  exact mem_catalog listed

/-- The sweep opens nothing: each place it leaves open was open before, so a catalog keeps its
form. -/
theorem swept_formed (formed : Formed pass.catalog.places) :
    Formed (pass.swept now source keys).places := by
  have origin : forall place, place ∈ (pass.swept now source keys).places ->
      (exists before, before ∈ pass.catalog.places ∧
        place.normalizedSymbol = before.normalizedSymbol ∧ place.symbol = before.symbol) ∧
      (place.validTo = none -> place ∈ pass.catalog.places) := by
    intro place member
    rcases List.mem_map.mp member with ⟨listing, listed, same⟩
    subst same
    constructor
    · rw [swept_listings] at listed
      rcases List.mem_map.mp listed with ⟨object, there, equal⟩
      refine ⟨object.current.place, List.mem_map_of_mem (mem_catalog there), ?_⟩
      rw [← equal]
      by_cases closed : missing source keys object = true
      · rw [if_pos closed]
        exact ⟨rfl, rfl⟩
      · rw [if_neg closed]
        exact ⟨rfl, rfl⟩
    · exact fun open_ => List.mem_map_of_mem (swept_open_mem listed open_)
  constructor
  · intro place member
    rcases (origin place member).1 with ⟨before, listed, normalized, symbols⟩
    rw [normalized, symbols]
    exact formed.normalized before listed
  · intro place other member listed here there
    exact formed.keys place other ((origin place member).2 here) ((origin other listed).2 there)
      here there
  · intro place other member listed here there
    exact formed.pairs place other ((origin place member).2 here) ((origin other listed).2 there)
      here there

end Sweep

/-! ## The listing of an active record -/

/-- The listing says what the record says. -/
structure Agrees (record : ReferenceSecurityRecord) (listing : AssetListing) : Prop where
  symbol : listing.symbol = record.symbol
  exchangeCode : listing.exchangeCode = record.exchangeCode
  securityName : listing.securityName = record.securityName
  assetType : listing.assetType = record.assetType
  isTestIssue : listing.isTestIssue = record.isTestIssue
  isEtf : listing.isEtf = record.isEtf

/-- What a record writes, apart from the status, which is another one where it adds. -/
def AssetListing.unstated (listing : AssetListing) : AssetListing :=
  { listing with listingStatus := .active }

theorem addedAsWritten_unstated (library : Library) (now : Instant)
    (record : ReferenceSecurityRecord) :
    AddedAsWritten library now AssetListing.unstated record := by
  intro assetId issuerId
  cases issuerId <;> rfl

/-- The record keeps its key and its pair. -/
def Steady (record : ReferenceSecurityRecord) (places : List Place) : Prop :=
  KeepsKey record places ∧ KeepsPair record places

/-- A listing of another source is open under the symbol and exchange of the record. -/
def HeldElsewhere (record : ReferenceSecurityRecord) (places : List Place) : Prop :=
  exists place, place ∈ places ∧ place.source ≠ record.source ∧ place.Paired record

section Listings

variable {library : Library} {now : Instant} {source : String}
  {records : List ReferenceSecurityRecord} {prior : Catalog} {pass : Pass}
  {record : ReferenceSecurityRecord} {place : Place} {free : Place -> Bool}

theorem place_of_period {catalog : Catalog} (linked : Linked catalog) {place other : Place}
    (member : place ∈ catalog.places) (listed : other ∈ catalog.places)
    (same : place.period = other.period) : place = other := by
  have distinct := linked.periods
  rw [periods_eq] at distinct
  exact List.inj_on_of_nodup_map distinct member listed same

/-- The listing of a steady record has what the record says. -/
theorem steady_written (feed : Feed source records) (linked : Linked pass.catalog)
    (progress : Progress library now AssetListing.unstated records pass.catalog)
    (grown : Grown now records prior.places pass.catalog.places) (member : record ∈ records)
    (steady : Steady record prior.places) {listing : AssetListing}
    (listed : listing ∈ pass.catalog.listings)
    (aimed : aim record pass.catalog.places = some listing.place) :
    Agrees record listing ∧ listing.isActive = record.isActive := by
  have paired := aim_pair feed grown member steady.2 aimed
  have last : records.reverse.find? (fun other =>
      listingTarget pass.catalog.places other listing) = some record := by
    apply find?_sole (List.mem_reverse.mpr member)
    · rw [listingTarget, aimed]
      exact decide_eq_true rfl
    · intro other otherMember targeted
      rw [listingTarget] at targeted
      rcases (Option.any_eq_true _ _).mp targeted with ⟨there, aimedToo, same⟩
      have equal := place_of_period linked (aim_mem aimedToo) (aim_mem aimed)
        (of_decide_eq_true same)
      rw [equal] at aimedToo
      exact aim_injective feed grown member steady.1 aimed (List.mem_reverse.mp otherMember)
        aimedToo paired
  have written := progress.listings listing listed record last
  have normalized := progress.formed.normalized listing.place (aim_mem aimed)
  refine ⟨⟨?_, paired.2.1, ?_, ?_, ?_, ?_⟩, ?_⟩
  · exact normalized.symm.trans paired.1
  · exact (congrArg AssetListing.securityName written).symm
  · exact (congrArg AssetListing.assetType written).symm
  · exact (congrArg AssetListing.isTestIssue written).symm
  · exact (congrArg AssetListing.isEtf written).symm
  · exact (congrArg AssetListing.isActive written).symm

/-- The call of a feed: its loop, its sweep, and the constraints in the end. -/
theorem reconcile_ok (feed : Feed source records) (nonempty : records ≠ []) {after : Catalog}
    {counts : ReconcileCounts}
    (done : reconcileReferenceRecords library now records true prior = .ok (after, counts)) :
    exists pass, records.foldlM (fun pass record => reconcileRecord library now record pass)
        (prior.load ⟨records.length, 0, 0, 0, 0, 0, 0⟩) = .ok pass ∧
      after = pass.swept now source (records.map ReferenceSecurityRecord.sourceRecordKey) ∧
      after.Accepted := by
  rcases except_bind_ok done with ⟨pass, looped, rest⟩
  rcases except_bind_ok rest with ⟨flushed, stored, ends⟩
  rw [if_pos rfl, feed.seen nonempty] at stored
  rcases flush_ok stored with ⟨accepted, same⟩
  have result : flushed.catalog = after := (Prod.mk.inj (Except.ok.inj ends)).1
  rw [same, catalog_load] at result
  subst result
  exact ⟨pass, looped, rfl, accepted⟩

section Swept

variable (feed : Feed source records) (linked : Linked pass.catalog)
  (progress : Progress library now AssetListing.unstated records pass.catalog)
  (grown : Grown now records prior.places pass.catalog.places)

include feed linked progress grown

/-- A steady record has its listing in the end, which is the only one that is open under its
symbol and exchange. -/
theorem steady_swept (session : InSession free pass) (member : record ∈ records)
    (steady : Steady record prior.places)
    (accepted : (pass.swept now source
      (records.map ReferenceSecurityRecord.sourceRecordKey)).Accepted) :
    exists listing, listing ∈ (pass.swept now source
        (records.map ReferenceSecurityRecord.sourceRecordKey)).listings ∧
      listing.validTo = none ∧ listing.isActive = record.isActive ∧ Agrees record listing ∧
      aim record pass.catalog.places = some listing.place ∧
      forall other, other ∈ (pass.swept now source
          (records.map ReferenceSecurityRecord.sourceRecordKey)).listings ->
        other.validTo = none -> other.symbol = record.symbol ->
          other.exchangeCode = record.exchangeCode -> other = listing := by
  rcases progress.ready record member with ⟨place, ready⟩
  rcases List.mem_map.mp (aim_mem ready.aimed) with ⟨listing, listed, placed⟩
  rcases List.mem_map.mp listed with ⟨object, tracked, current⟩
  have aimed : aim record pass.catalog.places = some listing.place := by
    rw [placed]
    exact ready.aimed
  rcases steady_written feed linked progress grown member steady listed aimed with ⟨agrees, active⟩
  have kept : missing source (records.map ReferenceSecurityRecord.sourceRecordKey) object =
      false := by
    apply Bool.eq_false_iff.mpr
    intro closed
    have untouchable := (missing_untouchable session tracked closed).1
    rw [current, aim_touchable feed grown member steady.1 aimed] at untouchable
    cases untouchable
  have final : listing ∈ (pass.swept now source
      (records.map ReferenceSecurityRecord.sourceRecordKey)).listings := by
    rw [← current]
    exact swept_kept tracked kept
  have open_ : listing.validTo = none := aim_open aimed
  refine ⟨listing, final, open_, active, agrees, aimed, ?_⟩
  intro other otherListed otherOpen symbols exchanges
  have places := (swept_formed progress.formed).pairs other.place listing.place
    (List.mem_map_of_mem otherListed) (List.mem_map_of_mem final) otherOpen open_
    (symbols.trans agrees.symbol.symm) (exchanges.trans agrees.exchangeCode.symm)
  exact List.inj_on_of_nodup_map accepted.listingPeriods otherListed final
    (congrArg Place.period places)

end Swept

end Listings

end ReferenceData
end MarketIntelligence
