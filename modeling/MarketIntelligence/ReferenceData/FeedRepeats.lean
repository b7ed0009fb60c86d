import MarketIntelligence.ReferenceData.FeedListings

namespace MarketIntelligence
namespace ReferenceData

open Foundations
open Sessions
open Loops

/-!
# The same feed once more

Where the active records have their listings, the same feed changes nothing more exactly if each
inactive record finds a listing and this listing is left open.  An inactive record that finds
nothing adds a listing that is said to be active, which the next call corrects.  One that finds a
listing of its own source under a key that is not in the feed writes it and leaves it to the
sweep.  The sweep closes it if the database still has it as active, that is, if no later record
of the feed has the session flushed, and then the next call adds another one.
-/

/-- The same feed, at any instant, does not raise and changes nothing but the instants up to
which things are known to be so. -/
def Repeats (library : Library) (records : List ReferenceSecurityRecord) (after : Catalog) :
    Prop :=
  forall later, exists again counts,
    reconcileReferenceRecords library later records true after = .ok (again, counts) ∧
      again.timeless = after.timeless

def KnownCik (issuers : List Issuer) (cik : String) : Prop :=
  exists issuer, issuer ∈ issuers ∧ issuer.cik = some cik

/-- After the earlier records the record adds a row: it finds no listing, or it names a CIK that
neither the catalog nor an earlier record has. -/
def AddsRow (prior : Catalog) (earlier : List ReferenceSecurityRecord)
    (record : ReferenceSecurityRecord) : Prop :=
  aim record prior.places = none ∨
    exists cik, record.issuerCik = some cik ∧ ¬ KnownCik prior.issuers cik ∧
      forall other, other ∈ earlier -> other.issuerCik ≠ some cik

/-- A later record of the feed adds a row. -/
def AddsLater (prior : Catalog) (records : List ReferenceSecurityRecord)
    (record : ReferenceSecurityRecord) : Prop :=
  exists earlier adding later, records = earlier ++ adding :: later ∧ record ∈ earlier ∧
    AddsRow prior earlier adding

/-- The sweep leaves the listing that an inactive record finds: its key is in the feed or it is of
another source, or it was inactive before, or what is written to it is flushed. -/
def StaysOpen (source : String) (prior : Catalog) (records : List ReferenceSecurityRecord)
    (record : ReferenceSecurityRecord) (place : Place) : Prop :=
  touchable source (records.map ReferenceSecurityRecord.sourceRecordKey) place = true ∨
    (forall listing, listing ∈ prior.listings -> listing.place = place ->
      listing.isActive = false) ∨
    AddsLater prior records record

/-! ## The records that have been taken -/

/-- What is known once the first records of the feed have been taken. -/
structure Taken (now : Instant) (records : List ReferenceSecurityRecord) (prior : Catalog)
    (taken rest : List ReferenceSecurityRecord) (pass : Pass) : Prop where
  split : records = taken ++ rest
  session : InSession (fun _ => true) pass
  linked : Linked pass.catalog
  formed : Formed pass.catalog.places
  grown : Grown now taken prior.places pass.catalog.places
  ciks : forall cik, KnownCik pass.catalog.issuers cik <->
    KnownCik prior.issuers cik ∨ exists other, other ∈ taken ∧ other.issuerCik = some cik

section Taken

variable {library : Library} {now : Instant} {source : String}
  {records taken rest : List ReferenceSecurityRecord} {prior : Catalog} {pass next : Pass}
  {record head : ReferenceSecurityRecord}

theorem issuerOf_none_iff {issuers : List Issuer} {cik : String}
    (named : record.issuerCik = some cik) :
    issuerOf record issuers = none <-> ¬ KnownCik issuers cik := by
  rw [issuerOf, named, Option.bind_some, Option.map_eq_none_iff, List.find?_eq_none]
  constructor
  · rintro missing ⟨issuer, member, same⟩
    exact missing issuer member (decide_eq_true same)
  · intro unknown issuer member same
    exact unknown ⟨issuer, member, of_decide_eq_true same⟩

theorem taken_load (records : List ReferenceSecurityRecord) (formed : Formed prior.places)
    (linked : Linked prior) (counts : ReconcileCounts) :
    Taken now records prior [] records (prior.load counts) := by
  refine ⟨rfl, inSession_load _ _ _, ?_, ?_, ?_, ?_⟩
  · rw [catalog_load]
    exact linked
  · rw [catalog_load]
    exact formed
  · rw [catalog_load]
    exact grown_refl now [] prior.places
  · intro cik
    rw [catalog_load]
    refine ⟨Or.inl, ?_⟩
    rintro (known | ⟨other, impossible, _⟩)
    · exact known
    · exact absurd impossible List.not_mem_nil

theorem Taken.step (taking : Taken now records prior taken (head :: rest) pass)
    (done : reconcileRecord library now head pass = .ok next) :
    Taken now records prior (taken ++ [head]) rest next ∧
      exists place, Advanced library now head pass.catalog next.catalog place := by
  rcases reconcileRecord_ok taking.session taking.linked (fun _ _ => rfl) done with
    ⟨session, linked, place, advanced⟩
  refine ⟨⟨?_, session, linked, advanced.formed taking.formed, ?_, ?_⟩, place, advanced⟩
  · rw [taking.split, List.append_assoc]
    rfl
  · exact (taking.grown.mono fun other member => List.mem_append_left _ member).advance
      (List.mem_append_right _ List.mem_cons_self) advanced
  · intro cik
    rcases advanced.issuers with ⟨added, issuers, own⟩
    have known : KnownCik next.catalog.issuers cik <->
        KnownCik pass.catalog.issuers cik ∨ head.issuerCik = some cik := by
      constructor
      · rintro ⟨issuer, member, same⟩
        rw [issuers] at member
        rcases List.mem_append.mp member with old | new
        · exact Or.inl ⟨issuer, old, same⟩
        · exact Or.inr ((own issuer new).symm.trans same)
      · rintro (⟨issuer, member, same⟩ | named)
        · exact ⟨issuer, issuers ▸ List.mem_append_left _ member, same⟩
        · by_contra unknown
          have absent := (issuerOf_none_iff named).mpr unknown
          have present := advanced.issuer (named ▸ rfl)
          rw [absent] at present
          cases present
    rw [known, taking.ciks cik, or_assoc]
    apply or_congr_right
    constructor
    · rintro (⟨other, member, same⟩ | named)
      · exact ⟨other, List.mem_append_left _ member, same⟩
      · exact ⟨head, List.mem_append_right _ List.mem_cons_self, named⟩
    · rintro ⟨other, member, same⟩
      rcases List.mem_append.mp member with old | last
      · exact Or.inl ⟨other, old, same⟩
      · exact Or.inr (List.mem_singleton.mp last ▸ same)

/-- The rule for the records of a feed, from any of them on. -/
theorem Taken.run {motive : List ReferenceSecurityRecord -> Pass -> Prop}
    (pass_ : forall taken head rest before after,
      Taken now records prior taken (head :: rest) before -> motive taken before ->
        reconcileRecord library now head before = .ok after -> motive (taken ++ [head]) after)
    {front back : List ReferenceSecurityRecord} (taking : Taken now records prior taken (front ++ back) pass)
    (holds : motive taken pass)
    (done : front.foldlM (fun pass record => reconcileRecord library now record pass) pass =
      .ok next) :
    Taken now records prior (taken ++ front) back next ∧ motive (taken ++ front) next := by
  induction front generalizing taken pass with
  | nil =>
      cases done
      rw [List.append_nil]
      exact ⟨taking, holds⟩
  | cons head tail ih =>
      rcases foldlM_cons_ok done with ⟨middle, first, rest⟩
      have further := ih (taking.step first).1
        (pass_ taken head (tail ++ back) pass middle taking holds first) rest
      rw [List.append_assoc] at further
      exact further

theorem Taken.apart (feed : Feed source records)
    (taking : Taken now records prior taken (head :: rest) pass) : head ∉ taken := by
  intro member
  have keys := feed.keys
  rw [taking.split, List.map_append] at keys
  exact (List.nodup_append.mp keys).2.2 head.sourceRecordKey (List.mem_map_of_mem member) _
    List.mem_cons_self rfl

theorem Taken.among (taking : Taken now records prior taken rest pass) :
    Grown now records prior.places pass.catalog.places := by
  refine taking.grown.mono fun other member => ?_
  rw [taking.split]
  exact List.mem_append_left _ member

theorem Taken.member (taking : Taken now records prior taken (head :: rest) pass) :
    head ∈ records := by
  rw [taking.split]
  exact List.mem_append_right _ List.mem_cons_self

/-- Whether a record adds a row can be told from the catalog and the earlier records. -/
theorem Taken.adds_iff (feed : Feed source records)
    (taking : Taken now records prior taken (head :: rest) pass) :
    Adds head pass.catalog <-> AddsRow prior taken head := by
  have member := taking.member
  apply or_congr
  · refine ⟨taking.grown.aim_none, fun missed => ?_⟩
    cases aimed : aim head pass.catalog.places with
    | none => rfl
    | some place =>
        have placed := aim_mem aimed
        have meets : place.Keyed head ∨ place.Paired head :=
          (aim_some aimed).2.imp id And.left
        rcases taking.grown with ⟨added, same, own⟩
        rw [same] at placed
        rcases List.mem_append.mp placed with old | new
        · rcases meets with keyed | paired
          · exact absurd keyed (aim_none missed place old).1
          · exact absurd paired (aim_none missed place old).2
        · rcases own place new with ⟨owner, ownerTaken, _, assetId, equal⟩
          have ownerMember : owner ∈ records := by
            rw [taking.split]
            exact List.mem_append_left _ ownerTaken
          have owns : owner = head := by
            rw [equal] at meets
            rcases meets with keyed | paired
            · exact feed.eq_of_key ownerMember member keyed.2.1
            · exact feed.eq_of_pair ownerMember member paired.1 paired.2.1
          exact absurd (owns ▸ ownerTaken) (taking.apart feed)
  · constructor
    · rintro ⟨named, unissued⟩
      rcases Option.isSome_iff_exists.mp named with ⟨cik, same⟩
      have unknown := (issuerOf_none_iff same).mp unissued
      rw [taking.ciks cik, not_or] at unknown
      exact ⟨cik, same, unknown.1, fun other member named => unknown.2 ⟨other, member, named⟩⟩
    · rintro ⟨cik, same, unknown, earlier⟩
      refine ⟨same ▸ rfl, (issuerOf_none_iff same).mpr ?_⟩
      rw [taking.ciks cik, not_or]
      exact ⟨unknown, fun ⟨other, member, named⟩ => earlier other member named⟩

end Taken

/-! ## A listing found under another key -/

/-- An inactive record finds a listing of the source whose key is not in the feed. -/
structure FallsBack (source : String) (prior : Catalog) (records : List ReferenceSecurityRecord)
    (record : ReferenceSecurityRecord) (place : Place) : Prop where
  member : record ∈ records
  inactive : record.isActive = false
  aimed : aim record prior.places = some place
  untouched : touchable source (records.map ReferenceSecurityRecord.sourceRecordKey) place = false

/-- At the place the listing is inactive, in the session and in the database. -/
def FlatAt (place : Place) (object : Tracked AssetListing) : Prop :=
  object.current.place = place ->
    object.current.isActive = false ∧ object.stored.any AssetListing.isActive = false

section FallsBack

variable {library : Library} {now : Instant} {source : String}
  {records taken rest : List ReferenceSecurityRecord} {prior : Catalog} {pass next : Pass}
  {record head : ReferenceSecurityRecord} {place : Place}

theorem FallsBack.unkeyed (falls : FallsBack source prior records record place)
    {other : ReferenceSecurityRecord} (listed : other ∈ records) :
    ¬ place.Keyed other := by
  intro keyed
  apply (touchable_iff.mp falls.untouched).2
  rw [keyed.2.1]
  exact List.mem_map_of_mem listed

theorem FallsBack.paired (falls : FallsBack source prior records record place) :
    place.Paired record ∧ forall other, other ∈ prior.places -> ¬ other.Keyed record := by
  rcases (aim_some falls.aimed).2 with keyed | paired
  · exact absurd keyed (falls.unkeyed falls.member)
  · exact paired

/-- No other record of the feed finds the listing. -/
theorem FallsBack.sole (falls : FallsBack source prior records record place)
    (feed : Feed source records) {other : ReferenceSecurityRecord} (listed : other ∈ records)
    {places : List Place} (aimed : aim other places = some place) : other = record := by
  rcases (aim_some aimed).2 with keyed | ⟨paired, _⟩
  · exact absurd keyed (falls.unkeyed listed)
  · have here := falls.paired.1
    exact feed.eq_of_pair listed falls.member (paired.1.symm.trans here.1)
      (paired.2.1.symm.trans here.2.1)

/-- No record of the feed adds the listing. -/
theorem FallsBack.old (falls : FallsBack source prior records record place)
    {other : ReferenceSecurityRecord} (listed : other ∈ records)
    (assetId : Identifier) : newPlace now other assetId ≠ place := by
  intro same
  exact falls.unkeyed listed (same ▸ newPlace_keyed now other assetId)

/-- The record still finds the listing when it is taken. -/
theorem FallsBack.aim_later (falls : FallsBack source prior records record place)
    (feed : Feed source records) (formed : Formed pass.catalog.places)
    (grown : Grown now records prior.places pass.catalog.places) :
    aim record pass.catalog.places = some place := by
  rcases falls.paired with ⟨paired, unkeyed⟩
  refine aim_paired formed (grown.mem (aim_mem falls.aimed)) paired ?_
  intro other listed keyed
  rcases id grown with ⟨added, same, own⟩
  rw [same] at listed
  rcases List.mem_append.mp listed with old | new
  · exact unkeyed other old keyed
  · rcases own other new with ⟨owner, ownerMember, missed, assetId, equal⟩
    rw [equal] at keyed
    rw [feed.eq_of_key ownerMember falls.member keyed.2.1, falls.aimed] at missed
    cases missed

/-- Where the listing is inactive it stays so. -/
theorem FallsBack.flat_step (falls : FallsBack source prior records record place)
    (feed : Feed source records) (taking : Taken now records prior taken (head :: rest) pass)
    (flat : forall object, object ∈ pass.listings -> FlatAt place object)
    (done : reconcileRecord library now head pass = .ok next) :
    forall object, object ∈ next.listings -> FlatAt place object := by
  refine reconcileRecord_objects taking.session taking.linked ?_ ?_ ?_ done flat
  · intro _ object flat there
    have inactive := (flat there).1
    exact ⟨inactive, inactive⟩
  · intro object issuerId flat aimed there
    have same : object.current.place = place := there
    have only := falls.sole feed taking.member (same ▸ aimed)
    exact ⟨only ▸ falls.inactive, (flat there).2⟩
  · intro _ assetId issuerId there
    exact absurd there (falls.old taking.member assetId)

/-- A flush brings to the database what the record has written. -/
theorem FallsBack.flat_flushed (falls : FallsBack source prior records record place)
    (feed : Feed source records) (taking : Taken now records prior taken (head :: rest) pass)
    (adding : AddsRow prior taken head)
    (written : forall listing, listing ∈ pass.catalog.listings -> listing.place = place ->
      listing.isActive = false)
    (done : reconcileRecord library now head pass = .ok next) :
    forall object, object ∈ next.listings -> FlatAt place object := by
  refine reconcileRecord_flushed taking.session taking.linked
    ((taking.adds_iff feed).mpr adding) ?_ ?_ done ?_
  · intro object issuerId flat aimed there
    have same : object.current.place = place := there
    have only := falls.sole feed taking.member (same ▸ aimed)
    exact ⟨only ▸ falls.inactive, (flat there).2⟩
  · intro _ assetId issuerId there
    exact absurd there (falls.old taking.member assetId)
  · intro object member there
    have inactive := written object.current (List.mem_map_of_mem member) there
    exact ⟨inactive, inactive⟩

/-- Once the record is taken the listing is inactive in the session. -/
theorem FallsBack.written_step (falls : FallsBack source prior records record place)
    (feed : Feed source records) (taking : Taken now records prior taken (head :: rest) pass)
    (written : record ∈ taken -> forall listing, listing ∈ pass.catalog.listings ->
      listing.place = place -> listing.isActive = false)
    (done : reconcileRecord library now head pass = .ok next) :
    record ∈ taken ++ [head] -> forall listing, listing ∈ next.catalog.listings ->
      listing.place = place -> listing.isActive = false := by
  rcases taking.step done with ⟨_, found, advanced⟩
  intro member listing listed placed
  have aimed := falls.aim_later feed taking.formed taking.among
  rcases advanced.listings with ⟨headAimed, listings⟩ | ⟨missed, new, listings⟩
  · rw [listings] at listed
    rcases List.mem_map.mp listed with ⟨old, oldListed, same⟩
    have keeps : forall listing, (atPeriod found.period (writeListing library head
        (issuerOf head next.catalog.issuers)) listing).place = listing.place :=
      atPeriod_place fun _ => rfl
    have oldPlaced : old.place = place := by
      rw [← keeps old, same]
      exact placed
    rw [← same, atPeriod]
    by_cases hit : old.period = found.period
    · rw [if_pos hit]
      have equal := place_of_period taking.linked (List.mem_map_of_mem oldListed)
        (aim_mem headAimed) hit
      have only := falls.sole feed taking.member (equal.symm.trans oldPlaced ▸ headAimed)
      exact only ▸ falls.inactive
    · rw [if_neg hit]
      rcases List.mem_append.mp member with before | last
      · exact written before old oldListed oldPlaced
      · have only := List.mem_singleton.mp last
        rw [← only, aimed] at headAimed
        cases headAimed
        exact absurd (congrArg Place.period oldPlaced) hit
  · rw [listings] at listed
    rcases List.mem_append.mp listed with old | added
    · rcases List.mem_append.mp member with before | last
      · exact written before listing old placed
      · rw [← List.mem_singleton.mp last, aimed] at missed
        cases missed
    · rw [List.mem_singleton.mp added] at placed
      exact absurd placed (falls.old taking.member found.assetId)

theorem flatAt_load (inactive : forall listing, listing ∈ prior.listings ->
      listing.place = place -> listing.isActive = false) (counts : ReconcileCounts) :
    forall object, object ∈ (prior.load counts).listings -> FlatAt place object := by
  intro object member there
  rcases List.mem_map.mp member with ⟨row, listed, same⟩
  rw [← same] at there ⊢
  exact ⟨inactive row listed there, inactive row listed there⟩

/-- A listing that was inactive, or whose writing is flushed, is inactive in the end. -/
theorem FallsBack.flat (falls : FallsBack source prior records record place)
    (feed : Feed source records) (formed : Formed prior.places) (linked : Linked prior)
    (stays : StaysOpen source prior records record place) {counts : ReconcileCounts}
    (done : records.foldlM (fun pass record => reconcileRecord library now record pass)
      (prior.load counts) = .ok pass) :
    forall object, object ∈ pass.listings -> FlatAt place object := by
  have keeps : forall taken head rest before after,
      Taken now records prior taken (head :: rest) before ->
        (forall object, object ∈ before.listings -> FlatAt place object) ->
          reconcileRecord library now head before = .ok after ->
            forall object, object ∈ after.listings -> FlatAt place object :=
    fun taken head rest before after taking flat stepped =>
      falls.flat_step feed taking flat stepped
  have start := @taken_load now prior records formed linked counts
  rcases stays with named | inactive | ⟨earlier, adding, later, split, before, adds⟩
  · rw [falls.untouched] at named
    cases named
  · have start_ : Taken now records prior [] (records ++ []) (prior.load counts) := by
      rw [List.append_nil]
      exact start
    exact (start_.run (motive := fun _ pass => forall object, object ∈ pass.listings ->
      FlatAt place object) keeps (flatAt_load inactive counts) done).2
  · rw [split, List.foldlM_append] at done
    rcases except_bind_ok done with ⟨first, front, back⟩
    rcases foldlM_cons_ok back with ⟨second, added, last⟩
    have start_ : Taken now records prior [] (earlier ++ adding :: later) (prior.load counts) :=
      split ▸ start
    rcases start_.run (motive := fun taken pass => record ∈ taken ->
        forall listing, listing ∈ pass.catalog.listings -> listing.place = place ->
          listing.isActive = false)
      (fun taken head rest before after taking written stepped =>
        falls.written_step feed taking written stepped)
      (fun impossible => absurd impossible List.not_mem_nil) front with ⟨taking, written⟩
    have flushed := falls.flat_flushed feed taking adds (written before) added
    have rest : Taken now records prior (earlier ++ [adding]) (later ++ []) second := by
      rw [List.append_nil]
      exact (taking.step added).1
    exact (rest.run (motive := fun _ pass => forall object, object ∈ pass.listings ->
      FlatAt place object) keeps flushed last).2

/-- The listing is active in the database, and until the record is taken in the session too. -/
def LitAt (place : Place) (before : Prop) (object : Tracked AssetListing) : Prop :=
  object.current.place = place ->
    (before -> object.current.isActive = true) ∧ object.stored.any AssetListing.isActive = true

/-- Where nothing is flushed once the record is taken, the database keeps the listing active. -/
theorem FallsBack.lit_step (falls : FallsBack source prior records record place)
    (feed : Feed source records) (taking : Taken now records prior taken (head :: rest) pass)
    (quiet : record ∈ taken -> ¬ AddsRow prior taken head)
    (lit : forall object, object ∈ pass.listings -> LitAt place (record ∉ taken) object)
    (done : reconcileRecord library now head pass = .ok next) :
    forall object, object ∈ next.listings -> LitAt place (record ∉ taken ++ [head]) object := by
  have among := taking.member
  have adds : forall assetId issuerId, LitAt place (record ∉ taken ++ [head])
      ⟨some (newListing library now head assetId issuerId),
        newListing library now head assetId issuerId⟩ :=
    fun assetId _ there => absurd there (falls.old among assetId)
  by_cases same : head = record
  · have taken_ : ¬ record ∉ taken ++ [head] := by
      rw [not_not, same]
      exact List.mem_append_right _ List.mem_cons_self
    have writes : forall (object : Tracked AssetListing) issuerId,
        LitAt place (record ∉ taken ++ [head]) object ->
          aim head pass.catalog.places = some object.current.place ->
            LitAt place (record ∉ taken ++ [head])
              ⟨object.stored, writeListing library head issuerId object.current⟩ :=
      fun object issuerId lit _ there => ⟨fun before => absurd before taken_, (lit there).2⟩
    by_cases adding : Adds head pass.catalog
    · refine reconcileRecord_flushed taking.session taking.linked adding writes
        (fun _ => adds) done ?_
      intro object member there
      have fresh : record ∉ taken := same ▸ taking.apart feed
      have active := (lit object member there).1 fresh
      exact ⟨fun before => absurd before taken_, active⟩
    · refine reconcileRecord_objects taking.session taking.linked
        (fun impossible => absurd impossible adding) writes (fun _ => adds) done ?_
      exact fun object member there =>
        ⟨fun before => absurd before taken_, (lit object member there).2⟩
  · refine reconcileRecord_objects taking.session taking.linked ?_ ?_ (fun _ => adds) done ?_
    · intro adding object lit there
      by_cases before : record ∈ taken
      · exact absurd ((taking.adds_iff feed).mp adding) (quiet before)
      · have fresh : record ∉ taken ++ [head] := by
          rw [List.mem_append, List.mem_singleton, not_or]
          exact ⟨before, Ne.symm same⟩
        have active := (lit there).1 fresh
        exact ⟨fun _ => active, active⟩
    · intro object issuerId _ aimed there
      have placed : object.current.place = place := there
      exact absurd (falls.sole feed among (placed ▸ aimed)) same
    · intro object member there
      refine ⟨fun fresh => (lit object member there).1 fun before => ?_, (lit object member there).2⟩
      exact fresh (List.mem_append_left _ before)

/-- A listing that does not stay open is active in the database in the end. -/
theorem FallsBack.lit (falls : FallsBack source prior records record place)
    (feed : Feed source records) (formed : Formed prior.places) (linked : Linked prior)
    (closes : ¬ StaysOpen source prior records record place) {counts : ReconcileCounts}
    (done : records.foldlM (fun pass record => reconcileRecord library now record pass)
      (prior.load counts) = .ok pass) :
    forall object, object ∈ pass.listings -> object.current.place = place ->
      object.stored.any AssetListing.isActive = true := by
  rw [StaysOpen, not_or, not_or] at closes
  rcases closes with ⟨_, lit, quiet⟩
  have start : Taken now records prior [] (records ++ []) (prior.load counts) := by
    rw [List.append_nil]
    exact taken_load records formed linked counts
  have active : forall listing, listing ∈ prior.listings -> listing.place = place ->
      listing.isActive = true := by
    by_contra dark
    apply lit
    intro listing listed placed
    by_contra shining
    apply dark
    intro other otherListed otherPlaced
    have equal := List.inj_on_of_nodup_map linked.periods otherListed listed
      (congrArg Place.period (otherPlaced.trans placed.symm))
    rw [equal]
    exact Bool.eq_true_of_not_eq_false shining
  have ends := start.run (motive := fun taken pass => forall object, object ∈ pass.listings ->
      LitAt place (record ∉ taken) object)
    (fun taken head rest before after taking lit stepped =>
      falls.lit_step feed taking
        (fun member adding => quiet ⟨taken, head, rest, taking.split, member, adding⟩) lit stepped)
    (by
      intro object member there
      rcases List.mem_map.mp member with ⟨row, listed, same⟩
      rw [← same] at there ⊢
      exact ⟨fun _ => active row listed there, active row listed there⟩) done
  exact fun object member there => (ends.2 object member there).2

end FallsBack

/-! ## The second call -/

/-- The record finds a listing in the catalog before the call, and the sweep at the end of the
call leaves this listing open. -/
def Lasts (source : String) (prior : Catalog) (records : List ReferenceSecurityRecord)
    (record : ReferenceSecurityRecord) : Prop :=
  exists place, aim record prior.places = some place ∧
    StaysOpen source prior records record place

section Calls

variable {library : Library} {now : Instant} {source : String}
  {records : List ReferenceSecurityRecord} {prior : Catalog} {pass : Pass}
  {record : ReferenceSecurityRecord} {free : Place -> Bool}

/-- The sweep is clean where the active records keep their places and the inactive ones find
listings that stay open. -/
theorem sweptClean_of_lasts (feed : Feed source records) (formed : Formed prior.places)
    (linked : Linked prior)
    (keeps : forall record, record ∈ records -> record.isActive = true ->
      KeepsPlace record prior.places)
    (lasts : forall record, record ∈ records -> record.isActive = false ->
      Lasts source prior records record)
    (session : InSession free pass)
    (grown : Grown now records prior.places pass.catalog.places) {counts : ReconcileCounts}
    (looped : records.foldlM (fun pass record => reconcileRecord library now record pass)
      (prior.load counts) = .ok pass) : SweptClean source records pass where
  found := by
    intro record member object tracked aimed
    apply Bool.eq_false_iff.mpr
    intro closed
    have untouched := (missing_untouchable session tracked closed).1
    have inactive : record.isActive = false := by
      apply Bool.eq_false_iff.mpr
      intro active
      rw [aim_touchable feed grown member (keeps record member active).keepsKey aimed] at untouched
      cases untouched
    rcases lasts record member inactive with ⟨place, first, stays⟩
    have old : object.current.place ∈ prior.places := by
      rcases id grown with ⟨added, same, own⟩
      have listed := aim_mem aimed
      rw [same] at listed
      rcases List.mem_append.mp listed with old | new
      · exact old
      · rcases own _ new with ⟨owner, ownerMember, _, assetId, equal⟩
        apply absurd _ (touchable_iff.mp untouched).2
        rw [equal]
        exact List.mem_map_of_mem ownerMember
    have again := aim_of_grown formed grown aimed old
    rw [first] at again
    cases again
    have falls : FallsBack source prior records record object.current.place :=
      ⟨member, inactive, first, untouched⟩
    have dark := (falls.flat feed formed linked stays looped object tracked rfl).2
    rcases session.seen tracked with ⟨stored, held, _⟩
    rw [held, Option.any_some] at dark
    rw [missing, held, Option.any_some, dark] at closed
    simp at closed
  named := by
    intro object tracked kept ours open_ active
    exact live_named session tracked (records_storedLive feed linked keeps looped object tracked)
      kept ours open_ active

/-- The sweep leaves what is open under the key of a record of the feed. -/
theorem keyed_kept (session : InSession free pass) (member : record ∈ records)
    {object : Tracked AssetListing} (tracked : object ∈ pass.listings)
    (keyed : object.current.place.Keyed record) :
    missing source (records.map ReferenceSecurityRecord.sourceRecordKey) object = false := by
  apply Bool.eq_false_iff.mpr
  intro closed
  apply (touchable_iff.mp (missing_untouchable session tracked closed).1).2
  rw [keyed.2.1]
  exact List.mem_map_of_mem member

/-- A record that finds nothing ends with a listing under its key. -/
theorem aim_added (feed : Feed source records)
    (grown : Grown now records prior.places pass.catalog.places) (member : record ∈ records)
    (missed : aim record prior.places = none) {place : Place}
    (aimed : aim record pass.catalog.places = some place) :
    exists assetId, place = newPlace now record assetId := by
  have listed := aim_mem aimed
  have meets : place.Keyed record ∨ place.Paired record := (aim_some aimed).2.imp id And.left
  rcases grown with ⟨added, same, own⟩
  rw [same] at listed
  rcases List.mem_append.mp listed with old | new
  · rcases meets with keyed | paired
    · exact absurd keyed (aim_none missed place old).1
    · exact absurd paired (aim_none missed place old).2
  · rcases own place new with ⟨owner, ownerMember, _, assetId, equal⟩
    have owns : owner = record := by
      rw [equal] at meets
      rcases meets with keyed | paired
      · exact feed.eq_of_key ownerMember member keyed.2.1
      · exact feed.eq_of_pair ownerMember member paired.1 paired.2.1
    exact ⟨assetId, owns ▸ equal⟩

/-- If the same feed changes nothing, the second call ends with the listings of the first. -/
theorem Repeats.listings {after : Catalog} (repeats : Repeats library records after)
    (feed : Feed source records) (nonempty : records ≠ []) (later : Instant) :
    exists pass, records.foldlM (fun pass record => reconcileRecord library later record pass)
        (after.load ⟨records.length, 0, 0, 0, 0, 0, 0⟩) = .ok pass ∧
      (pass.swept later source
        (records.map ReferenceSecurityRecord.sourceRecordKey)).listings = after.listings := by
  rcases repeats later with ⟨again, counts, done, timeless⟩
  rcases reconcile_ok feed nonempty done with ⟨pass, looped, same, _⟩
  refine ⟨pass, looped, ?_⟩
  have listings : again.timeless.listings = after.timeless.listings :=
    congrArg Catalog.listings timeless
  rw [← same]
  exact listings

/-- If the same feed changes nothing, every record finds a listing after the first call. -/
theorem Repeats.finds {after : Catalog} (repeats : Repeats library records after)
    (feed : Feed source records) (nonempty : records ≠ []) (formed : Formed after.places)
    (linked : Linked after) (member : record ∈ records) : aim record after.places ≠ none := by
  intro missed
  rcases repeats.listings feed nonempty 0 with ⟨pass, looped, same⟩
  have anywhere : forall record, record ∈ records -> forall places,
      Grown 0 records after.places places -> forall place, aim record places = some place ->
        (fun _ : Place => true) place = true :=
    fun _ _ _ _ _ _ => rfl
  rcases records_progress feed formed linked
      (fun record _ _ => addedAsWritten_unstated library 0 record) anywhere looped with
    ⟨session, _, progress, grown⟩
  rcases progress.ready record member with ⟨place, ready⟩
  rcases aim_added feed grown member missed ready.aimed with ⟨assetId, new⟩
  rcases List.mem_map.mp (aim_mem ready.aimed) with ⟨listing, listed, placed⟩
  rcases List.mem_map.mp listed with ⟨object, tracked, current⟩
  have keyed : object.current.place.Keyed record := by
    rw [current, placed, new]
    exact newPlace_keyed 0 record assetId
  have final := @swept_kept 0 source _ pass object tracked
    (keyed_kept session member tracked keyed)
  rw [same] at final
  exact (aim_none missed _ (List.mem_map_of_mem final)).1 keyed

/-- The sweep closes a listing that does not stay open, so the record finds nothing after it. -/
theorem FallsBack.closed {place : Place} (falls : FallsBack source prior records record place)
    (feed : Feed source records) (formed : Formed prior.places) (linked : Linked prior)
    (closes : ¬ StaysOpen source prior records record place) (session : InSession free pass)
    (normal : Formed pass.catalog.places)
    (grown : Grown now records prior.places pass.catalog.places) {counts : ReconcileCounts}
    (looped : records.foldlM (fun pass record => reconcileRecord library now record pass)
      (prior.load counts) = .ok pass) :
    aim record (pass.swept now source
      (records.map ReferenceSecurityRecord.sourceRecordKey)).places = none := by
  rcases falls.paired with ⟨paired, _⟩
  have here := falls.aim_later feed normal grown
  have lit := falls.lit feed formed linked closes looped
  cases aimed : aim record (pass.swept now source
      (records.map ReferenceSecurityRecord.sourceRecordKey)).places with
  | none => rfl
  | some found =>
      have open_ := aim_open aimed
      rcases List.mem_map.mp (aim_mem aimed) with ⟨listing, listed, placed⟩
      rcases swept_open listed ((congrArg Place.validTo placed).trans open_) with
        ⟨object, tracked, kept, current⟩
      subst current
      have member : found ∈ pass.catalog.places := placed ▸ List.mem_map_of_mem (mem_catalog tracked)
      have equal : found = place := by
        rcases (aim_some aimed).2 with keyed | ⟨there, _⟩
        · rw [aim_keyed normal member keyed] at here
          exact Option.some.inj here
        · have known := grown.mem (aim_mem falls.aimed)
          exact normal.pairs found place member known open_ paired.2.2
            (((normal.normalized found member).symm.trans (there.1.trans paired.1.symm)).trans
              (normal.normalized place known))
            (there.2.1.trans paired.2.1.symm)
      have same : object.current.place = place := placed.trans equal
      have active := lit object tracked same
      rcases session.seen tracked with ⟨stored, held, seen, _⟩
      rcases touchable_iff.mp falls.untouched with ⟨ours, absent⟩
      have storedSource : stored.source = source :=
        (congrArg Place.source (seen.trans same)).trans ours
      have storedOpen : stored.validTo = none :=
        (congrArg Place.validTo (seen.trans same)).trans (equal ▸ open_)
      have key : object.current.sourceRecordKey = place.sourceRecordKey :=
        congrArg Place.sourceRecordKey same
      rw [held, Option.any_some] at active
      rw [missing, held, Option.any_some, key] at kept
      simp [storedSource, storedOpen, active] at kept
      rcases kept with ⟨other, otherMember, named⟩
      exact absurd (named ▸ List.mem_map_of_mem otherMember) absent

/-- What the session has under the key of the record is said to be active. -/
def SaidActive (record : ReferenceSecurityRecord) (object : Tracked AssetListing) : Prop :=
  object.current.place.Keyed record -> object.current.listingStatus = .active

/-- Of the records of the feed only the record itself finds what it has added. -/
theorem eq_of_added (feed : Feed source records)
    (grown : Grown now records prior.places pass.catalog.places) (member : record ∈ records)
    (missed : aim record prior.places = none) {other : ReferenceSecurityRecord}
    (listed : other ∈ records) {place : Place} (keyed : place.Keyed record)
    (aimed : aim other pass.catalog.places = some place) : other = record := by
  rcases (aim_some aimed).2 with own | ⟨paired, _⟩
  · exact feed.eq_of_key listed member (own.2.1.symm.trans keyed.2.1)
  · rcases grown with ⟨added, same, owned⟩
    have placed := aim_mem aimed
    rw [same] at placed
    rcases List.mem_append.mp placed with old | new
    · exact absurd keyed (aim_none missed place old).1
    · rcases owned place new with ⟨owner, ownerMember, _, assetId, equal⟩
      rw [equal] at keyed paired
      have owners := feed.eq_of_key ownerMember member keyed.2.1
      rw [owners] at paired
      exact feed.eq_of_pair listed member paired.1.symm paired.2.1.symm

/-- A record that finds nothing leaves a listing that is said to be active. -/
theorem records_saidActive (feed : Feed source records) (formed : Formed prior.places)
    (linked : Linked prior) (member : record ∈ records)
    (missed : aim record prior.places = none) {counts : ReconcileCounts}
    (done : records.foldlM (fun pass record => reconcileRecord library now record pass)
      (prior.load counts) = .ok pass) :
    forall object, object ∈ pass.listings -> SaidActive record object := by
  have apart := aim_none missed
  have start : Taken now records prior [] (records ++ []) (prior.load counts) := by
    rw [List.append_nil]
    exact taken_load records formed linked counts
  refine (start.run (motive := fun taken pass =>
    (record ∉ taken -> forall place, place ∈ pass.catalog.places -> ¬ place.Keyed record) ∧
      forall object, object ∈ pass.listings -> SaidActive record object) ?_ ?_ done).2.2
  · rintro taken head rest before after taking ⟨unkeyed, said⟩ stepped
    rcases taking.step stepped with ⟨_, place, advanced⟩
    constructor
    · intro fresh there listed keyed
      rw [List.mem_append, List.mem_singleton, not_or] at fresh
      rcases advanced.places with ⟨_, places⟩ | ⟨_, new, places⟩
      · rw [places] at listed
        exact unkeyed fresh.1 there listed keyed
      · rw [places] at listed
        rcases List.mem_append.mp listed with old | added
        · exact unkeyed fresh.1 there old keyed
        · rw [List.mem_singleton.mp added, new] at keyed
          exact fresh.2 (feed.eq_of_key member taking.member keyed.2.1.symm)
    · refine reconcileRecord_objects taking.session taking.linked (fun _ _ said => said) ?_
        (fun _ _ _ _ => rfl) stepped said
      intro object issuerId _ aimed keyed
      have same := eq_of_added feed taking.among member missed taking.member keyed aimed
      exact absurd keyed (unkeyed (same ▸ taking.apart feed) _ (aim_mem aimed))
  · rw [catalog_load]
    refine ⟨fun _ place listed => (apart place listed).1, ?_⟩
    intro object listed keyed
    have there : object.current ∈ (prior.load counts).catalog.listings :=
      List.mem_map_of_mem listed
    rw [catalog_load] at there
    exact absurd keyed (apart _ (List.mem_map_of_mem there)).1

/-- The status of the listing under the key of the record, and nothing of other listings. -/
def statusUnder (record : ReferenceSecurityRecord) (listing : AssetListing) :
    Option ListingStatus :=
  if listing.place.Keyed record then some listing.listingStatus else none

/-- An inactive record makes the listing under its key inactive, and no other record writes it. -/
theorem statusUnder_written (feed : Feed source records)
    (linked : Linked pass.catalog)
    (progress : Progress library now (statusUnder record) records pass.catalog)
    (member : record ∈ records) (inactive : record.isActive = false) {listing : AssetListing}
    (listed : listing ∈ pass.catalog.listings) (keyed : listing.place.Keyed record)
    (paired : listing.place.Paired record) : listing.listingStatus = .inactive := by
  have placed : listing.place ∈ pass.catalog.places := List.mem_map_of_mem listed
  have last : records.reverse.find? (fun other =>
      listingTarget pass.catalog.places other listing) = some record := by
    apply find?_sole (List.mem_reverse.mpr member)
    · rw [listingTarget, aim_keyed progress.formed placed keyed]
      exact decide_eq_true rfl
    · intro other otherMember targeted
      rw [listingTarget] at targeted
      rcases (Option.any_eq_true _ _).mp targeted with ⟨there, aimed, same⟩
      have equal := place_of_period linked (aim_mem aimed) placed (of_decide_eq_true same)
      rw [equal] at aimed
      rcases (aim_some aimed).2 with own | ⟨pair, _⟩
      · exact feed.eq_of_key (List.mem_reverse.mp otherMember) member
          (own.2.1.symm.trans keyed.2.1)
      · exact feed.eq_of_pair (List.mem_reverse.mp otherMember) member
          (pair.1.symm.trans paired.1) (pair.2.1.symm.trans paired.2.1)
  have written := progress.listings listing listed record last
  have writtenKeyed : (stampListing library pass.catalog.issuers record listing).place.Keyed
      record := keyed
  rw [statusUnder, if_pos writtenKeyed, statusUnder, if_pos keyed] at written
  have status := Option.some.inj written
  rw [← status, stampListing, writeListing, inactive]
  rfl

/-- If the same feed changes nothing, every inactive record found a listing in the first call. -/
theorem Repeats.found (feed : Feed source records) (nonempty : records ≠ [])
    (formed : Formed prior.places) (linked : Linked prior) {counts : ReconcileCounts}
    (looped : records.foldlM (fun pass record => reconcileRecord library now record pass)
      (prior.load counts) = .ok pass)
    (accepted : (pass.swept now source
      (records.map ReferenceSecurityRecord.sourceRecordKey)).Accepted)
    (repeats : Repeats library records (pass.swept now source
      (records.map ReferenceSecurityRecord.sourceRecordKey)))
    (member : record ∈ records) (inactive : record.isActive = false) :
    aim record prior.places ≠ none := by
  intro missed
  have anywhere : forall (now : Instant) (prior : Catalog) record, record ∈ records ->
      forall places, Grown now records prior.places places -> forall place,
        aim record places = some place -> (fun _ : Place => true) place = true :=
    fun _ _ _ _ _ _ _ _ => rfl
  rcases records_progress feed formed linked
      (fun record _ _ => addedAsWritten_unstated library now record) (anywhere now prior) looped with
    ⟨session, _, progress, grown⟩
  rcases progress.ready record member with ⟨place, ready⟩
  rcases aim_added feed grown member missed ready.aimed with ⟨assetId, new⟩
  have keyed : place.Keyed record := new ▸ newPlace_keyed now record assetId
  have paired : place.Paired record := by
    rw [new]
    exact ⟨rfl, rfl, rfl⟩
  rcases List.mem_map.mp (aim_mem ready.aimed) with ⟨listing, listed, placed⟩
  rcases List.mem_map.mp listed with ⟨object, tracked, current⟩
  have tracedKeyed : object.current.place.Keyed record := by
    rw [current, placed]
    exact keyed
  have said := records_saidActive feed formed linked member missed looped object tracked tracedKeyed
  have final := @swept_kept now source _ pass object tracked
    (keyed_kept session member tracked tracedKeyed)
  rw [current] at said final
  have normal := @swept_formed now source (records.map ReferenceSecurityRecord.sourceRecordKey)
    pass progress.formed
  have there : place ∈ (pass.swept now source
      (records.map ReferenceSecurityRecord.sourceRecordKey)).places :=
    placed ▸ List.mem_map_of_mem final
  have aimed := aim_keyed normal there keyed
  rcases repeats.listings feed nonempty 0 with ⟨second, loopedAgain, same⟩
  have fresh : forall other, other ∈ records -> aim other (pass.swept now source
      (records.map ReferenceSecurityRecord.sourceRecordKey)).places = none ->
        AddedAsWritten library 0 (statusUnder record) other := by
    intro other otherMember otherMissed otherId issuerId
    have unkeyed : ¬ (newListing library 0 other otherId issuerId).place.Keyed record := by
      intro named
      rw [feed.eq_of_key otherMember member named.2.1, aimed] at otherMissed
      cases otherMissed
    have unkeyed_ : ¬ (writeListing library other issuerId
        (newListing library 0 other otherId issuerId)).place.Keyed record := unkeyed
    rw [statusUnder, if_neg unkeyed_, statusUnder, if_neg unkeyed]
  rcases records_progress feed normal accepted.linked fresh (anywhere 0 _) loopedAgain with
    ⟨sessionAgain, linkedAgain, progressAgain, grownAgain⟩
  rcases List.mem_map.mp (grownAgain.mem there) with ⟨latest, latestListed, latestPlaced⟩
  rcases List.mem_map.mp latestListed with ⟨traced, tracedAgain, latestCurrent⟩
  have latestKeyed : traced.current.place.Keyed record := by
    rw [latestCurrent, latestPlaced]
    exact keyed
  have corrected := statusUnder_written feed linkedAgain progressAgain member inactive
    latestListed (latestPlaced ▸ keyed) (latestPlaced ▸ paired)
  have finalAgain := @swept_kept 0 source _ second traced tracedAgain
    (keyed_kept sessionAgain member tracedAgain latestKeyed)
  rw [same, latestCurrent] at finalAgain
  have equal := List.inj_on_of_nodup_map accepted.listingPeriods finalAgain final
    (congrArg Place.period (latestPlaced.trans placed.symm))
  rw [equal, said] at corrected
  cases corrected

/-- Where the feed has its listings, the same feed changes nothing exactly if every inactive
record finds a listing and this listing stays open. -/
theorem repeats_iff (feed : Feed source records) (nonempty : records ≠ [])
    (formed : Formed prior.places) (linked : Linked prior) {after : Catalog}
    {counts : ReconcileCounts}
    (done : reconcileReferenceRecords library now records true prior = .ok (after, counts))
    (keeps : forall record, record ∈ records -> record.isActive = true ->
      KeepsPlace record prior.places) :
    Repeats library records after <->
      forall record, record ∈ records -> record.isActive = false ->
        Lasts source prior records record := by
  rcases reconcile_ok feed nonempty done with ⟨pass, looped, same, accepted⟩
  have anywhere : forall record, record ∈ records -> forall places,
      Grown now records prior.places places -> forall place, aim record places = some place ->
        (fun _ : Place => true) place = true :=
    fun _ _ _ _ _ _ => rfl
  rw [same] at accepted ⊢
  constructor
  · intro repeats record member inactive
    rcases records_progress feed formed linked
        (fun record _ _ => addedAsWritten_unstated library now record) anywhere looped with
      ⟨session, _, progress, grown⟩
    cases aimed : aim record prior.places with
    | none =>
        exact absurd aimed
          (repeats.found feed nonempty formed linked looped accepted member inactive)
    | some place =>
        refine ⟨place, aimed, ?_⟩
        by_contra closes
        have untouched : touchable source (records.map ReferenceSecurityRecord.sourceRecordKey)
            place = false := by
          apply Bool.eq_false_iff.mpr
          exact fun named => closes (Or.inl named)
        have falls : FallsBack source prior records record place :=
          ⟨member, inactive, aimed, untouched⟩
        exact repeats.finds feed nonempty (swept_formed progress.formed) accepted.linked member
          (falls.closed feed formed linked closes session progress.formed grown looped)
  · intro lasts later
    have fresh : forall record, record ∈ records -> aim record prior.places = none ->
        AddedAsWritten library now id record := by
      intro record member missed assetId issuerId
      have active : record.isActive = true := by
        apply Bool.eq_true_of_not_eq_false
        intro inactive
        rcases lasts record member inactive with ⟨place, aimed, _⟩
        rw [missed] at aimed
        cases aimed
      cases issuerId <;> simp [writeListing, newListing, active]
    rcases records_progress feed formed linked fresh anywhere looped with
      ⟨session, _, progress, grown⟩
    exact reconcile_again feed nonempty progress
      (sweptClean_of_lasts feed formed linked keeps lasts session grown looped) accepted later

end Calls

end ReferenceData
end MarketIntelligence
