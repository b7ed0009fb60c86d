import MarketIntelligence.ReferenceData.FeedReached
import MarketIntelligence.ReferenceData.Reorderings

namespace MarketIntelligence
namespace ReferenceData

open Foundations
open Sessions
open Loops

/-!
# Records of several sources

The sweep of a call looks at the listings of every source of the feed.  Records of different
sources reach one asset, and the last of them leaves its values there.  Apart from the order among
the records of an asset, the order of the feed does not matter.
-/

/-- The source of the listing is in the feed, and its key is not. -/
def dropped (records : List ReferenceSecurityRecord) (place : Place) : Bool :=
  place.source ∈ records.map ReferenceSecurityRecord.source ∧
    (place.source, place.sourceRecordKey) ∉
      records.map fun record => (record.source, record.sourceRecordKey)

/-- A listing after the sweep: an open and active one that the feed has dropped is closed at the
time of the pass. -/
def sweepListing (now : Instant) (records : List ReferenceSecurityRecord)
    (listing : AssetListing) : AssetListing :=
  if listing.validTo = none ∧ listing.isActive = true ∧ dropped records listing.place = true then
    closeListing now listing
  else listing

/-! ## The sweep of several sources -/

section Sweep

variable {now : Instant} {records : List ReferenceSecurityRecord} {pass : Pass}

/-- The keys that were seen, by source. -/
theorem foldl_addSeen_spec (records : List ReferenceSecurityRecord) :
    (forall source, source ∈ (records.foldl addSeen []).map Prod.fst <->
      source ∈ records.map ReferenceSecurityRecord.source) ∧
    forall entry, entry ∈ records.foldl addSeen [] -> forall key, key ∈ entry.2 <->
      (entry.1, key) ∈ records.map fun record => (record.source, record.sourceRecordKey) := by
  induction records using List.reverseRecOn with
  | nil => exact ⟨fun _ => Iff.rfl, fun _ impossible => absurd impossible List.not_mem_nil⟩
  | append_singleton front record ih =>
      rcases ih with ⟨sources, keys⟩
      rw [List.foldl_append, List.foldl_cons, List.foldl_nil, addSeen]
      simp only [List.map_append, List.map_cons, List.map_nil, List.mem_append,
        List.mem_singleton]
      by_cases known : record.source ∈ (front.foldl addSeen []).map Prod.fst
      · rw [if_pos known]
        constructor
        · intro source
          have same : ((front.foldl addSeen []).map fun entry =>
              if entry.1 = record.source then (entry.1, entry.2 ++ [record.sourceRecordKey])
              else entry).map Prod.fst = (front.foldl addSeen []).map Prod.fst := by
            rw [List.map_map]
            apply List.map_congr_left
            intro entry _
            rw [Function.comp_apply]
            split <;> rfl
          rw [same, sources]
          refine ⟨Or.inl, fun found => found.elim id fun equal => ?_⟩
          rw [equal]
          exact (sources _).mp known
        · intro entry member key
          rcases List.mem_map.mp member with ⟨old, listed, same⟩
          have before := keys old listed key
          by_cases own : old.1 = record.source
          · rw [if_pos own] at same
            rw [← same, List.mem_append, List.mem_singleton, before, Prod.mk.injEq]
            exact or_congr_right ⟨fun equal => ⟨own, equal⟩, fun equal => equal.2⟩
          · rw [if_neg own] at same
            rw [← same, before, Prod.mk.injEq]
            exact ⟨Or.inl, fun found => found.elim id fun equal => absurd equal.1 own⟩
      · rw [if_neg known]
        constructor
        · intro source
          rw [List.map_append, List.mem_append, sources, List.map_singleton, List.mem_singleton]
        · intro entry member key
          rcases List.mem_append.mp member with old | new
          · have other : entry.1 ≠ record.source := by
              intro equal
              exact known (equal ▸ List.mem_map_of_mem old)
            rw [keys entry old key, Prod.mk.injEq]
            exact ⟨Or.inl, fun found => found.elim id fun equal => absurd equal.1 other⟩
          · rw [List.mem_singleton.mp new, List.mem_singleton, Prod.mk.injEq]
            refine ⟨fun equal => Or.inr ⟨rfl, equal⟩, fun found => found.elim ?_ And.right⟩
            intro earlier
            rcases List.mem_map.mp earlier with ⟨other, listed, equal⟩
            have named : other.source = record.source := congrArg Prod.fst equal
            apply absurd ((sources record.source).mpr _) known
            rw [← named]
            exact List.mem_map_of_mem listed

/-- What the sweep of each source does to an object. -/
def missed (entry : String × List String) (object : Tracked AssetListing) : Bool :=
  missing entry.1 entry.2 object

def closeObject (now : Instant) (object : Tracked AssetListing) : Tracked AssetListing :=
  ⟨object.stored, closeListing now object.current⟩

theorem foldl_markMissing (entries : List (String × List String)) (pass : Pass) :
    (entries.foldl (markMissing now) pass).listings =
        pass.listings.map (fun object =>
          if entries.any fun entry => missing entry.1 entry.2 object then
            closeObject now object
          else object) ∧
      (entries.foldl (markMissing now) pass).catalog =
        { pass.catalog with listings := rows (entries.foldl (markMissing now) pass).listings } := by
  have tables : forall (entries : List (String × List String)) (pass : Pass),
      (entries.foldl (markMissing now) pass).catalog =
        { pass.catalog with listings := rows (entries.foldl (markMissing now) pass).listings } := by
    intro entries
    induction entries with
    | nil => exact fun _ => rfl
    | cons head tail ih =>
        exact fun pass => ih (markMissing now pass head)
  have listings : forall (entries : List (String × List String)) (pass : Pass),
      (entries.foldl (markMissing now) pass).listings =
        entries.foldl (fun objects entry => objects.map fun object =>
          stamped missed (fun _ => closeObject now) object entry) pass.listings := by
    intro entries
    induction entries with
    | nil => exact fun _ => rfl
    | cons head tail ih =>
        exact fun pass => ih (markMissing now pass head)
  refine ⟨?_, tables entries pass⟩
  rw [listings, foldl_map_stamped]
  apply List.map_congr_left
  intro object _
  have once : forall object, closeObject now (closeObject now object) = closeObject now object :=
    fun _ => rfl
  exact foldl_stamped_alike once entries object

/-- The sweep closes the listings of the feed's sources whose keys are missing, as long as the
session sees their flags. -/
theorem any_missing (session : InSession (fun place => !dropped records place) pass)
    {object : Tracked AssetListing} (member : object ∈ pass.listings) :
    ((records.foldl addSeen []).any fun entry => missing entry.1 entry.2 object) = true <->
      object.current.validTo = none ∧ object.current.isActive = true ∧
        dropped records object.current.place = true := by
  rcases foldl_addSeen_spec records with ⟨sources, keys⟩
  rcases session.seen member with ⟨stored, held, placed, flags⟩
  have source : stored.source = object.current.source := congrArg Place.source placed
  have validTo : stored.validTo = object.current.validTo := congrArg Place.validTo placed
  have closes : forall entry : String × List String, missing entry.1 entry.2 object = true <->
      (stored.source = entry.1 ∧ stored.validTo = none ∧ stored.isActive = true) ∧
        object.current.sourceRecordKey ∉ entry.2 := by
    intro entry
    rw [missing, held, Option.any_some, Bool.and_eq_true, decide_eq_true_eq, Bool.not_eq_true',
      List.contains_eq_mem, decide_eq_false_iff_not]
  rw [List.any_eq_true]
  constructor
  · rintro ⟨entry, listed, holds⟩
    rcases (closes entry).mp holds with ⟨⟨own, open_, active⟩, absent⟩
    have gone : dropped records object.current.place = true := by
      apply decide_eq_true
      have named : object.current.place.source = entry.1 := source.symm.trans own
      refine ⟨?_, ?_⟩
      · rw [named]
        exact (sources entry.1).mp (List.mem_map_of_mem listed)
      · rw [named]
        exact fun found => absent ((keys entry listed _).mpr found)
    refine ⟨validTo.symm.trans open_, ?_, gone⟩
    rw [← flags (by rw [gone]; rfl)]
    exact active
  · rintro ⟨open_, active, gone⟩
    rcases of_decide_eq_true gone with ⟨named, absent⟩
    rcases List.mem_map.mp ((sources _).mpr named) with ⟨entry, listed, same⟩
    refine ⟨entry, listed, (closes entry).mpr ⟨⟨source.trans same.symm, validTo.trans open_, ?_⟩,
      ?_⟩⟩
    · rw [flags (by rw [gone]; rfl)]
      exact active
    · intro found
      have there := (keys entry listed _).mp found
      rw [same] at there
      exact absent there

theorem swept_catalog (session : InSession (fun place => !dropped records place) pass) :
    ((records.foldl addSeen []).foldl (markMissing now) pass).catalog =
      { pass.catalog with listings := pass.catalog.listings.map (sweepListing now records) } := by
  rcases @foldl_markMissing now (records.foldl addSeen []) pass with ⟨listings, tables⟩
  rw [tables, listings, rows, List.map_map]
  have same : pass.listings.map (Tracked.current ∘ fun object =>
      if (records.foldl addSeen []).any fun entry => missing entry.1 entry.2 object then
        closeObject now object
      else object) = pass.catalog.listings.map (sweepListing now records) := by
    have current : pass.catalog.listings = pass.listings.map Tracked.current := rfl
    rw [current, List.map_map]
    apply List.map_congr_left
    intro object member
    rw [Function.comp_apply, Function.comp_apply, sweepListing]
    by_cases closed : ((records.foldl addSeen []).any fun entry =>
        missing entry.1 entry.2 object) = true
    · rw [if_pos closed, if_pos ((any_missing session member).mp closed)]
      rfl
    · rw [if_neg closed, if_neg fun holds => closed ((any_missing session member).mpr holds)]
  rw [same]

end Sweep

/-! ## Two orders of a feed -/

/-- A record that finds a listing which the sweep can close leaves its flag as it is.  What the
database has for active when the sweep selects depends on the flushes before it. -/
def KeepsFlags (records : List ReferenceSecurityRecord) (prior : Catalog) : Prop :=
  forall record, record ∈ records -> forall listing, listing ∈ prior.listings ->
    aim record prior.places = some listing.place -> dropped records listing.place = true ->
      listing.isActive = record.isActive

section Calls

variable {library : Library} {now : Instant} {records reordered : List ReferenceSecurityRecord}
  {prior after after_ : Catalog} {swept : Bool} {counts counts_ : ReconcileCounts}

theorem dropped_perm (perm : records.Perm reordered) : dropped reordered = dropped records := by
  funext place
  have sources := (perm.map ReferenceSecurityRecord.source).mem_iff (a := place.source)
  have keys := (perm.map fun record : ReferenceSecurityRecord =>
    (record.source, record.sourceRecordKey)).mem_iff (a := (place.source, place.sourceRecordKey))
  exact decide_eq_decide.mpr (and_congr sources.symm (not_congr keys.symm))

theorem unread_dropped (kept : swept = true -> KeepsFlags records prior) :
    Unread now records prior fun place => !(swept && dropped records place) := by
  constructor
  · intro record member assetId
    have named : dropped records (newPlace now record assetId) = false := by
      apply decide_eq_false
      intro gone
      apply gone.2
      exact List.mem_map_of_mem (f := fun record : ReferenceSecurityRecord =>
        (record.source, record.sourceRecordKey)) member
    rw [named, Bool.and_false]
    rfl
  · intro record member listing listed aimed closed
    rw [Bool.not_eq_false', Bool.and_eq_true] at closed
    exact kept closed.1 record member listing listed aimed closed.2

/-- A call that completes, without the order of its flushes. -/
theorem reconcile_swept (formed : Formed prior.places) (accepted : prior.Accepted)
    (unread : Unread now records prior fun place => !(swept && dropped records place))
    (done : reconcileReferenceRecords library now records swept prior = .ok (after, counts)) :
    exists pass, records.foldlM (fun pass record => reconcileRecord library now record pass)
        (prior.load ⟨records.length, 0, 0, 0, 0, 0, 0⟩) = .ok pass ∧
      (pass.catalog.capabilities.map AssetCapability.provider).Nodup ∧
      after = { pass.catalog with listings :=
        if swept then pass.catalog.listings.map (sweepListing now records)
        else pass.catalog.listings } := by
  rcases except_bind_ok done with ⟨pass, looped, rest⟩
  rcases except_bind_ok rest with ⟨flushed, stored, ends⟩
  rcases flush_ok stored with ⟨final, same⟩
  have result : flushed.catalog = after := (Prod.mk.inj (Except.ok.inj ends)).1
  rw [same, catalog_load] at result
  have midway := (records_midway unread formed (fun _ member => member)
    (midway_load formed accepted _) looped).1
  refine ⟨pass, looped, ?_⟩
  cases swept with
  | false =>
      rw [if_neg Bool.false_ne_true] at result final ⊢
      exact ⟨final.capabilityProviders, result.symm⟩
  | true =>
      have session : InSession (fun place => !dropped records place) pass := midway.session
      rw [if_pos rfl, swept_catalog session] at result final
      rw [if_pos rfl]
      exact ⟨final.capabilityProviders, result.symm⟩

/-- Two calls with the same records, where the records of each asset come in the same order, end
in the same tables if both complete. -/
theorem reconcile_reordered (formed : Formed prior.places) (accepted : prior.Accepted)
    (keys : (records.map fun record => (record.source, record.sourceRecordKey)).Nodup)
    (reordering : Reordering prior records reordered)
    (kept : swept = true -> KeepsFlags records prior)
    (done : reconcileReferenceRecords library now records swept prior = .ok (after, counts))
    (done_ : reconcileReferenceRecords library now reordered swept prior =
      .ok (after_, counts_)) : SameTables after after_ := by
  have same := dropped_perm reordering.perm
  have unread : Unread now records prior fun place => !(swept && dropped records place) :=
    unread_dropped kept
  have kept_ : swept = true -> KeepsFlags reordered prior := by
    intro sweeps record member listing listed aimed gone
    rw [same] at gone
    exact kept sweeps record (reordering.perm.symm.subset member) listing listed aimed gone
  have unread_ : Unread now reordered prior fun place => !(swept && dropped reordered place) :=
    unread_dropped kept_
  rcases reconcile_swept formed accepted unread done with ⟨pass, looped, distinct, result⟩
  rcases reconcile_swept formed accepted unread_ done_ with ⟨pass_, looped_, distinct_, result_⟩
  rw [same] at unread_
  rw [← reordering.perm.length_eq] at looped_
  have tables := records_reordered formed accepted keys reordering unread unread_ looped looped_
    distinct distinct_
  have sweeps : sweepListing now reordered = sweepListing now records := by
    funext listing
    rw [sweepListing, sweepListing, same]
  subst result
  subst result_
  rw [sweeps]
  refine ⟨tables.assets, ?_, tables.capabilities⟩
  cases swept with
  | false => exact tables.listings
  | true => exact tables.listings.map _

end Calls

/-! ## Two sources and one symbol -/

/-- The source, the name and the end of each listing after a call. -/
def listingNames (outcome : Except ReferenceError (Catalog × ReconcileCounts)) :
    Option (List (String × String × Option Instant)) :=
  outcome.toOption.map fun result =>
    result.1.listings.map fun listing => (listing.source, listing.securityName, listing.validTo)

/-- Of two records of one symbol, the one that is taken last names the listing, and the one that
is taken first is the source of the listing.  A listing that a record opens again is closed by the
sweep if another record is added after it. -/
theorem recordOrder_matters :
    listingNames (reconcileReferenceRecords directoryLibrary 10 [appleRecord, appleSecRecord] true
        emptyCatalog) = some [("nasdaq_trader:nasdaq", "Apple Inc.", none)] ∧
      listingNames (reconcileReferenceRecords directoryLibrary 10 [appleSecRecord, appleRecord]
        true emptyCatalog) =
          some [("sec:company_tickers_exchange", "Apple Inc. Common Stock", none)] ∧
      listingNames (do
        let prior <- reconcileReferenceRecords directoryLibrary 5 [retiredRecord] true emptyCatalog
        reconcileReferenceRecords directoryLibrary 10 [microsoftRecord, appleRecord] true
          prior.1) =
        some [("nasdaq_trader:nasdaq", "Microsoft Corporation Common Stock", some 10),
          ("nasdaq_trader:nasdaq", "Apple Inc. Common Stock", none)] ∧
      listingNames (do
        let prior <- reconcileReferenceRecords directoryLibrary 5 [retiredRecord] true emptyCatalog
        reconcileReferenceRecords directoryLibrary 10 [appleRecord, microsoftRecord] true
          prior.1) =
        some [("nasdaq_trader:nasdaq", "Microsoft Corporation Common Stock", none),
          ("nasdaq_trader:nasdaq", "Apple Inc. Common Stock", none)] := by
  refine ⟨by decide +kernel, by decide +kernel, by decide +kernel, by decide +kernel⟩

/-- Records of two sources, with stored listings of one of them. -/
def mixedRecords : List ReferenceSecurityRecord :=
  [appleRenamed, appleSecRecord, microsoftRecord, armRecord]

/-- The records of other symbols come before the two records of one symbol. -/
def mixedReordered : List ReferenceSecurityRecord :=
  [armRecord, microsoftRecord, appleRenamed, appleSecRecord]

theorem mixed_reordering :
    Reordering (leftBy [firstDirectory]) mixedRecords mixedReordered := by
  refine ⟨by decide, ?_⟩
  intro symbol
  have apple : reached appleRenamed (leftBy [firstDirectory]) = "AAPL" := by decide +kernel
  have appleSec : reached appleSecRecord (leftBy [firstDirectory]) = "AAPL" := by decide +kernel
  have microsoft : reached microsoftRecord (leftBy [firstDirectory]) = "MSFT" := by decide +kernel
  have arm : reached armRecord (leftBy [firstDirectory]) = "ARM" := by decide +kernel
  simp only [mixedRecords, mixedReordered, List.filter_cons, List.filter_nil, apple, appleSec,
    microsoft, arm]
  by_cases first : "AAPL" = symbol
  · subst first
    rfl
  · by_cases second : "MSFT" = symbol
    · subst second
      rfl
    · simp only [first, second, decide_false, Bool.false_eq_true, if_false]

/-- Either order names the two listings that stay, adds one and closes the other two. -/
theorem mixedRecords_reordered :
    exists first second counts counts_,
      reconcileReferenceRecords directoryLibrary 20 mixedRecords true (leftBy [firstDirectory]) =
          .ok (first, counts) ∧
        reconcileReferenceRecords directoryLibrary 20 mixedReordered true
          (leftBy [firstDirectory]) = .ok (second, counts_) ∧
        first.listingStates =
          [("AAPL", "Apple Inc.", .active, none),
            ("MSFT", "Microsoft Corporation Common Stock", .active, none),
            ("ATVI", "Activision Blizzard, Inc - Common Stock", .delisted, some 20),
            ("SPLK", "Splunk Inc. - Common Stock", .delisted, some 20),
            ("ARM", "Arm Holdings plc - American Depositary Shares", .active, none)] ∧
        SameTables first second := by
  have done : reconcileReferenceRecords directoryLibrary 20 mixedRecords true
      (leftBy [firstDirectory]) =
        .ok (leftBy [firstDirectory, ⟨20, mixedRecords, true⟩], ⟨4, 1, 1, 3, 2, 0, 1⟩) := by
    decide +kernel
  have done_ : reconcileReferenceRecords directoryLibrary 20 mixedReordered true
      (leftBy [firstDirectory]) =
        .ok (leftBy [firstDirectory, ⟨20, mixedReordered, true⟩], ⟨4, 1, 1, 3, 2, 0, 1⟩) := by
    decide +kernel
  have history : reconcileAll directoryLibrary [firstDirectory] emptyCatalog =
      .ok (leftBy [firstDirectory]) := by
    decide +kernel
  have empty : Formed emptyCatalog.places := formed_nil
  rcases reconcileAll_formed empty (by decide) history with ⟨formed, accepted⟩
  refine ⟨_, _, _, _, done, done_, by decide +kernel, ?_⟩
  refine reconcile_reordered formed accepted (by decide) mixed_reordering ?_ done done_
  intro _ record member listing listed aimed
  have named : mixedRecords.all (fun record => (leftBy [firstDirectory]).listings.all fun listing =>
      decide (aim record (leftBy [firstDirectory]).places = some listing.place ->
        dropped mixedRecords listing.place = true ->
          listing.isActive = record.isActive)) = true := by
    decide +kernel
  exact of_decide_eq_true (List.all_eq_true.mp (List.all_eq_true.mp named record member) listing
    listed) aimed

end ReferenceData
end MarketIntelligence
