import MarketIntelligence.Foundations.Tables
import MarketIntelligence.ReferenceData.Seats

namespace MarketIntelligence
namespace ReferenceData

open Foundations
open Sessions
open Loops

/-!
# Other orders of the records

A record changes the rows of its asset, as those rows and the record determine it, and leaves the
rows of every other asset.  So the rows of an asset in the end depend on the records of that asset
alone, taken in their order.
-/

section Reach

variable {library : Library} {now : Instant} {record other : ReferenceSecurityRecord}
  {catalog before after : Catalog} {place : Place}

theorem seatOf_mem {seat : Identifier × String} (found : seatOf record catalog = some seat) :
    seat ∈ catalog.seats := by
  rw [seatOf, Option.or_eq_some_iff] at found
  rcases found with there | ⟨_, there⟩
  · rcases Option.bind_eq_some_iff.mp there with ⟨_, _, selected⟩
    exact List.mem_of_find?_eq_some selected
  · exact List.mem_of_find?_eq_some there

/-- A record without a listing has the asset of its symbol. -/
theorem reached_of_missed (missed : aim record catalog.places = none) :
    reached record catalog = record.symbol := by
  rw [reached, seatOf, missed, Option.bind_none, Option.none_or]
  cases found : catalog.seats.find? fun seat => seat.2 = record.symbol with
  | none => rfl
  | some seat =>
      have holds := List.find?_some found
      exact of_decide_eq_true holds

theorem seatOf_of_aimed (linked : Linked catalog) (aimed : aim record catalog.places = some place) :
    exists seat, seatOf record catalog = some seat ∧ seat.1 = place.assetId ∧
      (catalog.seats.find? fun seat => seat.1 = place.assetId) = some seat := by
  rcases List.mem_map.mp (aim_mem aimed) with ⟨listing, listed, same⟩
  rcases List.mem_map.mp (linked.assets listing listed) with ⟨asset, member, owner⟩
  have seated : (asset.id, asset.symbol) ∈ catalog.seats := List.mem_map_of_mem member
  have equal : asset.id = place.assetId := owner.trans (congrArg Place.assetId same)
  have present : (catalog.seats.find? fun seat => seat.1 = place.assetId).isSome = true :=
    List.find?_isSome.mpr ⟨_, seated, decide_eq_true equal⟩
  rcases Option.isSome_iff_exists.mp present with ⟨seat, found⟩
  have holds := List.find?_some found
  refine ⟨seat, ?_, of_decide_eq_true holds, found⟩
  rw [seatOf, aimed, Option.bind_some, found]
  rfl

/-- A record with a listing has the asset of its listing. -/
theorem home_of_aimed (linked : Linked catalog) (aimed : aim record catalog.places = some place) :
    home library record catalog = place.assetId := by
  rcases seatOf_of_aimed linked aimed with ⟨seat, found, same, _⟩
  rw [home, found]
  exact same

/-- The asset of a record is there once the record is taken. -/
theorem Takes.seat_mem (takes : Takes library now record before after) :
    (home library record before, reached record before) ∈ after.seats := by
  rw [takes.seats, home, reached, missingAsset]
  cases found : seatOf record before with
  | none => exact List.mem_append_right _ List.mem_cons_self
  | some seat => exact List.mem_append_left _ (seatOf_mem found)

theorem aim_append {places added : List Place}
    (apart : forall place, place ∈ added -> ¬ place.Keyed other) :
    aim other (places ++ added) =
      (aim other places).or (added.find? fun place => place.Paired other) := by
  have missed : (added.find? fun place => place.Keyed other) = none :=
    List.find?_eq_none.mpr fun place member holds => apart place member (of_decide_eq_true holds)
  rw [aim, aim, List.find?_append, List.find?_append, missed, Option.or_none, Option.or_assoc]

theorem Takes.places (takes : Takes library now record before after) :
    (exists place, aim record before.places = some place ∧ after.places = before.places) ∨
    (aim record before.places = none ∧
      after.places = before.places ++ [newPlace now record (home library record before)]) := by
  have listings := takes.listings
  cases aimed : aim record before.places with
  | some place =>
      refine Or.inl ⟨place, rfl, ?_⟩
      have hit : aim record (before.listings.map AssetListing.place) = some place := aimed
      have keeps : forall listing, (atPeriod place.period (writeListing library record
          (issuerFor library before.issuers record)) listing).place = listing.place :=
        atPeriod_place fun _ => rfl
      rw [takeListing, hit] at listings
      exact places_of_listings keeps listings
  | none =>
      refine Or.inr ⟨rfl, ?_⟩
      have missed : aim record (before.listings.map AssetListing.place) = none := aimed
      rw [takeListing, missed] at listings
      rw [Catalog.places, listings, List.map_append]
      rfl

theorem Takes.formed (takes : Takes library now record before after)
    (formed : Formed before.places) : Formed after.places := by
  rcases takes.places with ⟨_, _, places⟩ | ⟨missed, places⟩
  · rw [places]
    exact formed
  · rw [places]
    exact formed.add _ missed

/-- Another record reaches the asset that it has reached before. -/
theorem Takes.reached_other (takes : Takes library now record before after)
    (linked : Linked before) (seated : Seated after)
    (apart : forall assetId, ¬ (newPlace now record assetId).Keyed other) :
    reached other after = reached other before := by
  have grown : exists added, after.places = before.places ++ added ∧
      forall place, place ∈ added -> aim record before.places = none ∧
        place = newPlace now record (home library record before) := by
    rcases takes.places with ⟨_, _, places⟩ | ⟨missed, places⟩
    · exact ⟨[], places.trans (List.append_nil _).symm,
        fun _ impossible => absurd impossible List.not_mem_nil⟩
    · exact ⟨_, places, fun place member => ⟨missed, List.mem_singleton.mp member⟩⟩
  rcases grown with ⟨added, places, own⟩
  have aims := @aim_append other before.places added fun place member =>
    (own place member).2 ▸ apart _
  rw [← places] at aims
  cases aimed : aim other before.places with
  | some place =>
      rw [aimed, Option.some_or] at aims
      rcases seatOf_of_aimed linked aimed with ⟨seat, found, _, selected⟩
      rw [reached, reached, found, seatOf, aims, Option.bind_some, takes.seats,
        List.find?_append, selected]
      rfl
  | none =>
      rw [aimed, Option.none_or] at aims
      rw [reached_of_missed aimed]
      cases hit : added.find? fun place => place.Paired other with
      | none =>
          rw [hit] at aims
          exact reached_of_missed aims
      | some place =>
          rw [hit] at aims
          have paired := List.find?_some hit
          have symbol := (of_decide_eq_true paired).1
          rcases own place (List.mem_of_find?_eq_some hit) with ⟨missed, same⟩
          rw [same] at symbol aims
          have selected : (after.seats.find? fun seat => seat.1 = home library record before) =
              some (home library record before, reached record before) := by
            apply find?_sole takes.seat_mem (decide_eq_true rfl)
            intro seat member holds
            exact List.inj_on_of_nodup_map seated.ids member takes.seat_mem
              (of_decide_eq_true holds)
          have found : seatOf other after =
              some (home library record before, reached record before) := by
            rw [seatOf, aims, Option.bind_some]
            exact congrArg (Option.or · _) selected
          rw [reached, found, Option.map_some, Option.getD_some, reached_of_missed missed]
          exact symbol

end Reach

/-! ## The rows of one asset -/

theorem Formed.subset {places part : List Place} (formed : Formed places)
    (among : forall place, place ∈ part -> place ∈ places) : Formed part :=
  ⟨fun place member => formed.normalized place (among place member),
    fun place other member listed => formed.keys place other (among place member)
      (among other listed),
    fun place other member listed => formed.pairs place other (among place member)
      (among other listed)⟩

/-- A record finds the same place among some of the places, if it is one of them. -/
theorem aim_filter {places : List Place} (formed : Formed places) {selected : Place -> Bool}
    {record : ReferenceSecurityRecord}
    (kept : forall place, aim record places = some place -> selected place = true) :
    aim record (places.filter selected) = aim record places := by
  have among : forall place, place ∈ places.filter selected -> place ∈ places :=
    fun place member => (List.mem_filter.mp member).1
  have part := formed.subset among
  cases aimed : aim record places with
  | some place =>
      have member : place ∈ places.filter selected :=
        List.mem_filter.mpr ⟨aim_mem aimed, kept place aimed⟩
      rcases (aim_some aimed).2 with keyed | ⟨paired, unkeyed⟩
      · exact aim_keyed part member keyed
      · exact aim_paired part member paired fun other listed => unkeyed other (among other listed)
  | none =>
      have apart := aim_none aimed
      rw [aim, Option.or_eq_none_iff]
      exact ⟨List.find?_eq_none.mpr fun place member holds =>
          (apart place (among place member)).1 (of_decide_eq_true holds),
        List.find?_eq_none.mpr fun place member holds =>
          (apart place (among place member)).2 (of_decide_eq_true holds)⟩

theorem filter_map_of_kept {α : Type} {selected : α -> Bool} {change : α -> α}
    (keeps : forall row, selected (change row) = selected row) (rows : List α) :
    (rows.map change).filter selected = (rows.filter selected).map change := by
  rw [List.filter_map]
  exact congrArg (List.map change) (List.filter_congr fun row _ => keeps row)

theorem filter_concat_in {α : Type} {selected : α -> Bool} {row : α}
    (taken : selected row = true) (rows : List α) :
    (rows ++ [row]).filter selected = rows.filter selected ++ [row] := by
  rw [List.filter_append, List.filter_cons_of_pos taken, List.filter_nil]

theorem filter_concat_out {α : Type} {selected : α -> Bool} {row : α}
    (left : selected row = false) (rows : List α) :
    (rows ++ [row]).filter selected = rows.filter selected := by
  rw [List.filter_append, List.filter_cons_of_neg (Bool.eq_false_iff.mp left), List.filter_nil,
    List.append_nil]

/-- The assets of one symbol, with the record written. -/
def takeAsset (library : Library) (assets : List Asset) (record : ReferenceSecurityRecord) :
    List Asset :=
  (if assets = [] then [newAsset library record] else assets).map (writeAsset record)

section Parts

variable {library : Library} {now : Instant} {record : ReferenceSecurityRecord}
  {before after : Catalog} {assetId wanted : Identifier}
  {issuer : ReferenceSecurityRecord -> Option Identifier}

theorem takeListing_filter {listings : List AssetListing}
    (formed : Formed (listings.map AssetListing.place))
    (periods : (listings.map AssetListing.period).Nodup)
    (owned : forall place, aim record (listings.map AssetListing.place) = some place ->
      place.assetId = assetId) :
    (takeListing library now assetId issuer listings record).filter
        (fun listing => listing.assetId = wanted) =
      if assetId = wanted then
        takeListing library now wanted issuer
          (listings.filter fun listing => listing.assetId = wanted) record
      else listings.filter fun listing => listing.assetId = wanted := by
  have part : (listings.filter fun listing => listing.assetId = wanted).map AssetListing.place =
      (listings.map AssetListing.place).filter fun place => place.assetId = wanted := by
    rw [List.filter_map]
    rfl
  have aims : assetId = wanted -> aim record ((listings.filter fun listing =>
      listing.assetId = wanted).map AssetListing.place) =
        aim record (listings.map AssetListing.place) := by
    intro same
    rw [part]
    exact aim_filter formed fun place aimed => decide_eq_true ((owned place aimed).trans same)
  cases aimed : aim record (listings.map AssetListing.place) with
  | some place =>
      have own := owned place aimed
      have keeps : forall listing, decide ((atPeriod place.period
          (writeListing library record (issuer record)) listing).assetId = wanted) =
            decide (listing.assetId = wanted) := by
        intro listing
        have same : forall listing, (atPeriod place.period
            (writeListing library record (issuer record)) listing).place = listing.place :=
          atPeriod_place fun _ => rfl
        have equal : (atPeriod place.period (writeListing library record (issuer record))
            listing).assetId = listing.assetId := congrArg Place.assetId (same listing)
        rw [equal]
      rw [takeListing, aimed]
      refine (filter_map_of_kept keeps listings).trans ?_
      by_cases same : assetId = wanted
      · rw [if_pos same, takeListing, aims same, aimed]
      · rw [if_neg same]
        -- the listing that is written is one of another asset
        refine (List.map_congr_left fun listing member => ?_).trans (List.map_id _)
        rw [atPeriod, if_neg, id]
        intro there
        rcases List.mem_map.mp (aim_mem aimed) with ⟨aimedListing, listed, placed⟩
        have equal := List.inj_on_of_nodup_map periods (List.mem_filter.mp member).1 listed
          (there.trans (congrArg Place.period placed).symm)
        apply same
        rw [← own, ← placed, ← equal]
        exact of_decide_eq_true (List.mem_filter.mp member).2
  | none =>
      rw [takeListing, aimed]
      by_cases same : assetId = wanted
      · rw [if_pos same, takeListing, aims same, aimed, same]
        apply filter_concat_in
        exact decide_eq_true rfl
      · rw [if_neg same]
        apply filter_concat_out
        exact decide_eq_false same

theorem takeCapability_filter {capabilities : List AssetCapability} :
    (takeCapability library now assetId capabilities record).filter
        (fun known => known.assetId = wanted) =
      if assetId = wanted then
        takeCapability library now wanted
          (capabilities.filter fun known => known.assetId = wanted) record
      else capabilities.filter fun known => known.assetId = wanted := by
  have keeps : forall known, decide ((atProvider library now record assetId known).assetId =
      wanted) = decide (known.assetId = wanted) := by
    intro known
    have same := congrArg Prod.fst (@atProvider_provider library now record assetId known)
    have equal : (atProvider library now record assetId known).assetId = known.assetId := same
    rw [equal]
  rw [takeCapability]
  by_cases same : assetId = wanted
  · subst same
    have present : (assetId, "REFERENCE", record.source) ∈
        (capabilities.filter fun known => known.assetId = assetId).map AssetCapability.provider <->
          (assetId, "REFERENCE", record.source) ∈
            capabilities.map AssetCapability.provider := by
      constructor
      · intro member
        rcases List.mem_map.mp member with ⟨known, listed, provider⟩
        exact List.mem_map.mpr ⟨known, (List.mem_filter.mp listed).1, provider⟩
      · intro member
        rcases List.mem_map.mp member with ⟨known, listed, provider⟩
        have own : known.assetId = assetId := congrArg Prod.fst provider
        exact List.mem_map.mpr
          ⟨known, List.mem_filter.mpr ⟨listed, decide_eq_true own⟩, provider⟩
    rw [if_pos rfl, takeCapability]
    by_cases known : (assetId, "REFERENCE", record.source) ∈
        capabilities.map AssetCapability.provider
    · rw [if_pos known, if_pos (present.mpr known)]
      exact filter_map_of_kept keeps capabilities
    · rw [if_neg known, if_neg fun member => known (present.mp member)]
      apply filter_concat_in
      exact decide_eq_true rfl
  · rw [if_neg same]
    split
    · refine (filter_map_of_kept keeps capabilities).trans ?_
      refine (List.map_congr_left fun known member => ?_).trans (List.map_id _)
      rw [atProvider, if_neg, id]
      intro there
      have owner : known.assetId = assetId := congrArg Prod.fst there
      exact same (owner.symm.trans (of_decide_eq_true (List.mem_filter.mp member).2))
    · apply filter_concat_out
      exact decide_eq_false same

/-- A record writes the asset that it reaches. -/
theorem Takes.assets_filter (takes : Takes library now record before after)
    (seated : Seated after) (symbol : String) :
    after.assets.filter (fun asset => asset.symbol = symbol) =
      if reached record before = symbol then
        takeAsset library (before.assets.filter fun asset => asset.symbol = symbol) record
      else before.assets.filter fun asset => asset.symbol = symbol := by
  have keeps : forall asset, decide ((atAsset (home library record before) record asset).symbol =
      symbol) = decide (asset.symbol = symbol) := by
    intro asset
    have same : (atAsset (home library record before) record asset).symbol = asset.symbol :=
      congrArg Prod.snd (atAsset_seat _ record asset)
    rw [same]
  have seats : forall asset, asset ∈ before.assets ++ missingAsset library record before ->
      (asset.id, asset.symbol) ∈ after.seats := by
    intro asset member
    rw [takes.seats, Catalog.seats, ← List.map_append]
    exact List.mem_map_of_mem member
  have meets : forall asset, asset ∈ before.assets ++ missingAsset library record before ->
      (asset.id = home library record before <-> asset.symbol = reached record before) := by
    intro asset member
    constructor
    · intro same
      exact congrArg Prod.snd (List.inj_on_of_nodup_map seated.ids (seats asset member)
        takes.seat_mem same)
    · intro same
      exact congrArg Prod.fst (List.inj_on_of_nodup_map seated.symbols (seats asset member)
        takes.seat_mem same)
  rw [takes.assets]
  refine (filter_map_of_kept keeps _).trans ?_
  by_cases same : reached record before = symbol
  · rw [if_pos same]
    have written : forall asset,
        asset ∈ (before.assets ++ missingAsset library record before).filter
            (fun asset => asset.symbol = symbol) ->
          atAsset (home library record before) record asset = writeAsset record asset := by
      intro asset member
      have listed := List.mem_filter.mp member
      exact if_pos ((meets asset listed.1).mpr ((of_decide_eq_true listed.2).trans same.symm))
    refine (List.map_congr_left written).trans (congrArg (List.map (writeAsset record)) ?_)
    rw [List.filter_append, missingAsset]
    cases found : seatOf record before with
    | some seat =>
        have symbols : seat.2 = symbol := by
          rw [reached, found] at same
          exact same
        rcases List.mem_map.mp (seatOf_mem found) with ⟨asset, member, equal⟩
        have own : asset ∈ before.assets.filter fun asset => asset.symbol = symbol :=
          List.mem_filter.mpr
            ⟨member, decide_eq_true ((congrArg Prod.snd equal).trans symbols)⟩
        rw [if_neg (List.ne_nil_of_mem own)]
        exact List.append_nil _
    | none =>
        have symbols : record.symbol = symbol := by
          rw [reached, found] at same
          exact same
        have unseated := found
        rw [seatOf, Option.or_eq_none_iff] at unseated
        have empty : before.assets.filter (fun asset => asset.symbol = symbol) = [] := by
          apply List.filter_eq_nil_iff.mpr
          intro asset member holds
          have absent := List.find?_eq_none.mp unseated.2 (asset.id, asset.symbol)
            (List.mem_map_of_mem member)
          exact absent (decide_eq_true ((of_decide_eq_true holds).trans symbols.symm))
        rw [if_pos empty, empty, List.nil_append]
        apply List.filter_cons_of_pos
        exact decide_eq_true symbols
  · rw [if_neg same]
    have unwritten : forall asset,
        asset ∈ (before.assets ++ missingAsset library record before).filter
            (fun asset => asset.symbol = symbol) ->
          atAsset (home library record before) record asset = asset := by
      intro asset member
      have listed := List.mem_filter.mp member
      exact if_neg fun owner => same
        (((meets asset listed.1).mp owner).symm.trans (of_decide_eq_true listed.2))
    refine (List.map_congr_left unwritten).trans ((List.map_id' _).trans ?_)
    rw [List.filter_append, missingAsset]
    cases found : seatOf record before with
    | some seat => exact List.append_nil _
    | none =>
        have elsewhere : record.symbol ≠ symbol := by
          intro own
          apply same
          rw [reached, found]
          exact own
        rw [← List.filter_append]
        apply filter_concat_out
        exact decide_eq_false elsewhere

end Parts

/-! ## The loop over the records -/

/-- The session in the middle of a call.  Listings that are not free have the flag of the
beginning. -/
structure Midway (library : Library) (now : Instant) (records : List ReferenceSecurityRecord)
    (prior : Catalog) (free : Place -> Bool) (pass : Pass) : Prop where
  session : InSession free pass
  linked : Linked pass.catalog
  seated : Seated pass.catalog
  formed : Formed pass.catalog.places
  grown : Grown now records prior.places pass.catalog.places
  issuers : issuerFor library pass.catalog.issuers = issuerFor library prior.issuers
  flags : forall listing, listing ∈ pass.catalog.listings -> free listing.place = false ->
    exists before, before ∈ prior.listings ∧ before.place = listing.place ∧
      before.isActive = listing.isActive

/-- The listings whose flag the end of the call reads: a record leaves the flag of those it
finds as it is, and adds none. -/
structure Unread (now : Instant) (records : List ReferenceSecurityRecord) (prior : Catalog)
    (free : Place -> Bool) : Prop where
  added : forall record, record ∈ records -> forall assetId,
    free (newPlace now record assetId) = true
  flags : forall record, record ∈ records -> forall listing, listing ∈ prior.listings ->
    aim record prior.places = some listing.place -> free listing.place = false ->
      listing.isActive = record.isActive

section Run

variable {library : Library} {now : Instant} {records : List ReferenceSecurityRecord}
  {prior : Catalog} {free : Place -> Bool} {pass next : Pass} {record : ReferenceSecurityRecord}

theorem midway_load (formed : Formed prior.places) (accepted : prior.Accepted)
    (counts : ReconcileCounts) : Midway library now records prior free (prior.load counts) := by
  constructor
  · exact inSession_load _ _ _
  · rw [catalog_load]
    exact accepted.linked
  · rw [catalog_load]
    exact accepted.seated
  · rw [catalog_load]
    exact formed
  · rw [catalog_load]
    exact ⟨[], (List.append_nil _).symm, fun _ impossible => absurd impossible List.not_mem_nil⟩
  · rw [catalog_load]
  · rw [catalog_load]
    exact fun listing member _ => ⟨listing, member, rfl, rfl⟩

theorem Midway.step (midway : Midway library now records prior free pass)
    (unread : Unread now records prior free) (formed : Formed prior.places)
    (member : record ∈ records) (done : reconcileRecord library now record pass = .ok next) :
    Midway library now records prior free next ∧
      Takes library now record pass.catalog next.catalog := by
  have written : forall listing, listing ∈ pass.catalog.listings ->
      aim record pass.catalog.places = some listing.place ->
        free listing.place = true ∨ listing.isActive = record.isActive := by
    intro listing listed aimed
    cases kept : free listing.place with
    | true => exact Or.inl rfl
    | false =>
        right
        rcases midway.flags listing listed kept with ⟨before, old, same, flag⟩
        rw [← same] at aimed kept
        rw [← flag]
        exact unread.flags record member before old
          (aim_of_grown formed midway.grown aimed (List.mem_map_of_mem old)) kept
  rcases reconcileRecord_takes midway.session midway.linked midway.seated written done with
    ⟨session, linked, seated, takes⟩
  refine ⟨⟨session, linked, seated, takes.formed midway.formed, ?_,
    takes.issuers.trans midway.issuers, ?_⟩, takes⟩
  · rcases takes.places with ⟨_, _, places⟩ | ⟨missed, places⟩
    · rw [places]
      exact midway.grown
    · have first := midway.grown.aim_none missed
      rcases midway.grown with ⟨added, same, own⟩
      refine ⟨added ++ [newPlace now record (home library record pass.catalog)], ?_, ?_⟩
      · rw [places, same, List.append_assoc]
      · intro place listed
        rcases List.mem_append.mp listed with old | last
        · exact own place old
        · exact ⟨record, member, first, _, List.mem_singleton.mp last⟩
  · intro listing listed kept
    have listings := takes.listings
    cases aimed : aim record (pass.catalog.listings.map AssetListing.place) with
    | some place =>
        rw [takeListing, aimed] at listings
        rw [listings] at listed
        rcases List.mem_map.mp listed with ⟨old, oldListed, same⟩
        rw [← same, atPeriod] at kept ⊢
        by_cases hit : old.period = place.period
        · rw [if_pos hit] at kept ⊢
          rcases List.mem_map.mp (aim_mem aimed) with ⟨found, foundListed, placed⟩
          have equal := List.inj_on_of_nodup_map midway.linked.periods oldListed foundListed
            (hit.trans (congrArg Place.period placed).symm)
          have aimedOld : aim record pass.catalog.places = some old.place := by
            rw [equal, placed]
            exact aimed
          have flag : old.isActive = record.isActive := by
            rcases written old oldListed aimedOld with opened | flag
            · exact absurd (opened.symm.trans kept) Bool.noConfusion
            · exact flag
          rcases midway.flags old oldListed kept with ⟨before, prior_, places, flags⟩
          exact ⟨before, prior_, places, flags.trans flag⟩
        · rw [if_neg hit] at kept ⊢
          exact midway.flags old oldListed kept
    | none =>
        rw [takeListing, aimed] at listings
        rw [listings] at listed
        rcases List.mem_append.mp listed with old | new
        · exact midway.flags listing old kept
        · rw [List.mem_singleton.mp new] at kept
          exact absurd ((unread.added record member _).symm.trans kept) Bool.noConfusion

/-- The seats and the providers that are there stay there. -/
theorem records_midway (unread : Unread now records prior free) (formed : Formed prior.places)
    {rest : List ReferenceSecurityRecord} (among : forall record, record ∈ rest -> record ∈ records)
    (midway : Midway library now records prior free pass)
    (done : rest.foldlM (fun pass record => reconcileRecord library now record pass) pass =
      .ok next) :
    Midway library now records prior free next ∧ pass.catalog.seats <+: next.catalog.seats ∧
      pass.catalog.capabilities.map AssetCapability.provider <+:
        next.catalog.capabilities.map AssetCapability.provider := by
  refine foldlM_invariant (motive := fun middle =>
    Midway library now records prior free middle ∧ pass.catalog.seats <+: middle.catalog.seats ∧
      pass.catalog.capabilities.map AssetCapability.provider <+:
        middle.catalog.capabilities.map AssetCapability.provider) ?_ ?_ done
  · rintro record member before after ⟨kept, seats, providers⟩ stepped
    rcases kept.step unread formed (among record member) stepped with ⟨further, takes⟩
    exact ⟨further, seats.trans (takes.seats ▸ List.prefix_append _ _),
      providers.trans takes.providers⟩
  · exact ⟨midway, List.prefix_rfl, List.prefix_rfl⟩

/-- What one record has to do to a view of the catalog, given the seats of the end. -/
def Follows {τ : Type} (library : Library) (now : Instant) (prior : Catalog)
    (seats : List (Identifier × String)) (touches : String -> Bool)
    (act : τ -> ReferenceSecurityRecord -> τ) (view : Catalog -> τ) : Prop :=
  forall record before after, Linked before -> Formed before.places ->
    issuerFor library before.issuers = issuerFor library prior.issuers -> Seated after ->
      after.seats <+: seats -> (after.capabilities.map AssetCapability.provider).Nodup ->
        Takes library now record before after ->
          view after =
            if touches (reached record before) then act (view before) record else view before

/-- A view that follows the records of some assets is determined by these records. -/
theorem records_view {τ : Type} (unread : Unread now records prior free)
    (formed : Formed prior.places) {touches : String -> Bool}
    {act : τ -> ReferenceSecurityRecord -> τ} {view : Catalog -> τ}
    (follows : Follows library now prior next.catalog.seats touches act view)
    (distinct : (next.catalog.capabilities.map AssetCapability.provider).Nodup)
    {rest : List ReferenceSecurityRecord} (among : forall record, record ∈ rest -> record ∈ records)
    (keys : (rest.map fun record => (record.source, record.sourceRecordKey)).Nodup)
    (midway : Midway library now records prior free pass)
    (same : forall record, record ∈ rest -> reached record pass.catalog = reached record prior)
    (done : rest.foldlM (fun pass record => reconcileRecord library now record pass) pass =
      .ok next) :
    view next.catalog =
      (rest.filter fun record => touches (reached record prior)).foldl act (view pass.catalog) := by
  induction rest generalizing pass with
  | nil =>
      cases done
      rfl
  | cons record tail ih =>
      rw [List.foldlM_cons] at done
      rcases except_bind_ok done with ⟨middle, stepped, run⟩
      have further : forall other, other ∈ tail -> other ∈ records := fun other member =>
        among other (List.mem_cons_of_mem _ member)
      rcases midway.step unread formed (among record List.mem_cons_self) stepped with
        ⟨kept, takes⟩
      rcases records_midway unread formed further kept run with ⟨_, seats, providers⟩
      rw [List.map_cons, List.nodup_cons] at keys
      have later : forall other, other ∈ tail ->
          reached other middle.catalog = reached other prior := by
        intro other member
        rw [← same other (List.mem_cons_of_mem _ member)]
        apply takes.reached_other midway.linked kept.seated
        intro assetId keyed
        apply keys.1
        have equal : (record.source, record.sourceRecordKey) =
            (other.source, other.sourceRecordKey) := Prod.ext keyed.1 keyed.2.1
        rw [equal]
        exact List.mem_map_of_mem (f := fun record : ReferenceSecurityRecord =>
          (record.source, record.sourceRecordKey)) member
      have here := follows record pass.catalog middle.catalog midway.linked midway.formed
        midway.issuers kept.seated seats (providers.sublist.nodup distinct) takes
      rw [ih further keys.2 kept later run, here,
        same record List.mem_cons_self, List.filter_cons]
      split <;> rfl

end Run

/-! ## Two orders -/

section Views

variable {library : Library} {now : Instant} {prior : Catalog}
  {seats : List (Identifier × String)}

theorem assets_follow (symbol : String) :
    Follows library now prior seats (fun reached => reached = symbol) (takeAsset library)
      fun catalog => catalog.assets.filter fun asset => asset.symbol = symbol := by
  intro record before after _ _ _ seated _ _ takes
  refine (takes.assets_filter seated symbol).trans ?_
  by_cases same : reached record before = symbol
  · rw [if_pos same, if_pos (decide_eq_true same)]
  · rw [if_neg same, if_neg fun holds => same (of_decide_eq_true holds)]

variable {wanted : Identifier} {own : String -> Bool}
  (owns : forall seat, seat ∈ seats -> (seat.1 = wanted <-> own seat.2 = true))

include owns

theorem listings_follow :
    Follows library now prior seats own
      (takeListing library now wanted (issuerFor library prior.issuers))
      fun catalog => catalog.listings.filter fun listing => listing.assetId = wanted := by
  intro record before after linked formed issuers _ within _ takes
  have meets := owns _ (within.subset takes.seat_mem)
  have part := @takeListing_filter library now record (home library record before) wanted
    (issuerFor library before.issuers) _ formed linked.periods
    fun place aimed => (home_of_aimed linked aimed).symm
  rw [← takes.listings, issuers] at part
  refine part.trans ?_
  by_cases same : home library record before = wanted
  · rw [if_pos same, if_pos (meets.mp same)]
  · rw [if_neg same, if_neg fun holds => same (meets.mpr holds)]

theorem capabilities_follow :
    Follows library now prior seats own (takeCapability library now wanted)
      fun catalog => catalog.capabilities.filter fun known => known.assetId = wanted := by
  intro record before after _ _ _ _ within distinct takes
  have meets := owns _ (within.subset takes.seat_mem)
  have part := @takeCapability_filter library now record (home library record before) wanted
    before.capabilities
  rw [← takes.capabilities distinct] at part
  refine part.trans ?_
  by_cases same : home library record before = wanted
  · rw [if_pos same, if_pos (meets.mp same)]
  · rw [if_neg same, if_neg fun holds => same (meets.mpr holds)]

end Views

/-- Another order of the records, in which the records that reach one asset come in the same
order as before.  The last of these decides what the asset says. -/
structure Reordering (prior : Catalog) (records reordered : List ReferenceSecurityRecord) :
    Prop where
  perm : records.Perm reordered
  kept : forall symbol, (records.filter fun record => reached record prior = symbol) =
    reordered.filter fun record => reached record prior = symbol

/-- The rows of the assets, the listings and the capabilities are the same, in whatever order the
tables list them. -/
structure SameTables (first second : Catalog) : Prop where
  assets : first.assets.Perm second.assets
  listings : first.listings.Perm second.listings
  capabilities : first.capabilities.Perm second.capabilities

section Orders

variable {library : Library} {now : Instant} {records reordered : List ReferenceSecurityRecord}
  {prior : Catalog} {free : Place -> Bool} {first second : Pass} {counts : ReconcileCounts}

/-- The loop over the records ends in the same tables. -/
theorem records_reordered (formed : Formed prior.places) (accepted : prior.Accepted)
    (keys : (records.map fun record => (record.source, record.sourceRecordKey)).Nodup)
    (reordering : Reordering prior records reordered)
    (unread : Unread now records prior free) (unread_ : Unread now reordered prior free)
    (done : records.foldlM (fun pass record => reconcileRecord library now record pass)
      (prior.load counts) = .ok first)
    (done_ : reordered.foldlM (fun pass record => reconcileRecord library now record pass)
      (prior.load counts) = .ok second)
    (distinct : (first.catalog.capabilities.map AssetCapability.provider).Nodup)
    (distinct_ : (second.catalog.capabilities.map AssetCapability.provider).Nodup) :
    SameTables first.catalog second.catalog := by
  have keys_ := (reordering.perm.map fun record : ReferenceSecurityRecord =>
    (record.source, record.sourceRecordKey)).nodup keys
  have loaded : forall record, reached record (prior.load counts).catalog =
      reached record prior := by
    intro record
    rw [catalog_load]
  have start := @midway_load library now records prior free formed accepted counts
  have start_ := @midway_load library now reordered prior free formed accepted counts
  have end_ := (records_midway unread formed (fun _ member => member) start done).1
  have alike : forall {τ : Type} (touches : String -> Bool)
      (act : τ -> ReferenceSecurityRecord -> τ) (view : Catalog -> τ),
      Follows library now prior first.catalog.seats touches act view ->
        Follows library now prior second.catalog.seats touches act view ->
          (records.filter fun record => touches (reached record prior)) =
            (reordered.filter fun record => touches (reached record prior)) ->
              view first.catalog = view second.catalog := by
    intro τ touches act view follows follows_ same
    rw [records_view unread formed follows distinct (fun _ member => member) keys start
        (fun record _ => loaded record) done,
      records_view unread_ formed follows_ distinct_ (fun _ member => member) keys_ start_
        (fun record _ => loaded record) done_, same]
  have assets : first.catalog.assets.Perm second.catalog.assets :=
    Tables.perm_of_parts Asset.symbol fun symbol =>
      alike _ _ _ (assets_follow symbol) (assets_follow symbol) (reordering.kept symbol)
  have seats : forall seat, seat ∈ second.catalog.seats -> seat ∈ first.catalog.seats :=
    fun seat member => (assets.symm.map fun asset => (asset.id, asset.symbol)).subset member
  -- the records of the asset with a given identifier are those that reach its symbol
  have owner : forall wanted : Identifier, exists own : String -> Bool,
      (forall seat, seat ∈ first.catalog.seats -> (seat.1 = wanted <-> own seat.2 = true)) ∧
        (records.filter fun record => own (reached record prior)) =
          reordered.filter fun record => own (reached record prior) := by
    intro wanted
    by_cases present : exists seat, seat ∈ first.catalog.seats ∧ seat.1 = wanted
    · rcases present with ⟨seat, member, same⟩
      refine ⟨fun symbol => symbol = seat.2, ?_, reordering.kept seat.2⟩
      intro other listed
      rw [← same, decide_eq_true_eq]
      constructor
      · intro ids
        exact congrArg Prod.snd (List.inj_on_of_nodup_map end_.seated.ids listed member ids)
      · intro symbols
        exact congrArg Prod.fst
          (List.inj_on_of_nodup_map end_.seated.symbols listed member symbols)
    · refine ⟨fun _ => false, ?_, ?_⟩
      · intro seat member
        exact ⟨fun same => absurd ⟨seat, member, same⟩ present,
          fun impossible => absurd impossible Bool.false_ne_true⟩
      · rw [List.filter_false, List.filter_false]
  refine ⟨assets, ?_, ?_⟩
  · refine Tables.perm_of_parts AssetListing.assetId fun wanted => ?_
    rcases owner wanted with ⟨own, owns, same⟩
    exact alike own _ _ (listings_follow owns)
      (listings_follow fun seat member => owns seat (seats seat member)) same
  · refine Tables.perm_of_parts AssetCapability.assetId fun wanted => ?_
    rcases owner wanted with ⟨own, owns, same⟩
    exact alike own _ _ (capabilities_follow owns)
      (capabilities_follow fun seat member => owns seat (seats seat member)) same

end Orders

end ReferenceData
end MarketIntelligence
