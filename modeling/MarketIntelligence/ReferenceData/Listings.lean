import MarketIntelligence.ReferenceData.Reconciliation
import MarketIntelligence.Foundations.Loops

namespace MarketIntelligence
namespace ReferenceData

open Foundations
open Sessions

/-!
# The listing of a record

A call never changes the columns by which a listing is found, so the listing a record finds is
a matter of these columns alone.  Where no two listings are open under one key, or under one
symbol and exchange, each record finds at most one listing, and what it adds keeps it so.
-/

/-- The columns of a listing that a record leaves as they are when it finds the listing; only the
sweep changes one of them, the end of the period. -/
structure Place where
  assetId : Identifier
  symbol : String
  normalizedSymbol : String
  exchangeCode : String
  validFrom : Instant
  validTo : Option Instant
  source : String
  sourceRecordKey : String
  deriving DecidableEq, Repr

def AssetListing.place (listing : AssetListing) : Place where
  assetId := listing.assetId
  symbol := listing.symbol
  normalizedSymbol := listing.normalizedSymbol
  exchangeCode := listing.exchangeCode
  validFrom := listing.validFrom
  validTo := listing.validTo
  source := listing.source
  sourceRecordKey := listing.sourceRecordKey

namespace Place

def period (place : Place) : String × String × Instant :=
  (place.exchangeCode, place.normalizedSymbol, place.validFrom)

/-- The place is open under the key of the record. -/
def Keyed (record : ReferenceSecurityRecord) (place : Place) : Prop :=
  place.source = record.source ∧ place.sourceRecordKey = record.sourceRecordKey ∧
    place.validTo = none

/-- The place is open under the symbol and exchange of the record, from whatever source its key
is. -/
def Paired (record : ReferenceSecurityRecord) (place : Place) : Prop :=
  place.normalizedSymbol = record.symbol ∧ place.exchangeCode = record.exchangeCode ∧
    place.validTo = none

instance (record : ReferenceSecurityRecord) (place : Place) : Decidable (place.Keyed record) :=
  inferInstanceAs (Decidable (_ ∧ _))

instance (record : ReferenceSecurityRecord) (place : Place) : Decidable (place.Paired record) :=
  inferInstanceAs (Decidable (_ ∧ _))

end Place

def Catalog.places (catalog : Catalog) : List Place :=
  catalog.listings.map AssetListing.place

/-- Symbols are stored as they are normalized, and no two listings are open under one key of a
source, or under one symbol and exchange.  The lookup of a record then has one answer. -/
structure Formed (places : List Place) : Prop where
  normalized : forall place, place ∈ places -> place.normalizedSymbol = place.symbol
  keys : forall place other, place ∈ places -> other ∈ places -> place.validTo = none ->
    other.validTo = none -> place.source = other.source ->
      place.sourceRecordKey = other.sourceRecordKey -> place = other
  pairs : forall place other, place ∈ places -> other ∈ places -> place.validTo = none ->
    other.validTo = none -> place.symbol = other.symbol ->
      place.exchangeCode = other.exchangeCode -> place = other

/-- The place a record finds: an open one under its key first, and failing that an open one under
its symbol and exchange. -/
def aim (record : ReferenceSecurityRecord) (places : List Place) : Option Place :=
  (places.find? fun place => place.Keyed record).or (places.find? fun place => place.Paired record)

section Aims

variable {record : ReferenceSecurityRecord} {places : List Place} {place : Place}

theorem find?_sole {α : Type} {values : List α} {selected : α -> Bool} {value : α}
    (member : value ∈ values) (holds : selected value = true)
    (sole : forall other, other ∈ values -> selected other = true -> other = value) :
    values.find? selected = some value := by
  cases found : values.find? selected with
  | none => exact absurd holds (List.find?_eq_none.mp found value member)
  | some other =>
      rw [sole other (List.mem_of_find?_eq_some found) (List.find?_some found)]

theorem aim_keyed (formed : Formed places) (member : place ∈ places)
    (keyed : place.Keyed record) : aim record places = some place := by
  have found : (places.find? fun place => place.Keyed record) = some place := by
    apply find?_sole member (decide_eq_true keyed)
    intro other listed holds
    have there := of_decide_eq_true holds
    exact formed.keys other place listed member there.2.2 keyed.2.2
      (there.1.trans keyed.1.symm) (there.2.1.trans keyed.2.1.symm)
  rw [aim, found]
  rfl

theorem aim_paired (formed : Formed places) (member : place ∈ places)
    (paired : place.Paired record)
    (unkeyed : forall other, other ∈ places -> ¬ other.Keyed record) :
    aim record places = some place := by
  have missed : (places.find? fun place => place.Keyed record) = none :=
    List.find?_eq_none.mpr fun other listed holds =>
      unkeyed other listed (of_decide_eq_true holds)
  have found : (places.find? fun place => place.Paired record) = some place := by
    apply find?_sole member (decide_eq_true paired)
    intro other listed holds
    have there := of_decide_eq_true holds
    apply formed.pairs other place listed member there.2.2 paired.2.2
    · rw [← formed.normalized other listed, ← formed.normalized place member, there.1, paired.1]
    · exact there.2.1.trans paired.2.1.symm
  rw [aim, missed, found]
  rfl

/-- What a record finds is open under its key, or nothing is and it is open under its symbol
and exchange. -/
theorem aim_some (found : aim record places = some place) :
    place ∈ places ∧ (place.Keyed record ∨
      place.Paired record ∧ forall other, other ∈ places -> ¬ other.Keyed record) := by
  rw [aim] at found
  cases first : places.find? fun place => place.Keyed record with
  | some other =>
      rw [first] at found
      cases found
      have keyed := List.find?_some first
      exact ⟨List.mem_of_find?_eq_some first, Or.inl (of_decide_eq_true keyed)⟩
  | none =>
      rw [first] at found
      have second : (places.find? fun place => place.Paired record) = some place := found
      have paired := List.find?_some second
      refine ⟨List.mem_of_find?_eq_some second, Or.inr ⟨of_decide_eq_true paired, ?_⟩⟩
      intro other listed keyed
      exact List.find?_eq_none.mp first other listed (decide_eq_true keyed)

theorem aim_none (missed : aim record places = none) :
    forall other, other ∈ places -> ¬ other.Keyed record ∧ ¬ other.Paired record := by
  rw [aim, Option.or_eq_none_iff] at missed
  intro other listed
  exact ⟨fun keyed => List.find?_eq_none.mp missed.1 other listed (decide_eq_true keyed),
    fun paired => List.find?_eq_none.mp missed.2 other listed (decide_eq_true paired)⟩

theorem aim_mem (found : aim record places = some place) : place ∈ places :=
  (aim_some found).1

theorem aim_open (found : aim record places = some place) : place.validTo = none := by
  rcases (aim_some found).2 with keyed | ⟨paired, _⟩
  · exact keyed.2.2
  · exact paired.2.2

end Aims

/-- The place of the listing that a record adds. -/
def newPlace (now : Instant) (record : ReferenceSecurityRecord) (assetId : Identifier) : Place where
  assetId := assetId
  symbol := record.symbol
  normalizedSymbol := record.symbol
  exchangeCode := record.exchangeCode
  validFrom := now
  validTo := none
  source := record.source
  sourceRecordKey := record.sourceRecordKey

theorem newPlace_keyed (now : Instant) (record : ReferenceSecurityRecord) (assetId : Identifier) :
    (newPlace now record assetId).Keyed record :=
  ⟨rfl, rfl, rfl⟩

/-- A place is only added where nothing is open under its key or its symbol and exchange. -/
theorem Formed.add {places : List Place} (formed : Formed places) {now : Instant}
    {record : ReferenceSecurityRecord} (assetId : Identifier) (missed : aim record places = none) :
    Formed (places ++ [newPlace now record assetId]) := by
  have apart := aim_none missed
  constructor
  · intro place member
    rcases List.mem_append.mp member with old | new
    · exact formed.normalized place old
    · rw [List.mem_singleton.mp new]
      rfl
  · intro place other member listed here there sources keys
    rcases List.mem_append.mp member with old | new
    · rcases List.mem_append.mp listed with older | newer
      · exact formed.keys place other old older here there sources keys
      · rw [List.mem_singleton.mp newer] at sources keys
        exact absurd ⟨sources, keys, here⟩ (apart place old).1
    · rcases List.mem_append.mp listed with older | newer
      · rw [List.mem_singleton.mp new] at sources keys
        exact absurd ⟨sources.symm, keys.symm, there⟩ (apart other older).1
      · rw [List.mem_singleton.mp new, List.mem_singleton.mp newer]
  · intro place other member listed here there symbols exchanges
    rcases List.mem_append.mp member with old | new
    · rcases List.mem_append.mp listed with older | newer
      · exact formed.pairs place other old older here there symbols exchanges
      · rw [List.mem_singleton.mp newer] at symbols exchanges
        exact absurd ⟨(formed.normalized place old).trans symbols, exchanges, here⟩
          (apart place old).2
    · rcases List.mem_append.mp listed with older | newer
      · rw [List.mem_singleton.mp new] at symbols exchanges
        exact absurd ⟨(formed.normalized other older).trans symbols.symm, exchanges.symm, there⟩
          (apart other older).2
      · rw [List.mem_singleton.mp new, List.mem_singleton.mp newer]

end ReferenceData
end MarketIntelligence
