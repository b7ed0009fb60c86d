import MarketIntelligence.Core.Values
import MarketIntelligence.Foundations.SortedLists
import MarketIntelligence.Foundations.Tables
import Mathlib.Data.Prod.Lex
import Mathlib.Tactic.Positivity

namespace MarketIntelligence
namespace Research

open Foundations
open SortedLists

/-!
# Normalized cross-sections

The values of the entities at one instant are replaced by their ranks, or by scores in
floating point, which are parameters here.  Ranks are places in a sort by the value and
then by the identifier, so entities that tie get different ranks, and which of them gets
the higher one is decided by the identifiers.
-/

/-! ## The normalization -/

/-- The steps of the function that compute with floats: the score of a value among the sorted ones,
and the decimal number of a rounded score. -/
structure FloatScores where
  zscore : List Rat -> Rat -> Rat
  decimal : Rat -> Rat

/-- A dictionary from identifiers to values, in its order. -/
abbrev CrossSection := List (Identifier × Option Rat)

def CrossSection.present (values : CrossSection) : List (Rat × Identifier) :=
  values.filterMap fun entry => entry.2.map fun value => (value, entry.1)

def available (values : CrossSection) : List (Rat × Identifier) :=
  sortedBy toLex values.present

def denominator (values : CrossSection) : Nat :=
  max 1 ((available values).length - 1)

def rankOf (values : CrossSection) (entityId : Identifier) : Option Rat :=
  (Tables.lookup (fun place => place.1.2) entityId (available values).zipIdx).map fun place =>
    (place.2 : Rat) / denominator values

def scoreOf (scores : FloatScores) (method : String) (values : CrossSection)
    (entityId : Identifier) : Option Rat :=
  (Tables.lookup Prod.snd entityId (available values)).map fun place =>
    let normalized := scores.zscore ((available values).map Prod.fst) place.1
    scores.decimal
      (if method = "winsorized_zscore" then min 3 (max (-3) normalized) else normalized)

def normalizeCrossSection (scores : FloatScores) (values : CrossSection) (method : String) :
    CrossSection :=
  if available values = [] then values.map fun entry => (entry.1, none)
  else if method = "rank" ∨ method = "percentile" then
    values.map fun entry => (entry.1, rankOf values entry.1)
  else values.map fun entry => (entry.1, scoreOf scores method values entry.1)

/-! ## What a rank is for -/

def CrossSection.rename (change : Identifier -> Identifier) (values : CrossSection) :
    CrossSection :=
  values.map fun entry => (change entry.1, entry.2)

/-- The ranks do not depend on the names of the entities, are equal for equal values, follow the
values, lie between zero and one, and are missing where the value is. -/
structure RankLaws (scores : FloatScores) (values : CrossSection) (method : String) : Prop where
  renames : forall change : Identifier -> Identifier, Function.Injective change ->
    normalizeCrossSection scores (values.rename change) method =
      (normalizeCrossSection scores values method).rename change
  ties : forall first second value, (first, some value) ∈ values -> (second, some value) ∈ values ->
    forall one other, (first, one) ∈ normalizeCrossSection scores values method ->
      (second, other) ∈ normalizeCrossSection scores values method -> one = other
  monotone : forall first second smaller larger, (first, some smaller) ∈ values ->
    (second, some larger) ∈ values -> smaller ≤ larger ->
      forall low high, (first, some low) ∈ normalizeCrossSection scores values method ->
        (second, some high) ∈ normalizeCrossSection scores values method -> low ≤ high
  unit : forall entityId rank,
    (entityId, some rank) ∈ normalizeCrossSection scores values method -> 0 ≤ rank ∧ rank ≤ 1
  missing : forall entityId, (entityId, none) ∈ normalizeCrossSection scores values method <->
    (entityId, none) ∈ values

/-- No two entities have the same value.  With a tie the code ranks by the name, since it sorts
the pairs of value and name. -/
def CrossSection.Untied (values : CrossSection) : Prop :=
  (values.filterMap Prod.snd).Nodup

/-! ## Places -/

section Places

variable {scores : FloatScores} {values : CrossSection} {method : String}
  {entityId : Identifier} {value : Rat}

/-- How many entities come before one that has the value. -/
def CrossSection.standing (values : CrossSection) (value : Rat) (entityId : Identifier) : Nat :=
  values.present.countP fun other => toLex other < toLex (value, entityId)

theorem mem_present : (value, entityId) ∈ values.present <-> (entityId, some value) ∈ values := by
  rw [CrossSection.present, List.mem_filterMap]
  constructor
  · rintro ⟨⟨other, found⟩, member, same⟩
    rcases Option.map_eq_some_iff.mp same with ⟨own, has, equal⟩
    cases equal
    exact has ▸ member
  · intro member
    exact ⟨(entityId, some value), member, rfl⟩

theorem present_ids (distinct : (values.map Prod.fst).Nodup) :
    (values.present.map Prod.snd).Nodup := by
  rw [List.Nodup, List.pairwise_map, CrossSection.present, List.pairwise_filterMap]
  refine (List.pairwise_map.mp distinct).imp fun different => ?_
  intro first firstFound second secondFound same
  rcases Option.map_eq_some_iff.mp firstFound with ⟨_, _, firstPair⟩
  rcases Option.map_eq_some_iff.mp secondFound with ⟨_, _, secondPair⟩
  subst firstPair secondPair
  exact different same

theorem present_keys (distinct : (values.map Prod.fst).Nodup) :
    (values.present.map toLex).Nodup :=
  (List.Nodup.of_map Prod.snd (present_ids distinct)).map toLex.injective

theorem present_values : values.present.map Prod.fst = values.filterMap Prod.snd := by
  rw [CrossSection.present, List.map_filterMap]
  congr 1
  funext entry
  cases entry.2 <;> rfl

theorem length_available : (available values).length = (values.filterMap Prod.snd).length := by
  rw [← present_values, List.length_map, available, length_sortedBy]

/-- The place of an entity is the number of entities before it. -/
theorem mem_places (distinct : (values.map Prod.fst).Nodup) {place : Nat} :
    ((value, entityId), place) ∈ (available values).zipIdx <->
      (entityId, some value) ∈ values ∧ place = values.standing value entityId := by
  rw [available, mem_zipIdx_sortedBy (present_keys distinct), mem_present]
  exact Iff.rfl

theorem rankOf_present (distinct : (values.map Prod.fst).Nodup)
    (member : (entityId, some value) ∈ values) :
    rankOf values entityId = some ((values.standing value entityId : Rat) / denominator values) := by
  have ids : ((available values).zipIdx.map fun place => place.1.2).Nodup := by
    have same : ((available values).zipIdx.map fun place => place.1.2) =
        (available values).map Prod.snd := by
      exact (List.map_map (f := Prod.fst) (g := Prod.snd)).symm.trans
        (congrArg (List.map Prod.snd) (List.zipIdx_map_fst 0 _))
    rw [same]
    exact ((List.perm_insertionSort _ _).map Prod.snd).nodup_iff.mpr (present_ids distinct)
  have found := Tables.lookup_of_mem ids ((mem_places distinct).mpr ⟨member, rfl⟩)
  rw [rankOf, found]
  rfl

theorem rankOf_missing (distinct : (values.map Prod.fst).Nodup)
    (member : (entityId, none) ∈ values) : rankOf values entityId = none := by
  rw [rankOf, Option.map_eq_none_iff]
  cases found : Tables.lookup (fun place => place.1.2) entityId (available values).zipIdx with
  | none => rfl
  | some place =>
      rcases place with ⟨⟨other, own⟩, index⟩
      rcases Tables.lookup_some found with ⟨listed, same⟩
      have valued := ((mem_places distinct).mp listed).1
      have equal := List.inj_on_of_nodup_map distinct member valued same.symm
      cases equal

theorem normalize_rank (rank : method = "rank" ∨ method = "percentile") :
    normalizeCrossSection scores values method =
      values.map fun entry => (entry.1, rankOf values entry.1) := by
  rw [normalizeCrossSection, if_pos rank]
  split
  · rename_i empty
    apply List.map_congr_left
    intro entry _
    rw [rankOf, empty]
    rfl
  · rfl

theorem mem_normalize (rank : method = "rank" ∨ method = "percentile")
    (distinct : (values.map Prod.fst).Nodup) {outcome : Option Rat} :
    (entityId, outcome) ∈ normalizeCrossSection scores values method <->
      exists given, (entityId, given) ∈ values ∧ outcome = given.map fun value =>
        (values.standing value entityId : Rat) / denominator values := by
  rw [normalize_rank rank, List.mem_map]
  constructor
  · rintro ⟨⟨own, given⟩, member, same⟩
    cases same
    refine ⟨given, member, ?_⟩
    cases given with
    | none => exact rankOf_missing distinct member
    | some value => exact rankOf_present distinct member
  · rintro ⟨given, member, same⟩
    refine ⟨(entityId, given), member, ?_⟩
    rw [same]
    cases given with
    | none => rw [rankOf_missing distinct member]; rfl
    | some value => rw [rankOf_present distinct member]; rfl

/-- What an entity with a value gets. -/
theorem mem_normalize_present (rank : method = "rank" ∨ method = "percentile")
    (distinct : (values.map Prod.fst).Nodup) (member : (entityId, some value) ∈ values)
    {outcome : Option Rat}
    (given : (entityId, outcome) ∈ normalizeCrossSection scores values method) :
    outcome = some ((values.standing value entityId : Rat) / denominator values) := by
  rcases (mem_normalize rank distinct).mp given with ⟨other, listed, same⟩
  have equal := List.inj_on_of_nodup_map distinct listed member rfl
  cases equal
  exact same

theorem denominator_pos : (0 : Rat) < denominator values := by
  have positive : 0 < denominator values := lt_of_lt_of_le Nat.zero_lt_one (le_max_left _ _)
  exact_mod_cast positive

theorem standing_le (distinct : (values.map Prod.fst).Nodup)
    (member : (entityId, some value) ∈ values) :
    values.standing value entityId ≤ denominator values := by
  have place := (mem_places distinct).mpr ⟨member, rfl⟩
  have bound := List.snd_lt_of_mem_zipIdx place
  have within := le_max_right 1 ((available values).length - 1)
  rw [denominator]
  omega

theorem standing_inj (distinct : (values.map Prod.fst).Nodup) {first second : Identifier}
    {one other : Rat} (firstMember : (first, some one) ∈ values)
    (secondMember : (second, some other) ∈ values)
    (same : values.standing one first = values.standing other second) : first = second := by
  have firstPlace := (mem_places distinct).mpr ⟨firstMember, rfl⟩
  have secondPlace := (mem_places distinct).mpr ⟨secondMember, rfl⟩
  rw [List.mk_mem_zipIdx_iff_getElem?] at firstPlace secondPlace
  rw [same, secondPlace] at firstPlace
  exact (congrArg Prod.snd (Option.some.inj firstPlace)).symm

end Places

/-! ## Values without ties -/

section Untied

variable {scores : FloatScores} {values : CrossSection} {method : String}

/-- Without ties the place of an entity is the number of smaller values. -/
theorem standing_untied (untied : values.Untied) {entityId : Identifier} {value : Rat}
    (member : (entityId, some value) ∈ values) :
    values.standing value entityId =
      (values.filterMap Prod.snd).countP fun other => other < value := by
  have valuesApart : (values.present.map Prod.fst).Nodup := present_values ▸ untied
  rw [CrossSection.standing, ← present_values, List.countP_map]
  apply List.countP_congr
  rintro ⟨other, otherId⟩ listed
  rw [decide_eq_true_iff, Function.comp_apply, decide_eq_true_iff, Prod.Lex.toLex_lt_toLex]
  constructor
  · rintro (less | ⟨equal, before⟩)
    · exact less
    · have row := List.inj_on_of_nodup_map valuesApart listed (mem_present.mpr member) equal
      cases row
      exact absurd before (lt_irrefl _)
  · exact Or.inl

/-- The normalization of values without ties does not look at the identifiers. -/
theorem normalize_untied (rank : method = "rank" ∨ method = "percentile") (untied : values.Untied)
    (distinct : (values.map Prod.fst).Nodup) :
    normalizeCrossSection scores values method = values.map fun entry =>
      (entry.1, entry.2.map fun value =>
        (((values.filterMap Prod.snd).countP fun other => other < value : Nat) : Rat) /
          (max 1 ((values.filterMap Prod.snd).length - 1) : Nat)) := by
  rw [normalize_rank rank]
  apply List.map_congr_left
  rintro ⟨entityId, given⟩ member
  cases given with
  | none => rw [rankOf_missing distinct member]; rfl
  | some value =>
      rw [rankOf_present distinct member, standing_untied untied member, denominator,
        length_available]
      rfl

theorem filterMap_rename (change : Identifier -> Identifier) :
    (values.rename change).filterMap Prod.snd = values.filterMap Prod.snd := by
  rw [CrossSection.rename, List.filterMap_map]
  rfl

/-- The ranks follow the values, whatever the names of the entities are, exactly when no two
entities tie.  The other normalizations give equal values equal results. -/
theorem normalize_rankLaws_iff (scores : FloatScores) (values : CrossSection) (method : String)
    (rank : method = "rank" ∨ method = "percentile") (distinct : (values.map Prod.fst).Nodup) :
    RankLaws scores values method <-> values.Untied := by
  constructor
  · intro laws
    rw [CrossSection.Untied, List.Nodup, List.pairwise_filterMap]
    refine (List.pairwise_map.mp distinct).imp_of_mem ?_
    rintro ⟨first, _⟩ ⟨second, _⟩ firstMember secondMember different value found other otherFound same
    cases found
    cases otherFound
    subst same
    have given : forall entityId, (entityId, some value) ∈ values ->
        (entityId, some ((values.standing value entityId : Rat) / denominator values)) ∈
          normalizeCrossSection scores values method := by
      intro entityId member
      exact (mem_normalize rank distinct).mpr ⟨_, member, rfl⟩
    have equal := laws.ties first second value firstMember secondMember _ _
      (given first firstMember) (given second secondMember)
    have places := (div_left_inj' denominator_pos.ne').mp (Option.some.inj equal)
    exact different (standing_inj distinct firstMember secondMember (by exact_mod_cast places))
  · intro untied
    refine ⟨?_, ?_, ?_, ?_, ?_⟩
    · intro change injective
      have renamedDistinct : ((values.rename change).map Prod.fst).Nodup := by
        have same : (values.rename change).map Prod.fst = (values.map Prod.fst).map change := by
          rw [CrossSection.rename, List.map_map, List.map_map]
          rfl
        exact same ▸ distinct.map injective
      have renamedUntied : (values.rename change).Untied := by
        rw [CrossSection.Untied, filterMap_rename]
        exact untied
      rw [normalize_untied rank renamedUntied renamedDistinct, filterMap_rename,
        normalize_untied rank untied distinct, CrossSection.rename, CrossSection.rename,
        List.map_map, List.map_map]
      rfl
    · intro first second value firstMember secondMember one other firstGiven secondGiven
      rw [mem_normalize_present rank distinct firstMember firstGiven,
        mem_normalize_present rank distinct secondMember secondGiven,
        standing_untied untied firstMember, standing_untied untied secondMember]
    · intro first second smaller larger firstMember secondMember order low high firstGiven
        secondGiven
      rw [Option.some.inj (mem_normalize_present rank distinct firstMember firstGiven),
        Option.some.inj (mem_normalize_present rank distinct secondMember secondGiven)]
      apply div_le_div_of_nonneg_right _ denominator_pos.le
      rw [standing_untied untied firstMember, standing_untied untied secondMember]
      have fewer : ((values.filterMap Prod.snd).countP fun other => other < smaller) ≤
          (values.filterMap Prod.snd).countP fun other => other < larger := by
        apply List.countP_mono_left
        intro other _ before
        exact decide_eq_true (lt_of_lt_of_le (of_decide_eq_true before) order)
      exact_mod_cast fewer
    · intro entityId place given
      rcases (mem_normalize rank distinct).mp given with ⟨found, member, same⟩
      cases found with
      | none => cases same
      | some value =>
          rw [Option.some.inj same]
          refine ⟨div_nonneg (Nat.cast_nonneg _) denominator_pos.le, ?_⟩
          rw [div_le_one denominator_pos]
          exact_mod_cast standing_le distinct member
    · intro entityId
      rw [mem_normalize rank distinct]
      constructor
      · rintro ⟨given, member, same⟩
        cases given with
        | none => exact member
        | some value => cases same
      · exact fun member => ⟨none, member, rfl⟩

end Untied

/-! ## Two entities that tie -/

def plainScores : FloatScores := ⟨fun _ value => value, id⟩

def tiedPair : CrossSection := [(0, some 1), (1, some 1)]

theorem tiedPair_ranks :
    normalizeCrossSection plainScores tiedPair "percentile" = [(0, some 0), (1, some 1)] := by
  decide +kernel

theorem tiedPair_breaks :
    ¬ forall (values : CrossSection) (method : String),
      method = "rank" ∨ method = "percentile" -> (values.map Prod.fst).Nodup ->
        RankLaws plainScores values method := by
  intro laws
  have ties := (laws tiedPair "percentile" (Or.inr rfl) (by decide)).ties 0 1 1 (by decide)
    (by decide) (some 0) (some 1)
  rw [tiedPair_ranks] at ties
  exact absurd (ties (by decide) (by decide)) (by decide)

/-- Three entities with different values, and one without a value. -/
theorem untied_rankLaws :
    RankLaws plainScores [(3, some 2), (0, none), (2, some (-1)), (1, some (1 / 2))] "rank" := by
  apply (normalize_rankLaws_iff _ _ _ (Or.inl rfl) (by decide)).mpr
  rw [CrossSection.Untied]
  decide +kernel

end Research
end MarketIntelligence
