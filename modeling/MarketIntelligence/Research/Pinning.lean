import MarketIntelligence.Research.FeatureStore
import MarketIntelligence.Foundations.Loops
import MarketIntelligence.Foundations.Runs
import Mathlib.Algebra.Order.BigOperators.Group.List

namespace MarketIntelligence
namespace Research

open Foundations
open SortedLists
open Loops

/-!
# Which version a matrix reads

A feature set pins versions, and the matrix looks its features up by their keys, in the
latest version there is.  The two are the same as long as the pinned versions are the
latest ones, or the latest ones have no values yet; and a later version empties the
cells of its feature.
-/

/-! ## The matrix without its loops -/

section Cells

variable (store : FeatureStore) (request : MatrixRequest)

/-- The value of a cell, when the feature is known. -/
def chosen (entityId : Identifier) (feature : PinnedFeature) : Option FeatureValue :=
  match definitionAndVersion store (.key feature.definition.featureKey) request.workspaceId with
  | .ok (_, version) => valueOf store request.workspaceId version.id entityId request.asOf
  | .error _ => none

def chosenRow (frame : MatrixFrame) (member : ResearchUniverseMembership) : SelectedRow :=
  ⟨member.entityId, frame.features.map fun feature =>
    ⟨member.entityId, feature, chosen store request member.entityId feature⟩⟩

def chosenRows (frame : MatrixFrame) : List SelectedRow :=
  frame.members.map (chosenRow store request frame)

/-- Every feature that a cell asks for is known. -/
def Resolved (frame : MatrixFrame) : Prop :=
  forall member, member ∈ frame.members -> forall feature, feature ∈ frame.features ->
    exists definition version,
      definitionAndVersion store (.key feature.definition.featureKey) request.workspaceId =
        .ok (definition, version)

variable {store request}

theorem getFeatureAsOf_ok_iff {entityId : Identifier} {feature : PinnedFeature}
    {value : Option FeatureValue} :
    getFeatureAsOf store (.key feature.definition.featureKey) entityId request.asOf
        request.workspaceId = .ok value <->
      (exists definition version,
        definitionAndVersion store (.key feature.definition.featureKey) request.workspaceId =
          .ok (definition, version)) ∧ value = chosen store request entityId feature := by
  unfold getFeatureAsOf chosen
  cases definitionAndVersion store (.key feature.definition.featureKey) request.workspaceId with
  | error raised =>
      constructor
      · intro impossible
        cases impossible
      · rintro ⟨⟨_, _, impossible⟩, _⟩
        cases impossible
  | ok resolved =>
      rcases resolved with ⟨definition, version⟩
      constructor
      · intro done
        cases done
        exact ⟨⟨definition, version, rfl⟩, rfl⟩
      · rintro ⟨_, same⟩
        rw [same]
        rfl

theorem selectRow_ok_iff {features : List PinnedFeature} {member : ResearchUniverseMembership}
    {selections : List Selection} :
    selectRow store request features member = .ok selections <->
      (forall feature, feature ∈ features -> exists definition version,
        definitionAndVersion store (.key feature.definition.featureKey) request.workspaceId =
          .ok (definition, version)) ∧
      selections = features.map fun feature =>
        ⟨member.entityId, feature, chosen store request member.entityId feature⟩ := by
  have cell : forall feature selection,
      (do
        let value ← getFeatureAsOf store (.key feature.definition.featureKey) member.entityId
          request.asOf request.workspaceId
        return (⟨member.entityId, feature, value⟩ : Selection)) =
          (.ok selection : Except ResearchError Selection) <->
      (exists definition version,
        definitionAndVersion store (.key feature.definition.featureKey) request.workspaceId =
          .ok (definition, version)) ∧
      selection = ⟨member.entityId, feature, chosen store request member.entityId feature⟩ := by
    intro feature selection
    constructor
    · intro done
      rcases except_bind_ok done with ⟨value, found, ends⟩
      cases ends
      rcases getFeatureAsOf_ok_iff.mp found with ⟨known, same⟩
      exact ⟨known, same ▸ rfl⟩
    · rintro ⟨known, same⟩
      subst same
      rw [except_bind_eq (getFeatureAsOf_ok_iff.mpr ⟨known, rfl⟩)]
      rfl
  rw [selectRow, except_mapM_ok_iff fun feature selection done => ((cell feature selection).mp done).2]
  refine and_congr_left fun _ => forall_congr' fun feature => imp_congr_right fun _ => ?_
  rw [cell]
  exact and_iff_left rfl

theorem selectRows_ok_iff {frame : MatrixFrame} {rows : List SelectedRow} :
    selectRows store request frame = .ok rows <->
      Resolved store request frame ∧ rows = chosenRows store request frame := by
  have row : forall member selected,
      (do
        let selections ← selectRow store request frame.features member
        return (⟨member.entityId, selections⟩ : SelectedRow)) =
          (.ok selected : Except ResearchError SelectedRow) <->
      (forall feature, feature ∈ frame.features -> exists definition version,
        definitionAndVersion store (.key feature.definition.featureKey) request.workspaceId =
          .ok (definition, version)) ∧ selected = chosenRow store request frame member := by
    intro member selected
    constructor
    · intro done
      rcases except_bind_ok done with ⟨selections, found, ends⟩
      cases ends
      rcases selectRow_ok_iff.mp found with ⟨known, same⟩
      exact ⟨known, same ▸ rfl⟩
    · rintro ⟨known, same⟩
      subst same
      rw [except_bind_eq (selectRow_ok_iff.mpr ⟨known, rfl⟩)]
      rfl
  rw [selectRows, except_mapM_ok_iff fun member selected done => ((row member selected).mp done).2]
  refine and_congr_left fun _ => forall_congr' fun member => imp_congr_right fun _ => ?_
  rw [row]
  exact and_iff_left rfl

/-- A matrix is returned when every feature that it asks for is known. -/
theorem getFeatureMatrixAsOf_ok_iff {matrix : FeatureMatrix} :
    getFeatureMatrixAsOf store request = .ok matrix <->
      exists frame, matrixFrame store request = .ok frame ∧ Resolved store request frame ∧
        matrix = assemble request frame (chosenRows store request frame) := by
  constructor
  · intro done
    rcases except_bind_ok done with ⟨frame, framed, rest⟩
    rcases except_bind_ok rest with ⟨rows, selected, ends⟩
    cases ends
    rcases selectRows_ok_iff.mp selected with ⟨resolved, same⟩
    exact ⟨frame, framed, resolved, same ▸ rfl⟩
  · rintro ⟨frame, framed, resolved, same⟩
    subst same
    rw [getFeatureMatrixAsOf, except_bind_eq framed,
      except_bind_eq (selectRows_ok_iff.mpr ⟨resolved, rfl⟩)]
    rfl

end Cells

/-! ## Pinned versions -/

/-- Every value of the matrix belongs to the version that its feature is pinned to, and
was eligible. -/
def Pinned (store : FeatureStore) (request : MatrixRequest) : Prop :=
  forall frame rows, matrixFrame store request = .ok frame ->
    selectRows store request frame = .ok rows ->
    forall row, row ∈ rows -> forall selection, selection ∈ row.selections ->
      forall value, selection.value = some value ->
        value.featureVersionId = selection.feature.version.id ∧
          value.simulationEligibleTime ≤ request.asOf

/-- For every pinned feature, the latest version of its key is the pinned one, or the latest one
has no value that is eligible at the instant.  The matrix reads the latest one. -/
def PinsLatest (store : FeatureStore) (request : MatrixRequest) : Prop :=
  forall frame, matrixFrame store request = .ok frame ->
    forall member, member ∈ frame.members -> forall feature, feature ∈ frame.features ->
      forall definition version,
        definitionAndVersion store (.key feature.definition.featureKey) request.workspaceId =
          .ok (definition, version) ->
        version.id = feature.version.id ∨
          valueOf store request.workspaceId version.id member.entityId request.asOf = none

/-- A version that the constraints permit becomes the latest version of a feature that
has a value in the matrix. -/
def Supersedes (request : MatrixRequest) (store : FeatureStore) : Addition -> Prop
  | .version row =>
      FreshVersion store row ∧
        exists frame, matrixFrame store request = .ok frame ∧
          exists member, member ∈ frame.members ∧ exists feature, feature ∈ frame.features ∧
            exists definition version,
              definitionAndVersion store (.key feature.definition.featureKey)
                request.workspaceId = .ok (definition, version) ∧
              row.featureDefinitionId = definition.id ∧ version.version < row.version ∧
              valueOf store request.workspaceId version.id member.entityId request.asOf ≠ none
  | .value _ => False

/-- A version, or a value that is eligible or observed only after the instant. -/
def LaterAddition (asOf : Instant) : Addition -> Prop
  | .version _ => True
  | .value row => asOf < row.simulationEligibleTime ∨ asOf < row.observationTime

section Values

variable {store : FeatureStore} {request : MatrixRequest}
  {workspaceId versionId entityId : Identifier} {asOf : Instant} {value : FeatureValue}

theorem valueOf_some (found : valueOf store workspaceId versionId entityId asOf = some value) :
    value ∈ store.values ∧ eligibleValue workspaceId versionId entityId asOf value = true :=
  List.mem_filter.mp (head?_sortedBy found).1

theorem valueOf_version (found : valueOf store workspaceId versionId entityId asOf = some value) :
    value.featureVersionId = versionId ∧ value.simulationEligibleTime ≤ asOf := by
  have eligible := (valueOf_some found).2
  simp only [eligibleValue, Bool.and_eq_true, decide_eq_true_eq] at eligible
  exact ⟨eligible.1.1.1.1.2, eligible.1.1.2⟩

theorem chosen_resolved {feature : PinnedFeature} {definition : FeatureDefinition}
    {version : FeatureDefinitionVersion}
    (resolved : definitionAndVersion store (.key feature.definition.featureKey)
      request.workspaceId = .ok (definition, version)) :
    chosen store request entityId feature =
      valueOf store request.workspaceId version.id entityId request.asOf := by
  simp only [chosen, resolved]

/-- The values of a matrix are those of the latest versions. -/
theorem pinned_iff {matrix : FeatureMatrix}
    (returned : getFeatureMatrixAsOf store request = .ok matrix) :
    Pinned store request <-> PinsLatest store request := by
  rcases getFeatureMatrixAsOf_ok_iff.mp returned with ⟨frame, framed, resolved, _⟩
  constructor
  · intro pinned other framedOther member here feature listed definition version known
    have same : other = frame := Except.ok.inj (framedOther.symm.trans framed)
    subst same
    have cell : chosen store request member.entityId feature =
        valueOf store request.workspaceId version.id member.entityId request.asOf :=
      chosen_resolved known
    cases found : valueOf store request.workspaceId version.id member.entityId request.asOf with
    | none => exact Or.inr rfl
    | some value =>
        rw [found] at cell
        have belongs := pinned other _ framed (selectRows_ok_iff.mpr ⟨resolved, rfl⟩)
          (chosenRow store request other member) (List.mem_map_of_mem here)
          ⟨member.entityId, feature, chosen store request member.entityId feature⟩
          (List.mem_map_of_mem listed) value cell
        exact Or.inl ((valueOf_version found).1.symm.trans belongs.1)
  · intro latest other rows framedOther selected row member selection listed value carried
    have same : other = frame := Except.ok.inj (framedOther.symm.trans framed)
    subst same
    rw [(selectRows_ok_iff.mp selected).2] at member
    rcases List.mem_map.mp member with ⟨entity, here, sameRow⟩
    subst sameRow
    rcases List.mem_map.mp listed with ⟨feature, known, sameSelection⟩
    subst sameSelection
    rcases resolved entity here feature known with ⟨definition, version, found⟩
    have carriedValue : valueOf store request.workspaceId version.id entity.entityId request.asOf =
        some value :=
      (chosen_resolved found).symm.trans carried
    rcases latest other framed entity here feature known definition version found with
      pinned | empty
    · exact ⟨(valueOf_version carriedValue).1.trans pinned, (valueOf_version carriedValue).2⟩
    · rw [empty] at carriedValue
      cases carriedValue

end Values

/-! ## One addition -/

section Additions

variable {store : FeatureStore} {request : MatrixRequest}

/-- The latest version of a definition is the one with the highest number. -/
theorem latestVersion_iff {definitionId : Identifier} {version : FeatureDefinitionVersion} :
    latestVersion store definitionId = some version <->
      version ∈ store.versions ∧ version.featureDefinitionId = definitionId ∧
        forall other, other ∈ store.versions -> other.featureDefinitionId = definitionId ->
          other.version ≤ version.version := by
  have highest : forall {row}, latestVersion store definitionId = some row ->
      (row ∈ store.versions ∧ row.featureDefinitionId = definitionId) ∧
        forall other, other ∈ store.versions -> other.featureDefinitionId = definitionId ->
          other.version ≤ row.version := by
    intro row found
    rcases head?_sortedBy found with ⟨member, least⟩
    rw [List.mem_filter, decide_eq_true_eq] at member
    refine ⟨member, fun other known same => ?_⟩
    exact OrderDual.toDual_le_toDual.mp
      (least other (List.mem_filter.mpr ⟨known, decide_eq_true same⟩))
  constructor
  · intro found
    rcases highest found with ⟨⟨member, same⟩, above⟩
    exact ⟨member, same, above⟩
  · rintro ⟨member, same, above⟩
    cases found : latestVersion store definitionId with
    | none =>
        rw [latestVersion, List.head?_eq_none_iff] at found
        have listed : version ∈ sortedBy
            (fun row : FeatureDefinitionVersion => OrderDual.toDual row.version)
            (store.versions.filter fun row => row.featureDefinitionId = definitionId) :=
          mem_sortedBy.mpr (List.mem_filter.mpr ⟨member, decide_eq_true same⟩)
        rw [found] at listed
        cases listed
    | some row =>
        rcases highest found with ⟨⟨known, sameRow⟩, aboveRow⟩
        have equal : row.version = version.version :=
          le_antisymm (above row known sameRow) (aboveRow version member same)
        rw [List.inj_on_of_nodup_map store.numbers_nodup known member
          (Prod.ext (sameRow.trans same.symm) equal)]

theorem add_version {row : FeatureDefinitionVersion} (fresh : FreshVersion store row) :
    (store.add (.version row)).versions = store.versions ++ [row] ∧
      (store.add (.version row)).values = store.values ∧
      (store.add (.version row)).definitions = store.definitions ∧
      (store.add (.version row)).memberships = store.memberships ∧
      (store.add (.version row)).sets = store.sets ∧
      (store.add (.version row)).universes = store.universes ∧
      (store.add (.version row)).universeVersions = store.universeVersions ∧
      (store.add (.version row)).universeMemberships = store.universeMemberships := by
  simp only [FeatureStore.add, dif_pos fresh, and_self]

theorem add_version_refused {row : FeatureDefinitionVersion} (taken : ¬ FreshVersion store row) :
    store.add (.version row) = store := by
  simp only [FeatureStore.add, dif_neg taken]

/-- The new version is the latest of its definition when its number is the highest. -/
theorem latestVersion_add {row : FeatureDefinitionVersion} (fresh : FreshVersion store row)
    {definitionId : Identifier} {version : FeatureDefinitionVersion}
    (latest : latestVersion store definitionId = some version) :
    latestVersion (store.add (.version row)) definitionId =
      if row.featureDefinitionId = definitionId ∧ version.version < row.version then some row
      else some version := by
  rcases latestVersion_iff.mp latest with ⟨member, same, above⟩
  have versions := (add_version fresh).1
  split
  · rename_i newer
    rw [latestVersion_iff, versions]
    refine ⟨List.mem_append_right _ (List.mem_singleton_self _), newer.1, ?_⟩
    intro other known mine
    rcases List.mem_append.mp known with old | new
    · exact le_of_lt (lt_of_le_of_lt (above other old mine) newer.2)
    · rw [List.mem_singleton.mp new]
  · rename_i older
    rw [latestVersion_iff, versions]
    refine ⟨List.mem_append_left _ member, same, ?_⟩
    intro other known mine
    rcases List.mem_append.mp known with old | new
    · exact above other old mine
    · rw [List.mem_singleton.mp new] at mine ⊢
      exact not_lt.mp fun less => older ⟨mine, less⟩

/-- A version that is new has no values. -/
theorem valueOf_fresh {row : FeatureDefinitionVersion} (fresh : FreshVersion store row)
    (workspaceId entityId : Identifier) (asOf : Instant) :
    valueOf store workspaceId row.id entityId asOf = none := by
  cases found : valueOf store workspaceId row.id entityId asOf with
  | none => rfl
  | some value =>
      have known := store.values_known value (valueOf_some found).1
      rw [(valueOf_version found).1] at known
      exact absurd known fresh.1

theorem pinnedFeature_add {row : FeatureDefinitionVersion} (fresh : FreshVersion store row)
    {membership : FeatureSetMembership} (member : membership ∈ store.memberships) :
    pinnedFeature (store.add (.version row)) membership = pinnedFeature store membership := by
  have found : Tables.lookup FeatureDefinitionVersion.id membership.featureVersionId
        (store.versions ++ [row]) =
      Tables.lookup FeatureDefinitionVersion.id membership.featureVersionId store.versions := by
    rcases List.mem_map.mp (store.memberships_known membership member) with ⟨version, known, same⟩
    have first : (Tables.lookup FeatureDefinitionVersion.id membership.featureVersionId
        store.versions).isSome = true :=
      List.find?_isSome.mpr ⟨version, known, decide_eq_true same⟩
    rcases Option.isSome_iff_exists.mp first with ⟨version, found⟩
    have whole : store.versions.find?
        (fun row => row.id = membership.featureVersionId) = some version := found
    rw [found, Tables.lookup, List.find?_append, whole]
    rfl
  rcases add_version fresh with ⟨versions, _, definitions, _⟩
  simp only [pinnedFeature, versions, definitions, found]

/-- An addition does not change what the loops run over. -/
theorem matrixFrame_add (addition : Addition) :
    matrixFrame (store.add addition) request = matrixFrame store request := by
  cases addition with
  | value row =>
      simp only [FeatureStore.add]
      split <;> rfl
  | version row =>
      by_cases fresh : FreshVersion store row
      · rcases add_version fresh with
          ⟨_, _, _, memberships, sets, universes, universeVersions, universeMemberships⟩
        have features : forall featureSet,
            featureVersionsForSet (store.add (.version row)) featureSet =
              featureVersionsForSet store featureSet := by
          intro featureSet
          simp only [featureVersionsForSet, memberships]
          apply List.filterMap_congr
          intro membership listed
          exact pinnedFeature_add fresh (List.mem_filter.mp (mem_sortedBy.mp listed)).1
        simp only [matrixFrame, sets, universes, universeVersionAsOf, universeVersions,
          membershipsAsOf, universeMemberships, features]
      · rw [add_version_refused fresh]

theorem definitionAndVersion_ok {feature : FeatureName} {workspaceId : Identifier}
    {definition : FeatureDefinition} {version : FeatureDefinitionVersion} :
    definitionAndVersion store feature workspaceId = .ok (definition, version) <->
      findDefinition store feature workspaceId = some definition ∧
        latestVersion store definition.id = some version := by
  unfold definitionAndVersion
  cases findDefinition store feature workspaceId with
  | none =>
      constructor
      · intro impossible
        cases impossible
      · rintro ⟨impossible, _⟩
        cases impossible
  | some found =>
      dsimp only
      cases latest : latestVersion store found.id with
      | none =>
          constructor
          · intro impossible
            cases impossible
          · rintro ⟨same, impossible⟩
            cases same
            rw [latest] at impossible
            cases impossible
      | some row =>
          constructor
          · intro same
            cases same
            exact ⟨rfl, latest⟩
          · rintro ⟨same, here⟩
            cases same
            rw [latest] at here
            cases here
            rfl

/-- What a later version does to a cell: it empties it, or leaves it. -/
theorem chosen_addVersion {row : FeatureDefinitionVersion} (fresh : FreshVersion store row)
    {feature : PinnedFeature} {definition : FeatureDefinition}
    {version : FeatureDefinitionVersion}
    (resolved : definitionAndVersion store (.key feature.definition.featureKey)
      request.workspaceId = .ok (definition, version)) (entityId : Identifier) :
    (exists latest, definitionAndVersion (store.add (.version row))
        (.key feature.definition.featureKey) request.workspaceId = .ok (definition, latest)) ∧
      chosen (store.add (.version row)) request entityId feature =
        if row.featureDefinitionId = definition.id ∧ version.version < row.version then none
        else chosen store request entityId feature := by
  rcases definitionAndVersion_ok.mp resolved with ⟨found, latest⟩
  rcases add_version fresh with ⟨_, values, definitions, _⟩
  have same : findDefinition (store.add (.version row)) (.key feature.definition.featureKey)
      request.workspaceId = some definition := by
    simp only [findDefinition, definitions]
    exact found
  have reads : forall versionId,
      valueOf (store.add (.version row)) request.workspaceId versionId entityId request.asOf =
        valueOf store request.workspaceId versionId entityId request.asOf := by
    intro versionId
    simp only [valueOf, values]
  have next := latestVersion_add fresh latest
  split at next
  · rename_i newer
    have known := definitionAndVersion_ok.mpr ⟨same, next⟩
    refine ⟨⟨row, known⟩, ?_⟩
    rw [if_pos newer, chosen_resolved known, reads, valueOf_fresh fresh]
  · rename_i older
    have known := definitionAndVersion_ok.mpr ⟨same, next⟩
    refine ⟨⟨version, known⟩, ?_⟩
    rw [if_neg older, chosen_resolved known, chosen_resolved resolved, reads]

/-- A value that comes later is not eligible at the instant. -/
theorem valueOf_addValue {row : FeatureValue} (later : LaterAddition request.asOf (.value row))
    (workspaceId versionId entityId : Identifier) :
    valueOf (store.add (.value row)) workspaceId versionId entityId request.asOf =
      valueOf store workspaceId versionId entityId request.asOf := by
  have hidden : eligibleValue workspaceId versionId entityId request.asOf row = false := by
    rcases later with eligible | observed
    · simp only [eligibleValue, decide_eq_false (not_le.mpr eligible), Bool.and_false,
        Bool.false_and]
    · simp only [eligibleValue, decide_eq_false (not_le.mpr observed), Bool.and_false,
        Bool.false_and]
  simp only [FeatureStore.add]
  split
  · simp only [valueOf, List.filter_append, List.filter_cons, hidden, List.filter_nil,
      List.append_nil, Bool.false_eq_true, if_false]
  · rfl

theorem definitionAndVersion_addValue (row : FeatureValue) (feature : FeatureName)
    (workspaceId : Identifier) :
    definitionAndVersion (store.add (.value row)) feature workspaceId =
      definitionAndVersion store feature workspaceId := by
  simp only [FeatureStore.add]
  split <;> rfl

/-- The features that are known stay known. -/
theorem resolved_add {frame : MatrixFrame} (resolved : Resolved store request frame)
    (addition : Addition) : Resolved (store.add addition) request frame := by
  intro member here feature listed
  rcases resolved member here feature listed with ⟨definition, version, known⟩
  cases addition with
  | value row => exact ⟨definition, version, (definitionAndVersion_addValue row _ _).trans known⟩
  | version row =>
      by_cases fresh : FreshVersion store row
      · rcases (chosen_addVersion fresh known member.entityId).1 with ⟨latest, next⟩
        exact ⟨definition, latest, next⟩
      · rw [add_version_refused fresh]
        exact ⟨definition, version, known⟩

/-- An addition that does not supersede a version in use leaves every cell. -/
theorem chosenRows_add {frame : MatrixFrame} {addition : Addition}
    (framed : matrixFrame store request = .ok frame) (resolved : Resolved store request frame)
    (later : LaterAddition request.asOf addition)
    (spared : ¬ Supersedes request store addition) :
    chosenRows (store.add addition) request frame = chosenRows store request frame := by
  apply List.map_congr_left
  intro member here
  have cells : forall feature, feature ∈ frame.features ->
      chosen (store.add addition) request member.entityId feature =
        chosen store request member.entityId feature := by
    intro feature listed
    rcases resolved member here feature listed with ⟨definition, version, known⟩
    cases addition with
    | value row =>
        rw [chosen_resolved known,
          chosen_resolved ((definitionAndVersion_addValue row _ _).trans known)]
        exact valueOf_addValue later _ _ _
    | version row =>
        by_cases fresh : FreshVersion store row
        · rw [(chosen_addVersion fresh known member.entityId).2]
          split
          · rename_i newer
            cases found : chosen store request member.entityId feature with
            | none => rfl
            | some value =>
                rw [chosen_resolved known] at found
                exact absurd ⟨fresh, frame, framed, member, here, feature, listed, definition,
                  version, known, newer.1, newer.2, by rw [found]; exact Option.some_ne_none value⟩
                  spared
          · rfl
        · rw [add_version_refused fresh]
  simp only [chosenRow, SelectedRow.mk.injEq, true_and]
  apply List.map_congr_left
  intro feature listed
  rw [cells feature listed]

end Additions

/-! ## The values of a matrix counted -/

section Counting

variable {β γ : Type}

theorem length_filterMap_le {items : List β} {new old : β -> Option γ}
    (below : forall item, item ∈ items -> (new item).isSome = true -> (old item).isSome = true) :
    (items.filterMap new).length ≤ (items.filterMap old).length := by
  rw [List.length_filterMap_eq_countP, List.length_filterMap_eq_countP]
  exact List.countP_mono_left below

theorem length_filterMap_lt {items : List β} {new old : β -> Option γ}
    (below : forall item, item ∈ items -> (new item).isSome = true -> (old item).isSome = true)
    (lost : exists item, item ∈ items ∧ new item = none ∧ (old item).isSome = true) :
    (items.filterMap new).length < (items.filterMap old).length := by
  induction items with
  | nil =>
      rcases lost with ⟨_, impossible, _⟩
      cases impossible
  | cons head tail ih =>
      have rest : forall item, item ∈ tail -> (new item).isSome = true ->
          (old item).isSome = true :=
        fun item member => below item (List.mem_cons_of_mem _ member)
      have fewer := length_filterMap_le rest
      rcases lost with ⟨item, member, gone, was⟩
      rcases List.mem_cons.mp member with same | later
      · subst same
        rcases Option.isSome_iff_exists.mp was with ⟨value, found⟩
        rw [List.filterMap_cons_none gone, List.filterMap_cons_some found, List.length_cons]
        omega
      · have less := ih rest ⟨item, later, gone, was⟩
        cases now : new head with
        | none =>
            rw [List.filterMap_cons_none now]
            cases before : old head with
            | none =>
                rw [List.filterMap_cons_none before]
                exact less
            | some value =>
                rw [List.filterMap_cons_some before, List.length_cons]
                omega
        | some value =>
            have was := below head List.mem_cons_self (by rw [now]; rfl)
            rcases Option.isSome_iff_exists.mp was with ⟨earlier, before⟩
            rw [List.filterMap_cons_some now, List.filterMap_cons_some before, List.length_cons,
              List.length_cons]
            omega

end Counting

section Matrices

variable {store : FeatureStore} {request : MatrixRequest} {frame : MatrixFrame}
  {matrix : FeatureMatrix}

theorem featureValueIds_assemble :
    (assemble request frame (chosenRows store request frame)).featureValueIds =
      frame.members.flatMap fun member => frame.features.filterMap fun feature =>
        (chosen store request member.entityId feature).map FeatureValue.id := by
  simp only [assemble, chosenRows, chosenRow, List.flatMap_map, List.filterMap_map]
  rfl

/-- A version that supersedes one in use takes values out of the matrix. -/
theorem featureValueIds_superseded {addition : Addition}
    (framed : matrixFrame store request = .ok frame) (resolved : Resolved store request frame)
    (supersedes : Supersedes request store addition) :
    (assemble request frame (chosenRows (store.add addition) request frame)).featureValueIds.length <
      (assemble request frame (chosenRows store request frame)).featureValueIds.length := by
  cases addition with
  | value row => cases supersedes
  | version row =>
      rcases supersedes with ⟨fresh, other, framedOther, member, here, feature, listed,
        definition, version, known, mine, newer, valued⟩
      have same : other = frame := Except.ok.inj (framedOther.symm.trans framed)
      subst same
      have below : forall member, member ∈ other.members -> forall feature,
          feature ∈ other.features ->
          ((chosen (store.add (.version row)) request member.entityId feature).map
            FeatureValue.id).isSome = true ->
          ((chosen store request member.entityId feature).map FeatureValue.id).isSome = true := by
        intro member here feature listed kept
        rcases resolved member here feature listed with ⟨definition, version, known⟩
        rw [(chosen_addVersion fresh known member.entityId).2] at kept
        split at kept
        · cases kept
        · exact kept
      rw [featureValueIds_assemble, featureValueIds_assemble, List.length_flatMap,
        List.length_flatMap]
      apply List.sum_lt_sum
      · exact fun member here => length_filterMap_le (below member here)
      · refine ⟨member, here, length_filterMap_lt (below member here) ⟨feature, listed, ?_, ?_⟩⟩
        · rw [(chosen_addVersion fresh known member.entityId).2, if_pos ⟨mine, newer⟩]
          rfl
        · rw [chosen_resolved known, Option.isSome_map]
          exact Option.isSome_iff_ne_none.mpr valued

/-- The step lemma: a later addition leaves the matrix exactly when it does not supersede a
version in use. -/
theorem getFeatureMatrixAsOf_add_iff {addition : Addition}
    (returned : getFeatureMatrixAsOf store request = .ok matrix)
    (later : LaterAddition request.asOf addition) :
    getFeatureMatrixAsOf (store.add addition) request = .ok matrix <->
      ¬ Supersedes request store addition := by
  rcases getFeatureMatrixAsOf_ok_iff.mp returned with ⟨frame, framed, resolved, same⟩
  subst same
  constructor
  · intro kept supersedes
    rcases getFeatureMatrixAsOf_ok_iff.mp kept with ⟨other, framedOther, _, equal⟩
    rw [matrixFrame_add] at framedOther
    have sameFrame : other = frame := Except.ok.inj (framedOther.symm.trans framed)
    subst sameFrame
    have fewer := featureValueIds_superseded framed resolved supersedes
    rw [← equal] at fewer
    exact absurd fewer (lt_irrefl _)
  · intro spared
    refine getFeatureMatrixAsOf_ok_iff.mpr ⟨frame, ?_, resolved_add resolved addition, ?_⟩
    · rw [matrixFrame_add]
      exact framed
    · rw [chosenRows_add framed resolved later spared]

end Matrices

/-! ## Every sequence of later additions -/

section Runs

variable {store : FeatureStore} {request : MatrixRequest} {matrix : FeatureMatrix}

/-- Where the cells stay as they are, so do the versions they are from. -/
theorem pinned_add {addition : Addition}
    (returned : getFeatureMatrixAsOf store request = .ok matrix)
    (later : LaterAddition request.asOf addition)
    (spared : ¬ Supersedes request store addition) (pinned : Pinned store request) :
    Pinned (store.add addition) request := by
  rcases getFeatureMatrixAsOf_ok_iff.mp returned with ⟨frame, framed, resolved, _⟩
  intro other rows framedOther selected
  rw [matrixFrame_add] at framedOther
  have same : other = frame := Except.ok.inj (framedOther.symm.trans framed)
  subst same
  have rowsSame : rows = chosenRows store request other := by
    rw [(selectRows_ok_iff.mp selected).2]
    exact chosenRows_add framed resolved later spared
  exact pinned other rows framed (selectRows_ok_iff.mpr ⟨resolved, rowsSame⟩)

/-- The matrix of an instant keeps to the pinned versions and stays as it is through
later additions exactly when it begins with them, and no addition supersedes a version in
use. -/
theorem matrix_states_iff (returned : getFeatureMatrixAsOf store request = .ok matrix)
    {additions : List Addition}
    (later : forall addition, addition ∈ additions -> LaterAddition request.asOf addition) :
    (forall visited, visited ∈ Runs.states FeatureStore.add store additions ->
      Pinned visited request ∧ getFeatureMatrixAsOf visited request = .ok matrix) <->
      PinsLatest store request ∧
        Runs.Along FeatureStore.add
          (fun state addition => ¬ Supersedes request state addition) store additions := by
  have decided : Pinned store request ->
      ((forall visited, visited ∈ Runs.states FeatureStore.add store additions ->
        Pinned visited request ∧ getFeatureMatrixAsOf visited request = .ok matrix) <->
        Runs.Along FeatureStore.add
          (fun state addition => ¬ Supersedes request state addition) store additions) := by
    intro pinned
    apply Runs.allowed_states_iff_along
      (motive := fun state : FeatureStore => Pinned state request ∧
        getFeatureMatrixAsOf state request = .ok matrix) _ later ⟨pinned, returned⟩
    intro state addition allowed holds
    constructor
    · intro kept
      exact (getFeatureMatrixAsOf_add_iff holds.2 allowed).mp kept.2
    · intro spared
      exact ⟨pinned_add holds.2 allowed spared holds.1,
        (getFeatureMatrixAsOf_add_iff holds.2 allowed).mpr spared⟩
  rw [← pinned_iff returned]
  constructor
  · intro kept
    have pinned := (kept store (Runs.start_mem_states store additions)).1
    exact ⟨pinned, (decided pinned).mp kept⟩
  · rintro ⟨pinned, along⟩
    exact (decided pinned).mpr along

end Runs

/-! ## A second version of a feature -/

def growthValue : FeatureValue where
  id := 60
  workspaceId := 0
  featureVersionId := 30
  entityId := 70
  observationTime := 1
  simulationEligibleTime := 2
  createdAt := 3
  numericValue := some (1 / 10)
  textValue := none
  qualityState := .complete

/-- One feature with one version, which a set pins, and a universe of one company. -/
def growthStore : FeatureStore where
  definitions := [⟨20, 0, "revenue_growth_yoy"⟩]
  versions := [⟨30, 20, 1⟩]
  sets := [⟨40, 0⟩]
  memberships := [⟨40, 30, 0⟩]
  values := [growthValue]
  universes := [⟨50, 0⟩]
  universeVersions := [⟨51, 50, 1, 0, none, 0⟩]
  universeMemberships := [⟨51, 70, 0, none, 0⟩]
  numbers_nodup := by decide
  memberships_known := by decide
  values_known := by decide

def growthRequest : MatrixRequest := ⟨.id 40, .id 50, 5, 0⟩

def growthMatrix : FeatureMatrix where
  asOfTime := 5
  universeVersionId := 51
  featureKeys := ["revenue_growth_yoy"]
  entityIds := [70]
  values := [(70, [("revenue_growth_yoy", some (.number (1 / 10)))])]
  featureValueIds := [60]
  missing := [(70, [])]

theorem growthMatrix_returned :
    getFeatureMatrixAsOf growthStore growthRequest = .ok growthMatrix := by
  decide +kernel

/-- A revision that is eligible later leaves the matrix. -/
theorem growthRevision_kept :
    (forall visited, visited ∈ Runs.states FeatureStore.add growthStore
        [.value { growthValue with id := 61, simulationEligibleTime := 9 }] ->
      Pinned visited growthRequest ∧
        getFeatureMatrixAsOf visited growthRequest = .ok growthMatrix) <->
      PinsLatest growthStore growthRequest ∧
        Runs.Along FeatureStore.add
          (fun state addition => ¬ Supersedes growthRequest state addition) growthStore
          [.value { growthValue with id := 61, simulationEligibleTime := 9 }] := by
  refine matrix_states_iff growthMatrix_returned ?_
  intro addition member
  rw [List.mem_singleton.mp member]
  exact Or.inl (by decide)

/-- A second version has no values, and the matrix of the past has none either. -/
theorem secondVersion_empties :
    ¬ forall additions : List Addition, (forall addition, addition ∈ additions ->
        LaterAddition growthRequest.asOf addition) ->
      getFeatureMatrixAsOf (additions.foldl FeatureStore.add growthStore) growthRequest =
        getFeatureMatrixAsOf growthStore growthRequest := by
  intro kept
  have same := kept [.version ⟨31, 20, 2⟩] (by
    intro addition member
    rw [List.mem_singleton.mp member]
    trivial)
  exact absurd same (by decide +kernel)

end Research
end MarketIntelligence
