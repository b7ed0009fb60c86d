import MarketIntelligence.Core.Values
import MarketIntelligence.Foundations.SortedLists
import MarketIntelligence.Foundations.Tables
import Mathlib.Data.Prod.Lex

namespace MarketIntelligence
namespace Research

open Foundations
open SortedLists

/-!
# The feature store

Features have versions, and values belong to a version.  A feature set names versions,
and a universe names entities, each for a time.  The store carries the keys and the
references of its tables.
-/

/-! ## Rows -/

structure FeatureDefinition where
  id : Identifier
  workspaceId : Identifier
  featureKey : String
  deriving DecidableEq, Repr

structure FeatureDefinitionVersion where
  id : Identifier
  featureDefinitionId : Identifier
  version : Int
  deriving DecidableEq, Repr

structure FeatureSet where
  id : Identifier
  workspaceId : Identifier
  deriving DecidableEq, Repr

structure FeatureSetMembership where
  featureSetId : Identifier
  featureVersionId : Identifier
  position : Int
  deriving DecidableEq, Repr

inductive QualityState where
  | complete
  | partialInputs
  | missingInputs
  | staleInputs
  | ambiguousInputs
  | lowConfidenceGraph
  | revised
  | temporallyUnsafe
  | failedComputation
  deriving DecidableEq, Repr

structure FeatureValue where
  id : Identifier
  workspaceId : Identifier
  featureVersionId : Identifier
  entityId : Identifier
  observationTime : Instant
  simulationEligibleTime : Instant
  createdAt : Instant
  numericValue : Option Rat
  textValue : Option String
  qualityState : QualityState
  deriving DecidableEq, Repr

structure ResearchUniverse where
  id : Identifier
  workspaceId : Identifier
  deriving DecidableEq, Repr

structure ResearchUniverseVersion where
  id : Identifier
  universeId : Identifier
  version : Int
  effectiveFrom : Instant
  effectiveTo : Option Instant
  simulationEligibleTime : Instant
  deriving DecidableEq, Repr

structure ResearchUniverseMembership where
  universeVersionId : Identifier
  entityId : Identifier
  validFrom : Instant
  validTo : Option Instant
  simulationEligibleTime : Instant
  deriving DecidableEq, Repr

structure FeatureStore where
  definitions : List FeatureDefinition
  versions : List FeatureDefinitionVersion
  sets : List FeatureSet
  memberships : List FeatureSetMembership
  values : List FeatureValue
  universes : List ResearchUniverse
  universeVersions : List ResearchUniverseVersion
  universeMemberships : List ResearchUniverseMembership
  numbers_nodup : (versions.map fun row => (row.featureDefinitionId, row.version)).Nodup
  memberships_known : forall row, row ∈ memberships ->
    row.featureVersionId ∈ versions.map FeatureDefinitionVersion.id
  values_known : forall row, row ∈ values ->
    row.featureVersionId ∈ versions.map FeatureDefinitionVersion.id

/-! ## One feature of one entity -/

/-- The `KeyError`s of the package. -/
inductive ResearchError where
  | key (message : String)
  deriving DecidableEq, Repr

/-- A feature is asked for by its key or by the identifier of its definition. -/
inductive FeatureName where
  | key (featureKey : String)
  | id (definitionId : Identifier)
  deriving DecidableEq, Repr

def FeatureName.text : FeatureName -> String
  | .key featureKey => featureKey
  | .id definitionId => toString definitionId

def FeatureName.names (feature : FeatureName) (definition : FeatureDefinition) : Bool :=
  match feature with
  | .key featureKey => definition.featureKey = featureKey
  | .id definitionId => definition.id = definitionId

def findDefinition (store : FeatureStore) (feature : FeatureName) (workspaceId : Identifier) :
    Option FeatureDefinition :=
  store.definitions.find? fun definition =>
    definition.workspaceId = workspaceId && feature.names definition

/-- The version of a definition with the highest number. -/
def latestVersion (store : FeatureStore) (definitionId : Identifier) :
    Option FeatureDefinitionVersion :=
  (sortedBy (fun row : FeatureDefinitionVersion => OrderDual.toDual row.version)
    (store.versions.filter fun row => row.featureDefinitionId = definitionId)).head?

/-- `_definition_and_version` -/
def definitionAndVersion (store : FeatureStore) (feature : FeatureName)
    (workspaceId : Identifier) :
    Except ResearchError (FeatureDefinition × FeatureDefinitionVersion) :=
  match findDefinition store feature workspaceId with
  | none => .error (.key ("Unknown feature: " ++ feature.text))
  | some definition =>
      match latestVersion store definition.id with
      | none => .error (.key ("Feature has no version: " ++ feature.text))
      | some version => .ok (definition, version)

def unsafeQuality : List QualityState := [.temporallyUnsafe, .failedComputation]

/-- The condition on the values of a version for an entity at an instant. -/
def eligibleValue (workspaceId versionId entityId : Identifier) (asOf : Instant)
    (value : FeatureValue) : Bool :=
  value.workspaceId = workspaceId && value.featureVersionId = versionId &&
    value.entityId = entityId && value.simulationEligibleTime ≤ asOf &&
    value.observationTime ≤ asOf && value.qualityState ∉ unsafeQuality

/-- The value that was observed last, was eligible last and was created last. -/
def valueOf (store : FeatureStore) (workspaceId versionId entityId : Identifier)
    (asOf : Instant) : Option FeatureValue :=
  (sortedBy (fun value : FeatureValue =>
    toLex (OrderDual.toDual value.observationTime,
      toLex (OrderDual.toDual value.simulationEligibleTime, OrderDual.toDual value.createdAt)))
    (store.values.filter (eligibleValue workspaceId versionId entityId asOf))).head?

def getFeatureAsOf (store : FeatureStore) (feature : FeatureName) (entityId : Identifier)
    (asOf : Instant) (workspaceId : Identifier) : Except ResearchError (Option FeatureValue) := do
  let (_, version) ← definitionAndVersion store feature workspaceId
  return valueOf store workspaceId version.id entityId asOf

/-! ## The matrix -/

def universeVersionAsOf (store : FeatureStore) (universeId : Identifier) (asOf : Instant) :
    Option ResearchUniverseVersion :=
  (sortedBy (fun row : ResearchUniverseVersion => OrderDual.toDual row.version)
    (store.universeVersions.filter fun row =>
      row.universeId = universeId && row.simulationEligibleTime ≤ asOf &&
        row.effectiveFrom ≤ asOf &&
        (match row.effectiveTo with
          | none => true
          | some effectiveTo => asOf < effectiveTo))).head?

def membershipsAsOf (store : FeatureStore) (universeVersionId : Identifier) (asOf : Instant) :
    List ResearchUniverseMembership :=
  sortedBy ResearchUniverseMembership.entityId
    (store.universeMemberships.filter fun row =>
      row.universeVersionId = universeVersionId && row.simulationEligibleTime ≤ asOf &&
        row.validFrom ≤ asOf &&
        (match row.validTo with
          | none => true
          | some validTo => asOf < validTo))

/-- What a feature set pins: a definition and one of its versions. -/
structure PinnedFeature where
  definition : FeatureDefinition
  version : FeatureDefinitionVersion
  deriving DecidableEq, Repr

/-- The joins of `_feature_versions_for_set` for one membership. -/
def pinnedFeature (store : FeatureStore) (row : FeatureSetMembership) : Option PinnedFeature := do
  let version ← Tables.lookup FeatureDefinitionVersion.id row.featureVersionId store.versions
  let definition ← Tables.lookup FeatureDefinition.id version.featureDefinitionId
    store.definitions
  return ⟨definition, version⟩

/-- `_feature_versions_for_set` -/
def featureVersionsForSet (store : FeatureStore) (featureSet : FeatureSet) :
    List PinnedFeature :=
  (sortedBy FeatureSetMembership.position
    (store.memberships.filter fun row => row.featureSetId = featureSet.id)).filterMap
      (pinnedFeature store)

/-- A row that is passed itself, or by its identifier. -/
inductive Given (α : Type) where
  | row (value : α)
  | id (identifier : Identifier)
  deriving DecidableEq, Repr

def Given.get {α : Type} (key : α -> Identifier) (rows : List α) : Given α -> Option α
  | .row value => some value
  | .id identifier => Tables.lookup key identifier rows

structure MatrixRequest where
  featureSet : Given FeatureSet
  researchUniverse : Given ResearchUniverse
  asOf : Instant
  workspaceId : Identifier
  deriving DecidableEq, Repr

/-- What the loops run over: the members of the universe's version at the instant, and the
features with the versions that are pinned. -/
structure MatrixFrame where
  universeVersion : ResearchUniverseVersion
  members : List ResearchUniverseMembership
  features : List PinnedFeature
  deriving DecidableEq, Repr

def matrixFrame (store : FeatureStore) (request : MatrixRequest) :
    Except ResearchError MatrixFrame :=
  match request.featureSet.get FeatureSet.id store.sets,
      request.researchUniverse.get ResearchUniverse.id store.universes with
  | some featureSet, some researchUniverse =>
      if featureSet.workspaceId ≠ request.workspaceId ∨
          researchUniverse.workspaceId ≠ request.workspaceId then
        .error (.key "Feature set or universe was not found")
      else
        match universeVersionAsOf store researchUniverse.id request.asOf with
        | none => .error (.key "No universe version was eligible at the requested time")
        | some universeVersion =>
            .ok
              { universeVersion := universeVersion
                members := membershipsAsOf store universeVersion.id request.asOf
                features := featureVersionsForSet store featureSet }
  | _, _ => .error (.key "Feature set or universe was not found")

/-- One value that the loops have looked up, and for what. -/
structure Selection where
  entityId : Identifier
  feature : PinnedFeature
  value : Option FeatureValue
  deriving DecidableEq, Repr

/-- The inner loop. -/
def selectRow (store : FeatureStore) (request : MatrixRequest) (features : List PinnedFeature)
    (member : ResearchUniverseMembership) : Except ResearchError (List Selection) :=
  features.mapM fun feature => do
    let value ← getFeatureAsOf store (.key feature.definition.featureKey) member.entityId
      request.asOf request.workspaceId
    return ⟨member.entityId, feature, value⟩

structure SelectedRow where
  entityId : Identifier
  selections : List Selection
  deriving DecidableEq, Repr

/-- The outer loop. -/
def selectRows (store : FeatureStore) (request : MatrixRequest) (frame : MatrixFrame) :
    Except ResearchError (List SelectedRow) :=
  frame.members.mapM fun member => do
    let selections ← selectRow store request frame.features member
    return ⟨member.entityId, selections⟩

inductive Content where
  | number (value : Rat)
  | text (value : String)
  deriving DecidableEq, Repr

def FeatureValue.content (value : FeatureValue) : Option Content :=
  match value.numericValue with
  | some number => some (.number number)
  | none => value.textValue.map Content.text

structure FeatureMatrix where
  asOfTime : Instant
  universeVersionId : Identifier
  featureKeys : List String
  entityIds : List Identifier
  values : List (Identifier × List (String × Option Content))
  featureValueIds : List Identifier
  missing : List (Identifier × List String)
  deriving DecidableEq, Repr

/-- A dictionary in its order, after an assignment. -/
def assign {κ α : Type} [DecidableEq κ] (dictionary : List (κ × α)) (key : κ) (value : α) :
    List (κ × α) :=
  Tables.put Prod.fst (key, value) dictionary

/-- The result of the loops. -/
def assemble (request : MatrixRequest) (frame : MatrixFrame) (rows : List SelectedRow) :
    FeatureMatrix where
  asOfTime := request.asOf
  universeVersionId := frame.universeVersion.id
  featureKeys := frame.features.map fun feature => feature.definition.featureKey
  entityIds := frame.members.map ResearchUniverseMembership.entityId
  values := rows.foldl (fun values row => assign values row.entityId
    (row.selections.foldl (fun cells selection =>
      assign cells selection.feature.definition.featureKey
        (selection.value.bind FeatureValue.content)) [])) []
  featureValueIds := rows.flatMap fun row =>
    row.selections.filterMap fun selection => selection.value.map FeatureValue.id
  missing := rows.foldl (fun missing row => assign missing row.entityId
    ((row.selections.filter fun selection => selection.value.isNone).map fun selection =>
      selection.feature.definition.featureKey)) []

def getFeatureMatrixAsOf (store : FeatureStore) (request : MatrixRequest) :
    Except ResearchError FeatureMatrix := do
  let frame ← matrixFrame store request
  let rows ← selectRows store request frame
  return assemble request frame rows

/-! ## Later rows -/

/-- What is added to the store behind the back of a matrix: later versions of a feature, or
revised values of a stored one. -/
inductive Addition where
  | version (row : FeatureDefinitionVersion)
  | value (row : FeatureValue)
  deriving DecidableEq, Repr

/-- The primary key and the unique constraint permit the version. -/
def FreshVersion (store : FeatureStore) (row : FeatureDefinitionVersion) : Prop :=
  row.id ∉ store.versions.map FeatureDefinitionVersion.id ∧
    (row.featureDefinitionId, row.version) ∉
      store.versions.map fun other => (other.featureDefinitionId, other.version)

instance (store : FeatureStore) (row : FeatureDefinitionVersion) :
    Decidable (FreshVersion store row) :=
  inferInstanceAs (Decidable (_ ∧ _))

/-- An addition that a constraint refuses changes nothing. -/
def FeatureStore.add (store : FeatureStore) : Addition -> FeatureStore
  | .version row =>
      if fresh : FreshVersion store row then
        { store with
          versions := store.versions ++ [row]
          numbers_nodup := by
            rw [List.map_append, List.map_singleton, ← List.concat_eq_append]
            exact store.numbers_nodup.concat fresh.2
          memberships_known := fun other member => by
            rw [List.map_append]
            exact List.mem_append_left _ (store.memberships_known other member)
          values_known := fun other member => by
            rw [List.map_append]
            exact List.mem_append_left _ (store.values_known other member) }
      else store
  | .value row =>
      if known : row.featureVersionId ∈ store.versions.map FeatureDefinitionVersion.id then
        { store with
          values := store.values ++ [row]
          values_known := fun other member => by
            rcases List.mem_append.mp member with old | new
            · exact store.values_known other old
            · rw [List.mem_singleton.mp new]
              exact known }
      else store

end Research
end MarketIntelligence
