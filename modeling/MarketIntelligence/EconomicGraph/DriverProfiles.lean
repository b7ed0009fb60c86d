import MarketIntelligence.EconomicGraph.Resolution
import MarketIntelligence.EconomicGraph.Traversal
import Mathlib.Data.List.MinMax

namespace MarketIntelligence
namespace EconomicGraph
namespace DriverProfiles

open Foundations

/-!
# Driver profiles and the routing of datasets

A company is profiled by categories of drivers.  A category counts by a prior of its sector, by the
relationships that are visible at the time, or by what a user has set.  Each dataset is then routed
by the category of its domains that counts most.
-/

/-! ## Configuration -/

structure DriverPrior where
  relevance : Rat
  reason : String
  deriving DecidableEq, Repr

structure DatasetDomain where
  datasetId : String
  label : String
  availability : String
  domains : List (String × Rat)
  deriving DecidableEq, Repr

/-- The two configuration files, and the texts that profiles are compared in.  The datasets and the
categories of a profile or of a dataset are keys. -/
structure Priors where
  text : PythonText
  profiles : List (String × List (String × DriverPrior))
  datasets : List DatasetDomain
  distinctDatasets : (datasets.map DatasetDomain.datasetId).Nodup
  relevance_nonneg : forall profile, profile ∈ profiles -> forall driver, driver ∈ profile.2 ->
    0 ≤ driver.2.relevance
  weight_nonneg : forall dataset, dataset ∈ datasets -> forall domain, domain ∈ dataset.domains ->
    0 ≤ domain.2

def priorVersion : String := "driver-priors-v1"

def routerVersion : String := "data-relevance-router-v1"

/-- `config/driver-priors.yaml` -/
def driverPriors : List (String × List (String × DriverPrior)) :=
  [("semiconductor",
      [("technology", ⟨19 / 20, "fabrication, packaging, and compute technology exposure"⟩),
        ("geopolitical", ⟨17 / 20, "cross-border fabrication and export-control exposure"⟩),
        ("energy", ⟨11 / 20, "electricity-intensive fabrication operations"⟩),
        ("supply_chain", ⟨4 / 5, "specialized foundry and packaging dependencies"⟩),
        ("regulatory", ⟨7 / 10, "technology and export regulation"⟩)]),
    ("airline",
      [("energy", ⟨19 / 20, "jet-fuel operating-cost exposure"⟩),
        ("weather_environmental", ⟨17 / 20, "weather and disruption exposure"⟩),
        ("transportation", ⟨9 / 10, "airport, aircraft, and airspace capacity"⟩),
        ("labor", ⟨13 / 20, "specialized labor and scheduling exposure"⟩),
        ("consumer", ⟨3 / 5, "passenger and tourism demand"⟩)]),
    ("agriculture",
      [("weather_environmental", ⟨19 / 20, "weather, drought, and crop-condition exposure"⟩),
        ("agriculture", ⟨19 / 20, "crop, soil, fertilizer, and harvest conditions"⟩),
        ("water", ⟨17 / 20, "irrigation and drought exposure"⟩),
        ("commodity", ⟨4 / 5, "crop and input commodity exposure"⟩),
        ("energy", ⟨1 / 2, "fertilizer, processing, and logistics energy use"⟩)]),
    ("default",
      [("financial", ⟨4 / 5, "company-reported financial information"⟩),
        ("macro", ⟨7 / 20, "broad economic context pending company evidence"⟩)])]

/-- `config/dataset-domains.yaml`, sorted by the datasets. -/
def datasetDomains : List DatasetDomain :=
  [⟨"alfred.vintages", "ALFRED vintages", "implemented",
      [("macro", 1), ("consumer", 3 / 5), ("labor", 3 / 5), ("industry", 1 / 2)]⟩,
    ⟨"commerce.semiconductors", "Commerce semiconductor indicators", "catalogued",
      [("technology", 1), ("geopolitical", 3 / 5), ("supply_chain", 7 / 10),
        ("regulatory", 1 / 2)]⟩,
    ⟨"eia.electricity.retail-price", "EIA electricity prices", "implemented",
      [("energy", 1), ("industry", 3 / 10), ("geospatial", 3 / 10)]⟩,
    ⟨"faa.airports", "FAA airport operations", "catalogued",
      [("transportation", 1), ("consumer", 3 / 10), ("weather_environmental", 3 / 10)]⟩,
    ⟨"fred.observations", "FRED observations", "implemented",
      [("macro", 1), ("consumer", 3 / 5), ("labor", 3 / 5), ("industry", 1 / 2)]⟩,
    ⟨"noaa.weather", "NOAA weather observations", "catalogued",
      [("weather_environmental", 1), ("geospatial", 1 / 2), ("water", 2 / 5)]⟩,
    ⟨"sec.companyfacts", "SEC company facts", "implemented",
      [("financial", 1), ("industry", 2 / 5), ("regulatory", 3 / 10)]⟩,
    ⟨"sec.submissions", "SEC submissions", "implemented",
      [("financial", 9 / 10), ("industry", 3 / 5), ("regulatory", 1 / 2),
        ("supply_chain", 3 / 10)]⟩,
    ⟨"usda.crop-conditions", "USDA crop conditions", "catalogued",
      [("agriculture", 1), ("commodity", 3 / 5), ("weather_environmental", 1 / 2)]⟩]

def configuredPriors (text : PythonText) : Priors where
  text := text
  profiles := driverPriors
  datasets := datasetDomains
  distinctDatasets := by decide
  relevance_nonneg := by decide +kernel
  weight_nonneg := by decide +kernel

section Configuration

variable (priors : Priors)

/-- `value.casefold().replace(" ", "_")`, under its alias. -/
def sectorKey (value : String) : String :=
  let normalized := String.ofList ((priors.text.casefold value).toList.map fun char =>
    if char = ' ' then '_' else char)
  match Tables.lookup Prod.fst normalized
      [("semiconductors", "semiconductor"), ("airlines", "airline"),
        ("air_transportation", "airline"), ("agricultural_products", "agriculture"),
        ("crop_production", "agriculture")] with
  | some alias_ => alias_.2
  | none => normalized

/-- The priors of the default profile, updated by those of the sector. -/
def selectedPriors (sector : String) : List (String × DriverPrior) :=
  let drivers := fun key => ((Tables.lookup Prod.fst key priors.profiles).map Prod.snd).getD []
  (drivers (sectorKey priors sector)).foldl (fun selected entry => Tables.put Prod.fst entry selected)
    (drivers "default")

/-- `term in name` -/
def mentions (name : String) (terms : List String) : Bool :=
  terms.any fun term => decide (term.toList <:+: name.toList)

/-- The categories that a relationship to another entity is evidence for. -/
def relationshipCategories (relationship : EconomicRelationship) (other : EconomicEntity) :
    List String :=
  let predicate := relationship.predicate
  let name := priors.text.casefold other.canonicalName
  let only := fun (condition : Bool) (categories : List String) =>
    if condition then categories else []
  only (predicate = "USES_TECHNOLOGY" || other.entityType = "Technology") ["technology"] ++
    only (predicate ∈ ["SUPPLIES", "BUYS_FROM", "SELLS_TO", "SHIPS_THROUGH"]) ["supply_chain"] ++
    only (predicate = "REGULATED_BY" || other.entityType ∈ ["Regulation", "GovernmentAgency"])
      ["regulatory"] ++
    only (predicate ∈ ["HAS_SEGMENT", "PRODUCES", "USES"]) ["industry"] ++
    only (other.entityType ∈ ["Country", "Region", "Port"]) ["geopolitical", "geospatial"] ++
    only (other.entityType ∈ ["EnergyMarket", "Commodity"])
      [if mentions name ["fuel", "energy", "electric"] then "energy" else "commodity"] ++
    only (mentions name ["water", "drought"]) ["water"] ++
    only (mentions name ["weather", "drought", "climate", "storm"]) ["weather_environmental"] ++
    only (other.entityType = "TransportationNode" || predicate = "SHIPS_THROUGH")
      ["transportation"] ++
    only (mentions name ["crop", "soil", "fertilizer", "agriculture"]) ["agriculture"]

end Configuration

/-! ## Rows -/

structure CompanyDriverProfile where
  id : Identifier
  workspaceId : Identifier
  companyEntityId : Identifier
  priorVersion : String
  generatedAt : Instant
  version : Nat
  simulationEligibleTime : Instant
  triggerReason : String
  deriving DecidableEq, Repr

structure CompanyDriverEntry where
  workspaceId : Identifier
  profileId : Identifier
  driverCategory : String
  linkedEntityIds : List Identifier
  supportingRelationshipIds : List Identifier
  priorRelevance : Rat
  evidenceRelevance : Rat
  historicalEvidenceRelevance : Option Rat
  userOverride : Option Rat
  effectiveRelevance : Rat
  confidence : Rat
  explanation : String
  deriving DecidableEq, Repr

inductive RouteDecision where
  | process
  | defer
  | ignore
  | review
  deriving DecidableEq, Repr

def RouteDecision.text : RouteDecision -> String
  | process => "PROCESS"
  | defer => "DEFER"
  | ignore => "IGNORE"
  | review => "REVIEW"

def RouteDecision.ofText (text : String) : Option RouteDecision :=
  [process, defer, ignore, review].find? fun decision => decision.text = text

structure GraphPath where
  companyEntityId : Identifier
  relationshipId : Identifier
  linkedEntityId : Identifier
  driverCategory : String
  deriving DecidableEq, Repr

structure DataRelevanceDecision where
  workspaceId : Identifier
  profileId : Identifier
  companyEntityId : Identifier
  datasetId : String
  decision : RouteDecision
  relevanceScore : Rat
  reasonCodes : List String
  supportingGraphPaths : List GraphPath
  confidence : Rat
  routerVersion : String
  deriving DecidableEq, Repr

structure DriverTables where
  profiles : List CompanyDriverProfile
  entries : List CompanyDriverEntry
  decisions : List DataRelevanceDecision
  deriving DecidableEq, Repr

/-- A `ValueError` of the profiles. -/
structure ProfileError where
  text : String
  deriving DecidableEq, Repr

/-! ## Profiles -/

/-- What a profile is generated for: a company, why it is generated now, and the weights that an
operator has set by hand. -/
structure ProfileRequest where
  company : EconomicEntity
  sector : String
  triggerReason : String
  overrides : List (String × Rat)
  now : Instant
  profileId : Identifier

section Profiles

variable (priors : Priors) (request : ProfileRequest) (graph : Graph)

/-- The query of the relationships of the company. -/
def activeRelationships : List EconomicRelationship :=
  graph.relationships.filter fun relationship =>
    decide (relationship.workspaceId = request.company.workspaceId) &&
      (decide (relationship.subjectEntityId = request.company.id) ||
        decide (relationship.objectEntityId = request.company.id)) &&
      relationshipVisible request.now relationship

/-- `session.get`, of an entity that is eligible. -/
def eligibleEntity (entityId : Identifier) : Option EconomicEntity :=
  match Tables.lookup EconomicEntity.id entityId graph.entities with
  | none => none
  | some other => if request.now < other.simulationEligibleTime then none else some other

/-- The links of a category: `evidence.get(category, [])` -/
def links (category : String) : List (EconomicRelationship × EconomicEntity) :=
  (activeRelationships request graph).filterMap fun relationship =>
    match eligibleEntity request graph (relationship.otherEnd request.company.id) with
    | none => none
    | some other =>
        if category ∈ relationshipCategories priors relationship other then
          some (relationship, other)
        else none

/-- The categories that some link is evidence for. -/
def evidenceCategories : List String :=
  (activeRelationships request graph).flatMap fun relationship =>
    match eligibleEntity request graph (relationship.otherEnd request.company.id) with
    | none => []
    | some other => relationshipCategories priors relationship other

/-- `sorted(set(selected) | set(evidence) | set(overrides))` -/
def profileCategories : List String :=
  ((selectedPriors priors request.sector).map Prod.fst ++ evidenceCategories priors request graph ++
    request.overrides.map Prod.fst).dedup.insertionSort (· ≤ ·)

/-- The identifiers of a set, in their order. -/
def sortedIds (ids : List Identifier) : List Identifier :=
  ids.dedup.insertionSort (· ≤ ·)

def priorScore (category : String) : Rat :=
  match Tables.lookup Prod.fst category (selectedPriors priors request.sector) with
  | none => 0
  | some prior => prior.2.relevance

/-- `max(confidences, default=0)` -/
def evidenceScore (category : String) : Rat :=
  (((links priors request graph category).map fun link => link.1.confidence).max?).getD 0

def overrideOf (category : String) : Option Rat :=
  (Tables.lookup Prod.fst category request.overrides).map Prod.snd

def effectiveRelevance (category : String) : Rat :=
  match overrideOf request category with
  | some override => override
  | none => max (priorScore priors request category) (evidenceScore priors request graph category)

def driverEntry (category : String) : CompanyDriverEntry :=
  let prior := Tables.lookup Prod.fst category (selectedPriors priors request.sector)
  let found := links priors request graph category
  let override := overrideOf request category
  let reasons := (prior.map fun prior => prior.2.reason).toList ++
    (if found = [] then []
    else [s!"{found.length} active evidence-backed graph relationship(s)"]) ++
    (if override.isSome then ["workspace user override"] else [])
  { workspaceId := request.company.workspaceId
    profileId := request.profileId
    driverCategory := category
    linkedEntityIds := sortedIds (found.map fun link => link.2.id)
    supportingRelationshipIds := sortedIds (found.map fun link => link.1.id)
    priorRelevance := priorScore priors request category
    evidenceRelevance := evidenceScore priors request graph category
    historicalEvidenceRelevance := none
    userOverride := override
    effectiveRelevance := effectiveRelevance priors request graph category
    confidence := max (max (if 0 < priorScore priors request category then 1 / 2 else 0)
      (evidenceScore priors request graph category)) (if override.isSome then 9 / 10 else 0)
    explanation := if reasons = [] then "No active support" else "; ".intercalate reasons }

/-- `generate_driver_profile` -/
def generateDriverProfile (tables : DriverTables) :
    Except ProfileError (CompanyDriverProfile × DriverTables) :=
  if request.company.entityType ≠ "Company" then
    .error ⟨"driver profiles require a Company entity"⟩
  else
    match request.overrides.find? fun entry => entry.2 < 0 || 1 < entry.2 with
    | some entry => .error ⟨s!"driver override {entry.1} must be between 0 and 1"⟩
    | none =>
        let versions := (tables.profiles.filter fun profile =>
          decide (profile.workspaceId = request.company.workspaceId) &&
            decide (profile.companyEntityId = request.company.id)).map CompanyDriverProfile.version
        let profile : CompanyDriverProfile :=
          { id := request.profileId
            workspaceId := request.company.workspaceId
            companyEntityId := request.company.id
            priorVersion := priorVersion
            generatedAt := request.now
            version := versions.max?.getD 0 + 1
            simulationEligibleTime := (activeRelationships request graph).foldl
              (fun latest relationship => max latest relationship.simulationEligibleTime)
              request.company.simulationEligibleTime
            triggerReason := request.triggerReason }
        .ok (profile, { tables with
          profiles := tables.profiles ++ [profile]
          entries := tables.entries ++
            (profileCategories priors request graph).map (driverEntry priors request graph) })

end Profiles

/-! ## Routing -/

section Routing

variable (profile : CompanyDriverProfile) (entries : List CompanyDriverEntry)

/-- The domains of a dataset that the profile has an entry for, with their scores. -/
def scoredDomains (dataset : DatasetDomain) : List (Rat × CompanyDriverEntry) :=
  dataset.domains.filterMap fun domain =>
    (Tables.lookup CompanyDriverEntry.driverCategory domain.1 entries).map fun entry =>
      (entry.effectiveRelevance * domain.2, entry)

/-- The first of the highest scores; categories break ties. -/
def bestDomain (dataset : DatasetDomain) : Option (Rat × CompanyDriverEntry) :=
  List.argmax (fun scored => toLex (scored.1, scored.2.driverCategory))
    (scoredDomains entries dataset)

def relevance (dataset : DatasetDomain) : Rat :=
  ((bestDomain entries dataset).map Prod.fst).getD 0

/-- The decision of a score, with its reasons. -/
def graded (score : Rat) (category : String) : RouteDecision × List String :=
  if 13 / 20 ≤ score then (.process, ["high_driver_relevance", "driver:" ++ category])
  else if 7 / 20 ≤ score then (.defer, ["moderate_driver_relevance", "driver:" ++ category])
  else if score < 3 / 20 then (.ignore, ["no_relevant_driver"])
  else (.review, ["uncertain_driver_relevance", "driver:" ++ category])

def routed (overrides : List (String × String)) (dataset : DatasetDomain) :
    Except ProfileError (RouteDecision × List String) :=
  match Tables.lookup Prod.fst dataset.datasetId overrides with
  | some override =>
      match RouteDecision.ofText override.2 with
      | some decision => .ok (decision, ["manual_override"])
      | none => .error ⟨"dataset override must be PROCESS, DEFER, IGNORE, or REVIEW"⟩
  | none =>
      .ok (graded (relevance entries dataset)
        (((bestDomain entries dataset).map fun scored => scored.2.driverCategory).getD "none"))

def graphPaths (entry : CompanyDriverEntry) : List GraphPath :=
  (entry.supportingRelationshipIds.zip entry.linkedEntityIds).map fun pair =>
    { companyEntityId := profile.companyEntityId, relationshipId := pair.1
      linkedEntityId := pair.2, driverCategory := entry.driverCategory }

def relevanceDecision (overrides : List (String × String)) (dataset : DatasetDomain) :
    Except ProfileError DataRelevanceDecision :=
  let best := bestDomain entries dataset
  (routed entries overrides dataset).map fun answer =>
    { workspaceId := profile.workspaceId
      profileId := profile.id
      companyEntityId := profile.companyEntityId
      datasetId := dataset.datasetId
      decision := answer.1
      relevanceScore := min (relevance entries dataset) 1
      reasonCodes := answer.2 ++
        (if dataset.availability = "implemented" then []
        else ["availability:" ++ dataset.availability])
      supportingGraphPaths := (best.map fun scored => graphPaths profile scored.2).getD []
      confidence := (best.map fun scored => scored.2.confidence).getD (1 / 4)
      routerVersion := routerVersion }

/-- The columns of the unique constraint of the decisions. -/
def DataRelevanceDecision.key (decision : DataRelevanceDecision) : Identifier × String × String :=
  (decision.profileId, decision.datasetId, decision.routerVersion)

/-- One pass of the loop over the datasets; a dataset that is decided already is left alone. -/
def routeDataset (overrides : List (String × String))
    (state : List DataRelevanceDecision × DriverTables) (dataset : DatasetDomain) :
    Except ProfileError (List DataRelevanceDecision × DriverTables) :=
  match Tables.lookup DataRelevanceDecision.key (profile.id, dataset.datasetId, routerVersion)
      state.2.decisions with
  | some existing => .ok (state.1 ++ [existing], state.2)
  | none =>
      (relevanceDecision profile entries overrides dataset).map fun item =>
        (state.1 ++ [item], { state.2 with decisions := state.2.decisions ++ [item] })

def decisionOrder (decision : DataRelevanceDecision) : String ×ₗ Rat ×ₗ String :=
  toLex (decision.decision.text, toLex (-decision.relevanceScore, decision.datasetId))

/-- `route_datasets` -/
def routeDatasets (priors : Priors) (overrides : List (String × String)) (tables : DriverTables) :
    Except ProfileError (List DataRelevanceDecision × DriverTables) :=
  let own := tables.entries.filter fun entry => entry.profileId = profile.id
  (priors.datasets.foldlM (routeDataset profile own overrides) ([], tables)).map fun routed =>
    (SortedLists.sortedBy decisionOrder routed.1, routed.2)

end Routing

/-- A profile and the routing of the datasets by it. -/
def profileAndRoute (priors : Priors) (request : ProfileRequest) (graph : Graph)
    (overrides : List (String × String)) (tables : DriverTables) :
    Except ProfileError (List DataRelevanceDecision × DriverTables) :=
  match generateDriverProfile priors request graph tables with
  | .error failure => .error failure
  | .ok generated => routeDatasets generated.1 priors overrides generated.2

end DriverProfiles
end EconomicGraph
end MarketIntelligence
