import MarketIntelligence.EconomicGraph.DriverProfiles
import MarketIntelligence.Foundations.Loops

namespace MarketIntelligence
namespace EconomicGraph
namespace DriverProfiles

open Foundations
open Foundations.Loops

/-!
# More evidence and the routing

A profile reads the rows of the graph that are eligible at its time.  When a graph has all that
another one has, every category of the other's profile is in its own and counts at least as much,
so that no dataset is scored lower, and none is routed to a lesser decision.
-/

/-! ## Graphs that grow -/

/-- What the first graph shows at the time, the second has too. -/
structure Grows (now : Instant) (graph more : Graph) : Prop where
  relationships : forall relationship, relationship ∈ graph.relationships ->
    relationshipVisible now relationship = true -> relationship ∈ more.relationships
  entities : forall entityId entity,
    Tables.lookup EconomicEntity.id entityId graph.entities = some entity ->
      entity.simulationEligibleTime ≤ now ->
        Tables.lookup EconomicEntity.id entityId more.entities = some entity

/-- `confidence_range` of the relationships. -/
def Confident (graph : Graph) : Prop :=
  forall relationship, relationship ∈ graph.relationships -> 0 ≤ relationship.confidence

/-! ## Maxima of lists -/

section Maxima

variable {rows others : List Rat}

theorem le_max_getD {row : Rat} (member : row ∈ rows) : row ≤ rows.max?.getD 0 := by
  cases found : rows.max? with
  | none =>
      rw [List.max?_eq_none_iff.mp found] at member
      cases member
  | some largest => exact (List.max?_eq_some_iff.mp found).2 row member

theorem max_getD_nonneg (nonneg : forall row, row ∈ rows -> 0 ≤ row) : 0 ≤ rows.max?.getD 0 := by
  cases found : rows.max? with
  | none => exact le_refl 0
  | some largest => exact nonneg largest (List.max?_eq_some_iff.mp found).1

/-- A list with more and larger members has the larger maximum. -/
theorem max_getD_mono (nonneg : forall row, row ∈ others -> 0 ≤ row)
    (grows : forall row, row ∈ rows -> exists other, other ∈ others ∧ row ≤ other) :
    rows.max?.getD 0 ≤ others.max?.getD 0 := by
  cases found : rows.max? with
  | none => exact max_getD_nonneg nonneg
  | some largest =>
      rcases grows largest (List.max?_eq_some_iff.mp found).1 with ⟨other, member, above⟩
      exact above.trans (le_max_getD member)

end Maxima

section Profiles

variable {priors : Priors} {request : ProfileRequest} {graph more : Graph}

/-! ## Evidence -/

theorem activeRelationships_grow (grows : Grows request.now graph more)
    {relationship : EconomicRelationship}
    (active : relationship ∈ activeRelationships request graph) :
    relationship ∈ activeRelationships request more := by
  rcases List.mem_filter.mp active with ⟨stored, selected⟩
  have visible : relationshipVisible request.now relationship = true :=
    ((Bool.and_eq_true _ _).mp selected).2
  exact List.mem_filter.mpr ⟨grows.relationships relationship stored visible, selected⟩

theorem eligibleEntity_grow (grows : Grows request.now graph more) {entityId : Identifier}
    {entity : EconomicEntity} (found : eligibleEntity request graph entityId = some entity) :
    eligibleEntity request more entityId = some entity := by
  unfold eligibleEntity at found ⊢
  cases stored : Tables.lookup EconomicEntity.id entityId graph.entities with
  | none =>
      rw [stored] at found
      cases found
  | some other =>
      rw [stored] at found
      dsimp only at found
      by_cases late : request.now < other.simulationEligibleTime
      · rw [if_pos late] at found
        cases found
      · rw [grows.entities entityId other stored (not_lt.mp late)]
        exact found

theorem links_grow (grows : Grows request.now graph more) {category : String}
    {link : EconomicRelationship × EconomicEntity}
    (member : link ∈ links priors request graph category) :
    link ∈ links priors request more category := by
  rcases List.mem_filterMap.mp member with ⟨relationship, active, selected⟩
  refine List.mem_filterMap.mpr ⟨relationship, activeRelationships_grow grows active, ?_⟩
  cases found : eligibleEntity request graph
      (relationship.otherEnd request.company.id) with
  | none =>
      rw [found] at selected
      cases selected
  | some other =>
      rw [found] at selected
      rw [eligibleEntity_grow grows found]
      exact selected

theorem evidenceCategories_grow (grows : Grows request.now graph more) {category : String}
    (member : category ∈ evidenceCategories priors request graph) :
    category ∈ evidenceCategories priors request more := by
  rcases List.mem_flatMap.mp member with ⟨relationship, active, selected⟩
  refine List.mem_flatMap.mpr ⟨relationship, activeRelationships_grow grows active, ?_⟩
  cases found : eligibleEntity request graph
      (relationship.otherEnd request.company.id) with
  | none =>
      rw [found] at selected
      cases selected
  | some other =>
      rw [found] at selected
      rw [eligibleEntity_grow grows found]
      exact selected

/-- The links come from rows of the graph. -/
theorem confident_links (confident : Confident graph) {category : String} {confidence : Rat}
    (member : confidence ∈ (links priors request graph category).map fun link =>
      link.1.confidence) : 0 ≤ confidence := by
  rcases List.mem_map.mp member with ⟨link, listed, rfl⟩
  rcases List.mem_filterMap.mp listed with ⟨relationship, active, selected⟩
  have own : link.1 = relationship := by
    cases found : eligibleEntity request graph
        (relationship.otherEnd request.company.id) with
    | none =>
        rw [found] at selected
        cases selected
    | some other =>
        rw [found] at selected
        dsimp only at selected
        split at selected
        · cases selected
          rfl
        · cases selected
  rw [own]
  exact confident relationship (List.mem_of_mem_filter active)

theorem evidenceScore_grow (confident : Confident more) (grows : Grows request.now graph more)
    (category : String) :
    evidenceScore priors request graph category ≤ evidenceScore priors request more category := by
  apply max_getD_mono fun _ => confident_links confident
  intro confidence member
  rcases List.mem_map.mp member with ⟨link, listed, same⟩
  exact ⟨confidence, List.mem_map.mpr ⟨link, links_grow grows listed, same⟩, le_refl _⟩

/-! ## Categories -/

theorem effectiveRelevance_grow (confident : Confident more)
    (grows : Grows request.now graph more) (category : String) :
    effectiveRelevance priors request graph category ≤
      effectiveRelevance priors request more category := by
  unfold effectiveRelevance
  split
  · exact le_refl _
  · exact max_le_max (le_refl _) (evidenceScore_grow confident grows category)

theorem mem_profileCategories {category : String} :
    category ∈ profileCategories priors request graph <->
      category ∈ (selectedPriors priors request.sector).map Prod.fst ∨
        category ∈ evidenceCategories priors request graph ∨
          category ∈ request.overrides.map Prod.fst := by
  rw [profileCategories, List.mem_insertionSort, List.mem_dedup, List.mem_append, List.mem_append,
    or_assoc]

theorem profileCategories_grow (grows : Grows request.now graph more) {category : String}
    (member : category ∈ profileCategories priors request graph) :
    category ∈ profileCategories priors request more := by
  rw [mem_profileCategories] at member ⊢
  exact member.imp_right (Or.imp_left (evidenceCategories_grow grows))

/-! ## Relevance is not negative -/

theorem selectedPriors_nonneg (priors : Priors) (sector : String) {prior : String × DriverPrior}
    (member : prior ∈ selectedPriors priors sector) : 0 ≤ prior.2.relevance := by
  have drivers : forall key driver,
      driver ∈ ((Tables.lookup Prod.fst key priors.profiles).map Prod.snd).getD [] ->
        0 ≤ driver.2.relevance := by
    intro key driver listed
    cases found : Tables.lookup Prod.fst key priors.profiles with
    | none =>
        rw [found] at listed
        cases listed
    | some profile =>
        rw [found] at listed
        exact priors.relevance_nonneg profile (Tables.lookup_some found).1 driver listed
  have updated : forall (entries start : List (String × DriverPrior)),
      (forall driver, driver ∈ entries -> 0 ≤ driver.2.relevance) ->
      (forall driver, driver ∈ start -> 0 ≤ driver.2.relevance) ->
      forall driver, driver ∈ entries.foldl
        (fun selected entry => Tables.put Prod.fst entry selected) start ->
          0 ≤ driver.2.relevance := by
    intro entries
    induction entries with
    | nil => exact fun start _ nonneg => nonneg
    | cons head tail ih =>
        intro start own nonneg
        apply ih _ fun driver listed => own driver (List.mem_cons_of_mem _ listed)
        intro driver listed
        rcases Tables.mem_put listed with same | before
        · rw [same]
          exact own head List.mem_cons_self
        · exact nonneg driver before
  exact updated _ _ (drivers _) (drivers _) prior member

theorem priorScore_nonneg (category : String) : 0 ≤ priorScore priors request category := by
  unfold priorScore
  cases found : Tables.lookup Prod.fst category (selectedPriors priors request.sector) with
  | none => exact le_refl 0
  | some prior => exact selectedPriors_nonneg priors request.sector (Tables.lookup_some found).1

/-- The overrides have passed their check. -/
def Overridden (request : ProfileRequest) : Prop :=
  forall override, override ∈ request.overrides -> 0 ≤ override.2 ∧ override.2 ≤ 1

theorem effectiveRelevance_nonneg (overridden : Overridden request) (category : String) :
    0 ≤ effectiveRelevance priors request graph category := by
  unfold effectiveRelevance overrideOf
  cases found : Tables.lookup Prod.fst category request.overrides with
  | none => exact (priorScore_nonneg category).trans (le_max_left _ _)
  | some override => exact (overridden override (Tables.lookup_some found).1).1

/-! ## Entries -/

/-- The entries that a profile is stored with. -/
def profileEntries (priors : Priors) (request : ProfileRequest) (graph : Graph) :
    List CompanyDriverEntry :=
  (profileCategories priors request graph).map (driverEntry priors request graph)

theorem lookup_profileEntries (category : String) :
    Tables.lookup CompanyDriverEntry.driverCategory category
        (profileEntries priors request graph) =
      if category ∈ profileCategories priors request graph then
        some (driverEntry priors request graph category)
      else none := by
  unfold profileEntries
  induction profileCategories priors request graph with
  | nil => rfl
  | cons head tail ih =>
      rw [List.map_cons, Tables.lookup_cons]
      by_cases own : head = category
      · subst own
        have same : (driverEntry priors request graph head).driverCategory = head := rfl
        rw [if_pos same, if_pos List.mem_cons_self]
      · have apart : ¬ (driverEntry priors request graph head).driverCategory = category := own
        rw [if_neg apart, ih]
        simp only [List.mem_cons, Ne.symm own, false_or]

/-! ## Scores -/

section Scores

variable {dataset : DatasetDomain}

theorem mem_scoredDomains {scored : Rat × CompanyDriverEntry} :
    scored ∈ scoredDomains (profileEntries priors request graph) dataset <->
      exists domain, domain ∈ dataset.domains ∧
        domain.1 ∈ profileCategories priors request graph ∧
        scored = (effectiveRelevance priors request graph domain.1 * domain.2,
          driverEntry priors request graph domain.1) := by
  rw [scoredDomains, List.mem_filterMap]
  apply exists_congr
  intro domain
  rw [lookup_profileEntries]
  by_cases listed : domain.1 ∈ profileCategories priors request graph
  · rw [if_pos listed, Option.map_some, Option.some.injEq]
    constructor
    · rintro ⟨own, same⟩
      exact ⟨own, listed, same.symm⟩
    · rintro ⟨own, -, same⟩
      exact ⟨own, same.symm⟩
  · rw [if_neg listed, Option.map_none]
    constructor
    · rintro ⟨_, absurd_⟩
      cases absurd_
    · rintro ⟨_, inside, _⟩
      exact absurd inside listed

/-- The relevance is the largest score, or zero. -/
theorem relevance_spec (entries : List CompanyDriverEntry) (dataset : DatasetDomain) :
    (relevance entries dataset = 0 ∧ scoredDomains entries dataset = []) ∨
      (exists scored, scored ∈ scoredDomains entries dataset ∧
        relevance entries dataset = scored.1) ∧
        forall scored, scored ∈ scoredDomains entries dataset ->
          scored.1 ≤ relevance entries dataset := by
  unfold relevance bestDomain
  cases best : List.argmax (fun scored : Rat × CompanyDriverEntry =>
      toLex (scored.1, scored.2.driverCategory)) (scoredDomains entries dataset) with
  | none => exact Or.inl ⟨rfl, List.argmax_eq_none.mp best⟩
  | some chosen =>
      refine Or.inr ⟨⟨chosen, List.argmax_mem (Option.mem_def.mpr best), rfl⟩, ?_⟩
      intro scored member
      have above := List.le_of_mem_argmax member (Option.mem_def.mpr best)
      rcases Prod.Lex.le_iff.mp above with less | same
      · exact less.le
      · exact same.1.le

theorem relevance_nonneg (weights : forall domain, domain ∈ dataset.domains -> 0 ≤ domain.2)
    (overridden : Overridden request) :
    0 ≤ relevance (profileEntries priors request graph) dataset := by
  rcases relevance_spec (profileEntries priors request graph) dataset with ⟨zero, _⟩ | ⟨some, _⟩
  · exact zero.ge
  · rcases some with ⟨scored, member, same⟩
    rcases mem_scoredDomains.mp member with ⟨domain, listed, _, rfl⟩
    rw [same]
    exact mul_nonneg (effectiveRelevance_nonneg overridden domain.1) (weights domain listed)

theorem relevance_grow (weights : forall domain, domain ∈ dataset.domains -> 0 ≤ domain.2)
    (overridden : Overridden request) (confident : Confident more)
    (grows : Grows request.now graph more) :
    relevance (profileEntries priors request graph) dataset ≤
      relevance (profileEntries priors request more) dataset := by
  rcases relevance_spec (profileEntries priors request graph) dataset with ⟨zero, _⟩ | ⟨some, _⟩
  · rw [zero]
    exact relevance_nonneg weights overridden
  · rcases some with ⟨scored, member, same⟩
    rcases mem_scoredDomains.mp member with ⟨domain, listed, category, rfl⟩
    have later := mem_scoredDomains.mpr
      ⟨domain, listed, profileCategories_grow grows category, rfl⟩
    rcases relevance_spec (profileEntries priors request more) dataset with ⟨_, none⟩ | ⟨_, above⟩
    · rw [none] at later
      cases later
    · rw [same]
      refine le_trans ?_ (above _ later)
      exact mul_le_mul_of_nonneg_right (effectiveRelevance_grow confident grows domain.1)
        (weights domain listed)

end Scores

end Profiles

/-! ## Decisions -/

/-- The lesser decisions leave more of a dataset out. -/
def RouteDecision.rank : RouteDecision -> Nat
  | ignore => 0
  | review => 1
  | defer => 2
  | process => 3

theorem graded_mono {low high : Rat} (above : low ≤ high) (category other : String) :
    (graded low category).1.rank ≤ (graded high other).1.rank := by
  unfold graded
  by_cases strong : 13 / 20 ≤ low
  · rw [if_pos strong, if_pos (strong.trans above)]
  · rw [if_neg strong]
    by_cases moderate : 7 / 20 ≤ low
    · rw [if_pos moderate]
      by_cases stronger : 13 / 20 ≤ high
      · rw [if_pos stronger]
        exact (by decide : RouteDecision.defer.rank ≤ RouteDecision.process.rank)
      · rw [if_neg stronger, if_pos (moderate.trans above)]
    · rw [if_neg moderate]
      by_cases weak : low < 3 / 20
      · rw [if_pos weak]
        exact Nat.zero_le _
      · have notWeak : ¬ high < 3 / 20 := not_lt.mpr ((not_lt.mp weak).trans above)
        rw [if_neg weak, if_neg notWeak]
        split
        · exact (by decide : RouteDecision.review.rank ≤ RouteDecision.process.rank)
        · split
          · exact (by decide : RouteDecision.review.rank ≤ RouteDecision.defer.rank)
          · exact le_refl _

section Decisions

variable {profile : CompanyDriverProfile} {entries : List CompanyDriverEntry}
  {overrides : List (String × String)} {dataset : DatasetDomain}

theorem relevanceDecision_ok {decision : DataRelevanceDecision}
    (done : relevanceDecision profile entries overrides dataset = .ok decision) :
    decision.key = (profile.id, dataset.datasetId, routerVersion) ∧
      decision.relevanceScore = min (relevance entries dataset) 1 ∧
      exists reasons, routed entries overrides dataset = .ok (decision.decision, reasons) := by
  unfold relevanceDecision at done
  dsimp only at done
  cases answer : routed entries overrides dataset with
  | error failure =>
      rw [answer] at done
      cases done
  | ok chosen =>
      rw [answer] at done
      cases done
      exact ⟨rfl, rfl, chosen.2, rfl⟩

/-- With a higher relevance a dataset is not routed to a lesser decision. -/
theorem routed_mono {others : List CompanyDriverEntry} {early late : RouteDecision × List String}
    (above : relevance entries dataset ≤ relevance others dataset)
    (first : routed entries overrides dataset = .ok early)
    (second : routed others overrides dataset = .ok late) : early.1.rank ≤ late.1.rank := by
  unfold routed at first second
  cases set : Tables.lookup Prod.fst dataset.datasetId overrides with
  | none =>
      rw [set] at first second
      cases first
      cases second
      exact graded_mono above _ _
  | some override =>
      rw [set] at first second
      dsimp only at first second
      rw [first] at second
      cases second
      exact le_refl _

/-- Where no dataset is decided yet, the loop decides each of them. -/
theorem foldlM_routeDataset {datasets : List DatasetDomain}
    (distinct : (datasets.map DatasetDomain.datasetId).Nodup)
    {answered : List DataRelevanceDecision} {tables : DriverTables}
    (undecided : forall dataset, dataset ∈ datasets -> forall decision,
      decision ∈ tables.decisions ->
        decision.key ≠ (profile.id, dataset.datasetId, routerVersion))
    {finish : List DataRelevanceDecision × DriverTables}
    (done : datasets.foldlM (routeDataset profile entries overrides) (answered, tables) =
      .ok finish) :
    exists decisions, datasets.mapM (relevanceDecision profile entries overrides) =
        .ok decisions ∧
      finish = (answered ++ decisions,
        { tables with decisions := tables.decisions ++ decisions }) := by
  induction datasets generalizing answered tables with
  | nil =>
      cases done
      refine ⟨[], rfl, ?_⟩
      rw [List.append_nil, List.append_nil]
  | cons head tail ih =>
      rw [List.map_cons, List.nodup_cons] at distinct
      rcases foldlM_cons_ok done with ⟨middle, first, rest⟩
      have new : Tables.lookup DataRelevanceDecision.key
          (profile.id, head.datasetId, routerVersion) tables.decisions = none := by
        cases found : Tables.lookup DataRelevanceDecision.key
            (profile.id, head.datasetId, routerVersion) tables.decisions with
        | none => rfl
        | some decision =>
            rcases Tables.lookup_some found with ⟨stored, same⟩
            exact absurd same (undecided head List.mem_cons_self decision stored)
      rw [routeDataset] at first
      dsimp only at first
      rw [new] at first
      dsimp only at first
      cases decided : relevanceDecision profile entries overrides head with
      | error failure =>
          rw [decided] at first
          cases first
      | ok item =>
          rw [decided] at first
          cases first
          have later : forall dataset, dataset ∈ tail -> forall decision,
              decision ∈ tables.decisions ++ [item] ->
                decision.key ≠ (profile.id, dataset.datasetId, routerVersion) := by
            intro dataset member decision stored
            rcases List.mem_append.mp stored with before | own
            · exact undecided dataset (List.mem_cons_of_mem _ member) decision before
            · rw [List.mem_singleton.mp own, (relevanceDecision_ok decided).1]
              intro same
              have named : head.datasetId = dataset.datasetId :=
                congrArg (fun key => key.2.1) same
              apply distinct.1
              rw [named]
              exact List.mem_map_of_mem member
          rcases ih distinct.2 later rest with ⟨decisions, all, rfl⟩
          refine ⟨item :: decisions, ?_, ?_⟩
          · rw [List.mapM_cons, except_bind_eq decided, except_bind_eq all]
            rfl
          · simp only [List.append_assoc, List.singleton_append]

end Decisions

/-! ## Profile and routing -/

section Routing

variable {priors : Priors} {request : ProfileRequest} {graph : Graph} {tables : DriverTables}

theorem generateDriverProfile_ok {profile : CompanyDriverProfile} {after : DriverTables}
    (done : generateDriverProfile priors request graph tables = .ok (profile, after)) :
    profile.id = request.profileId ∧ Overridden request ∧
      after.entries = tables.entries ++ profileEntries priors request graph ∧
      after.decisions = tables.decisions := by
  unfold generateDriverProfile at done
  split at done
  · cases done
  · split at done
    · cases done
    · rename_i company wrong
      cases done
      refine ⟨rfl, ?_, rfl, rfl⟩
      intro override member
      have fits := List.find?_eq_none.mp wrong override member
      simp only [Bool.or_eq_true, decide_eq_true_eq, not_or, not_lt] at fits
      exact fits

/-- The tables have nothing of the profile yet. -/
structure Unused (request : ProfileRequest) (tables : DriverTables) : Prop where
  entries : forall entry, entry ∈ tables.entries -> entry.profileId ≠ request.profileId
  decisions : forall decision, decision ∈ tables.decisions ->
    decision.profileId ≠ request.profileId

theorem own_entries (unused : Unused request tables) :
    (tables.entries ++ profileEntries priors request graph).filter
        (fun entry => entry.profileId = request.profileId) =
      profileEntries priors request graph := by
  rw [List.filter_append]
  have none : tables.entries.filter (fun entry => entry.profileId = request.profileId) = [] :=
    List.filter_eq_nil_iff.mpr fun entry member same =>
      unused.entries entry member (of_decide_eq_true same)
  have all : (profileEntries priors request graph).filter
      (fun entry => entry.profileId = request.profileId) =
        profileEntries priors request graph := by
    apply List.filter_eq_self.mpr
    intro entry member
    rcases List.mem_map.mp member with ⟨category, _, rfl⟩
    exact decide_eq_true rfl
  rw [none, all, List.nil_append]

/-- A new profile has one decision for each dataset, by its entries. -/
theorem profileAndRoute_ok {overrides : List (String × String)} (unused : Unused request tables)
    {decisions : List DataRelevanceDecision} {after : DriverTables}
    (done : profileAndRoute priors request graph overrides tables = .ok (decisions, after)) :
    Overridden request ∧
      (decisions.map DataRelevanceDecision.datasetId).Perm
        (priors.datasets.map DatasetDomain.datasetId) ∧
      forall decision, decision ∈ decisions -> exists dataset, dataset ∈ priors.datasets ∧
        decision.datasetId = dataset.datasetId ∧
        decision.relevanceScore =
          min (relevance (profileEntries priors request graph) dataset) 1 ∧
        exists reasons, routed (profileEntries priors request graph) overrides dataset =
          .ok (decision.decision, reasons) := by
  unfold profileAndRoute at done
  cases generated : generateDriverProfile priors request graph tables with
  | error failure =>
      rw [generated] at done
      cases done
  | ok made =>
      rcases made with ⟨profile, between⟩
      rcases generateDriverProfile_ok generated with ⟨id, overridden, entries, stored⟩
      rw [generated] at done
      dsimp only at done
      rw [routeDatasets, entries, id, own_entries unused] at done
      cases loop : priors.datasets.foldlM (routeDataset profile
          (profileEntries priors request graph) overrides) ([], between) with
      | error failure =>
          rw [loop] at done
          cases done
      | ok finish =>
          have undecided : forall dataset, dataset ∈ priors.datasets -> forall decision,
              decision ∈ between.decisions ->
                decision.key ≠ (profile.id, dataset.datasetId, routerVersion) := by
            intro dataset _ decision member same
            rw [stored] at member
            have named : decision.profileId = profile.id := congrArg Prod.fst same
            exact unused.decisions decision member (named.trans id)
          rcases foldlM_routeDataset priors.distinctDatasets undecided loop with
            ⟨items, decided, rfl⟩
          rw [loop] at done
          cases done
          refine ⟨overridden, ?_, ?_⟩
          · refine ((List.perm_insertionSort _ _).map _).trans (List.Perm.of_eq ?_)
            exact map_of_mapM decided fun dataset _ decision one =>
              congrArg (fun key => key.2.1) (relevanceDecision_ok one).1
          · intro decision member
            have listed : decision ∈ items := SortedLists.mem_sortedBy.mp member
            have each := forall₂_of_mapM decided fun dataset member decision one =>
              And.intro member one
            rcases exists_of_forall₂ each listed with ⟨dataset, known, _, one⟩
            rcases relevanceDecision_ok one with ⟨key, score, reasons⟩
            exact ⟨dataset, known, congrArg (fun key => key.2.1) key, score, reasons⟩

/-- A profile of a graph that shows all that another one shows scores no dataset lower and routes
none to a lesser decision.  Rows that are not visible at the time do not matter. -/
theorem routing_monotone (priors : Priors) (request : ProfileRequest)
    (overrides : List (String × String)) {tables : DriverTables} (unused : Unused request tables)
    {graph more : Graph} (confident : Confident more) (grows : Grows request.now graph more)
    {early late : List DataRelevanceDecision} {first second : DriverTables}
    (before : profileAndRoute priors request graph overrides tables = .ok (early, first))
    (after : profileAndRoute priors request more overrides tables = .ok (late, second)) :
    (early.map DataRelevanceDecision.datasetId).Perm
        (priors.datasets.map DatasetDomain.datasetId) ∧
      forall decision other, decision ∈ early -> other ∈ late ->
        decision.datasetId = other.datasetId ->
          decision.decision.rank ≤ other.decision.rank ∧
            decision.relevanceScore ≤ other.relevanceScore := by
  rcases profileAndRoute_ok unused before with ⟨overridden, all, decided⟩
  rcases profileAndRoute_ok unused after with ⟨-, -, decidedLater⟩
  refine ⟨all, ?_⟩
  intro decision other member listed same
  rcases decided decision member with ⟨dataset, known, id, score, reasons, answer⟩
  rcases decidedLater other listed with ⟨dataset', known', id', score', reasons', answer'⟩
  have one : dataset = dataset' := by
    apply List.inj_on_of_nodup_map priors.distinctDatasets known known'
    rw [← id, same, id']
  subst one
  have above : relevance (profileEntries priors request graph) dataset ≤
      relevance (profileEntries priors request more) dataset :=
    relevance_grow (priors.weight_nonneg dataset known) overridden confident grows
  refine ⟨routed_mono above answer answer', ?_⟩
  rw [score, score']
  exact min_le_min above (le_refl 1)

end Routing

/-! ## A regulated company -/

def plainPriors : Priors :=
  configuredPriors { isSpace := Char.isWhitespace, isDigit := Char.isDigit, casefold := id
                     upper := id }

def foundry : EconomicEntity where
  id := 1
  workspaceId := 1
  entityType := "Company"
  canonicalName := "foundry"
  status := .verified
  validFrom := 0
  validTo := none
  simulationEligibleTime := 0
  confidence := 1

def agency : EconomicEntity :=
  { foundry with id := 2, entityType := "GovernmentAgency", canonicalName := "agency" }

def regulated : EconomicRelationship where
  id := 3
  workspaceId := 1
  subjectEntityId := 1
  predicate := "REGULATED_BY"
  objectEntityId := 2
  confidence := 9 / 10
  strength := none
  validFrom := 0
  validTo := none
  discoveredAt := 0
  lastVerifiedAt := 0
  simulationEligibleTime := 0
  method := "manual"
  methodVersion := "1"
  status := .verified

def quietGraph : Graph := ⟨[foundry, agency], [], [], []⟩

def regulatedGraph : Graph := ⟨[foundry, agency], [regulated], [], []⟩

def foundryRequest : ProfileRequest := ⟨foundry, "foundries", "test", [], 10, 4⟩

def noDrivers : DriverTables := ⟨[], [], []⟩

def foundryRouting (graph : Graph) : List DataRelevanceDecision × DriverTables :=
  match profileAndRoute plainPriors foundryRequest graph [] noDrivers with
  | .ok routed => routed
  | .error _ => ([], noDrivers)

theorem routing_monotone_regulated :
    ((foundryRouting quietGraph).1.map DataRelevanceDecision.datasetId).Perm
        (plainPriors.datasets.map DatasetDomain.datasetId) ∧
      forall decision other, decision ∈ (foundryRouting quietGraph).1 ->
        other ∈ (foundryRouting regulatedGraph).1 -> decision.datasetId = other.datasetId ->
          decision.decision.rank ≤ other.decision.rank ∧
            decision.relevanceScore ≤ other.relevanceScore := by
  have unused : Unused foundryRequest noDrivers :=
    ⟨fun _ member => absurd member List.not_mem_nil, fun _ member => absurd member List.not_mem_nil⟩
  have confident : Confident regulatedGraph := by
    intro relationship member
    rw [List.mem_singleton.mp member]
    exact (by decide +kernel : (0 : Rat) ≤ 9 / 10)
  have grows : Grows foundryRequest.now quietGraph regulatedGraph :=
    ⟨fun _ member => absurd member List.not_mem_nil, fun _ _ found _ => found⟩
  have before : profileAndRoute plainPriors foundryRequest quietGraph [] noDrivers =
      .ok ((foundryRouting quietGraph).1, (foundryRouting quietGraph).2) := by
    decide +kernel
  have after : profileAndRoute plainPriors foundryRequest regulatedGraph [] noDrivers =
      .ok ((foundryRouting regulatedGraph).1, (foundryRouting regulatedGraph).2) := by
    decide +kernel
  exact routing_monotone plainPriors foundryRequest [] unused confident grows before after

example : ((foundryRouting regulatedGraph).1.filter fun decision =>
    decision.datasetId = "commerce.semiconductors").map DataRelevanceDecision.decision =
      [.defer] := by
  decide +kernel

end DriverProfiles
end EconomicGraph
end MarketIntelligence
