import MarketIntelligence.Foundations.Loops
import MarketIntelligence.MarketData.Universe

namespace MarketIntelligence
namespace MarketData
namespace Universe

open Foundations
open SortedLists
open Loops

/-!
# Eligibility and rank in the selected layers

The active layer takes the promoted assets in the order of two keys: whether an asset is a
candidate, and its identifier.  What comes first is therefore neither limited to eligible
assets nor ordered by the score, and the layer keeps both laws exactly when its order agrees
with them at the capacities.
-/

variable {V : Type}

/-! ## What the layers should satisfy -/

def isOpen (workspace : Option Identifier) (layer : Layer) (asset : Identifier)
    (row : UniverseLayerMembership V) : Bool :=
  row.workspace = workspace ∧ row.layer = layer ∧ row.asset = asset ∧ row.effectiveTo = none

/-- The open memberships of an asset in a layer of a workspace. -/
def openCount (tables : Tables V) (workspace : Option Identifier) (layer : Layer)
    (asset : Identifier) : Nat :=
  tables.memberships.countP (isOpen workspace layer asset)

def IsMember (tables : Tables V) (workspace : Option Identifier) (layer : Layer)
    (asset : Identifier) : Prop :=
  exists row, row ∈ tables.memberships ∧ isOpen workspace layer asset row = true

def scoredOf (operations : ScoreOperations V) (tables : Tables V) (asset : Identifier) :
    Scored V :=
  match scoreAsset operations tables asset with
  | .ok item => item
  | .error _ => ⟨asset, operations.literal 0, []⟩

/-- The score of the stored bars of an asset. -/
def scoreAt (operations : ScoreOperations V) (tables : Tables V) (asset : Identifier) : V :=
  (scoredOf operations tables asset).value

/-- The upper layers of the workspace have eligible assets only, they leave out no candidate with
a higher score than one they have taken, and no membership of any workspace is open twice. -/
structure Respects [LinearOrder V] (operations : ScoreOperations V) (tables after : Tables V)
    (workspace : Option Identifier) : Prop where
  eligible : forall layer, layer ∈ [Layer.activeIntelligence, .realtime] ->
    forall asset, IsMember after workspace layer asset ->
      IsMember after workspace .usEligible asset
  ranked : forall layer, layer ∈ [Layer.activeIntelligence, .realtime] ->
    forall first second, IsMember after workspace .candidate first ->
      IsMember after workspace .candidate second -> IsMember after workspace layer first ->
        ¬ IsMember after workspace layer second ->
          scoreAt operations tables second ≤ scoreAt operations tables first
  unique : forall owner layer asset, openCount after owner layer asset ≤ 1

/-! ## The order of the promoted assets -/

section Order

variable [LinearOrder V] (operations : ScoreOperations V) (tables : Tables V)
  (request : Request)

/-- The first asset has the higher score, or the same one and the lower identifier. -/
def Outranks (first second : Identifier) : Prop :=
  scoreAt operations tables second < scoreAt operations tables first ∨
    scoreAt operations tables first = scoreAt operations tables second ∧ first < second

instance (first second : Identifier) : Decidable (Outranks operations tables first second) :=
  inferInstanceAs (Decidable (_ ∨ _))

/-- Fewer screened assets than the capacity outrank it. -/
def IsCandidate (asset : Identifier) : Prop :=
  asset ∈ screenedAssets tables ∧
    (screenedAssets tables).countP (fun other => Outranks operations tables other asset) <
      request.candidateCapacity.toNat

instance (asset : Identifier) : Decidable (IsCandidate operations tables request asset) :=
  inferInstanceAs (Decidable (_ ∧ _))

/-- The workspace watches, holds or has ordered it, or it is a candidate. -/
def IsPromoted (asset : Identifier) : Prop :=
  asset ∈ (listedReasons tables request.workspace).map Prod.fst ∨
    IsCandidate operations tables request asset

instance (asset : Identifier) : Decidable (IsPromoted operations tables request asset) :=
  inferInstanceAs (Decidable (_ ∨ _))

/-- Candidates come before other assets, and in both groups the lower identifier does. -/
def ComesBefore (first second : Identifier) : Prop :=
  (IsCandidate operations tables request first ∧
      ¬ IsCandidate operations tables request second) ∨
    (IsCandidate operations tables request first <->
      IsCandidate operations tables request second) ∧ first < second

instance (first second : Identifier) :
    Decidable (ComesBefore operations tables request first second) :=
  inferInstanceAs (Decidable (_ ∨ _))

def promotedAssets : List Identifier :=
  ((listedReasons tables request.workspace).map Prod.fst ++ screenedAssets tables).dedup.filter
    fun asset => IsPromoted operations tables request asset

/-- How many promoted assets come before one, candidates first and then by identifier: its place
in the order that the capacities cut. -/
def placesBefore (asset : Identifier) : Nat :=
  (promotedAssets operations tables request).countP
    fun other => ComesBefore operations tables request other asset

/-- The order of the promoted assets agrees with eligibility and with the scores at the
capacities, and the memberships of the other workspaces are in order. -/
structure Orderly : Prop where
  eligible : forall asset, IsPromoted operations tables request asset ->
    asset ∉ eligibleAssets tables ->
      request.activeCapacity.toNat ≤ placesBefore operations tables request asset
  ranked : forall capacity,
    capacity ∈ [request.activeCapacity, min request.realtimeCapacity request.activeCapacity] ->
      forall first second, IsCandidate operations tables request first ->
        IsCandidate operations tables request second ->
          scoreAt operations tables first < scoreAt operations tables second ->
            placesBefore operations tables request first < capacity.toNat ->
              placesBefore operations tables request second < capacity.toNat
  others : forall owner, owner ≠ request.workspace ->
    forall layer asset, openCount tables owner layer asset ≤ 1

end Order

/-! ## The selected assets -/

section Selected

variable {operations : ScoreOperations V} {tables : Tables V} {request : Request}
  {selection : Selection V}

theorem scoreAsset_ok {asset : Identifier} {item : Scored V}
    (done : scoreAsset operations tables asset = .ok item) :
    item = scoredOf operations tables asset := by
  unfold scoredOf
  rw [done]

theorem scoredOf_asset (asset : Identifier) :
    (scoredOf operations tables asset).asset = asset := by
  unfold scoredOf
  split
  · rename_i item done
    unfold scoreAsset at done
    cases scored : score operations (barsOf tables asset) with
    | error raised =>
        rw [scored] at done
        cases done
    | ok result =>
        rw [scored] at done
        cases done
        rfl
  · rfl

theorem eligible_nodup (distinct : (tables.assets.map Asset.id).Nodup) :
    (eligibleAssets tables).Nodup := by
  refine ((List.perm_insertionSort _ _).map Asset.id).nodup_iff.mpr ?_
  exact distinct.sublist (List.filter_sublist.map Asset.id)

theorem screened_nodup (distinct : (tables.assets.map Asset.id).Nodup) :
    (screenedAssets tables).Nodup :=
  (eligible_nodup distinct).filter _

variable [LinearOrder V]

theorem scoredAssets_ok {scored : List (Scored V)}
    (done : scoredAssets operations tables = .ok scored) :
    scored = sortedBy Scored.key ((screenedAssets tables).map (scoredOf operations tables)) := by
  unfold scoredAssets at done
  cases mapped : (screenedAssets tables).mapM (scoreAsset operations tables) with
  | error raised =>
      rw [mapped] at done
      cases done
  | ok items =>
      rw [mapped] at done
      cases done
      have same : items.map id = (screenedAssets tables).map (scoredOf operations tables) :=
        map_of_mapM mapped fun asset _ item found => scoreAsset_ok found
      rw [List.map_id] at same
      rw [same]

/-- What a selection that returns consists of. -/
structure Selects (operations : ScoreOperations V) (tables : Tables V) (request : Request)
    (selection : Selection V) : Prop where
  eligible : selection.eligible = eligibleAssets tables
  reference : selection.referenceReady = referenceReady tables
  historical : selection.historicalReady = screenedAssets tables
  scored : selection.scored =
    sortedBy Scored.key ((screenedAssets tables).map (scoredOf operations tables))
  candidates : selection.candidates = selection.scored.take request.candidateCapacity.toNat
  active : selection.active =
    (activeOrder tables request.workspace selection.ranked).take request.activeCapacity.toNat
  realtime : selection.realtime = selection.active.take request.realtimeCapacity.toNat

theorem selectAssets_ok (done : selectAssets operations tables request = .ok selection) :
    Selects operations tables request selection := by
  unfold selectAssets at done
  cases scored : scoredAssets operations tables with
  | error raised =>
      rw [scored] at done
      cases done
  | ok items =>
      rw [scored] at done
      cases done
      exact ⟨rfl, rfl, rfl, scoredAssets_ok scored, rfl, rfl, rfl⟩

theorem scored_assets (selects : Selects operations tables request selection) :
    (selection.scored.map Scored.asset).Perm (screenedAssets tables) := by
  rw [selects.scored]
  refine ((List.perm_insertionSort _ _).map Scored.asset).trans ?_
  rw [List.map_map]
  have same : Scored.asset ∘ scoredOf operations tables = id := funext scoredOf_asset
  rw [same, List.map_id]

theorem key_lt {first second : Identifier} :
    (scoredOf operations tables first).key < (scoredOf operations tables second).key <->
      Outranks operations tables first second := by
  unfold Scored.key Outranks scoreAt
  rw [Prod.Lex.toLex_lt_toLex, scoredOf_asset, scoredOf_asset]
  rfl

/-- The candidates that the selection takes are those that fewer assets outrank. -/
theorem mem_ranked (selects : Selects operations tables request selection)
    (distinct : (tables.assets.map Asset.id).Nodup) {asset : Identifier} :
    asset ∈ selection.ranked <-> IsCandidate operations tables request asset := by
  have keys : (((screenedAssets tables).map (scoredOf operations tables)).map Scored.key).Nodup := by
    rw [List.map_map]
    refine (List.nodup_map_iff_inj_on (screened_nodup distinct)).mpr fun first _ second _ same => ?_
    have both := congrArg (fun key => (ofLex key).2) same
    simpa [Scored.key, scoredOf_asset] using both
  have counts : forall first : Identifier,
      ((screenedAssets tables).map (scoredOf operations tables)).countP
          (fun other => other.key < (scoredOf operations tables first).key) =
        (screenedAssets tables).countP fun other => Outranks operations tables other first := by
    intro first
    rw [List.countP_map]
    refine List.countP_congr fun other _ => ?_
    simp only [Function.comp_apply, decide_eq_true_iff]
    exact key_lt
  unfold Selection.ranked IsCandidate
  rw [selects.candidates, selects.scored, List.mem_map]
  constructor
  · rintro ⟨item, taken, same⟩
    rcases (mem_take_sortedBy keys).mp taken with ⟨listed, within⟩
    rcases List.mem_map.mp listed with ⟨first, screened, own⟩
    subst own
    rw [scoredOf_asset] at same
    subst same
    exact ⟨screened, counts first ▸ within⟩
  · rintro ⟨screened, within⟩
    refine ⟨scoredOf operations tables asset, ?_, scoredOf_asset asset⟩
    exact (mem_take_sortedBy keys).mpr ⟨List.mem_map_of_mem screened, (counts asset).symm ▸ within⟩

theorem activeKey_lt (selects : Selects operations tables request selection)
    (distinct : (tables.assets.map Asset.id).Nodup) {first second : Identifier} :
    activeKey selection.ranked first < activeKey selection.ranked second <->
      ComesBefore operations tables request first second := by
  unfold activeKey ComesBefore
  rw [Prod.Lex.toLex_lt_toLex, Bool.lt_iff]
  simp only [decide_eq_false_iff_not, not_not, decide_eq_true_iff, decide_eq_decide,
    not_iff_not, mem_ranked selects distinct]

theorem mem_promoted (selects : Selects operations tables request selection)
    (distinct : (tables.assets.map Asset.id).Nodup) {asset : Identifier} :
    asset ∈ ((promoted tables request.workspace selection.ranked).map Prod.fst).dedup <->
      IsPromoted operations tables request asset := by
  unfold promoted IsPromoted
  rw [List.mem_dedup, List.map_append, List.mem_append, List.map_map]
  have same : Prod.fst ∘ (fun ranked : Identifier => (ranked, "RANKED_CANDIDATE")) = id := rfl
  rw [same, List.map_id, mem_ranked selects distinct]

theorem promoted_perm (selects : Selects operations tables request selection)
    (distinct : (tables.assets.map Asset.id).Nodup) :
    ((promoted tables request.workspace selection.ranked).map Prod.fst).dedup.Perm
      (promotedAssets operations tables request) := by
  refine (List.perm_ext_iff_of_nodup (List.nodup_dedup _) ((List.nodup_dedup _).filter _)).mpr ?_
  intro asset
  rw [mem_promoted selects distinct, List.mem_filter, decide_eq_true_iff, List.mem_dedup,
    List.mem_append]
  constructor
  · intro holds
    exact ⟨holds.imp id And.left, holds⟩
  · exact And.right

/-- The first assets of the active order are those with fewer promoted ones before them. -/
theorem mem_take_active (selects : Selects operations tables request selection)
    (distinct : (tables.assets.map Asset.id).Nodup) {count : Nat} {asset : Identifier} :
    asset ∈ (activeOrder tables request.workspace selection.ranked).take count <->
      IsPromoted operations tables request asset ∧
        placesBefore operations tables request asset < count := by
  have keys : ((((promoted tables request.workspace selection.ranked).map
      Prod.fst).dedup).map (activeKey selection.ranked)).Nodup := by
    refine (List.nodup_dedup _).map fun first second same => ?_
    exact congrArg (fun key => (ofLex key).2) same
  unfold activeOrder placesBefore
  rw [mem_take_sortedBy keys, mem_promoted selects distinct,
    (promoted_perm selects distinct).countP_eq]
  simp only [activeKey_lt selects distinct]

theorem mem_active (selects : Selects operations tables request selection)
    (distinct : (tables.assets.map Asset.id).Nodup) {asset : Identifier} :
    asset ∈ selection.active <->
      IsPromoted operations tables request asset ∧
        placesBefore operations tables request asset < request.activeCapacity.toNat := by
  rw [selects.active, mem_take_active selects distinct]

theorem mem_realtime (selects : Selects operations tables request selection)
    (distinct : (tables.assets.map Asset.id).Nodup) {asset : Identifier} :
    asset ∈ selection.realtime <->
      IsPromoted operations tables request asset ∧
        placesBefore operations tables request asset <
          (min request.realtimeCapacity request.activeCapacity).toNat := by
  rw [selects.realtime, selects.active, List.take_take, mem_take_active selects distinct]
  have same : min request.realtimeCapacity.toNat request.activeCapacity.toNat =
      (min request.realtimeCapacity request.activeCapacity).toNat := by omega
  rw [same]

theorem layerAssets_nodup (selects : Selects operations tables request selection)
    (distinct : (tables.assets.map Asset.id).Nodup) (layer : Layer) :
    (selection.layerAssets layer).Nodup := by
  have scored : (selection.scored.map Scored.asset).Nodup :=
    (scored_assets selects).nodup_iff.mpr (screened_nodup distinct)
  have active : selection.active.Nodup := by
    rw [selects.active]
    exact (nodup_sortedBy.mpr (List.nodup_dedup _)).sublist (List.take_sublist _ _)
  cases layer with
  | usEligible =>
      unfold Selection.layerAssets
      rw [selects.eligible]
      exact eligible_nodup distinct
  | referenceReady =>
      refine nodup_sortedBy.mpr ?_
      rw [selects.reference]
      exact List.nodup_dedup _
  | historicalReady =>
      refine nodup_sortedBy.mpr ?_
      rw [selects.historical]
      exact screened_nodup distinct
  | screening => exact scored
  | candidate =>
      unfold Selection.layerAssets Selection.ranked
      rw [selects.candidates]
      exact scored.sublist ((List.take_sublist _ _).map Scored.asset)
  | activeIntelligence => exact active
  | realtime =>
      unfold Selection.layerAssets
      rw [selects.realtime]
      exact active.sublist (List.take_sublist _ _)

end Selected

/-! ## The written memberships -/

section Written

variable {operations : ScoreOperations V} {tables after : Tables V} {request : Request}
  {selection : Selection V} {digest : ChecksumPayload -> String} {run : UniverseSelectionRun}
  {workspace : Option Identifier} {layer : Layer} {asset : Identifier} {checksum : String}

theorem closed_count (memberships : List (UniverseLayerMembership V)) :
    (closeMemberships request memberships).countP (isOpen workspace layer asset) =
      if workspace = request.workspace then 0
      else memberships.countP (isOpen workspace layer asset) := by
  unfold closeMemberships
  rw [List.countP_map]
  by_cases own : workspace = request.workspace
  · rw [if_pos own]
    refine List.countP_eq_zero.mpr fun row _ => ?_
    simp only [Function.comp_apply, isOpen, decide_eq_true_iff]
    split
    · rintro ⟨-, -, -, ends⟩
      cases ends
    · rename_i kept
      rintro ⟨same, -, -, ends⟩
      exact kept ⟨same.trans own, ends⟩
  · rw [if_neg own]
    refine List.countP_congr fun row _ => ?_
    simp only [Function.comp_apply, isOpen, decide_eq_true_iff]
    split
    · rename_i closed
      constructor
      · rintro ⟨same, -, -, -⟩
        exact absurd (same.symm.trans closed.1) own
      · rintro ⟨same, -, -, -⟩
        exact absurd (same.symm.trans closed.1) own
    · exact Iff.rfl

theorem layer_count (assets : List Identifier) (written : Layer) (start : Nat) :
    ((assets.zipIdx start).map (membershipOf operations selection request checksum
        written)).countP (isOpen workspace layer asset) =
      if workspace = request.workspace ∧ written = layer then assets.count asset else 0 := by
  induction assets generalizing start with
  | nil => simp
  | cons head tail ih =>
      rw [List.zipIdx_cons, List.map_cons, List.countP_cons, ih]
      simp only [isOpen, membershipOf, and_true, decide_eq_true_iff]
      by_cases own : workspace = request.workspace ∧ written = layer
      · rw [if_pos own, if_pos own, List.count_cons]
        by_cases same : head = asset <;> simp [own.1, own.2, same]
      · rw [if_neg own, if_neg own, if_neg]
        rintro ⟨home, this, -⟩
        exact own ⟨home.symm, this⟩

theorem new_count :
    (newMemberships operations selection request checksum).countP (isOpen workspace layer asset) =
      if workspace = request.workspace then (selection.layerAssets layer).count asset else 0 := by
  unfold newMemberships
  rw [List.countP_flatMap]
  simp only [Function.comp_def, layer_count]
  by_cases own : workspace = request.workspace
  · cases layer <;> simp [layers, own]
  · simp [own, layers]

theorem after_count (written : after.memberships =
      closeMemberships request tables.memberships ++
        newMemberships operations selection request checksum) :
    openCount after workspace layer asset =
      if workspace = request.workspace then (selection.layerAssets layer).count asset
      else openCount tables workspace layer asset := by
  unfold openCount
  rw [written, List.countP_append, closed_count, new_count]
  split <;> simp

theorem isMember_iff (written : after.memberships =
      closeMemberships request tables.memberships ++
        newMemberships operations selection request checksum) :
    IsMember after request.workspace layer asset <-> asset ∈ selection.layerAssets layer := by
  have positive : IsMember after request.workspace layer asset <->
      0 < openCount after request.workspace layer asset := List.countP_pos_iff.symm
  rw [positive, after_count written, if_pos rfl, List.count_pos_iff]

variable [LinearOrder V]

theorem select_ok
    (done : selectDynamicUniverse operations digest tables request = .ok (run, after)) :
    exists selection, Selects operations tables request selection ∧
      after.memberships = closeMemberships request tables.memberships ++
        newMemberships operations selection request (digest (payloadOf selection request)) := by
  unfold selectDynamicUniverse at done
  split at done
  · cases done
  · cases selected : selectAssets operations tables request with
    | error raised =>
        rw [selected] at done
        cases done
    | ok selection =>
        rw [selected] at done
        refine ⟨selection, selectAssets_ok selected, ?_⟩
        simp only [bind, Except.bind, pure, Except.pure] at done
        split at done
        · cases done
        · cases done
          rfl

/-- A selection respects eligibility and scores exactly when the order of the promoted assets
agrees with them at the capacities. -/
theorem universe_iff (operations : ScoreOperations V) (digest : ChecksumPayload -> String)
    (tables after : Tables V) (request : Request) (run : UniverseSelectionRun)
    (distinct : (tables.assets.map Asset.id).Nodup)
    (selected : selectDynamicUniverse operations digest tables request = .ok (run, after)) :
    Respects operations tables after request.workspace <->
      Orderly operations tables request := by
  rcases select_ok selected with ⟨selection, selects, written⟩
  have members : forall layer asset, IsMember after request.workspace layer asset <->
      asset ∈ selection.layerAssets layer := fun layer asset => isMember_iff written
  have eligible : forall asset, IsMember after request.workspace .usEligible asset <->
      asset ∈ eligibleAssets tables := by
    intro asset
    rw [members, ← selects.eligible]
    rfl
  have candidate : forall asset, IsMember after request.workspace .candidate asset <->
      IsCandidate operations tables request asset :=
    fun asset => (members _ _).trans (mem_ranked selects distinct)
  have active := fun asset => (members .activeIntelligence asset).trans (mem_active selects distinct)
  have realtime := fun asset => (members .realtime asset).trans (mem_realtime selects distinct)
  constructor
  · intro respects
    refine ⟨fun asset promotes excluded => ?_, fun capacity listed => ?_, fun owner other => ?_⟩
    · by_contra within
      have inside := (active asset).mpr ⟨promotes, not_le.mp within⟩
      exact excluded ((eligible asset).mp (respects.eligible _ (by simp) asset inside))
    · intro first second low high less before
      by_contra behind
      have left := (candidate first).mpr low
      have right := (candidate second).mpr high
      rcases List.mem_cons.mp listed with same | later
      · subst same
        refine absurd less (not_lt.mpr (respects.ranked .activeIntelligence (by simp) first second
          left right ((active first).mpr ⟨.inr low, before⟩) fun taken => ?_))
        exact behind ((active second).mp taken).2
      · rw [List.mem_singleton] at later
        subst later
        refine absurd less (not_lt.mpr (respects.ranked .realtime (by simp) first second
          left right ((realtime first).mpr ⟨.inr low, before⟩) fun taken => ?_))
        exact behind ((realtime second).mp taken).2
    · intro layer asset
      have bound := respects.unique owner layer asset
      rwa [after_count written, if_neg other] at bound
  · intro orderly
    have activeEligible : forall asset, asset ∈ selection.active ->
        asset ∈ eligibleAssets tables := by
      intro asset member
      rcases (mem_active selects distinct).mp member with ⟨promotes, within⟩
      by_contra excluded
      exact absurd within (not_lt.mpr (orderly.eligible asset promotes excluded))
    refine ⟨fun layer listed asset member => ?_, fun layer listed => ?_, fun owner layer asset => ?_⟩
    · rw [eligible]
      rcases List.mem_cons.mp listed with same | later
      · subst same
        exact activeEligible asset ((members _ _).mp member)
      · rw [List.mem_singleton] at later
        subst later
        refine activeEligible asset ?_
        have inside : asset ∈ selection.realtime := (members _ _).mp member
        rw [selects.realtime] at inside
        exact List.mem_of_mem_take inside
    · intro first second left right inside outside
      by_contra higher
      have low := (candidate first).mp left
      have high := (candidate second).mp right
      rcases List.mem_cons.mp listed with same | later
      · subst same
        refine outside ((active second).mpr ⟨.inr high, ?_⟩)
        exact orderly.ranked _ (by simp) first second low high (not_le.mp higher)
          ((active first).mp inside).2
      · rw [List.mem_singleton] at later
        subst later
        refine outside ((realtime second).mpr ⟨.inr high, ?_⟩)
        exact orderly.ranked _ (by simp) first second low high (not_le.mp higher)
          ((realtime first).mp inside).2
    · rw [after_count written]
      split
      · exact List.nodup_iff_count_le_one.mp (layerAssets_nodup selects distinct layer) asset
      · rename_i other
        exact orderly.others owner other layer asset

end Written

/-! ## Two eligible assets and a watched one that is not -/

/-- Rational arithmetic, with the logarithm of one. -/
def exactScores : ScoreOperations Rat where
  literal := id
  add := fun left right => left + right
  subtract := fun left right => left - right
  multiply := fun left right => left * right
  divide := fun left right => if right = 0 then none else some (left / right)
  absolute := fun value => if 0 ≤ value then value else -value
  maximum := fun left right => if left < right then right else left
  minimum := fun left right => if right < left then right else left
  log10 := fun _ => 0
  pstdev := fun _ => 0
  sum := fun values => values.foldl (· + ·) 0
  truthy := fun value => decide (value ≠ 0)
  stored := id

def flatBar (asset : Identifier) (eventTime : Instant) : PriceBar :=
  ⟨asset, eventTime, 1, 1, 1, false⟩

/-- The first asset has one bar and the second one two; the third one is not active. -/
def threeAssets : Tables Rat where
  assets := [⟨1, "ATOM", true⟩, ⟨2, "BOLT", true⟩, ⟨3, "GONE", false⟩]
  listings := [⟨1, true, "ELIGIBLE", none⟩, ⟨2, true, "ELIGIBLE", none⟩,
    ⟨3, true, "ELIGIBLE", none⟩]
  capabilities := []
  bars := [flatBar 1 0, flatBar 2 0, flatBar 2 1]
  watchlists := [⟨1, 7⟩]
  watchlistAssets := [⟨1, 3⟩]
  portfolios := []
  positions := []
  orders := []
  runs := []
  memberships := []

def requestOf (workspace : Option Identifier) (activeCapacity : Int) : Request :=
  ⟨workspace, 5, 100, activeCapacity, "alpaca", 10⟩

theorem threeAssets_ids : (threeAssets.assets.map Asset.id).Nodup := by decide

theorem threeAssets_selects (workspace : Option Identifier) (activeCapacity : Int)
    (done : (selectDynamicUniverse exactScores (fun _ => "digest") threeAssets
      (requestOf workspace activeCapacity)).toOption.isSome = true) :
    exists run after, selectDynamicUniverse exactScores (fun _ => "digest") threeAssets
      (requestOf workspace activeCapacity) = .ok (run, after) := by
  generalize selectDynamicUniverse exactScores (fun _ => "digest") threeAssets
    (requestOf workspace activeCapacity) = outcome at done
  cases outcome with
  | error raised => cases done
  | ok result => exact ⟨result.1, result.2, rfl⟩

/-- With room for both candidates the layers respect eligibility and scores. -/
theorem threeAssets_respects :
    exists run after, selectDynamicUniverse exactScores (fun _ => "digest") threeAssets
        (requestOf none 2) = .ok (run, after) ∧ Respects exactScores threeAssets after none := by
  rcases threeAssets_selects none 2 (by decide +kernel) with ⟨run, after, selected⟩
  refine ⟨run, after, selected, ?_⟩
  refine (universe_iff exactScores _ threeAssets after (requestOf none 2) run threeAssets_ids
    selected).mpr ⟨fun asset promotes excluded => ?_, ?_, fun _ _ _ _ => Nat.zero_le 1⟩
  · rcases promotes with listed | ⟨screened, -⟩
    · cases listed
    · exact absurd (List.mem_filter.mp screened).1 excluded
  · intro capacity listed first second low high _ _
    have small : forall asset, asset ∈ screenedAssets threeAssets ->
        placesBefore exactScores threeAssets (requestOf none 2) asset < 2 := by
      decide +kernel
    have size : capacity = 2 := by
      rcases List.mem_cons.mp listed with same | later
      · exact same
      · exact List.mem_singleton.mp later
    rw [size]
    exact small second high.1

/-- The candidate with one bar comes first by its identifier, and the watched asset is not
eligible. -/
theorem threeAssets_disregards :
    (exists run after, selectDynamicUniverse exactScores (fun _ => "digest") threeAssets
        (requestOf none 1) = .ok (run, after) ∧
      IsMember after none .activeIntelligence 1 ∧ IsMember after none .candidate 2 ∧
      ¬ IsMember after none .activeIntelligence 2 ∧
      scoreAt exactScores threeAssets 1 = 0 ∧ scoreAt exactScores threeAssets 2 = 1 / 4 ∧
      ¬ Respects exactScores threeAssets after none) ∧
    exists run after, selectDynamicUniverse exactScores (fun _ => "digest") threeAssets
        (requestOf (some 7) 3) = .ok (run, after) ∧
      IsMember after (some 7) .activeIntelligence 3 ∧
      ¬ IsMember after (some 7) .usEligible 3 ∧
      ¬ Respects exactScores threeAssets after (some 7) := by
  constructor
  · rcases threeAssets_selects none 1 (by decide +kernel) with ⟨run, after, selected⟩
    rcases select_ok selected with ⟨selection, selects, written⟩
    have included : IsMember after none .activeIntelligence 1 :=
      (isMember_iff written).mpr ((mem_active selects threeAssets_ids).mpr (by decide +kernel))
    have omitted : ¬ IsMember after none .activeIntelligence 2 := fun member =>
      absurd ((mem_active selects threeAssets_ids).mp ((isMember_iff written).mp member))
        (by decide +kernel)
    have first : IsMember after none .candidate 1 :=
      (isMember_iff written).mpr ((mem_ranked selects threeAssets_ids).mpr (by decide +kernel))
    have second : IsMember after none .candidate 2 :=
      (isMember_iff written).mpr ((mem_ranked selects threeAssets_ids).mpr (by decide +kernel))
    refine ⟨run, after, selected, included, second, omitted, by decide +kernel,
      by decide +kernel, fun respects => ?_⟩
    have higher := respects.ranked .activeIntelligence (by simp) 1 2 first second included omitted
    exact absurd higher (by decide +kernel)
  · rcases threeAssets_selects (some 7) 3 (by decide +kernel) with ⟨run, after, selected⟩
    rcases select_ok selected with ⟨selection, selects, written⟩
    have included : IsMember after (some 7) .activeIntelligence 3 :=
      (isMember_iff written).mpr ((mem_active selects threeAssets_ids).mpr (by decide +kernel))
    have excluded : ¬ IsMember after (some 7) .usEligible 3 := by
      intro member
      have listed := (isMember_iff written).mp member
      have known : (3 : Identifier) ∈ selection.eligible := listed
      rw [selects.eligible] at known
      exact absurd known (by decide +kernel)
    exact ⟨run, after, selected, included, excluded, fun respects =>
      excluded (respects.eligible .activeIntelligence (by simp) 3 included)⟩

end Universe
end MarketData
end MarketIntelligence
