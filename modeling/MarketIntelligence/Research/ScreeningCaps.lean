import MarketIntelligence.Foundations.Runs
import MarketIntelligence.Research.Pinning
import MarketIntelligence.Research.Screening

namespace MarketIntelligence
namespace Research

open Foundations
open Loops
open SortedLists

/-!
# Caps of the screening

A run gives a level to the entities that it ranks and to no others.  The candidates that
it leaves alone keep the level of an earlier run, so the caps of the levels hold after a
run exactly when these are all at the lowest level, and the ranks fit the limits of the
budgets that are passed along.
-/

/-! ## Candidates of one universe and one policy -/

def ScreeningCall.covers (call : ScreeningCall) (state : ResearchCandidateState) : Bool :=
  state.workspaceId = call.workspaceId && state.universeId = call.researchUniverse.id &&
    state.policyId = call.policy.id

/-- The stored candidates of the universe and the policy, with their levels. -/
def standing (call : ScreeningCall) (states : List ResearchCandidateState) :
    List (Identifier × Level) :=
  (states.filter call.covers).map fun state => (state.entityId, state.currentLevel)

/-- The members of the universe at the time of the call. -/
def currentMembers (call : ScreeningCall) : List Identifier :=
  ((universeVersionAsOf call.store call.researchUniverse.id call.asOfTime).map fun version =>
    (membershipsAsOf call.store version.id call.asOfTime).map
      ResearchUniverseMembership.entityId).getD []

def candidateLimit (call : ScreeningCall) (level : Level) : Option Int :=
  (call.budget level).bind fun budget => limitOf budget "candidate_limit"

/-- No level is over its cap or over the limit of its budget, and entities that are no
members hold the lowest level. -/
structure Capped (call : ScreeningCall) (candidates : List (Identifier × Level)) : Prop where
  level4 : candidates.countP (fun entry => 4 ≤ entry.2.number) ≤ 3
  level3 : candidates.countP (fun entry => 3 ≤ entry.2.number) ≤ 8
  level2 : candidates.countP (fun entry => 2 ≤ entry.2.number) ≤ 20
  level1 : candidates.countP (fun entry => 1 ≤ entry.2.number) ≤ 50
  limits : forall level limit, candidateLimit call level = some limit ->
    (candidates.countP (fun entry => entry.2 = level) : Int) ≤ limit
  members : forall entry, entry ∈ candidates -> entry.1 ∉ currentMembers call ->
    entry.2 = .level0

/-- The number of ranks, out of so many, that have the level. -/
def seats (level : Level) (count : Nat) : Nat :=
  (List.range count).countP fun rank => levelAt rank = level

/-- The candidates that are no members any more. -/
def departed (call : ScreeningCall) (candidates : List (Identifier × Level)) :
    List (Identifier × Level) :=
  candidates.filter fun entry => entry.1 ∉ currentMembers call

/-- The departed candidates are at the lowest level, and the members and they fit the
limits of the budgets. -/
structure Fits (call : ScreeningCall) (candidates : List (Identifier × Level)) : Prop where
  demoted : forall entry, entry ∈ departed call candidates -> entry.2 = .level0
  limits : forall level limit, candidateLimit call level = some limit ->
    ((seats level (currentMembers call).length +
      if level = .level0 then (departed call candidates).length else 0 : Nat) : Int) ≤ limit

/-! ## Ranks and levels -/

theorem countP_range_lt (bound count : Nat) :
    (List.range count).countP (fun rank => rank < bound) = min count bound := by
  induction count with
  | zero => simp
  | succ count ih =>
      rw [List.range_succ, List.countP_append, ih, List.countP_singleton]
      by_cases inside : count < bound
      · rw [if_pos (decide_eq_true inside)]
        omega
      · rw [if_neg (by simpa using inside)]
        omega

theorem number_levelAt (rank : Nat) :
    (levelAt rank).number =
      if rank < 3 then 4 else if rank < 8 then 3 else if rank < 20 then 2
      else if rank < 50 then 1 else 0 := by
  unfold levelAt thresholds
  simp only [List.find?_cons, List.find?_nil]
  by_cases fourth : rank < 3
  · simp [fourth, Level.number]
  · by_cases third : rank < 8
    · simp [fourth, third, Level.number]
    · by_cases second : rank < 20
      · simp [fourth, third, second, Level.number]
      · by_cases first : rank < 50
        · simp [fourth, third, second, first, Level.number]
        · simp [fourth, third, second, first, Level.number]

/-- The ranks of a level and of the levels above it are the ranks under a bound. -/
theorem countP_levelAt_le {number bound : Nat}
    (under : forall rank, number ≤ (levelAt rank).number -> rank < bound) (count : Nat) :
    (List.range count).countP (fun rank => number ≤ (levelAt rank).number) ≤ bound := by
  refine (List.countP_mono_left fun rank _ reached =>
    decide_eq_true (under rank (of_decide_eq_true reached))).trans ?_
  rw [countP_range_lt]
  omega

/-! ## The candidates after a run -/

section Candidates

variable {call : ScreeningCall} {snapshot : FeatureSnapshot}

/-- The key of a state and its level. -/
def ResearchCandidateState.view (state : ResearchCandidateState) :
    (Identifier × Identifier × Identifier × Identifier) × Level :=
  (state.key, state.currentLevel)

/-- What is left of a view when it belongs to the universe and the policy. -/
def ScreeningCall.entry (call : ScreeningCall)
    (view : (Identifier × Identifier × Identifier × Identifier) × Level) :
    Option (Identifier × Level) :=
  if view.1.1 = call.workspaceId ∧ view.1.2.1 = call.researchUniverse.id ∧
      view.1.2.2.2 = call.policy.id then
    some (view.1.2.2.1, view.2)
  else none

theorem covers_iff {state : ResearchCandidateState} :
    call.covers state = true <-> state.key = call.stateKey state.entityId := by
  unfold ScreeningCall.covers ResearchCandidateState.key ScreeningCall.stateKey
  simp only [Bool.and_eq_true, decide_eq_true_eq, Prod.mk.injEq, true_and]
  exact and_assoc

theorem standing_eq (states : List ResearchCandidateState) :
    standing call states = (states.map ResearchCandidateState.view).filterMap call.entry := by
  unfold standing
  induction states with
  | nil => rfl
  | cons state rest ih =>
      rw [List.map_cons, List.filterMap_cons, ← ih]
      have shown : call.entry state.view =
          if call.covers state = true then some (state.entityId, state.currentLevel) else none := by
        unfold ScreeningCall.entry ResearchCandidateState.view ResearchCandidateState.key
          ScreeningCall.covers
        simp only [Bool.and_eq_true, decide_eq_true_eq, and_assoc]
      by_cases covered : call.covers state = true
      · rw [List.filter_cons_of_pos covered, shown, if_pos covered]
        rfl
      · rw [List.filter_cons_of_neg covered, shown, if_neg covered]

/-- The row that the loop writes for a ranked entity. -/
def writtenState (call : ScreeningCall) (snapshot : FeatureSnapshot)
    (ranked : ScreeningScore × Nat) (states : List ResearchCandidateState) :
    ResearchCandidateState :=
  candidateState call snapshot ranked.1 ranked.2
    (Tables.lookup ResearchCandidateState.key (call.stateKey ranked.1.entityId) states)

theorem writtenState_key (ranked : ScreeningScore × Nat) (states : List ResearchCandidateState) :
    (writtenState call snapshot ranked states).key = call.stateKey ranked.1.entityId := by
  unfold writtenState
  cases found : Tables.lookup ResearchCandidateState.key
      (call.stateKey ranked.1.entityId) states with
  | none => rfl
  | some state => exact (Tables.lookup_some found).2

theorem writtenState_view (ranked : ScreeningScore × Nat) (states : List ResearchCandidateState) :
    (writtenState call snapshot ranked states).view =
      (call.stateKey ranked.1.entityId, levelAt ranked.2) := by
  refine Prod.ext (writtenState_key ranked states) ?_
  unfold writtenState candidateState
  split <;> rfl

/-- The entities in the order of the ranking, with the levels of their ranks. -/
def placings (ranked : List ScreeningScore) : List (Identifier × Level) :=
  ranked.zipIdx.map fun pair => (pair.1.entityId, levelAt pair.2)

theorem map_fst_placings (ranked : List ScreeningScore) :
    (placings ranked).map Prod.fst = ranked.map ScreeningScore.entityId := by
  unfold placings
  rw [List.map_map]
  change ranked.zipIdx.map (ScreeningScore.entityId ∘ Prod.fst) = _
  rw [← List.map_map, List.zipIdx_map_fst]

theorem countP_placings (ranked : List ScreeningScore) (selected : Level -> Bool) :
    (placings ranked).countP (fun entry => selected entry.2) =
      (List.range ranked.length).countP fun rank => selected (levelAt rank) := by
  unfold placings
  rw [List.countP_map]
  change ranked.zipIdx.countP ((fun rank => selected (levelAt rank)) ∘ Prod.snd) = _
  rw [← List.countP_map, List.zipIdx_map_snd, List.range_eq_range']

/-- The ranked entities take the levels of their ranks, and the others keep theirs. -/
theorem standing_writeCandidates {ranked : List ScreeningScore}
    {states : List ResearchCandidateState}
    (distinct : (states.map ResearchCandidateState.key).Nodup)
    (apart : (ranked.map ScreeningScore.entityId).Nodup) :
    (standing call (writeCandidates call snapshot ranked states)).Perm
      ((standing call states).filter
        (fun entry => entry.1 ∉ ranked.map ScreeningScore.entityId) ++ placings ranked) := by
  have names : ranked.zipIdx.map (fun pair : ScreeningScore × Nat =>
      call.stateKey pair.1.entityId) =
        (ranked.map ScreeningScore.entityId).map call.stateKey := by
    change ranked.zipIdx.map ((call.stateKey ∘ ScreeningScore.entityId) ∘ Prod.fst) = _
    rw [← List.map_map, List.zipIdx_map_fst, List.map_map]
  have keyed : Function.Injective call.stateKey := by
    intro first second same
    exact (Prod.mk.inj (Prod.mk.inj (Prod.mk.inj same).2).2).1
  have distinctNames : (ranked.zipIdx.map fun pair : ScreeningScore × Nat =>
      call.stateKey pair.1.entityId).Nodup := by
    rw [names]
    exact apart.map keyed
  let kept : ResearchCandidateState -> Bool := fun state =>
    !call.covers state || state.entityId ∉ ranked.map ScreeningScore.entityId
  have untouched : forall state, kept state = true <->
      state.key ∉ ranked.zipIdx.map fun pair : ScreeningScore × Nat =>
        call.stateKey pair.1.entityId := by
    intro state
    rw [names]
    by_cases covered : call.covers state = true
    · simp only [kept, covered, Bool.not_true, Bool.false_or, decide_eq_true_eq]
      rw [covers_iff.mp covered, List.mem_map_of_injective keyed]
    · simp only [kept, Bool.eq_false_iff.mpr covered, Bool.not_false, Bool.true_or, true_iff]
      intro listed
      rcases List.mem_map.mp listed with ⟨entityId, _, same⟩
      apply covered
      apply covers_iff.mpr
      have entity : entityId = state.entityId :=
        (Prod.mk.inj (Prod.mk.inj (Prod.mk.inj same).2).2).1
      rw [← same, entity]
  have written := Tables.foldl_put_perm (@writtenState_key call snapshot) writtenState_view
    untouched distinct distinctNames
  rw [standing_eq, writeCandidates]
  refine (written.filterMap call.entry).trans (List.Perm.of_eq ?_)
  rw [List.filterMap_append]
  congr 1
  · rw [← standing_eq]
    unfold standing
    rw [List.filter_map, List.filter_filter, List.filter_filter]
    refine congrArg (List.map _) (List.filter_congr fun state _ => ?_)
    by_cases covered : call.covers state = true
    · simp [kept, covered]
    · simp [kept, Bool.eq_false_iff.mpr covered]
  · rw [List.filterMap_map, placings]
    apply List.filterMap_eq_map_iff_forall_eq_some.mpr
    intro pair _
    simp [ScreeningCall.entry, ScreeningCall.stateKey]

end Candidates

/-! ## What a run ranks -/

section Ranking

variable {decimal : String -> Option Rat} {call : ScreeningCall} {matrix : FeatureMatrix}
  {ranked : List ScreeningScore}

theorem matrix_members (returned : getFeatureMatrixAsOf call.store call.request = .ok matrix) :
    matrix.entityIds = currentMembers call ∧ matrix.asOfTime = call.asOfTime := by
  rcases getFeatureMatrixAsOf_ok_iff.mp returned with ⟨frame, framed, _, rfl⟩
  refine ⟨?_, rfl⟩
  unfold matrixFrame at framed
  change (if call.featureSet.workspaceId ≠ call.workspaceId ∨
    call.researchUniverse.workspaceId ≠ call.workspaceId then _ else _) = _ at framed
  by_cases foreign : call.featureSet.workspaceId ≠ call.workspaceId ∨
      call.researchUniverse.workspaceId ≠ call.workspaceId
  · rw [if_pos foreign] at framed
    cases framed
  · rw [if_neg foreign] at framed
    unfold currentMembers
    cases found : universeVersionAsOf call.store call.researchUniverse.id call.asOfTime with
    | none =>
        rw [show universeVersionAsOf call.store call.researchUniverse.id call.request.asOf = none
          from found] at framed
        cases framed
    | some version =>
        rw [show universeVersionAsOf call.store call.researchUniverse.id call.request.asOf =
          some version from found] at framed
        cases framed
        rfl

theorem currentMembers_nodup (call : ScreeningCall) : (currentMembers call).Nodup := by
  unfold currentMembers
  cases universeVersionAsOf call.store call.researchUniverse.id call.asOfTime with
  | none => exact List.nodup_nil
  | some version =>
      apply List.Nodup.map_on
      · intro first firstMember second secondMember same
        have firstRow := List.mem_filter.mp (mem_sortedBy.mp firstMember)
        have secondRow := List.mem_filter.mp (mem_sortedBy.mp secondMember)
        simp only [Bool.and_eq_true, decide_eq_true_eq] at firstRow secondRow
        apply List.inj_on_of_nodup_map call.members_nodup firstRow.1 secondRow.1
        rw [firstRow.2.1.1.1, secondRow.2.1.1.1, same]
      · exact nodup_sortedBy.mpr (call.members_nodup.of_map.filter _)

theorem scoreEntity_entityId {entityId : Identifier} {item : ScreeningScore}
    (scored : scoreEntity decimal matrix entityId = .ok item) : item.entityId = entityId := by
  unfold scoreEntity at scored
  rcases except_bind_ok scored with ⟨driver, _, rest⟩
  rcases except_bind_ok rest with ⟨freshness, _, ends⟩
  cases ends
  rfl

theorem scores_entityIds {entityIds : List Identifier} {scores : List ScreeningScore}
    (mapped : entityIds.mapM (scoreEntity decimal matrix) = .ok scores) :
    scores.map ScreeningScore.entityId = entityIds := by
  induction entityIds generalizing scores with
  | nil =>
      cases mapped
      rfl
  | cons entityId rest ih =>
      rw [List.mapM_cons] at mapped
      rcases except_bind_ok mapped with ⟨item, first, others⟩
      rcases except_bind_ok others with ⟨items, tail, ends⟩
      cases ends
      rw [List.map_cons, scoreEntity_entityId first, ih tail]

theorem scoreMatrix_perm (scored : scoreMatrix decimal matrix = .ok ranked) :
    (ranked.map ScreeningScore.entityId).Perm matrix.entityIds := by
  rcases except_bind_ok scored with ⟨scores, mapped, ends⟩
  cases ends
  rw [← scores_entityIds mapped]
  exact (List.perm_insertionSort _ scores).map _

theorem rankMembers_ok (accepted : rankMembers decimal call = .ok (matrix, ranked)) :
    (ranked.map ScreeningScore.entityId).Perm (currentMembers call) ∧
      matrix.asOfTime = call.asOfTime := by
  rcases except_bind_ok accepted with ⟨returned, found, rest⟩
  rcases except_bind_ok rest with ⟨scores, scored, ends⟩
  cases ends
  have given : getFeatureMatrixAsOf call.store call.request = .ok matrix := by
    cases raised : getFeatureMatrixAsOf call.store call.request with
    | error failure =>
        rw [raised] at found
        cases found
    | ok other =>
        rw [raised] at found
        exact congrArg Except.ok (Except.ok.inj found)
  rcases matrix_members given with ⟨members, time⟩
  exact ⟨members ▸ scoreMatrix_perm scored, time⟩

end Ranking

/-! ## One run -/

section Step

variable {call : ScreeningCall} {candidates later : List (Identifier × Level)}
  {ranked : List ScreeningScore}

theorem countP_departed (demoted : forall entry, entry ∈ departed call candidates ->
    entry.2 = .level0) (selected : Level -> Bool) :
    (departed call candidates).countP (fun entry => selected entry.2) =
      if selected .level0 = true then (departed call candidates).length else 0 := by
  by_cases lowest : selected .level0 = true
  · rw [if_pos lowest, List.countP_eq_length]
    intro entry member
    rw [demoted entry member]
    exact lowest
  · rw [if_neg lowest, List.countP_eq_zero]
    intro entry member
    rw [demoted entry member]
    exact lowest

variable (members : (ranked.map ScreeningScore.entityId).Perm (currentMembers call))
  (after : later.Perm (departed call candidates ++ placings ranked))

include members after

theorem countP_later (demoted : forall entry, entry ∈ departed call candidates ->
    entry.2 = .level0) (selected : Level -> Bool) :
    later.countP (fun entry => selected entry.2) =
      (if selected .level0 = true then (departed call candidates).length else 0) +
        (List.range (currentMembers call).length).countP fun rank => selected (levelAt rank) := by
  have count : (currentMembers call).length = ranked.length := by
    rw [← members.length_eq, List.length_map]
  rw [after.countP_eq, List.countP_append, countP_departed demoted, countP_placings, count]

theorem population_le (demoted : forall entry, entry ∈ departed call candidates ->
    entry.2 = .level0) {number bound : Nat} (positive : 0 < number)
    (under : forall rank, number ≤ (levelAt rank).number -> rank < bound) :
    later.countP (fun entry => number ≤ entry.2.number) ≤ bound := by
  have counted := countP_later members after demoted fun level => number ≤ level.number
  have lowest : ¬ decide (number ≤ Level.level0.number) = true := by
    simp [Level.number]
    omega
  rw [if_neg lowest, Nat.zero_add] at counted
  rw [counted]
  exact countP_levelAt_le under _

theorem levelCount (demoted : forall entry, entry ∈ departed call candidates ->
    entry.2 = .level0) (level : Level) :
    later.countP (fun entry => entry.2 = level) =
      seats level (currentMembers call).length +
        if level = .level0 then (departed call candidates).length else 0 := by
  have counted := countP_later members after demoted fun other => other = level
  rw [counted, Nat.add_comm, seats]
  congr 1
  by_cases lowest : level = .level0
  · rw [if_pos lowest, if_pos (decide_eq_true lowest.symm)]
  · rw [if_neg lowest, if_neg (by simpa using fun same => lowest same.symm)]

omit members in
theorem capped_demoted (capped : Capped call later) (entry : Identifier × Level)
    (member : entry ∈ departed call candidates) : entry.2 = .level0 :=
  capped.members entry (after.mem_iff.mpr (List.mem_append_left _ member))
    (of_decide_eq_true (List.mem_filter.mp member).2)

theorem capped_iff_fits : Capped call later <-> Fits call candidates := by
  constructor
  · intro capped
    have demoted := capped_demoted after capped
    refine ⟨demoted, ?_⟩
    intro level limit passed
    rw [← levelCount members after demoted level]
    exact capped.limits level limit passed
  · intro fits
    have population : forall {number bound : Nat}, 0 < number ->
        (forall rank, number ≤ (levelAt rank).number -> rank < bound) ->
        later.countP (fun entry => number ≤ entry.2.number) ≤ bound :=
      population_le members after fits.demoted
    refine ⟨population (by omega) ?_, population (by omega) ?_, population (by omega) ?_,
      population (by omega) ?_, ?_, ?_⟩
    · intro rank reached
      rw [number_levelAt] at reached
      grind
    · intro rank reached
      rw [number_levelAt] at reached
      grind
    · intro rank reached
      rw [number_levelAt] at reached
      grind
    · intro rank reached
      rw [number_levelAt] at reached
      grind
    · intro level limit passed
      rw [levelCount members after fits.demoted level]
      exact fits.limits level limit passed
    · intro entry member absent
      rcases List.mem_append.mp (after.mem_iff.mp member) with left | placed
      · exact fits.demoted entry left
      · have listed : entry.1 ∈ ranked.map ScreeningScore.entityId := by
          rw [← map_fst_placings]
          exact List.mem_map_of_mem placed
        exact absurd (members.mem_iff.mp listed) absent

end Step

/-! ## Runs one after another -/

/-- Manifests of different times, and payloads of different snapshots, have different digests.  A
run that finds its checksum among the stored ones takes the two for the same. -/
structure CollisionFree (digest : Document -> String) : Prop where
  times : forall first second, digest (.manifest first) = digest (.manifest second) ->
    first.asOfTime = second.asOfTime
  snapshots : forall first second, digest (.screening first) = digest (.screening second) ->
    first.snapshot = second.snapshot

section Histories

variable (digest : Document -> String) (decimal : String -> Option Rat)

def screen (desk : Desk) (call : ScreeningCall) : Desk :=
  (runScreening digest decimal call desk).toOption.getD desk

/-- What the call leaves when it returns is within the caps: the candidates of its universe and
its policy, members or not, as the table has them afterwards. -/
def KeepsCaps (desk : Desk) (call : ScreeningCall) : Prop :=
  forall after, runScreening digest decimal call desk = .ok after ->
    Capped call (standing call after.states)

/-- A call that ranks its members finds the stored candidates fit for them: those that have left
the universe since are at the lowest level, and the limits have room for all. -/
def FindsFit (desk : Desk) (call : ScreeningCall) : Prop :=
  forall matrix ranked, rankMembers decimal call = .ok (matrix, ranked) ->
    Fits call (standing call desk.states)

/-- Every stored run is of a manifest before the instant. -/
def Dated (bound : Instant) (desk : Desk) : Prop :=
  forall run, run ∈ desk.runs -> exists manifest payload,
    run.checksum = digest (.screening payload) ∧
      payload.snapshot = digest (.manifest manifest) ∧ manifest.asOfTime < bound

variable {digest decimal} {desk : Desk} {call : ScreeningCall} {matrix : FeatureMatrix}
  {ranked : List ScreeningScore}

theorem runScreening_ok_iff {after : Desk} :
    runScreening digest decimal call desk = .ok after <->
      exists matrix ranked, rankMembers decimal call = .ok (matrix, ranked) ∧
        after = storeRun digest call matrix ranked desk := by
  constructor
  · intro done
    rcases except_bind_ok done with ⟨⟨matrix, ranked⟩, accepted, ends⟩
    exact ⟨matrix, ranked, accepted, (Except.ok.inj ends).symm⟩
  · rintro ⟨matrix, ranked, accepted, rfl⟩
    unfold runScreening
    rw [except_bind_eq accepted]
    rfl

theorem createSnapshot_checksum (snapshots : List FeatureSnapshot) :
    (createSnapshot digest call matrix snapshots).1.checksum =
      digest (.manifest (call.manifest matrix)) := by
  unfold createSnapshot
  cases found : Tables.lookup FeatureSnapshot.checksum
      (digest (.manifest (call.manifest matrix))) snapshots with
  | none => simp [found]
  | some existing => simpa [found] using (Tables.lookup_some found).2

/-- The checksum of the run that a call would store. -/
def runChecksum (digest : Document -> String) (call : ScreeningCall) (matrix : FeatureMatrix)
    (ranked : List ScreeningScore) (desk : Desk) : String :=
  digest (.screening (rankedPayload call (createSnapshot digest call matrix desk.snapshots).1
    ranked))

theorem storeRun_fresh
    (fresh : runChecksum digest call matrix ranked desk ∉
      desk.runs.map ResearchScreeningRun.checksum) :
    (storeRun digest call matrix ranked desk).states =
      writeCandidates call (createSnapshot digest call matrix desk.snapshots).1 ranked
        desk.states := by
  unfold storeRun
  unfold runChecksum at fresh
  simp only [if_neg fresh]

theorem storeRun_runs {run : ResearchScreeningRun}
    (stored : run ∈ (storeRun digest call matrix ranked desk).runs) :
    run ∈ desk.runs ∨ run.checksum = runChecksum digest call matrix ranked desk := by
  unfold storeRun at stored
  by_cases repeated : runChecksum digest call matrix ranked desk ∈
      desk.runs.map ResearchScreeningRun.checksum
  · unfold runChecksum at repeated
    simp only [if_pos repeated] at stored
    exact Or.inl stored
  · unfold runChecksum at repeated
    simp only [if_neg repeated] at stored
    rcases List.mem_append.mp stored with old | new
    · exact Or.inl old
    · exact Or.inr (List.mem_singleton.mp new ▸ rfl)

theorem Dated.fresh (free : CollisionFree digest) (dated : Dated digest call.asOfTime desk)
    (accepted : rankMembers decimal call = .ok (matrix, ranked)) :
    runChecksum digest call matrix ranked desk ∉
      desk.runs.map ResearchScreeningRun.checksum := by
  intro repeated
  rcases List.mem_map.mp repeated with ⟨run, stored, same⟩
  rcases dated run stored with ⟨manifest, payload, checksum, snapshot, before⟩
  have snapshots := free.snapshots _ _ (checksum.symm.trans same)
  have times := free.times _ _ (snapshot.symm.trans (snapshots.trans (createSnapshot_checksum _)))
  have now : (call.manifest matrix).asOfTime = call.asOfTime := (rankMembers_ok accepted).2
  rw [times, now] at before
  exact lt_irrefl _ before

/-- One run after the stored ones is within the caps exactly when it finds the stored
candidates fit. -/
theorem keepsCaps_iff (free : CollisionFree digest) (dated : Dated digest call.asOfTime desk) :
    KeepsCaps digest decimal desk call <-> FindsFit decimal desk call := by
  have decided : forall matrix ranked, rankMembers decimal call = .ok (matrix, ranked) ->
      (Capped call (standing call (storeRun digest call matrix ranked desk).states) <->
        Fits call (standing call desk.states)) := by
    intro matrix ranked accepted
    have members := (rankMembers_ok accepted).1
    rw [storeRun_fresh (dated.fresh free accepted)]
    refine capped_iff_fits members
      ((standing_writeCandidates desk.states_nodup ?_).trans (List.Perm.of_eq ?_))
    · exact members.nodup_iff.mpr (currentMembers_nodup call)
    · unfold departed
      congr 1
      apply List.filter_congr
      intro entry _
      rw [decide_eq_decide, members.mem_iff]
  constructor
  · intro kept matrix ranked accepted
    exact (decided matrix ranked accepted).mp
      (kept _ (runScreening_ok_iff.mpr ⟨matrix, ranked, accepted, rfl⟩))
  · intro fit after done
    rcases runScreening_ok_iff.mp done with ⟨matrix, ranked, accepted, rfl⟩
    exact (decided matrix ranked accepted).mpr (fit matrix ranked accepted)

theorem Dated.screen {bound : Instant} (dated : Dated digest bound desk)
    (earlier : call.asOfTime < bound) : Dated digest bound (screen digest decimal desk call) := by
  unfold Research.screen
  cases done : runScreening digest decimal call desk with
  | error raised => exact dated
  | ok after =>
      rcases runScreening_ok_iff.mp done with ⟨matrix, ranked, accepted, rfl⟩
      intro run stored
      rcases storeRun_runs stored with old | new
      · exact dated run old
      · refine ⟨call.manifest matrix, _, new, createSnapshot_checksum _, ?_⟩
        have now : (call.manifest matrix).asOfTime = call.asOfTime := (rankMembers_ok accepted).2
        rw [now]
        exact earlier

/-- Calls at increasing times find only runs of earlier times. -/
theorem dated_along {calls : List ScreeningCall}
    (increasing : (calls.map ScreeningCall.asOfTime).Pairwise (· < ·))
    (dated : forall call, call ∈ calls -> Dated digest call.asOfTime desk) :
    Runs.Along (screen digest decimal) (fun desk call => Dated digest call.asOfTime desk) desk
      calls := by
  induction calls generalizing desk with
  | nil => trivial
  | cons call rest ih =>
      rcases List.pairwise_cons.mp increasing with ⟨first, others⟩
      refine ⟨dated call List.mem_cons_self, ih others ?_⟩
      intro later member
      exact (dated later (List.mem_cons_of_mem _ member)).screen
        (first later.asOfTime (List.mem_map_of_mem member))

end Histories

/-- Along every sequence of calls at increasing times, each run leaves the candidates of its
universe and policy within the caps exactly when each finds them fit. -/
theorem screening_caps_iff (digest : Document -> String) (decimal : String -> Option Rat)
    (free : CollisionFree digest) (calls : List ScreeningCall)
    (increasing : (calls.map ScreeningCall.asOfTime).Pairwise (· < ·)) :
    Runs.Along (screen digest decimal) (KeepsCaps digest decimal) Desk.empty calls <->
      Runs.Along (screen digest decimal) (FindsFit decimal) Desk.empty calls := by
  have dated : forall call, call ∈ calls -> Dated digest call.asOfTime Desk.empty := by
    intro call _ run stored
    cases stored
  exact (dated_along increasing dated).iff_of_agree fun desk call => keepsCaps_iff free

/-- The first entity is a member until the first microsecond, the second one from then on. -/
def rosterStore : FeatureStore where
  definitions := []
  versions := []
  sets := []
  memberships := []
  values := []
  universes := []
  universeVersions :=
    [{ id := 1, universeId := 1, version := 1, effectiveFrom := 0, effectiveTo := none,
       simulationEligibleTime := 0 }]
  universeMemberships :=
    [{ universeVersionId := 1, entityId := 1, validFrom := 0, validTo := some 1,
       simulationEligibleTime := 0 },
     { universeVersionId := 1, entityId := 2, validFrom := 1, validTo := none,
       simulationEligibleTime := 0 }]
  numbers_nodup := List.nodup_nil
  memberships_known := by simp
  values_known := by simp

def rosterCall (asOfTime : Instant) : ScreeningCall where
  store := rosterStore
  workspaceId := 1
  researchUniverse := { id := 1, workspaceId := 1 }
  featureSet := { id := 1, workspaceId := 1 }
  policy := { id := 1, version := "progressive-resolution-v1", checksum := "" }
  budgets :=
    [("LEVEL_4", { id := 1, limits := [("candidate_limit", 3)], costClass := "premium" })]
  asOfTime := asOfTime
  applicationSha := "fixture-v0.9"
  migrationHead := "2f9e39afd435"
  members_nodup := by decide

/-- A tally of the time, or the digest of the snapshot. -/
def tallyDigest : Document -> String
  | .manifest content =>
      String.ofList ('m' :: match content.asOfTime with
        | .ofNat count => List.replicate count '+'
        | .negSucc count => List.replicate (count + 1) '-')
  | .screening content => String.ofList ('s' :: content.snapshot.toList)

theorem tallyDigest_collisionFree : CollisionFree tallyDigest where
  times := by
    intro first second same
    have tallies := (List.cons.inj (String.ofList_injective same)).2
    cases firstTime : first.asOfTime with
    | ofNat count =>
        cases secondTime : second.asOfTime with
        | ofNat other =>
            rw [firstTime, secondTime] at tallies
            have counts := congrArg List.length tallies
            simp at counts
            rw [counts]
        | negSucc other =>
            rw [firstTime, secondTime] at tallies
            cases count with
            | zero => simp at tallies
            | succ count => simp [List.replicate_succ] at tallies
    | negSucc count =>
        cases secondTime : second.asOfTime with
        | ofNat other =>
            rw [firstTime, secondTime] at tallies
            cases other with
            | zero => simp at tallies
            | succ other => simp [List.replicate_succ] at tallies
        | negSucc other =>
            rw [firstTime, secondTime] at tallies
            have counts := congrArg List.length tallies
            simp at counts
            rw [counts]
  snapshots := by
    intro first second same
    exact String.toList_injective (List.cons.inj (String.ofList_injective same)).2

theorem rosterCall_limit (asOfTime : Instant) {level : Level} {limit : Int}
    (passed : candidateLimit (rosterCall asOfTime) level = some limit) :
    level = .level4 ∧ limit = 3 := by
  have budgets : (rosterCall asOfTime).budgets = (rosterCall 0).budgets := rfl
  cases level with
  | level4 =>
      have three : candidateLimit (rosterCall asOfTime) .level4 = some 3 := by
        unfold candidateLimit ScreeningCall.budget
        rw [budgets]
        decide
      exact ⟨rfl, Option.some.inj (passed.symm.trans three)⟩
  | _ =>
      unfold candidateLimit ScreeningCall.budget at passed
      rw [budgets] at passed
      revert passed
      simp [rosterCall, Tables.lookup, StrEnum.value, Level.text]

/-- The one member takes the highest level and keeps it. -/
theorem roster_stays_capped :
    Runs.Along (screen tallyDigest fun _ => none) (KeepsCaps tallyDigest fun _ => none)
      Desk.empty [rosterCall 1, rosterCall 2] := by
  have later : standing (rosterCall 2) (screen tallyDigest (fun _ => none) Desk.empty
      (rosterCall 1)).states = [(2, .level4)] := by
    decide +kernel
  refine (screening_caps_iff tallyDigest (fun _ => none) tallyDigest_collisionFree
    [rosterCall 1, rosterCall 2] (by decide)).mpr ⟨?_, ?_, trivial⟩
  · intro matrix ranked _
    refine ⟨by decide, ?_⟩
    intro level limit passed
    rcases rosterCall_limit 1 passed with ⟨rfl, rfl⟩
    decide
  · intro matrix ranked _
    rw [later]
    refine ⟨by decide, ?_⟩
    intro level limit passed
    rcases rosterCall_limit 2 passed with ⟨rfl, rfl⟩
    decide

/-- An entity that has left the universe keeps the highest level. -/
theorem roster_departed_not_capped :
    standing (rosterCall 1) ([rosterCall 0, rosterCall 1].foldl (screen tallyDigest fun _ => none)
        Desk.empty).states = [(1, .level4), (2, .level4)] ∧
      currentMembers (rosterCall 1) = [2] ∧
      ¬ Capped (rosterCall 1) (standing (rosterCall 1) ([rosterCall 0, rosterCall 1].foldl
        (screen tallyDigest fun _ => none) Desk.empty).states) := by
  have candidates : standing (rosterCall 1) ([rosterCall 0, rosterCall 1].foldl
      (screen tallyDigest fun _ => none) Desk.empty).states = [(1, .level4), (2, .level4)] := by
    decide +kernel
  have members : currentMembers (rosterCall 1) = [2] := by decide
  refine ⟨candidates, members, ?_⟩
  intro capped
  have left := capped.members (1, .level4) (by rw [candidates]; simp) (by rw [members]; decide)
  cases left

end Research
end MarketIntelligence
