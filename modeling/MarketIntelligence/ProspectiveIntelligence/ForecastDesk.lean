import MarketIntelligence.Foundations.RelyGuarantee
import MarketIntelligence.ProspectiveIntelligence.Forecasts
import Mathlib.Data.List.Infix

namespace MarketIntelligence
namespace ProspectiveIntelligence

open Foundations
open Foundations.Statements

/-!
# Forecasts are frozen and scores stay true

The contents of a forecast never change: a lock touches its state and the time of the
lock only, and observations and scores are appended.  So what a request has read of a
forecast, or of an observation, stays good while other requests overtake it, and this
is what each request relies on.

The validity of the desk is kept by each write on its own; that a write is a good one
at a later state follows from the reads before it and the growth since.
-/

section Desks

variable {δ : Type} {numerics : Numerics δ} {digest : Digested δ -> String}

/-! ## What a write guarantees -/

def ResearchForecast.frozen (forecast : ResearchForecast δ) : ResearchForecast δ :=
  { forecast with state := .opened, lockedAt := none }

/-- A later desk: every forecast is kept, with its frozen content, and stays locked once it is;
targets, observations and scores are only appended to. -/
structure Grows (desk later : Desk δ) : Prop where
  forecasts : forall forecast, forecast ∈ desk.forecasts ->
    exists kept, kept ∈ later.forecasts ∧ kept.frozen = forecast.frozen ∧
      (forecast.state = .locked -> kept.state = .locked)
  targets : desk.targets <+: later.targets
  observations : desk.observations <+: later.observations
  scores : desk.scores <+: later.scores

theorem Grows.refl (desk : Desk δ) : Grows desk desk :=
  ⟨fun forecast member => ⟨forecast, member, rfl, id⟩, List.prefix_rfl, List.prefix_rfl,
    List.prefix_rfl⟩

theorem Grows.trans (first second third : Desk δ) (early : Grows first second)
    (late : Grows second third) : Grows first third := by
  refine ⟨fun forecast member => ?_, early.targets.trans late.targets,
    early.observations.trans late.observations, early.scores.trans late.scores⟩
  rcases early.forecasts forecast member with ⟨between, listed, same, stays⟩
  rcases late.forecasts between listed with ⟨kept, last, equal, remains⟩
  exact ⟨kept, last, equal.trans same, fun wasLocked => remains (stays wasLocked)⟩

/-! ## The invariant -/

/-- The row of a forecast: its times, its lock and the checksum of its contents. -/
structure ForecastSound (digest : Digested δ -> String) (forecast : ResearchForecast δ) : Prop where
  startsAfter : forecast.asOfTime ≤ forecast.targetStartTime
  eligibleAfter : forecast.targetEndTime ≤ forecast.outcomeEligibleTime
  lockedIff : forecast.state = .locked <-> forecast.lockedAt.isSome = true
  lockedBefore : forall time, forecast.lockedAt = some time -> time ≤ forecast.outcomeEligibleTime
  summed : exists body : ForecastCreate δ, forecast.checksum =
      digest (.forecast body forecast.workspaceId forecast.manifest) ∧
    forecast.frozen = newForecast digest forecast.workspaceId forecast.id
      forecast.targetDefinitionId body

/-- The forecast an observation is about: it was locked before the outcome was eligible. -/
structure ObservedOf (forecast : ResearchForecast δ)
    (observation : ForecastOutcomeObservation δ) : Prop where
  forecastId : forecast.id = observation.forecastId
  workspace : forecast.workspaceId = observation.workspaceId
  locked : forecast.state = .locked
  mature : forecast.outcomeEligibleTime ≤ observation.observedAt

/-- The observation and the forecast a score is about, and that it is their score. -/
structure ScoreOf (numerics : Numerics δ) (forecast : ResearchForecast δ)
    (observation : ForecastOutcomeObservation δ) (score : ForecastScore) : Prop where
  observationId : observation.id = score.observationId
  observed : observation.forecastId = forecast.id
  forecastId : forecast.id = score.forecastId
  workspace : forecast.workspaceId = score.workspaceId
  mode : forecast.evaluationMode = score.evaluationMode
  metrics : metricsOf numerics forecast observation = .ok score.metrics

/-- What holds of the desk at every moment: keys are unique, forecasts, observations and scores
are sound by what they refer to, and the versions of the observations of a forecast are counted
from one. -/
structure Valid (numerics : Numerics δ) (digest : Digested δ -> String) (desk : Desk δ) : Prop where
  forecastIds : (desk.forecasts.map ResearchForecast.id).Nodup
  checksums : (desk.forecasts.map ResearchForecast.checksum).Nodup
  forecasts : forall forecast, forecast ∈ desk.forecasts -> ForecastSound digest forecast
  observationIds : (desk.observations.map ForecastOutcomeObservation.id).Nodup
  observations : forall observation, observation ∈ desk.observations ->
    exists forecast, forecast ∈ desk.forecasts ∧ ObservedOf forecast observation
  versions : forall forecastId, (observationsOf desk forecastId).map
      ForecastOutcomeObservation.version = List.range' 1 (observationsOf desk forecastId).length
  scoredOnce : (desk.scores.map ForecastScore.observationId).Nodup
  scores : forall score, score ∈ desk.scores ->
    exists forecast observation, forecast ∈ desk.forecasts ∧ observation ∈ desk.observations ∧
      ScoreOf numerics forecast observation score

/-! ## Growth carries what was read -/

theorem frozen_fields {forecast other : ResearchForecast δ} (same : forecast.frozen = other.frozen) :
    forecast.id = other.id ∧ forecast.workspaceId = other.workspaceId ∧
      forecast.outcomeEligibleTime = other.outcomeEligibleTime ∧
      forecast.evaluationMode = other.evaluationMode ∧ forecast.checksum = other.checksum ∧
      forecast.forecastType = other.forecastType ∧
      forecast.forecastValue = other.forecastValue := by
  simp only [ResearchForecast.frozen, ResearchForecast.mk.injEq, true_and, and_true] at same
  rcases same with ⟨id, workspace, _, _, type, value, mode, _, _, _, eligible, _, checksum⟩
  exact ⟨id, workspace, eligible, mode, checksum, type, value⟩

theorem metricsOf_frozen {forecast other : ResearchForecast δ}
    (same : forecast.frozen = other.frozen) (observation : ForecastOutcomeObservation δ) :
    metricsOf numerics forecast observation = metricsOf numerics other observation := by
  rcases frozen_fields same with ⟨_, _, _, _, _, type, value⟩
  unfold metricsOf
  rw [type, value]

theorem ObservedOf.kept {forecast kept : ResearchForecast δ}
    {observation : ForecastOutcomeObservation δ} (observed : ObservedOf forecast observation)
    (same : kept.frozen = forecast.frozen)
    (stays : forecast.state = .locked -> kept.state = .locked) : ObservedOf kept observation := by
  rcases frozen_fields same with ⟨id, workspace, eligible, _⟩
  exact ⟨id.trans observed.forecastId, workspace.trans observed.workspace, stays observed.locked,
    eligible ▸ observed.mature⟩

theorem ScoreOf.kept {forecast kept : ResearchForecast δ}
    {observation : ForecastOutcomeObservation δ} {score : ForecastScore}
    (scored : ScoreOf numerics forecast observation score)
    (same : kept.frozen = forecast.frozen) : ScoreOf numerics kept observation score := by
  rcases frozen_fields same with ⟨id, workspace, _, mode, _, _⟩
  exact ⟨scored.observationId, scored.observed.trans id.symm, id.trans scored.forecastId,
    workspace.trans scored.workspace, mode.trans scored.mode,
    (metricsOf_frozen same observation).trans scored.metrics⟩

/-- The desk after one more row of forecasts, or after a lock: what the other rows need of it. -/
theorem Valid.forecasts_changed {desk later : Desk δ} (valid : Valid numerics digest desk)
    (grown : Grows desk later) (observations : later.observations = desk.observations)
    (scores : later.scores = desk.scores)
    (ids : (later.forecasts.map ResearchForecast.id).Nodup)
    (checksums : (later.forecasts.map ResearchForecast.checksum).Nodup)
    (sound : forall forecast, forecast ∈ later.forecasts -> ForecastSound digest forecast) :
    Valid numerics digest later := by
  refine ⟨ids, checksums, sound, observations ▸ valid.observationIds, ?_, ?_,
    scores ▸ valid.scoredOnce, ?_⟩
  · intro observation member
    rcases valid.observations observation (observations ▸ member) with ⟨forecast, listed, observed⟩
    rcases grown.forecasts forecast listed with ⟨kept, last, same, stays⟩
    exact ⟨kept, last, observed.kept same stays⟩
  · intro forecastId
    have same : observationsOf later forecastId = observationsOf desk forecastId := by
      unfold observationsOf
      rw [observations]
    rw [same]
    exact valid.versions forecastId
  · intro score member
    rcases valid.scores score (scores ▸ member) with ⟨forecast, observation, listed, known, scored⟩
    rcases grown.forecasts forecast listed with ⟨kept, last, same, _⟩
    exact ⟨kept, observation, last, observations ▸ known, scored.kept same⟩

/-! ## Each write -/

theorem findForecast_some {desk : Desk δ} {workspaceId forecastId : Identifier}
    {item : ResearchForecast δ} (found : findForecast desk workspaceId forecastId = some item) :
    item ∈ desk.forecasts ∧ item.workspaceId = workspaceId := by
  have hit := List.find?_some (p := fun row : ResearchForecast δ =>
    decide (row.id = forecastId) && decide (row.workspaceId = workspaceId)) found
  simp only [Bool.and_eq_true, decide_eq_true_eq] at hit
  exact ⟨List.mem_of_find?_eq_some found, hit.2⟩

theorem postForecast_good {desk later : Desk δ} (valid : Valid numerics digest desk)
    {target : Option ForecastTargetDefinition} {forecast : ResearchForecast δ}
    (sound : ForecastSound digest forecast)
    (applied : applyWrite (.postForecast target forecast) desk = some later) :
    Valid numerics digest later ∧ Grows desk later := by
  simp only [applyWrite] at applied
  split at applied
  · cases applied
  · rename_i fresh
    cases applied
    simp only [Bool.or_eq_true, not_or, List.any_eq_true, decide_eq_true_eq, not_exists,
      not_and] at fresh
    have grown : Grows desk { desk with
        targets := desk.targets ++ target.toList, forecasts := desk.forecasts ++ [forecast] } :=
      ⟨fun row member => ⟨row, List.mem_append_left _ member, rfl, id⟩, List.prefix_append _ _,
        List.prefix_rfl, List.prefix_rfl⟩
    refine ⟨valid.forecasts_changed grown rfl rfl ?_ ?_ ?_, grown⟩
    · refine Tables.nodup_append_row.mpr ⟨fun listed => ?_, valid.forecastIds⟩
      rcases List.mem_map.mp listed with ⟨row, member, same⟩
      exact (fresh.1 row member).1 same
    · refine Tables.nodup_append_row.mpr ⟨fun listed => ?_, valid.checksums⟩
      rcases List.mem_map.mp listed with ⟨row, member, same⟩
      exact (fresh.1 row member).2 same
    · intro row member
      rcases List.mem_append.mp member with old | new
      · exact valid.forecasts row old
      · rw [List.mem_singleton.mp new]
        exact sound

theorem lockRow_frozen (forecastId : Identifier) (now : Instant) (row : ResearchForecast δ) :
    (lockRow forecastId now row).frozen = row.frozen := by
  unfold lockRow
  split <;> rfl

theorem lockRow_locked {forecastId : Identifier} {now : Instant} {row : ResearchForecast δ}
    (wasLocked : row.state = .locked) : (lockRow forecastId now row).state = .locked := by
  unfold lockRow
  split
  · rfl
  · exact wasLocked

/-- A lock, at a time before the outcome of the forecast is eligible. -/
theorem lockForecast_good {desk later : Desk δ} (valid : Valid numerics digest desk)
    {forecastId : Identifier} {now : Instant}
    (early : forall forecast, forecast ∈ desk.forecasts -> forecast.id = forecastId ->
      now ≤ forecast.outcomeEligibleTime)
    (applied : applyWrite (.lockForecast forecastId now) desk = some later) :
    Valid numerics digest later ∧ Grows desk later := by
  simp only [applyWrite, Option.some.injEq] at applied
  subst applied
  have fields := fun row : ResearchForecast δ =>
    frozen_fields (lockRow_frozen forecastId now row)
  have grown : Grows desk { desk with
      forecasts := desk.forecasts.map (lockRow forecastId now) } :=
    ⟨fun row member => ⟨_, List.mem_map_of_mem member, lockRow_frozen forecastId now row,
      lockRow_locked⟩, List.prefix_rfl, List.prefix_rfl, List.prefix_rfl⟩
  refine ⟨valid.forecasts_changed grown rfl rfl ?_ ?_ ?_, grown⟩
  · rw [List.map_map, show ResearchForecast.id ∘ lockRow forecastId now = ResearchForecast.id from
      funext fun row : ResearchForecast δ => (fields row).1]
    exact valid.forecastIds
  · rw [List.map_map, show ResearchForecast.checksum ∘ lockRow forecastId now =
      ResearchForecast.checksum from funext fun row : ResearchForecast δ => (fields row).2.2.2.2.1]
    exact valid.checksums
  · intro row member
    rcases List.mem_map.mp member with ⟨old, listed, same⟩
    have was := valid.forecasts old listed
    rw [← same]
    unfold lockRow
    split
    · rename_i hit
      refine ⟨was.startsAfter, was.eligibleAfter, iff_of_true rfl rfl, ?_, was.summed⟩
      intro time recorded
      cases recorded
      exact early old listed hit
    · exact was

/-- A new observation of a locked forecast whose outcome is eligible. -/
theorem postOutcome_good {desk later : Desk δ} (valid : Valid numerics digest desk)
    {forecast : ResearchForecast δ} (member : forecast ∈ desk.forecasts)
    {observation : ForecastOutcomeObservation δ} (observed : ObservedOf forecast observation)
    (behind : observation.version ≤ (observationsOf desk forecast.id).length + 1)
    (positive : 0 < observation.version)
    (applied : applyWrite (.postOutcome observation) desk = some later) :
    Valid numerics digest later ∧ Grows desk later := by
  simp only [applyWrite] at applied
  split at applied
  · cases applied
  · rename_i fresh
    cases applied
    simp only [List.any_eq_true, Bool.or_eq_true, Bool.and_eq_true, decide_eq_true_eq, not_exists,
      not_and, not_or] at fresh
    refine ⟨⟨valid.forecastIds, valid.checksums, valid.forecasts, ?_, ?_, ?_, valid.scoredOnce, ?_⟩,
      ⟨fun row listed => ⟨row, listed, rfl, id⟩, List.prefix_rfl, List.prefix_append _ _,
        List.prefix_rfl⟩⟩
    · refine Tables.nodup_append_row.mpr ⟨fun listed => ?_, valid.observationIds⟩
      rcases List.mem_map.mp listed with ⟨row, known, same⟩
      exact (fresh row known).1.1 same
    · intro row listed
      rcases List.mem_append.mp listed with old | new
      · exact valid.observations row old
      · rw [List.mem_singleton.mp new]
        exact ⟨forecast, member, observed⟩
    · intro forecastId
      have before := valid.versions forecastId
      unfold observationsOf at before behind ⊢
      rw [List.filter_append]
      by_cases own : observation.forecastId = forecastId
      · have same : forecast.id = forecastId := observed.forecastId.trans own
        rw [same] at behind
        -- No earlier observation has this version, so it is the next one.
        have next : observation.version =
            (desk.observations.filter fun row => row.forecastId = forecastId).length + 1 := by
          by_contra other
          have listed : observation.version ∈
              (desk.observations.filter fun row => row.forecastId = forecastId).map
                ForecastOutcomeObservation.version := by
            rw [before]
            refine List.mem_range'_1.mpr ⟨positive, ?_⟩
            omega
          rcases List.mem_map.mp listed with ⟨row, known, version⟩
          rcases List.mem_filter.mp known with ⟨stored, hit⟩
          exact (fresh row stored).1.2 ((of_decide_eq_true hit).trans own.symm) version
        rw [List.filter_cons_of_pos (by simpa using own), List.filter_nil, List.map_append, before,
          List.length_append, List.map_singleton, next, List.length_singleton,
          List.range'_1_concat, Nat.add_comm 1]
      · rw [List.filter_cons_of_neg (by simpa using own), List.filter_nil, List.append_nil]
        exact before
    · intro score listed
      rcases valid.scores score listed with ⟨row, known, stored, there, scored⟩
      exact ⟨row, known, stored, List.mem_append_left _ there, scored⟩

theorem getScore_good {desk later : Desk δ} (valid : Valid numerics digest desk)
    {forecast : ResearchForecast δ} {observation : ForecastOutcomeObservation δ}
    {score : ForecastScore} (member : forecast ∈ desk.forecasts)
    (known : observation ∈ desk.observations)
    (scored : ScoreOf numerics forecast observation score)
    (applied : applyWrite (.getScore score) desk = some later) :
    Valid numerics digest later ∧ Grows desk later := by
  simp only [applyWrite] at applied
  split at applied
  · cases applied
  · rename_i fresh
    cases applied
    simp only [List.any_eq_true, Bool.or_eq_true, decide_eq_true_eq, not_exists, not_and,
      not_or] at fresh
    refine ⟨⟨valid.forecastIds, valid.checksums, valid.forecasts, valid.observationIds,
      valid.observations, valid.versions, ?_, ?_⟩,
      ⟨fun row listed => ⟨row, listed, rfl, id⟩, List.prefix_rfl, List.prefix_rfl,
        List.prefix_append _ _⟩⟩
    · refine Tables.nodup_append_row.mpr ⟨fun listed => ?_, valid.scoredOnce⟩
      rcases List.mem_map.mp listed with ⟨row, stored, same⟩
      exact (fresh row stored).1.2 same
    · intro row listed
      rcases List.mem_append.mp listed with old | new
      · exact valid.scores row old
      · rw [List.mem_singleton.mp new]
        exact ⟨forecast, observation, member, known, scored⟩

/-! ## Each request is safe -/

section Requests

/-- What a forecast that was read is in a later desk. -/
theorem Grows.forecast {desk later : Desk δ} (grown : Grows desk later)
    (valid : Valid numerics digest later) {item forecast : ResearchForecast δ}
    (read : item ∈ desk.forecasts) (member : forecast ∈ later.forecasts)
    (same : forecast.id = item.id) :
    forecast.frozen = item.frozen ∧ (item.state = .locked -> forecast.state = .locked) := by
  rcases grown.forecasts item read with ⟨kept, listed, frozen, stays⟩
  have named : kept.id = item.id := (frozen_fields frozen).1
  have equal : forecast = kept :=
    List.inj_on_of_nodup_map valid.forecastIds member listed (same.trans named.symm)
  exact equal ▸ ⟨frozen, stays⟩

theorem latestVersion_mem {α : Type} {version : α -> Nat} {rows : List α} {best : α}
    (latest : latestVersion version rows = some best) : best ∈ rows := by
  induction rows generalizing best with
  | nil => cases latest
  | cons head tail ih =>
      unfold latestVersion at latest
      cases rest : latestVersion version tail with
      | none =>
          rw [rest] at latest
          cases latest
          exact List.mem_cons_self
      | some other =>
          rw [rest] at latest
          dsimp only at latest
          split at latest
          · cases latest
            exact List.mem_cons_of_mem _ (ih rest)
          · cases latest
            exact List.mem_cons_self

theorem newForecast_sound {workspaceId newId targetId : Identifier} {body : ForecastCreate δ}
    (starts : body.asOfTime ≤ body.targetStartTime)
    (eligible : body.targetEndTime ≤ body.outcomeEligibleTime) :
    ForecastSound digest (newForecast digest workspaceId newId targetId body) :=
  ⟨starts, eligible, iff_of_false (fun impossible => by cases impossible) Bool.false_ne_true,
    fun _ impossible => (by cases impossible), body, rfl, rfl⟩

variable {desk : Desk δ}

theorem postForecast_safe (workspaceId newId newTargetId : Identifier) (body : ForecastCreate δ) :
    Safe applyWrite (Valid numerics digest) Grows
      (postForecast digest workspaceId newId newTargetId body) desk := by
  unfold postForecast
  split
  · trivial
  · rename_i fine
    simp only [Bool.or_eq_true, decide_eq_true_eq, not_or, not_lt] at fine
    intro read _ _
    dsimp only
    split
    · exact safe_commit Grows.refl fun later written _ valid applied =>
        postForecast_good valid (newForecast_sound fine.1 fine.2) applied
    · exact safe_commit Grows.refl fun later written _ valid applied =>
        postForecast_good valid (newForecast_sound fine.1 fine.2) applied

theorem lockForecast_safe (workspaceId forecastId : Identifier) (now : Instant) :
    Safe applyWrite (Valid numerics digest) Grows (lockForecast workspaceId forecastId now)
      desk := by
  intro read _ _
  dsimp only
  split
  · trivial
  · rename_i item found
    split
    · trivial
    · rename_i fine
      simp only [Bool.or_eq_true, decide_eq_true_eq, not_or, not_lt] at fine
      refine safe_commit Grows.refl fun later written grown valid applied =>
        lockForecast_good valid (fun forecast member same => ?_) applied
      have kept := (grown.forecast valid (findForecast_some found).1 member same).1
      rw [(frozen_fields kept).2.2.1]
      exact fine.2

theorem observationsOf_length_le {first second : Desk δ} (grown : Grows first second)
    (forecastId : Identifier) :
    (observationsOf first forecastId).length ≤ (observationsOf second forecastId).length :=
  (grown.observations.filter _).length_le

theorem postOutcome_safe (workspaceId forecastId newId : Identifier) (body : OutcomeCreate δ) :
    Safe applyWrite (Valid numerics digest) Grows
      (postOutcome digest workspaceId forecastId newId body) desk := by
  intro first _ validFirst
  dsimp only
  split
  · trivial
  · rename_i item found
    split
    · trivial
    · rename_i fine
      simp only [Bool.or_eq_true, Option.isNone_iff_eq_none, decide_eq_true_eq, not_or,
        not_lt] at fine
      have read := (findForecast_some found).1
      have wasLocked : item.state = .locked :=
        (validFirst.forecasts item read).lockedIff.mpr (Option.isSome_iff_ne_none.mpr fine.1)
      intro second grownSecond _
      refine safe_commit Grows.refl fun later written grownLater valid applied => ?_
      have grown := Grows.trans _ _ _ grownSecond grownLater
      rcases grown.forecasts item read with ⟨kept, listed, frozen, stays⟩
      rcases frozen_fields frozen with ⟨id, workspace, eligible, _⟩
      refine postOutcome_good valid listed ⟨id, workspace, stays wasLocked, ?_⟩ ?_
        (Nat.succ_pos _) applied
      · exact eligible ▸ fine.2
      · rw [id]
        exact Nat.succ_le_succ (observationsOf_length_le grownLater item.id)

theorem getScore_safe (workspaceId forecastId newId : Identifier) (now : Instant) :
    Safe applyWrite (Valid numerics digest) Grows
      (getScore numerics digest workspaceId forecastId newId now) desk := by
  intro first _ _
  dsimp only
  split
  · trivial
  · rename_i forecast found
    intro second grownSecond _
    dsimp only
    split
    · trivial
    · rename_i outcome latest
      rcases List.mem_filter.mp (latestVersion_mem latest) with ⟨stored, own⟩
      split
      · trivial
      · rename_i metrics computed
        intro third grownThird _
        dsimp only
        split
        · trivial
        · refine safe_commit Grows.refl fun later written grownLater valid applied => ?_
          have grown := Grows.trans _ _ _ (Grows.trans _ _ _ grownSecond grownThird) grownLater
          rcases grown.forecasts forecast (findForecast_some found).1 with
            ⟨kept, listed, frozen, _⟩
          have scored : ScoreOf numerics forecast outcome
              (newScore digest forecast outcome newId metrics now) :=
            ⟨rfl, of_decide_eq_true own, rfl, rfl, rfl, computed⟩
          have known : outcome ∈ later.observations :=
            grownLater.observations.subset (grownThird.observations.subset stored)
          exact getScore_good valid listed known (scored.kept frozen) applied

theorem steps_safe (request : Request δ) :
    Safe applyWrite (Valid numerics digest) Grows (steps numerics digest request) desk := by
  cases request with
  | postForecast workspaceId newId newTargetId body =>
      exact postForecast_safe workspaceId newId newTargetId body
  | lockForecast workspaceId forecastId now => exact lockForecast_safe workspaceId forecastId now
  | postOutcome workspaceId forecastId newId body =>
      exact postOutcome_safe workspaceId forecastId newId body
  | getScore workspaceId forecastId newId now => exact getScore_safe workspaceId forecastId newId now

end Requests

/-! ## Every run -/

def emptyDesk : Desk δ := ⟨[], [], [], []⟩

/-- The desk after some actions of any number of requests. -/
def deskAfter (numerics : Numerics δ) (digest : Digested δ -> String)
    (actions : List (Action (Request δ))) : Desk δ :=
  (actions.foldl (interleave numerics digest) ⟨emptyDesk, []⟩).committed

theorem emptyDesk_valid : Valid numerics digest (emptyDesk : Desk δ) :=
  ⟨List.nodup_nil, List.nodup_nil, fun _ member => absurd member List.not_mem_nil, List.nodup_nil,
    fun _ member => absurd member List.not_mem_nil, fun _ => rfl, List.nodup_nil,
    fun _ member => absurd member List.not_mem_nil⟩

theorem steps_safe_all : forall (request : Request δ) (desk : Desk δ), Valid numerics digest desk ->
    Safe applyWrite (Valid numerics digest) Grows (steps numerics digest request) desk :=
  fun request _ _ => steps_safe request

theorem running_reliable (numerics : Numerics δ) (digest : Digested δ -> String)
    (actions : List (Action (Request δ))) :
    Reliable applyWrite (Valid numerics digest) Grows
      (actions.foldl (interleave numerics digest) ⟨emptyDesk, []⟩) :=
  (foldl_reliable Grows.refl Grows.trans steps_safe_all actions
    (reliable_opening emptyDesk_valid)).1

theorem deskAfter_valid (actions : List (Action (Request δ))) :
    Valid numerics digest (deskAfter numerics digest actions) :=
  (running_reliable numerics digest actions).committed

theorem deskAfter_grows (actions more : List (Action (Request δ))) :
    Grows (deskAfter numerics digest actions) (deskAfter numerics digest (actions ++ more)) := by
  unfold deskAfter
  rw [List.foldl_append]
  exact (foldl_reliable Grows.refl Grows.trans steps_safe_all more
    (running_reliable numerics digest actions)).2

/-- Whatever the interleaving, the desk is valid at every moment, and from any moment to any later
one forecasts stay frozen and locked and rows are only appended. -/
theorem desk_frozen (numerics : Numerics δ) (digest : Digested δ -> String)
    (actions more : List (Action (Request δ))) :
    Valid numerics digest (deskAfter numerics digest actions) ∧
      Grows (deskAfter numerics digest actions) (deskAfter numerics digest (actions ++ more)) :=
  ⟨deskAfter_valid actions, deskAfter_grows actions more⟩

/-! ## The past of a calibration -/

section Calibration

/-- The record a score gives, as a list. -/
def joined (desk : Desk δ) (score : ForecastScore) : List ScoreRecord :=
  (desk.observations.filter fun outcome => outcome.id = score.observationId).map fun outcome =>
    ⟨score.metrics, score.evaluationMode, outcome.observedAt⟩

theorem joined_grows {desk later : Desk δ} (valid : Valid numerics digest desk)
    (validLater : Valid numerics digest later) (grown : Grows desk later) {score : ForecastScore}
    (member : score ∈ desk.scores) : joined later score = joined desk score := by
  rcases valid.scores score member with ⟨_, observation, _, stored, scored⟩
  rcases grown.observations with ⟨added, appended⟩
  have none : added.filter (fun outcome => outcome.id = score.observationId) = [] := by
    refine List.filter_eq_nil_iff.mpr fun other listed same => ?_
    have apart := validLater.observationIds
    rw [← appended, List.map_append] at apart
    refine (List.nodup_append.mp apart).2.2 observation.id (List.mem_map_of_mem stored) other.id
      (List.mem_map_of_mem listed) ?_
    exact scored.observationId.trans (of_decide_eq_true same).symm
  unfold joined
  rw [← appended, List.filter_append, none, List.append_nil]

/-- The records that some scores bring to the calibration as of a time. -/
def sampleOf (desk : Desk δ) (scores : List ForecastScore) (workspaceId : Identifier)
    (mode : EvaluationMode) (asOf : Option Instant) : List ScoreRecord :=
  ((scores.filter fun score => score.workspaceId = workspaceId &&
    score.evaluationMode = mode).flatMap (joined desk)).filter (selectedRecord mode asOf)

/-- The sample of the calibration as of a time. -/
def calibrationSample (desk : Desk δ) (workspaceId : Identifier) (mode : EvaluationMode)
    (asOf : Option Instant) : List ScoreRecord :=
  sampleOf desk desk.scores workspaceId mode asOf

/-- The score counts in the calibration as of a time: it is one of the workspace and of the mode,
and its outcome was observed by then. -/
def Counts (desk : Desk δ) (workspaceId : Identifier) (mode : EvaluationMode)
    (asOf : Option Instant) (score : ForecastScore) : Prop :=
  score.workspaceId = workspaceId ∧ score.evaluationMode = mode ∧
    exists observation, observation ∈ desk.observations ∧ observation.id = score.observationId ∧
      asOf.all (fun time => decide (observation.observedAt ≤ time)) = true

theorem sampleOf_append (desk : Desk δ) (scores more : List ForecastScore)
    (workspaceId : Identifier) (mode : EvaluationMode) (asOf : Option Instant) :
    sampleOf desk (scores ++ more) workspaceId mode asOf =
      sampleOf desk scores workspaceId mode asOf ++ sampleOf desk more workspaceId mode asOf := by
  unfold sampleOf
  rw [List.filter_append, List.flatMap_append, List.filter_append]

/-- Scores bring records exactly if one of them counts. -/
theorem sampleOf_eq_nil_iff {desk : Desk δ} {scores : List ForecastScore}
    {workspaceId : Identifier} {mode : EvaluationMode} {asOf : Option Instant} :
    sampleOf desk scores workspaceId mode asOf = [] <->
      forall score, score ∈ scores -> ¬ Counts desk workspaceId mode asOf score := by
  unfold sampleOf
  rw [List.filter_eq_nil_iff]
  constructor
  · rintro none score member ⟨own, evaluated, observation, stored, same, observed⟩
    refine none ⟨score.metrics, score.evaluationMode, observation.observedAt⟩ ?_ ?_
    · refine List.mem_flatMap.mpr ⟨score, ?_, List.mem_map.mpr ⟨observation, ?_, rfl⟩⟩
      · exact List.mem_filter.mpr ⟨member, by simp only [own, evaluated, decide_true, Bool.and_self]⟩
      · exact List.mem_filter.mpr ⟨stored, decide_eq_true same⟩
    · exact Bool.and_eq_true_iff.mpr ⟨decide_eq_true evaluated, observed⟩
  · intro none record listed chosen
    rcases List.mem_flatMap.mp listed with ⟨score, member, there⟩
    rcases List.mem_map.mp there with ⟨observation, found, same⟩
    rcases List.mem_filter.mp member with ⟨scored, selected⟩
    rcases List.mem_filter.mp found with ⟨stored, own⟩
    simp only [Bool.and_eq_true, decide_eq_true_eq] at selected
    refine none score scored ⟨selected.1, selected.2, observation, stored, of_decide_eq_true own, ?_⟩
    rw [← same] at chosen
    exact (Bool.and_eq_true_iff.mp chosen).2

/-- Scores that were there bring the same records at a later moment. -/
theorem sampleOf_grows {desk later : Desk δ} (valid : Valid numerics digest desk)
    (validLater : Valid numerics digest later) (grown : Grows desk later)
    (workspaceId : Identifier) (mode : EvaluationMode) (asOf : Option Instant) :
    sampleOf later desk.scores workspaceId mode asOf =
      calibrationSample desk workspaceId mode asOf := by
  unfold calibrationSample sampleOf
  congr 1
  refine List.flatMap_congr fun score member => ?_
  exact joined_grows valid validLater grown (List.mem_filter.mp member).1

theorem calibration_count (desk : Desk δ) (workspaceId : Identifier) (mode : EvaluationMode)
    (asOf : Option Instant) :
    (calibration desk workspaceId mode asOf).sampleCount =
      (calibrationSample desk workspaceId mode asOf).length := rfl

end Calibration

end Desks

/-! ### Two forecasts of one workspace -/

def plainNumerics : Numerics Rat :=
  ⟨id, .ok, fun value => .ok [value], fun value => .ok [value], id, fun _ _ => .ok 0⟩

def plainDigest : Digested Rat -> String
  | .forecast body _ _ => body.targetKey
  | .outcome forecastId _ _ => if forecastId = 1 then "first outcome" else "second outcome"
  | .score forecast outcome _ => forecast ++ outcome

def probabilityForecast (targetKey : String) (asOfTime : Instant) : ForecastCreate Rat :=
  ⟨targetKey, .probability, 3 / 4, .prospective, asOfTime, asOfTime, asOfTime + 10, asOfTime + 10,
    none, []⟩

/-- A request that is executed on its own, in a session of its own. -/
def requestAlone (session statements : Nat) (request : Request Rat) : List (Action (Request Rat)) :=
  .begins session request :: List.replicate (statements + 1) (.advance session)

/-- The first forecast is locked, observed at 20 and scored. -/
def firstForecast : List (Action (Request Rat)) :=
  requestAlone 1 1 (.postForecast 9 1 100 (probabilityForecast "sales" 0)) ++
    requestAlone 2 1 (.lockForecast 9 1 5) ++
    requestAlone 3 2 (.postOutcome 9 1 11 ⟨1, 20, 0⟩) ++
    requestAlone 4 3 (.getScore 9 1 21 22)

/-- The second one is observed at 40 and scored. -/
def secondForecast : List (Action (Request Rat)) :=
  requestAlone 5 1 (.postForecast 9 2 101 (probabilityForecast "orders" 15)) ++
    requestAlone 6 1 (.lockForecast 9 2 16) ++
    requestAlone 7 2 (.postOutcome 9 2 12 ⟨0, 40, 0⟩) ++
    requestAlone 8 3 (.getScore 9 2 22 41)

/-- The second score counts in the calibration of all times, and not in the one as of 30. -/
example :
    [some 30, none].map (fun asOf => (calibration (deskAfter plainNumerics plainDigest
        (firstForecast ++ secondForecast)) 9 .prospective asOf).sampleCount) = [1, 2] := by
  decide +kernel

end ProspectiveIntelligence
end MarketIntelligence
