import MarketIntelligence.Foundations.Loops
import MarketIntelligence.Foundations.Runs
import MarketIntelligence.ResearchIntelligence.Memory

namespace MarketIntelligence
namespace ResearchIntelligence

open Foundations
open Hypothesis
open Loops

/-!
# Lessons and verdicts

The experiments of one hypothesis are completed and their lessons are built in any order,
while the hypothesis moves through its lifecycle.  A lesson takes its conclusion from the
hypothesis and not from the experiment.  Every experiment has at most one lesson, with its
own verdict, exactly as long as each lesson is built while the two agree and nothing that
has a lesson is built or completed again with another outcome.
-/

/-- A hypothesis, its experiments, and the memory of their lessons. -/
structure Notebook where
  hypothesis : ResearchHypothesis
  experiments : List FactorExperiment
  entries : List ResearchMemoryEntry
  ids_nodup : (experiments.map FactorExperiment.id).Nodup

/-- A session may keep what an operation has written before it raised. -/
inductive Operation where
  | complete (experimentId : Identifier) (accepted : Bool) (reasons : List String)
      (now : Instant) (kept : Bool)
  | transition (target : String)
  | build (experimentId : Identifier) (evidence : Evidence) (applicability : Applicability)
      (regimeContext : List String) (id : Identifier)

def Notebook.experiment (notebook : Notebook) (experimentId : Identifier) :
    Option FactorExperiment :=
  Tables.lookup FactorExperiment.id experimentId notebook.experiments

def Notebook.write (notebook : Notebook) (experiment : FactorExperiment)
    (hypothesis : ResearchHypothesis) : Notebook :=
  { notebook with
    hypothesis := hypothesis
    experiments := Tables.put FactorExperiment.id experiment notebook.experiments
    ids_nodup := Tables.nodup_put notebook.ids_nodup }

def Notebook.complete (notebook : Notebook) (experiment : FactorExperiment) (accepted : Bool)
    (reasons : List String) (now : Instant) (kept : Bool) : Notebook :=
  match completeExperiment experiment notebook.hypothesis accepted reasons now with
  | (closed, .ok hypothesis) => notebook.write closed hypothesis
  | (closed, .error _) => if kept then notebook.write closed notebook.hypothesis else notebook

section Steps

variable (digest : Document -> String)

def Notebook.build (notebook : Notebook) (experiment : FactorExperiment) (evidence : Evidence)
    (applicability : Applicability) (regimeContext : List String) (id : Identifier) : Notebook :=
  match createMemoryFromExperiment digest notebook.hypothesis experiment evidence applicability
      regimeContext id notebook.entries with
  | .ok (_, entries) => { notebook with entries := entries }
  | .error _ => notebook

/-- An operation on an experiment that is not there does nothing. -/
def Notebook.step (notebook : Notebook) : Operation -> Notebook
  | .complete experimentId accepted reasons now kept =>
      (notebook.experiment experimentId).elim notebook fun experiment =>
        notebook.complete experiment accepted reasons now kept
  | .transition target =>
      match transitionHypothesis notebook.hypothesis.status target with
      | .ok status => { notebook with hypothesis := { notebook.hypothesis with status := status } }
      | .error _ => notebook
  | .build experimentId evidence applicability regimeContext id =>
      (notebook.experiment experimentId).elim notebook fun experiment =>
        notebook.build digest experiment evidence applicability regimeContext id

/-- Every experiment has at most one lesson, which is negative exactly when the experiment that
is stored now has been rejected. -/
structure Recorded (notebook : Notebook) : Prop where
  single : (notebook.entries.map ResearchMemoryEntry.experimentId).Nodup
  verdicts : forall entry, entry ∈ notebook.entries -> forall experiment,
    experiment ∈ notebook.experiments -> experiment.id = entry.experimentId ->
      (entry.conclusion = "NEGATIVE" <-> experiment.status = .rejected)

def Notebook.learned (notebook : Notebook) (experimentId : Identifier) : Prop :=
  experimentId ∈ notebook.entries.map ResearchMemoryEntry.experimentId

/-- A lesson that is not stored yet is the first one of its experiment and finds the
hypothesis rejected exactly when the experiment is; and a completion that is kept does not
change the verdict of an experiment that has a lesson. -/
def Agrees (notebook : Notebook) : Operation -> Prop
  | .complete experimentId accepted _ _ kept =>
      forall experiment, notebook.experiment experimentId = some experiment ->
        (kept = true ∨
          (if accepted then HypothesisStatus.promising else .rejected) ∈
            hypothesisTransitions notebook.hypothesis.status) ->
        notebook.learned experimentId -> (accepted = false <-> experiment.status = .rejected)
  | .transition _ => True
  | .build experimentId evidence _ _ _ =>
      forall experiment, notebook.experiment experimentId = some experiment ->
        forall inputs, lessonInputs experiment evidence = .ok inputs ->
          storedLesson notebook.entries experiment.workspaceId
            (lessonChecksum digest notebook.hypothesis experiment inputs) = none ->
          ¬ notebook.learned experimentId ∧
            (notebook.hypothesis.status = .rejected <-> experiment.status = .rejected)

end Steps

/-! ## One operation -/

section Operations

variable {digest : Document -> String} {notebook : Notebook} {experiment : FactorExperiment}
  {experimentId : Identifier}

theorem experiment_some (found : notebook.experiment experimentId = some experiment) :
    experiment ∈ notebook.experiments ∧ experiment.id = experimentId :=
  Tables.lookup_some found

theorem experiment_eq {other : FactorExperiment} (listed : experiment ∈ notebook.experiments)
    (member : other ∈ notebook.experiments) (same : other.id = experiment.id) :
    other = experiment :=
  List.inj_on_of_nodup_map notebook.ids_nodup member listed same

theorem lessonConclusion_negative {hypothesis : ResearchHypothesis} :
    lessonConclusion hypothesis = "NEGATIVE" <-> hypothesis.status = .rejected := by
  unfold lessonConclusion
  by_cases rejected : hypothesis.status = .rejected
  · simp [rejected]
  · simp [rejected]

theorem recorded_append_iff (recorded : Recorded notebook)
    (listed : experiment ∈ notebook.experiments) {entry : ResearchMemoryEntry}
    (own : entry.experimentId = experiment.id)
    (concluded : entry.conclusion = lessonConclusion notebook.hypothesis) :
    Recorded { notebook with entries := notebook.entries ++ [entry] } <->
      ¬ notebook.learned experiment.id ∧
        (notebook.hypothesis.status = .rejected <-> experiment.status = .rejected) := by
  have verdict : entry.conclusion = "NEGATIVE" <-> notebook.hypothesis.status = .rejected := by
    rw [concluded, lessonConclusion_negative]
  constructor
  · intro after
    have single := Tables.nodup_append_row.mp after.single
    rw [own] at single
    have last : entry ∈ notebook.entries ++ [entry] := by simp
    exact ⟨single.1, verdict.symm.trans (after.verdicts entry last experiment listed own.symm)⟩
  · rintro ⟨first, agrees⟩
    refine ⟨?_, ?_⟩
    · rw [← own] at first
      exact Tables.nodup_append_row.mpr ⟨first, recorded.single⟩
    · intro other member known present same
      rcases List.mem_append.mp member with old | new
      · exact recorded.verdicts other old known present same
      · rw [List.mem_singleton.mp new] at same ⊢
        rw [experiment_eq listed present (same.trans own)]
        exact verdict.trans agrees

theorem recorded_build_iff (recorded : Recorded notebook)
    (found : notebook.experiment experimentId = some experiment) {evidence : Evidence}
    {applicability : Applicability} {regimeContext : List String} {id : Identifier} :
    Recorded (notebook.build digest experiment evidence applicability regimeContext id) <->
      forall inputs, lessonInputs experiment evidence = .ok inputs ->
        storedLesson notebook.entries experiment.workspaceId
          (lessonChecksum digest notebook.hypothesis experiment inputs) = none ->
        ¬ notebook.learned experimentId ∧
          (notebook.hypothesis.status = .rejected <-> experiment.status = .rejected) := by
  rcases experiment_some found with ⟨listed, named⟩
  unfold Notebook.build createMemoryFromExperiment
  cases given : lessonInputs experiment evidence with
  | error raised =>
      refine iff_of_true recorded ?_
      intro inputs impossible
      cases impossible
  | ok inputs =>
      cases stored : storedLesson notebook.entries experiment.workspaceId
          (lessonChecksum digest notebook.hypothesis experiment inputs) with
      | some existing =>
          simp only [bind, Except.bind, stored, pure, Except.pure]
          refine iff_of_true recorded ?_
          intro other same missing
          cases same
          rw [stored] at missing
          cases missing
      | none =>
          simp only [bind, Except.bind, stored, pure, Except.pure]
          have decided := recorded_append_iff recorded listed
            (rfl : (lesson digest notebook.hypothesis experiment evidence applicability
              regimeContext inputs id).experimentId = experiment.id) rfl
          rw [decided, named]
          constructor
          · intro holds other same _
            exact holds
          · intro holds
            exact holds inputs rfl stored

theorem recorded_write_iff (recorded : Recorded notebook)
    (found : notebook.experiment experimentId = some experiment) (accepted : Bool)
    (reasons : List String) (now : Instant) (hypothesis : ResearchHypothesis) :
    Recorded (notebook.write (experiment.closed accepted reasons now) hypothesis) <->
      (notebook.learned experimentId -> (accepted = false <-> experiment.status = .rejected)) := by
  rcases experiment_some found with ⟨listed, named⟩
  have closedStatus : (experiment.closed accepted reasons now).status = .rejected <->
      accepted = false := by
    cases accepted <;> simp [FactorExperiment.closed]
  have written : experiment.closed accepted reasons now ∈
      Tables.put FactorExperiment.id (experiment.closed accepted reasons now)
        notebook.experiments :=
    Tables.mem_put_self _ _
  constructor
  · intro after known
    rcases List.mem_map.mp known with ⟨entry, member, own⟩
    have before := recorded.verdicts entry member experiment listed (named.trans own.symm)
    have later := after.verdicts entry member _ written (named.trans own.symm)
    exact closedStatus.symm.trans (later.symm.trans before)
  · intro agrees
    refine ⟨recorded.single, ?_⟩
    intro entry member known present same
    by_cases own : known.id = experiment.id
    · have closed : known = experiment.closed accepted reasons now :=
        List.inj_on_of_nodup_map (Tables.nodup_put notebook.ids_nodup) present written own
      have learned : notebook.learned experimentId :=
        List.mem_map.mpr ⟨entry, member, same.symm.trans (own.trans named)⟩
      rw [closed, closedStatus, agrees learned]
      exact recorded.verdicts entry member experiment listed (own.symm.trans same)
    · rcases Tables.mem_put present with new | old
      · rw [new] at own
        exact absurd rfl own
      · exact recorded.verdicts entry member known old same

theorem recorded_complete_iff (recorded : Recorded notebook)
    (found : notebook.experiment experimentId = some experiment) {accepted : Bool}
    {reasons : List String} {now : Instant} {kept : Bool} :
    Recorded (notebook.complete experiment accepted reasons now kept) <->
      ((kept = true ∨ (if accepted then HypothesisStatus.promising else .rejected) ∈
          hypothesisTransitions notebook.hypothesis.status) ->
        notebook.learned experimentId -> (accepted = false <-> experiment.status = .rejected)) := by
  have written := recorded_write_iff recorded found accepted reasons now
  unfold Notebook.complete completeExperiment
  cases moved : transitionHypothesis notebook.hypothesis.status
      (StrEnum.value (if accepted then HypothesisStatus.promising else .rejected)) with
  | ok status =>
      rcases transitionHypothesis_eq_ok.mp moved with ⟨named, permitted⟩
      rw [← StrEnum.value_injective named] at permitted
      simp only [Except.map]
      rw [written]
      exact ⟨fun holds _ => holds, fun holds => holds (Or.inr permitted)⟩
  | error raised =>
      have refused : (if accepted then HypothesisStatus.promising else .rejected) ∉
          hypothesisTransitions notebook.hypothesis.status := by
        intro permitted
        rw [transitionHypothesis_eq_ok.mpr ⟨rfl, permitted⟩] at moved
        cases moved
      simp only [Except.map]
      cases kept with
      | true =>
          rw [if_pos rfl, written]
          exact ⟨fun holds _ => holds, fun holds => holds (Or.inl rfl)⟩
      | false =>
          refine iff_of_true recorded ?_
          rintro (impossible | permitted)
          · cases impossible
          · exact absurd permitted refused

theorem recorded_step_iff (recorded : Recorded notebook) (operation : Operation) :
    Recorded (notebook.step digest operation) <-> Agrees digest notebook operation := by
  cases operation with
  | complete experimentId accepted reasons now kept =>
      simp only [Notebook.step, Agrees]
      cases found : notebook.experiment experimentId with
      | none =>
          refine iff_of_true recorded ?_
          intro other impossible
          cases impossible
      | some experiment =>
          rw [Option.elim_some, recorded_complete_iff recorded found]
          constructor
          · intro holds other same
            rw [← Option.some.inj same]
            exact holds
          · intro holds
            exact holds experiment rfl
  | transition target =>
      refine iff_of_true ?_ trivial
      simp only [Notebook.step]
      split
      · exact ⟨recorded.single, recorded.verdicts⟩
      · exact recorded
  | build experimentId evidence applicability regimeContext id =>
      simp only [Notebook.step, Agrees]
      cases found : notebook.experiment experimentId with
      | none =>
          refine iff_of_true recorded ?_
          intro other impossible
          cases impossible
      | some experiment =>
          rw [Option.elim_some, recorded_build_iff recorded found]
          constructor
          · intro holds other same
            rw [← Option.some.inj same]
            exact holds
          · intro holds
            exact holds experiment rfl

end Operations

/-! ## All orders of operations -/

/-- A hypothesis and its experiments, before the first lesson. -/
structure Study where
  hypothesis : ResearchHypothesis
  experiments : List FactorExperiment
  ids_nodup : (experiments.map FactorExperiment.id).Nodup

def Study.opening (study : Study) : Notebook where
  hypothesis := study.hypothesis
  experiments := study.experiments
  entries := []
  ids_nodup := study.ids_nodup

/-- Along every sequence of operations the lessons record the verdicts exactly when every
operation agrees with what it finds. -/
theorem lessons_recorded_iff (digest : Document -> String) (study : Study)
    (operations : List Operation) :
    (forall notebook, notebook ∈ Runs.states (Notebook.step digest) study.opening operations ->
      Recorded notebook) <->
      Runs.Along (Notebook.step digest) (Agrees digest) study.opening operations := by
  refine Runs.invariant_states_iff_along (motive := Recorded)
    (fun _ operation recorded => recorded_step_iff recorded operation) ⟨List.nodup_nil, ?_⟩
  intro entry member
  cases member

/-- One experiment of a hypothesis under test. -/
def agricultureStudy : Study where
  hypothesis :=
    { id := 1, workspaceId := 1, subjectEntityId := 1, version := 1, checksum := "h"
      machineReadableMechanism := "{}", requiredDatasets := [], simulationEligibleTime := 0
      status := .testing }
  experiments :=
    [{ id := 1, workspaceId := 1, candidateFeatureSpecId := 1, outcomeDefinitionId := 1
       periodStart := 0, periodEnd := 1, status := .running, conclusion := none
       completedAt := none, warnings := [], checksum := "e" }]
  ids_nodup := by decide

def agricultureEvidence : Evidence where
  features := [{ id := 1, featureKey := "drought", implementationVersion := 1 }]
  outcomes := [{ id := 1, key := "margin" }]
  folds :=
    [{ experimentId := 1, foldNumber := 0
       window := { train := (0, 0), validation := (0, 0), finalOos := (0, 1) }
       factorStatistics := "{}", modelStatistics := "{}"
       modelPartition := some "FINAL_OUT_OF_SAMPLE" }]
  mechanisms := []
  manifests := []
  promotions := []
  robustness := []
  multipleTesting := []
  negativeControls := []

/-- The conclusion, as a digest that tells the lessons of one experiment apart. -/
def conclusionDigest : Document -> String
  | .lesson _ _ conclusion _ => conclusion
  | .mechanism payload => payload

def agricultureOperations : List Operation :=
  [.complete 1 false ["no out-of-sample persistence"] 10 false,
    .build 1 agricultureEvidence ⟨"{}", []⟩ [] 1,
    .transition "RETIRED",
    .build 1 agricultureEvidence ⟨"{}", []⟩ [] 2]

/-- A rejected experiment whose hypothesis is retired gets a second and positive lesson. -/
theorem retired_rejection_not_recorded :
    let notebook := agricultureOperations.foldl (Notebook.step conclusionDigest)
      agricultureStudy.opening
    notebook.experiments.map (·.status) = [.rejected] ∧
      notebook.entries.map (fun entry => (entry.experimentId, entry.conclusion)) =
        [(1, "NEGATIVE"), (1, "POSITIVE")] ∧
      ¬ Recorded notebook := by
  refine ⟨by decide +kernel, by decide +kernel, ?_⟩
  intro recorded
  have twice : ¬ ((agricultureOperations.foldl (Notebook.step conclusionDigest)
      agricultureStudy.opening).entries.map ResearchMemoryEntry.experimentId).Nodup := by
    decide +kernel
  exact twice recorded.single

end ResearchIntelligence
end MarketIntelligence
