import MarketIntelligence.Foundations.Runs
import MarketIntelligence.Hypothesis.Lifecycle
import MarketIntelligence.Core.Values

namespace MarketIntelligence
namespace Hypothesis

open Foundations
open StrEnum

/-!
# Promotion history

A call records an event of its hypothesis when the check accepts the stages that come
with it.  The check does not read the events that are recorded already, so the history
is well formed exactly as long as every accepted call supplies the stage that the
history ends in.
-/

/-- The stage that was left is the supplied one, the stage that was reached the checked one. -/
structure ResearchPromotionEvent where
  hypothesisId : Identifier
  experimentId : Option Identifier
  fromStage : Option String
  toStage : PromotionStage
  gateVersion : String
  decision : String
  reasons : List String
  evidence : List (String × String)
  deriving DecidableEq, Repr

structure Promotion where
  hypothesisId : Identifier
  experimentId : Option Identifier
  current : Option String
  target : String
  decision : String
  reasons : List String
  deriving DecidableEq, Repr

def Promotion.event (call : Promotion) (requested : PromotionStage) : ResearchPromotionEvent where
  hypothesisId := call.hypothesisId
  experimentId := call.experimentId
  fromStage := call.current.filter (· ≠ "")
  toStage := requested
  gateVersion := "research-promotion-v1"
  decision := call.decision
  reasons := call.reasons
  evidence := []

def recordPromotion (call : Promotion) : Except ValueError ResearchPromotionEvent := do
  let requested ← validatePromotionTransition call.current call.target
  return call.event requested

abbrev Ledger := List ResearchPromotionEvent

/-- A call that raises stores no event. -/
def promote (ledger : Ledger) (call : Promotion) : Ledger :=
  (recordPromotion call).toOption.elim ledger fun event => ledger ++ [event]

def history (ledger : Ledger) (hypothesis : Identifier) : Ledger :=
  ledger.filter fun event => event.hypothesisId = hypothesis

/-! ## Well-formed histories -/

/-- The stages are a prefix of the order of promotion with at most one rejection after it,
every event leaves the stage that the event before it has reached, and no event comes
after a rejection. -/
structure WellFormed (events : Ledger) : Prop where
  ordered : exists passed, passed <+: promotionOrder ∧
    (events.map (·.toStage) = passed ∨ events.map (·.toStage) = passed ++ [.rejected])
  chained : events.IsChain fun before after => after.fromStage = some (value before.toStage)
  closed : forall before event after, events = before ++ event :: after ->
    event.toStage = .rejected -> after = []

/-- The call supplies the stage that the history ends in, or no stage where the history is
empty; a rejection that starts a history may leave any stage. -/
structure Continues (events : Ledger) (call : Promotion) : Prop where
  begins : events = [] -> call.current = none ∨ call.target = value PromotionStage.rejected
  resumes : forall last, last ∈ events.getLast? ->
    last.toStage ≠ .rejected ∧ call.current = some (value last.toStage)

/-- A call that the check accepts continues the recorded history of its hypothesis.  The check
itself sees only the stage that the caller supplies. -/
def Faithful (ledger : Ledger) (call : Promotion) : Prop :=
  forall requested, validatePromotionTransition call.current call.target = .ok requested ->
    Continues (history ledger call.hypothesisId) call

/-! ## One history -/

theorem prefix_next {stages : List PromotionStage} {existing requested : PromotionStage}
    (passed : stages ++ [existing] <+: promotionOrder) (follows : Follows existing requested) :
    stages ++ [existing] ++ [requested] <+: promotionOrder := by
  rcases passed with ⟨rest, order⟩
  have distinct : (stages ++ [existing] ++ rest).Nodup := by
    rw [order]
    exact promotionOrder_nodup
  have fresh : existing ∉ stages := by
    intro member
    have apart := (List.nodup_append.mp (List.nodup_append.mp distinct).1).2.2
    exact apart existing member existing List.mem_cons_self rfl
  have place : promotionOrder.idxOf existing = stages.length := by
    rw [← order, List.append_assoc, List.idxOf_append_of_notMem fresh]
    simp
  have next : rest[0]? = some requested := by
    have found : promotionOrder[stages.length + 1]? = some requested := place ▸ follows
    rw [← order, List.getElem?_append_right (by simp)] at found
    simpa using found
  cases rest with
  | nil => cases next
  | cons stage later =>
      have same : stage = requested := Option.some.inj next
      exact ⟨later, by rw [← order, same]; simp⟩

section History

variable {events : Ledger} {call : Promotion} {requested : PromotionStage}

theorem fromStage_eq_some {stage : PromotionStage} :
    (call.event requested).fromStage = some (value stage) <->
      call.current = some (value stage) := by
  have named : value stage ≠ "" := by cases stage <;> decide
  unfold Promotion.event
  constructor
  · intro left
    exact (Option.filter_eq_some_iff.mp left).1
  · intro supplied
    rw [supplied]
    simp [named]

theorem WellFormed.nil : WellFormed [] where
  ordered := ⟨[], List.nil_prefix, Or.inl rfl⟩
  chained := .nil
  closed := by
    intro before event after split
    have impossible := congrArg List.length split
    simp at impossible

theorem WellFormed.first (permitted : Permitted call.current requested)
    (begins : call.current = none ∨ requested = .rejected) :
    WellFormed [call.event requested] where
  ordered := by
    cases permitted with
    | rejects => exact ⟨[], List.nil_prefix, Or.inr rfl⟩
    | begins absent => exact ⟨[.draft], by decide, Or.inl rfl⟩
    | advances supplied follows =>
        rcases begins with absent | rejects
        · rw [supplied] at absent
          cases absent
        · exact absurd rejects follows.ne_rejected
  chained := .singleton _
  closed := by
    intro before event after split rejected
    cases before with
    | nil => exact (List.cons.inj split).2.symm
    | cons head rest =>
        have impossible := congrArg List.length split
        simp at impossible

theorem WellFormed.first_begins (formed : WellFormed [call.event requested])
    (permitted : Permitted call.current requested) :
    call.current = none ∨ requested = .rejected := by
  cases permitted with
  | rejects => exact Or.inr rfl
  | begins absent => exact Or.inl absent
  | advances supplied follows =>
      rcases formed.ordered with ⟨passed, within, whole | rejected⟩
      · have stages : passed = [requested] := whole.symm
        rw [stages] at within
        rcases within with ⟨rest, order⟩
        have first : requested = .draft := (List.cons.inj order).1
        exact absurd (first ▸ follows) draft_not_follows
      · cases passed with
        | nil => exact absurd (List.cons.inj rejected).1 follows.ne_rejected
        | cons stage rest =>
            have impossible := congrArg List.length rejected
            simp at impossible

variable {before : Ledger} {last : ResearchPromotionEvent}

/-- A history that does not end in a rejection is a prefix of the order. -/
theorem WellFormed.passed (formed : WellFormed (before ++ [last]))
    (pending : last.toStage ≠ .rejected) :
    before.map (·.toStage) ++ [last.toStage] <+: promotionOrder := by
  rcases formed.ordered with ⟨passed, within, whole | rejected⟩
  · rw [List.map_append, List.map_singleton] at whole
    exact whole ▸ within
  · rw [List.map_append, List.map_singleton] at rejected
    exact absurd (List.cons.inj (List.append_inj_right' rejected rfl)).1 pending

theorem WellFormed.snoc (formed : WellFormed (before ++ [last]))
    (permitted : Permitted call.current requested) (pending : last.toStage ≠ .rejected)
    (supplied : call.current = some (value last.toStage)) :
    WellFormed (before ++ [last] ++ [call.event requested]) where
  ordered := by
    have passed := formed.passed pending
    cases permitted with
    | rejects =>
        refine ⟨_, passed, Or.inr ?_⟩
        simp [Promotion.event]
    | begins absent =>
        rw [supplied] at absent
        cases absent
    | advances named follows =>
        have same := value_injective (Option.some.inj (supplied.symm.trans named))
        refine ⟨_, prefix_next passed (same ▸ follows), Or.inl ?_⟩
        simp [Promotion.event]
  chained := by
    refine List.isChain_append.mpr ⟨formed.chained, .singleton _, ?_⟩
    intro left leaves right enters
    rw [List.getLast?_concat, Option.mem_some_iff] at leaves
    rw [List.head?_cons, Option.mem_some_iff] at enters
    rw [← leaves, ← enters]
    exact fromStage_eq_some.mpr supplied
  closed := by
    intro prior event after split rejected
    rcases List.eq_nil_or_concat after with none_ | ⟨between, final, later⟩
    · exact none_
    · rw [later, List.concat_eq_append, ← List.cons_append, ← List.append_assoc] at split
      have earlier := List.append_inj_left' split rfl
      have ends := formed.closed prior event between earlier rejected
      rw [ends] at earlier
      have same := (List.cons.inj (List.append_inj_right' earlier rfl)).1
      exact absurd (same ▸ rejected) pending

theorem WellFormed.snoc_resumes
    (formed : WellFormed (before ++ [last] ++ [call.event requested])) :
    last.toStage ≠ .rejected ∧ call.current = some (value last.toStage) := by
  constructor
  · intro rejected
    have ends := formed.closed before last [call.event requested] (by simp) rejected
    cases ends
  · have linked := (List.isChain_append.mp formed.chained).2.2
    exact fromStage_eq_some.mp (linked last (by simp) (call.event requested) (by simp))

/-- An accepted event keeps a history well formed exactly when its call continues it. -/
theorem WellFormed.append_iff (formed : WellFormed events)
    (accepted : validatePromotionTransition call.current call.target = .ok requested) :
    WellFormed (events ++ [call.event requested]) <-> Continues events call := by
  rcases validatePromotionTransition_eq_ok.mp accepted with ⟨named, permitted⟩
  rcases List.eq_nil_or_concat events with empty | ⟨before, last, split⟩
  · subst empty
    have starts : (call.current = none ∨ call.target = value PromotionStage.rejected) <->
        (call.current = none ∨ requested = .rejected) := by
      rw [named, value_injective.eq_iff]
    constructor
    · intro extended
      refine ⟨fun _ => starts.mpr (extended.first_begins permitted), ?_⟩
      intro last ends
      cases ends
    · intro continues
      exact .first permitted (starts.mp (continues.begins rfl))
  · rw [List.concat_eq_append] at split
    subst split
    constructor
    · intro extended
      refine ⟨fun empty => by simp at empty, ?_⟩
      intro final ends
      rw [List.getLast?_concat, Option.mem_some_iff] at ends
      exact ends ▸ extended.snoc_resumes
    · intro continues
      have resumes := continues.resumes last (by simp)
      exact formed.snoc permitted resumes.1 resumes.2

end History

/-! ## All histories -/

section Ledgers

variable {ledger : Ledger} {call : Promotion} {requested : PromotionStage}

theorem promote_accepted
    (accepted : validatePromotionTransition call.current call.target = .ok requested) :
    promote ledger call = ledger ++ [call.event requested] := by
  simp [promote, recordPromotion, accepted, bind, Except.bind, pure, Except.pure,
    Except.toOption]

theorem promote_refused {raised : ValueError}
    (refused : validatePromotionTransition call.current call.target = .error raised) :
    promote ledger call = ledger := by
  simp [promote, recordPromotion, refused, bind, Except.bind, Except.toOption]

theorem history_append_self :
    history (ledger ++ [call.event requested]) call.hypothesisId =
      history ledger call.hypothesisId ++ [call.event requested] := by
  simp [history, Promotion.event]

theorem history_append_other {hypothesis : Identifier} (other : hypothesis ≠ call.hypothesisId) :
    history (ledger ++ [call.event requested]) hypothesis = history ledger hypothesis := by
  simp [history, Promotion.event, other.symm]

def Sound (ledger : Ledger) : Prop :=
  forall hypothesis, WellFormed (history ledger hypothesis)

theorem sound_promote_iff (sound : Sound ledger) :
    Sound (promote ledger call) <-> Faithful ledger call := by
  cases checked : validatePromotionTransition call.current call.target with
  | error raised =>
      rw [promote_refused checked]
      refine iff_of_true sound ?_
      intro requested accepted
      rw [checked] at accepted
      cases accepted
  | ok requested =>
      have decided := (sound call.hypothesisId).append_iff checked
      rw [promote_accepted checked]
      constructor
      · intro extended stage accepted
        rw [← history_append_self] at decided
        exact decided.mp (extended call.hypothesisId)
      · intro faithful hypothesis
        by_cases own : hypothesis = call.hypothesisId
        · subst own
          rw [history_append_self]
          exact decided.mpr (faithful requested checked)
        · rw [history_append_other own]
          exact sound hypothesis

end Ledgers

/-- Along every sequence of calls the histories are well formed exactly when every accepted
call continues the recorded history of its hypothesis. -/
theorem promotions_wellFormed_iff (calls : List Promotion) :
    (forall ledger, ledger ∈ Runs.states promote [] calls ->
      forall hypothesis, WellFormed (history ledger hypothesis)) <->
      Runs.Along promote Faithful [] calls :=
  Runs.invariant_states_iff_along (motive := Sound) (fun _ _ => sound_promote_iff)
    fun _ => .nil

/-- A hypothesis is drafted, rejected, and drafted again from no stage. -/
def reopening : List Promotion :=
  [ { hypothesisId := 1, experimentId := none, current := none, target := "DRAFT",
      decision := "passed", reasons := [] },
    { hypothesisId := 1, experimentId := none, current := some "DRAFT", target := "REJECTED",
      decision := "rejected", reasons := ["no out-of-sample persistence"] },
    { hypothesisId := 1, experimentId := none, current := none, target := "DRAFT",
      decision := "passed", reasons := [] } ]

theorem reopening_accepted_not_wellFormed :
    (history (reopening.foldl promote []) 1).map (·.toStage) = [.draft, .rejected, .draft] ∧
      ¬ WellFormed (history (reopening.foldl promote []) 1) := by
  refine ⟨by decide, ?_⟩
  intro formed
  have ends := formed.closed _ _ _ (by rfl : _ = [_] ++ _ :: [_]) rfl
  cases ends

end Hypothesis
end MarketIntelligence
