import Mathlib.Data.List.Basic

namespace MarketIntelligence
namespace Foundations
namespace Loops

/-!
# Loops whose body may raise

Two shapes of loop are treated.  A fold in `Except` gives up its accumulator
when the body raises.  A program in `EStateM` keeps the state it has reached, so
a property of that state can be asked for on both outcomes.

Each shape gets an inversion rule for a completed run and an induction rule
that takes the property of one pass of the body to the whole loop.
-/

universe u

variable {ε σ α β : Type u}

/-- A computation that succeeds has succeeded in both its parts.  Long programs are taken apart
with it from the front. -/
theorem except_bind_ok {first : Except ε α} {next : α -> Except ε β} {result : β}
    (done : (first >>= next) = .ok result) :
    exists value, first = .ok value ∧ next value = .ok result := by
  cases first with
  | error failure => cases done
  | ok value => exact ⟨value, rfl, done⟩

theorem except_bind_eq {first : Except ε α} {value : α} (done : first = .ok value)
    (next : α -> Except ε β) : (first >>= next) = next value := by
  rw [done]
  rfl

theorem except_bind_error {first : Except ε α} {failure : ε} (stopped : first = .error failure)
    (next : α -> Except ε β) : (first >>= next) = .error failure := by
  rw [stopped]
  rfl

/-- A list of results is complete when each of its computations succeeds. -/
theorem except_mapM_ok_iff {body : α -> Except ε β} {result : α -> β}
    (agrees : forall item value, body item = .ok value -> value = result item) {items : List α}
    {values : List β} :
    items.mapM body = .ok values <->
      (forall item, item ∈ items -> body item = .ok (result item)) ∧ values = items.map result := by
  induction items generalizing values with
  | nil =>
      constructor
      · intro done
        cases done
        exact ⟨fun item impossible => absurd impossible List.not_mem_nil, rfl⟩
      · rintro ⟨_, same⟩
        subst same
        rfl
  | cons head tail ih =>
      rw [List.mapM_cons]
      constructor
      · intro done
        rcases except_bind_ok done with ⟨first, here, rest⟩
        rcases except_bind_ok rest with ⟨others, there, ends⟩
        cases ends
        rcases ih.mp there with ⟨succeed, same⟩
        have equal := agrees head first here
        subst equal
        subst same
        refine ⟨fun item member => ?_, rfl⟩
        rcases List.mem_cons.mp member with same | later
        · exact same ▸ here
        · exact succeed item later
      · rintro ⟨succeed, same⟩
        subst same
        have others : tail.mapM body = .ok (tail.map result) :=
          ih.mpr ⟨fun item member =>
            succeed item (List.mem_cons_of_mem _ member), rfl⟩
        rw [except_bind_eq (succeed head List.mem_cons_self), except_bind_eq others]
        rfl

theorem except_forM_ok {body : α -> Except ε PUnit.{u + 1}} {values : List α}
    (done : values.forM body = .ok ⟨⟩) {value : α} (member : value ∈ values) :
    body value = .ok ⟨⟩ := by
  induction values with
  | nil => cases member
  | cons head tail ih =>
      have sequenced : (body head >>= fun _ => tail.forM body) = .ok ⟨⟩ := done
      rcases except_bind_ok sequenced with ⟨_, first, rest⟩
      rcases List.mem_cons.mp member with same | later
      · exact same ▸ first
      · exact ih rest later

/-! ## Lists of results -/

section ResultLists

variable {body : α -> Except ε β} {head : α} {value : β} {raised : ε}
  {first second : List α} {values : List β}

theorem mapM_cons_ok (here : body head = .ok value) (tail : List α) :
    (head :: tail).mapM body = (tail.mapM body).map (value :: ·) := by
  rw [List.mapM_cons, except_bind_eq here]
  cases tail.mapM body <;> rfl

theorem mapM_cons_error (here : body head = .error raised) (tail : List α) :
    (head :: tail).mapM body = .error raised := by
  rw [List.mapM_cons, here]
  rfl

theorem mapM_append_ok (here : first.mapM body = .ok values) :
    (first ++ second).mapM body = (second.mapM body).map (values ++ ·) := by
  rw [List.mapM_append, except_bind_eq here]
  cases second.mapM body <;> rfl

theorem mapM_append_error (here : first.mapM body = .error raised) :
    (first ++ second).mapM body = .error raised := by
  rw [List.mapM_append, here]
  rfl

theorem mapM_total {items : List α}
    (total : forall item, item ∈ items -> exists value, body item = .ok value) :
    exists values, items.mapM body = .ok values := by
  induction items with
  | nil => exact ⟨[], rfl⟩
  | cons head tail ih =>
      rcases total head List.mem_cons_self with ⟨value, here⟩
      rcases ih fun item member => total item (List.mem_cons_of_mem _ member)
        with ⟨values, rest⟩
      refine ⟨value :: values, ?_⟩
      rw [mapM_cons_ok here, rest]
      rfl

/-- What each result has to do with its item. -/
theorem forall₂_of_mapM {related : α -> β -> Prop} {items : List α}
    (done : items.mapM body = .ok values)
    (implies : forall item, item ∈ items -> forall value, body item = .ok value ->
      related item value) : List.Forall₂ related items values := by
  induction items generalizing values with
  | nil =>
      cases done
      exact .nil
  | cons head tail ih =>
      cases here : body head with
      | error raised =>
          rw [mapM_cons_error here] at done
          cases done
      | ok value =>
          rw [mapM_cons_ok here] at done
          cases rest : tail.mapM body with
          | error raised =>
              rw [rest] at done
              cases done
          | ok others =>
              rw [rest] at done
              cases done
              exact .cons (implies head List.mem_cons_self value here)
                (ih rest fun item member =>
                  implies item (List.mem_cons_of_mem _ member))

theorem exists_of_forall₂ {related : α -> β -> Prop}
    (both : List.Forall₂ related first values) (member : value ∈ values) :
    exists item, item ∈ first ∧ related item value := by
  induction both with
  | nil => cases member
  | cons here _ ih =>
      rcases List.mem_cons.mp member with same | later
      · exact ⟨_, List.mem_cons_self, same ▸ here⟩
      · rcases ih later with ⟨item, listed, own⟩
        exact ⟨item, List.mem_cons_of_mem _ listed, own⟩

/-- A view of the results that their items show. -/
theorem map_of_mapM {γ : Type*} {view : β -> γ} {name : α -> γ} {items : List α}
    (done : items.mapM body = .ok values)
    (shows : forall item, item ∈ items -> forall value, body item = .ok value ->
      view value = name item) : values.map view = items.map name := by
  have both : List.Forall₂ (fun item value => view value = name item) items values :=
    forall₂_of_mapM done shows
  clear done shows
  induction both with
  | nil => rfl
  | cons here _ ih =>
      rw [List.map_cons, List.map_cons, here, ih]

/-- Both raise, or both give the same values in some order.  The errors may differ, since the
first value that fails depends on the order. -/
inductive Rearranges : Except ε (List β) -> Except ε (List β) -> Prop where
  | returned {values others : List β} (perm : values.Perm others) :
      Rearranges (.ok values) (.ok others)
  | raised (failure other : ε) : Rearranges (.error failure) (.error other)

/-- The third raises when one of the others does, and else gives the values of both, in some
order.  Nothing is said of which error is raised. -/
inductive Unites : Except ε (List β) -> Except ε (List β) -> Except ε (List β) -> Prop where
  | returned {values others whole : List β} (perm : whole.Perm (values ++ others)) :
      Unites (.ok values) (.ok others) (.ok whole)
  | left (failure again : ε) (result : Except ε (List β)) :
      Unites (.error failure) result (.error again)
  | right (result : Except ε (List β)) (failure again : ε) :
      Unites result (.error failure) (.error again)

theorem mapM_perm (perm : first.Perm second) :
    Rearranges (first.mapM body) (second.mapM body) := by
  induction perm with
  | nil => exact .returned .nil
  | @cons head tail others _ ih =>
      cases here : body head with
      | error failure =>
          rw [mapM_cons_error here, mapM_cons_error here]
          exact .raised _ _
      | ok value =>
          rw [mapM_cons_ok here, mapM_cons_ok here]
          generalize tail.mapM body = left at *
          generalize others.mapM body = right at *
          cases ih with
          | returned perm => exact .returned (perm.cons value)
          | raised failure other => exact .raised failure other
  | swap head next tail =>
      cases here : body head with
      | error failure =>
          rw [mapM_cons_error here (next :: tail)]
          cases there : body next with
          | error other =>
              rw [mapM_cons_error there]
              exact .raised _ _
          | ok value =>
              rw [mapM_cons_ok there, mapM_cons_error here]
              exact .raised _ _
      | ok value =>
          cases there : body next with
          | error other =>
              rw [mapM_cons_error there, mapM_cons_ok here, mapM_cons_error there]
              exact .raised _ _
          | ok other =>
              rw [mapM_cons_ok there, mapM_cons_ok here, mapM_cons_ok here, mapM_cons_ok there]
              cases tail.mapM body with
              | error failure => exact .raised _ _
              | ok values => exact .returned (.swap value other values)
  | @trans start middle finish _ _ before after =>
      generalize start.mapM body = left at *
      generalize middle.mapM body = between at *
      generalize finish.mapM body = right at *
      cases before with
      | returned perm =>
          cases after with
          | returned further => exact .returned (perm.trans further)
      | raised failure other =>
          cases after with
          | raised _ another => exact .raised failure another

theorem mapM_append_unites (body : α -> Except ε β) (first second : List α) :
    Unites (first.mapM body) (second.mapM body) ((first ++ second).mapM body) := by
  cases here : first.mapM body with
  | error failure =>
      rw [mapM_append_error here]
      exact .left failure failure _
  | ok values =>
      rw [mapM_append_ok here]
      cases second.mapM body with
      | error failure => exact .right _ failure failure
      | ok others => exact .returned (.refl _)

theorem Unites.rearrange {left right whole other : Except ε (List β)}
    (unites : Unites left right whole) (same : Rearranges other whole) :
    Unites left right other := by
  cases unites with
  | returned perm =>
      cases same with
      | returned further => exact .returned (further.trans perm)
  | left failure again result =>
      cases same with
      | raised another _ => exact .left failure another _
  | right result failure again =>
      cases same with
      | raised another _ => exact .right _ failure another

end ResultLists

/-! ## Folds that give up the accumulator -/

section ExceptFolds

variable {body : β -> α -> Except ε β}

theorem foldlM_cons_ok {start finish : β} {head : α} {tail : List α}
    (done : (head :: tail).foldlM body start = .ok finish) :
    exists middle, body start head = .ok middle ∧ tail.foldlM body middle = .ok finish := by
  rw [List.foldlM_cons] at done
  cases first : body start head with
  | error failure =>
      rw [first] at done
      cases done
  | ok middle =>
      rw [first] at done
      exact ⟨middle, rfl, done⟩

/-- The loop rule: a relation between what is left of the list and the
accumulator, kept by the body, holds at the end of a completed fold. -/
theorem foldlM_induction {motive : List α -> β -> Prop}
    (pass : forall head tail start middle, motive (head :: tail) start ->
      body start head = .ok middle -> motive tail middle) :
    forall (values : List α) (start finish : β), motive values start ->
      values.foldlM body start = .ok finish -> motive [] finish := by
  intro values
  induction values with
  | nil =>
      intro start finish initial done
      cases done
      exact initial
  | cons head tail ih =>
      intro start finish initial done
      rcases foldlM_cons_ok done with ⟨middle, first, rest⟩
      exact ih middle finish (pass head tail start middle initial first) rest

/-- What makes a fold raise: some pass does, from an accumulator of the invariant. -/
theorem foldlM_error {motive : β -> Prop} (failed : ε -> Prop) {values : List α}
    (pass : forall value, value ∈ values -> forall start next, motive start ->
      body start value = .ok next -> motive next)
    (fails : forall value, value ∈ values -> forall start failure, motive start ->
      body start value = .error failure -> failed failure)
    {start : β} {failure : ε} (initial : motive start)
    (raised : values.foldlM body start = .error failure) : failed failure := by
  induction values generalizing start with
  | nil => cases raised
  | cons head tail ih =>
      rw [List.foldlM_cons] at raised
      cases first : body start head with
      | error stopped =>
          rw [first] at raised
          cases raised
          exact fails head List.mem_cons_self start failure initial first
      | ok middle =>
          rw [first] at raised
          exact ih
            (fun value member => pass value (List.mem_cons_of_mem _ member))
            (fun value member => fails value (List.mem_cons_of_mem _ member))
            (pass head List.mem_cons_self start middle initial first) raised

/-- An invariant of each pass holds at the end of a completed fold. -/
theorem foldlM_invariant {motive : β -> Prop} {values : List α}
    (pass : forall value, value ∈ values -> forall start next, motive start ->
      body start value = .ok next -> motive next)
    {start finish : β} (initial : motive start) (done : values.foldlM body start = .ok finish) :
    motive finish := by
  induction values generalizing start with
  | nil =>
      cases done
      exact initial
  | cons head tail ih =>
      rcases foldlM_cons_ok done with ⟨middle, first, rest⟩
      exact ih (fun value member => pass value (List.mem_cons_of_mem _ member))
        (pass head List.mem_cons_self start middle initial first) rest

/-- A value on which the body always raises makes the fold raise, and what is raised is of
the kind that the body raises. -/
theorem foldlM_raises {failed : ε -> Prop} {values : List α}
    (each : forall value, value ∈ values -> forall start failure,
      body start value = .error failure -> failed failure)
    {stuck : α} (member : stuck ∈ values)
    (stops : forall start next, body start stuck ≠ .ok next) (start : β) :
    exists failure, values.foldlM body start = .error failure ∧ failed failure := by
  induction values generalizing start with
  | nil => cases member
  | cons head tail ih =>
      rw [List.foldlM_cons]
      cases first : body start head with
      | error failure => exact ⟨failure, rfl, each head List.mem_cons_self start failure first⟩
      | ok middle =>
          rcases List.mem_cons.mp member with same | later
          · exact absurd (same ▸ first) (stops start middle)
          · exact ih
              (fun value listed => each value (List.mem_cons_of_mem _ listed)) later middle

end ExceptFolds

/-! ## Programs that keep their state -/

/-- The state a program leaves behind, completed or raised: an exception keeps what was written
before it. -/
def finalState : EStateM.Result ε σ α -> σ
  | .ok _ state => state
  | .error _ state => state

def completed : EStateM.Result ε σ α -> Bool
  | .ok _ _ => true
  | .error _ _ => false

theorem eq_ok_of_completed {result : EStateM.Result ε σ PUnit} (done : completed result = true) :
    result = .ok ⟨⟩ (finalState result) := by
  cases result with
  | ok value state => rfl
  | error failure state => cases done

/-- The program keeps the invariant, whether or not it raises.  A sequence of such programs is
one, which is how a whole function is shown to keep it. -/
def Preserves (invariant : σ -> Prop) (program : EStateM ε σ α) : Prop :=
  forall state, invariant state -> invariant (finalState (program state))

section StatefulPrograms

variable {invariant : σ -> Prop}

theorem bind_apply (first : EStateM ε σ α) (next : α -> EStateM ε σ β) (state : σ) :
    (first >>= next) state =
      match first state with
      | .ok value middle => next value middle
      | .error failure middle => .error failure middle := by
  change EStateM.bind first next state = _
  unfold EStateM.bind
  cases first state <;> rfl

theorem bind_get (next : σ -> EStateM ε σ β) (state : σ) :
    (get >>= next) state = next state state := rfl

theorem bind_modify (change : σ -> σ) (next : PUnit -> EStateM ε σ β) (state : σ) :
    (modify change >>= next) state = next ⟨⟩ (change state) := rfl

theorem modify_ok {change : σ -> σ} {state final : σ} {value : PUnit}
    (done : (modify change : EStateM ε σ PUnit) state = .ok value final) : final = change state :=
  (EStateM.Result.ok.inj (show EStateM.Result.ok PUnit.unit (change state) = .ok value final
    from done)).2.symm

theorem bind_ok {first : EStateM ε σ α} {next : α -> EStateM ε σ β} {state final : σ} {result : β}
    (done : (first >>= next) state = .ok result final) :
    exists value middle, first state = .ok value middle ∧ next value middle = .ok result final := by
  rw [bind_apply] at done
  cases begun : first state with
  | error failure middle =>
      rw [begun] at done
      cases done
  | ok value middle =>
      rw [begun] at done
      exact ⟨value, middle, rfl, done⟩

@[simp]
theorem finalState_modify (change : σ -> σ) (state : σ) :
    finalState ((modify change : EStateM ε σ PUnit) state) = change state := rfl

theorem Preserves.modify {change : σ -> σ}
    (keeps : forall state, invariant state -> invariant (change state)) :
    Preserves (ε := ε) invariant (modify change) :=
  keeps

theorem Preserves.get_bind {next : σ -> EStateM ε σ β}
    (continues : forall seen, Preserves invariant (next seen)) :
    Preserves invariant (get >>= next) :=
  fun state => continues state state

theorem Preserves.bind {first : EStateM ε σ α} {next : α -> EStateM ε σ β}
    (begins : Preserves invariant first) (continues : forall value, Preserves invariant (next value)) :
    Preserves invariant (first >>= next) := by
  intro state holds
  have middle := begins state holds
  rw [bind_apply]
  cases begun : first state with
  | error failure stopped =>
      rw [begun] at middle
      exact middle
  | ok value reached =>
      rw [begun] at middle
      exact continues value reached middle

theorem Preserves.forM {body : α -> EStateM ε σ PUnit} {values : List α}
    (each : forall value, value ∈ values -> Preserves invariant (body value)) :
    Preserves invariant (values.forM body) := by
  induction values with
  | nil => exact fun _ holds => holds
  | cons head tail ih =>
      exact (each head List.mem_cons_self).bind fun _ =>
        ih fun value member => each value (List.mem_cons_of_mem _ member)

theorem Preserves.foldlM {body : β -> α -> EStateM ε σ β} {values : List α}
    (each : forall value accumulated, value ∈ values -> Preserves invariant (body accumulated value)) :
    forall accumulated, Preserves invariant (values.foldlM body accumulated) := by
  induction values with
  | nil => exact fun _ _ holds => holds
  | cons head tail ih =>
      intro accumulated
      rw [List.foldlM_cons]
      exact (each head accumulated List.mem_cons_self).bind fun next =>
        ih (fun value accumulated member =>
          each value accumulated (List.mem_cons_of_mem _ member)) next

theorem forM_append_ok {body : α -> EStateM ε σ PUnit} {front back : List α} {state final : σ}
    {result : PUnit} (done : (front ++ back).forM body state = .ok result final) :
    exists middle, front.forM body state = .ok ⟨⟩ middle ∧ back.forM body middle = .ok ⟨⟩ final := by
  induction front generalizing state with
  | nil => exact ⟨state, rfl, done⟩
  | cons head tail ih =>
      have sequenced : (body head >>= fun _ => (tail ++ back).forM body) state = .ok result final :=
        done
      rcases bind_ok sequenced with ⟨_, reached, begun, rest⟩
      rcases ih rest with ⟨middle, front, back⟩
      refine ⟨middle, ?_, back⟩
      change (body head >>= fun _ => tail.forM body) state = _
      rw [bind_apply, begun]
      exact front

/-- What every pass of a fold gives its accumulator, the completed fold returns. -/
theorem foldlM_value {body : β -> α -> EStateM ε σ β} {motive : β -> Prop} {values : List α}
    (pass : forall value, value ∈ values -> forall accumulated next state after, motive accumulated ->
      body accumulated value state = .ok next after -> motive next) :
    forall accumulated state result final, motive accumulated ->
      values.foldlM body accumulated state = .ok result final -> motive result := by
  induction values with
  | nil =>
      intro accumulated state result final initial done
      cases done
      exact initial
  | cons head tail ih =>
      intro accumulated state result final initial done
      rw [List.foldlM_cons] at done
      rcases bind_ok done with ⟨next, middle, first, rest⟩
      exact ih (fun value member => pass value (List.mem_cons_of_mem _ member))
        next middle result final
        (pass head List.mem_cons_self accumulated next state middle initial first) rest

/-- The loop rule for completed runs: a relation between what is left of the list
and the state. -/
theorem forM_induction {body : α -> EStateM ε σ PUnit} {motive : List α -> σ -> Prop}
    (pass : forall head tail state next, motive (head :: tail) state ->
      body head state = .ok ⟨⟩ next -> motive tail next) :
    forall (values : List α) (state final : σ), motive values state ->
      values.forM body state = .ok ⟨⟩ final -> motive [] final := by
  intro values
  induction values with
  | nil =>
      intro state final initial done
      cases done
      exact initial
  | cons head tail ih =>
      intro state final initial done
      have sequenced : (body head >>= fun _ => tail.forM body) state = .ok ⟨⟩ final := done
      rcases bind_ok sequenced with ⟨_, middle, first, rest⟩
      exact ih middle final (pass head tail state middle initial first) rest

/-- Two completed loops over one list stay related when each pass keeps them related. -/
theorem forM_related {leftBody rightBody : α -> EStateM ε σ PUnit} {motive : σ -> σ -> Prop}
    {values : List α}
    (pass : forall value, value ∈ values -> forall left right leftNext rightNext,
      motive left right -> leftBody value left = .ok ⟨⟩ leftNext ->
      rightBody value right = .ok ⟨⟩ rightNext -> motive leftNext rightNext) :
    forall left right leftFinal rightFinal, motive left right ->
      values.forM leftBody left = .ok ⟨⟩ leftFinal ->
      values.forM rightBody right = .ok ⟨⟩ rightFinal -> motive leftFinal rightFinal := by
  induction values with
  | nil =>
      intro left right leftFinal rightFinal related leftDone rightDone
      cases leftDone
      cases rightDone
      exact related
  | cons head tail ih =>
      intro left right leftFinal rightFinal related leftDone rightDone
      have leftSequenced : (leftBody head >>= fun _ => tail.forM leftBody) left =
          .ok ⟨⟩ leftFinal := leftDone
      have rightSequenced : (rightBody head >>= fun _ => tail.forM rightBody) right =
          .ok ⟨⟩ rightFinal := rightDone
      rcases bind_ok leftSequenced with ⟨_, leftMiddle, leftFirst, leftRest⟩
      rcases bind_ok rightSequenced with ⟨_, rightMiddle, rightFirst, rightRest⟩
      exact ih (fun value member => pass value (List.mem_cons_of_mem _ member))
        leftMiddle rightMiddle leftFinal rightFinal
        (pass head List.mem_cons_self left right leftMiddle rightMiddle related leftFirst rightFirst)
        leftRest rightRest

end StatefulPrograms

/-! ## Conditions before and after -/

/-- From a state of the precondition, a completed program ends as `after` says
and a raised one as `raised` says. -/
def Meets (before : σ -> Prop) (program : EStateM ε σ α) (after : α -> σ -> Prop)
    (raised : ε -> σ -> Prop) : Prop :=
  forall state, before state ->
    match program state with
    | .ok value final => after value final
    | .error failure final => raised failure final

section Contracts

variable {before : σ -> Prop} {after : α -> σ -> Prop} {raised : ε -> σ -> Prop}

theorem Meets.weaken {stronger : σ -> Prop} {program : EStateM ε σ α} {result : α -> σ -> Prop}
    {failed : ε -> σ -> Prop} (meets : Meets before program after raised)
    (enters : forall state, stronger state -> before state)
    (completes : forall value state, after value state -> result value state)
    (fails : forall failure state, raised failure state -> failed failure state) :
    Meets stronger program result failed := by
  intro state holds
  have met := meets state (enters state holds)
  cases done : program state with
  | ok value final =>
      rw [done] at met
      exact completes value final met
  | error failure final =>
      rw [done] at met
      exact fails failure final met

/-- An invariant is a condition that holds before and after. -/
theorem Preserves.meets {invariant : σ -> Prop} {program : EStateM ε σ α}
    (keeps : Preserves invariant program) :
    Meets invariant program (fun _ => invariant) (fun _ => invariant) := by
  intro state holds
  have kept := keeps state holds
  cases done : program state with
  | ok value final =>
      rw [done] at kept
      exact kept
  | error failure final =>
      rw [done] at kept
      exact kept

theorem Meets.pure {value : α} (holds : forall state, before state -> after value state) :
    Meets before (Pure.pure value) after raised :=
  holds

theorem Meets.modify {change : σ -> σ} {result : σ -> Prop}
    (establishes : forall state, before state -> result (change state)) :
    Meets before (modify change) (fun _ => result) raised :=
  establishes

theorem Meets.bind {first : EStateM ε σ α} {next : α -> EStateM ε σ β}
    {result : β -> σ -> Prop} (begins : Meets before first after raised)
    (continues : forall value, Meets (after value) (next value) result raised) :
    Meets before (first >>= next) result raised := by
  intro state holds
  have met := begins state holds
  rw [bind_apply]
  cases done : first state with
  | ok value middle =>
      rw [done] at met
      exact continues value middle met
  | error failure final =>
      rw [done] at met
      exact met

/-- The loop rule: what holds before a pass depends on what is left of the list. -/
theorem Meets.forM {body : α -> EStateM ε σ PUnit} {motive : List α -> σ -> Prop}
    (pass : forall head tail, Meets (motive (head :: tail)) (body head)
      (fun _ => motive tail) raised) :
    forall values, Meets (motive values) (values.forM body) (fun _ => motive []) raised := by
  intro values
  induction values with
  | nil => exact fun _ holds => holds
  | cons head tail ih => exact (pass head tail).bind fun _ => ih

/-- The loop rule for a fold: the condition also speaks of the accumulator. -/
theorem Meets.foldlM {body : β -> α -> EStateM ε σ β} {motive : List α -> β -> σ -> Prop}
    (pass : forall head tail accumulated, Meets (motive (head :: tail) accumulated)
      (body accumulated head) (fun next => motive tail next) raised) :
    forall values accumulated, Meets (motive values accumulated) (values.foldlM body accumulated)
      (fun result => motive [] result) raised := by
  intro values
  induction values with
  | nil => exact fun _ _ holds => holds
  | cons head tail ih =>
      intro accumulated
      rw [List.foldlM_cons]
      exact (pass head tail accumulated).bind fun next => ih next

/-- What both outcomes of a program establish holds in its final state. -/
theorem Meets.finalState {program : EStateM ε σ α} {holds : σ -> Prop} {state : σ}
    (meets : Meets before program (fun _ => holds) (fun _ => holds)) (initial : before state) :
    holds (Loops.finalState (program state)) := by
  have met := meets state initial
  cases done : program state with
  | ok value final =>
      rw [done] at met
      exact met
  | error failure final =>
      rw [done] at met
      exact met

end Contracts

/-! ## What a program may raise -/

/-- From a state of the invariant, whatever the program raises is allowed. -/
def Raises (invariant : σ -> Prop) (allowed : ε -> Prop) (program : EStateM ε σ α) : Prop :=
  forall state failure final, invariant state -> program state = .error failure final ->
    allowed failure

section Exceptions

variable {invariant : σ -> Prop} {allowed : ε -> Prop}

theorem Raises.pure (value : α) :
    Raises invariant allowed (Pure.pure value : EStateM ε σ α) := by
  intro state failure final _ stopped
  cases stopped

theorem Raises.modify (change : σ -> σ) :
    Raises invariant allowed (modify change : EStateM ε σ PUnit) := by
  intro state failure final _ stopped
  cases stopped

theorem Raises.get_bind {next : σ -> EStateM ε σ β}
    (continues : forall seen, Raises invariant allowed (next seen)) :
    Raises invariant allowed (get >>= next) :=
  fun state => continues state state

theorem Raises.bind {first : EStateM ε σ α} {next : α -> EStateM ε σ β}
    (begins : Raises invariant allowed first) (keeps : Preserves invariant first)
    (continues : forall value, Raises invariant allowed (next value)) :
    Raises invariant allowed (first >>= next) := by
  intro state failure final holds stopped
  rw [bind_apply] at stopped
  have middle := keeps state holds
  cases begun : first state with
  | error raised reached =>
      rw [begun] at stopped
      cases stopped
      exact begins state failure final holds begun
  | ok value reached =>
      rw [begun] at stopped middle
      exact continues value reached failure final middle stopped

theorem Raises.forM {body : α -> EStateM ε σ PUnit} {values : List α}
    (each : forall value, value ∈ values -> Raises invariant allowed (body value))
    (keeps : forall value, value ∈ values -> Preserves invariant (body value)) :
    Raises invariant allowed (values.forM body) := by
  induction values with
  | nil => exact Raises.pure _
  | cons head tail ih =>
      exact (each head List.mem_cons_self).bind (keeps head List.mem_cons_self) fun _ =>
        ih (fun value member => each value (List.mem_cons_of_mem _ member))
          fun value member => keeps value (List.mem_cons_of_mem _ member)

end Exceptions

/-! ## Programs that may give up earlier -/

/-- Where the program completes, the other one completes in the same way. -/
def Entails (program stronger : EStateM ε σ α) : Prop :=
  forall state value final, program state = .ok value final -> stronger state = .ok value final

theorem Entails.refl (program : EStateM ε σ α) : Entails program program :=
  fun _ _ _ done => done

theorem Entails.bind {first strongerFirst : EStateM ε σ α} {next strongerNext : α -> EStateM ε σ β}
    (begins : Entails first strongerFirst)
    (continues : forall value, Entails (next value) (strongerNext value)) :
    Entails (first >>= next) (strongerFirst >>= strongerNext) := by
  intro state result final done
  rcases bind_ok done with ⟨value, middle, begun, rest⟩
  rw [bind_apply, begins state value middle begun]
  exact continues value middle result final rest

end Loops
end Foundations
end MarketIntelligence
