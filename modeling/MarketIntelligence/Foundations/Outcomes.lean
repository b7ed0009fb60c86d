import MarketIntelligence.Foundations.Loops

namespace MarketIntelligence
namespace Foundations
namespace Outcomes

open Loops

/-!
# Which errors a computation stops with

A computation in `Except` stops with an error of a given kind, or it does not.  For a sequence, a
loop over a list and a fold that gives up its accumulator it is said exactly when: some part stops
so, and the parts before it succeed.
-/

universe u

variable {ε α β : Type u} {bad : ε -> Prop}

/-- The computation ends with an error of the kind. -/
def Stops (bad : ε -> Prop) (outcome : Except ε α) : Prop :=
  exists failure, outcome = .error failure ∧ bad failure

/-- The computation ends with a value. -/
def Succeeds (outcome : Except ε α) : Prop :=
  exists value, outcome = .ok value

theorem not_stops_ok (value : α) : ¬ Stops bad (Except.ok value : Except ε α) := by
  rintro ⟨_, stopped, _⟩
  cases stopped

theorem stops_error_iff {failure : ε} :
    Stops bad (Except.error failure : Except ε α) <-> bad failure := by
  constructor
  · rintro ⟨_, stopped, kind⟩
    cases stopped
    exact kind
  · exact fun kind => ⟨failure, rfl, kind⟩

/-- A sequence stops where its first part does, or after it. -/
theorem stops_bind_iff {first : Except ε α} {next : α -> Except ε β} :
    Stops bad (first >>= next) <->
      Stops bad first ∨ exists value, first = .ok value ∧ Stops bad (next value) := by
  cases first with
  | error failure =>
      constructor
      · rintro ⟨_, stopped, kind⟩
        cases stopped
        exact Or.inl ⟨failure, rfl, kind⟩
      · rintro (⟨_, stopped, kind⟩ | ⟨_, impossible, _⟩)
        · cases stopped
          exact ⟨failure, rfl, kind⟩
        · cases impossible
  | ok value =>
      constructor
      · exact fun stops => Or.inr ⟨value, rfl, stops⟩
      · rintro (⟨_, impossible, _⟩ | ⟨_, same, stops⟩)
        · cases impossible
        · cases same
          exact stops

theorem not_stops_bind {first : Except ε α} {next : α -> Except ε β} (begins : ¬ Stops bad first)
    (continues : forall value, first = .ok value -> ¬ Stops bad (next value)) :
    ¬ Stops bad (first >>= next) := by
  intro stops
  rcases stops_bind_iff.mp stops with here | ⟨value, done, later⟩
  · exact begins here
  · exact continues value done later

/-- A loop stops at one of its items, and the items before it have succeeded. -/
theorem stops_mapM_iff {body : α -> Except ε β} {items : List α} :
    Stops bad (items.mapM body) <->
      exists before item after, items = before ++ item :: after ∧
        (forall earlier, earlier ∈ before -> Succeeds (body earlier)) ∧
        Stops bad (body item) := by
  induction items with
  | nil =>
      constructor
      · exact fun stops => absurd stops (not_stops_ok [])
      · rintro ⟨before, item, after, split, _⟩
        cases before <;> cases split
  | cons head tail ih =>
      have rest : forall value, Stops bad (do
          let values ← tail.mapM body
          pure (value :: values) : Except ε (List β)) <-> Stops bad (tail.mapM body) := by
        intro value
        rw [stops_bind_iff]
        exact or_iff_left fun ⟨values, _, stops⟩ => not_stops_ok (value :: values) stops
      rw [List.mapM_cons, stops_bind_iff]
      constructor
      · rintro (here | ⟨value, done, later⟩)
        · exact ⟨[], head, tail, rfl, fun _ none => absurd none List.not_mem_nil, here⟩
        · rcases ih.mp ((rest value).mp later) with
            ⟨before, item, after, split, succeed, stops⟩
          refine ⟨head :: before, item, after, congrArg (head :: ·) split, ?_, stops⟩
          intro earlier member
          rcases List.mem_cons.mp member with same | inside
          · exact ⟨value, (congrArg body same).trans done⟩
          · exact succeed earlier inside
      · rintro ⟨before, item, after, split, succeed, stops⟩
        cases before with
        | nil =>
            cases split
            exact Or.inl stops
        | cons first before =>
            cases split
            rcases succeed head List.mem_cons_self with ⟨value, done⟩
            refine Or.inr ⟨value, done, (rest value).mpr (ih.mpr
              ⟨before, item, after, rfl, fun earlier inside => ?_, stops⟩)⟩
            exact succeed earlier (List.mem_cons_of_mem _ inside)

theorem not_stops_foldlM {body : β -> α -> Except ε β} {items : List α}
    (pass : forall item, item ∈ items -> forall start, ¬ Stops bad (body start item))
    (start : β) : ¬ Stops bad (items.foldlM body start) := by
  induction items generalizing start with
  | nil => exact not_stops_ok start
  | cons head tail ih =>
      rw [List.foldlM_cons]
      apply not_stops_bind (pass head List.mem_cons_self start)
      intro middle _
      exact ih (fun item member => pass item (List.mem_cons_of_mem _ member))
        middle

/-- A fold stops at one of its items, from what the items before it have made. -/
theorem stops_foldlM_iff {body : β -> α -> Except ε β} {items : List α} {start : β} :
    Stops bad (items.foldlM body start) <->
      exists before item after, items = before ++ item :: after ∧
        exists middle, before.foldlM body start = .ok middle ∧ Stops bad (body middle item) := by
  induction items generalizing start with
  | nil =>
      constructor
      · exact fun stops => absurd stops (not_stops_ok start)
      · rintro ⟨before, item, after, split, _⟩
        cases before <;> cases split
  | cons head tail ih =>
      rw [List.foldlM_cons, stops_bind_iff]
      constructor
      · rintro (here | ⟨next, done, later⟩)
        · exact ⟨[], head, tail, rfl, start, rfl, here⟩
        · rcases ih.mp later with
            ⟨before, item, after, split, middle, reached, stops⟩
          refine ⟨head :: before, item, after, congrArg (head :: ·) split, middle, ?_, stops⟩
          rw [List.foldlM_cons, except_bind_eq done]
          exact reached
      · rintro ⟨before, item, after, split, middle, reached, stops⟩
        cases before with
        | nil =>
            cases split
            cases reached
            exact Or.inl stops
        | cons first before =>
            cases split
            rcases foldlM_cons_ok reached with ⟨next, done, rest⟩
            exact Or.inr ⟨next, done, ih.mpr
              ⟨before, item, after, rfl, middle, rest, stops⟩⟩

end Outcomes
end Foundations
end MarketIntelligence
