import MarketIntelligence.Foundations.Tables
import Mathlib.Order.MinMax

namespace MarketIntelligence
namespace Foundations
namespace RunningNotes

/-!
# Passes that keep a note for each key

A pass over rows merges each row into the note of its key.  The note of a key is what the rows of
that key alone make of it, and no key is noted twice.  The last value, the largest one and the set
of all values of a key are notes of this kind.
-/

universe u v w

variable {α : Type u} {κ : Type v} {β : Type w} [DecidableEq κ]

/-- The note of a key, when it has one. -/
def noted (notes : List (κ × β)) (wanted : κ) : Option β :=
  (Tables.lookup Prod.fst wanted notes).map Prod.snd

/-- The row is merged into the note of its key. -/
def note (key : α -> κ) (merge : Option β -> α -> β) (notes : List (κ × β)) (row : α) :
    List (κ × β) :=
  Tables.put Prod.fst (key row, merge (noted notes (key row)) row) notes

section Notes

variable {key : α -> κ} {merge : Option β -> α -> β} {notes : List (κ × β)}

theorem noted_note (row : α) (wanted : κ) :
    noted (note key merge notes row) wanted =
      if key row = wanted then some (merge (noted notes wanted) row) else noted notes wanted := by
  unfold note
  rw [noted, Tables.lookup_put]
  by_cases same : key row = wanted
  · rw [if_pos same, if_pos same, same]
    rfl
  · rw [if_neg same, if_neg same]
    rfl

/-- The note of a key is what the rows of this key make of it. -/
theorem noted_foldl (rows : List α) (wanted : κ) :
    noted (rows.foldl (note key merge) notes) wanted =
      (rows.filter fun row => key row = wanted).foldl (fun known row => some (merge known row))
        (noted notes wanted) := by
  induction rows generalizing notes with
  | nil => rfl
  | cons head tail ih =>
      rw [List.foldl_cons, ih, noted_note]
      by_cases same : key head = wanted
      · rw [if_pos same, List.filter_cons_of_pos (by simpa using same), List.foldl_cons]
      · rw [if_neg same, List.filter_cons_of_neg (by simpa using same)]

theorem nodup_foldl (rows : List α) (distinct : (notes.map Prod.fst).Nodup) :
    ((rows.foldl (note key merge) notes).map Prod.fst).Nodup := by
  induction rows generalizing notes with
  | nil => exact distinct
  | cons head tail ih => exact ih (Tables.nodup_put distinct)

/-- The entries of the notes are the notes of their keys. -/
theorem mem_iff_noted (distinct : (notes.map Prod.fst).Nodup) {wanted : κ} {value : β} :
    (wanted, value) ∈ notes <-> noted notes wanted = some value := by
  unfold noted
  constructor
  · intro member
    rw [show wanted = Prod.fst (wanted, value) from rfl, Tables.lookup_of_mem distinct member]
    rfl
  · intro found
    rcases Option.map_eq_some_iff.mp found with ⟨⟨other, held⟩, present, same⟩
    rcases Tables.lookup_some present with ⟨member, named⟩
    cases same
    cases named
    exact member

theorem mem_foldl_iff (rows : List α) {wanted : κ} {value : β} :
    (wanted, value) ∈ rows.foldl (note key merge) [] <->
      (rows.filter fun row => key row = wanted).foldl (fun known row => some (merge known row))
        none = some value := by
  have apart : (([] : List (κ × β)).map Prod.fst).Nodup := List.nodup_nil
  rw [mem_iff_noted (nodup_foldl rows apart), noted_foldl]
  rfl

end Notes

/-! ## The last value, the largest value and all values -/

section Merges

variable (value : α -> β)

def lastValue (_ : Option β) (row : α) : β := value row

def largestValue [Max β] (known : Option β) (row : α) : β :=
  max (known.getD (value row)) (value row)

def allValues (known : Option (List β)) (row : α) : List β := known.getD [] ++ [value row]

variable {value}

theorem foldl_lastValue (rows : List α) (known : Option β) :
    rows.foldl (fun held row => some (lastValue value held row)) known =
      (rows.getLast?.map value).or known := by
  induction rows generalizing known with
  | nil => rfl
  | cons head tail ih =>
      rw [List.foldl_cons, ih]
      cases tail with
      | nil => rfl
      | cons second rest =>
          rw [List.getLast?_cons_cons]
          cases shown : (second :: rest).getLast? with
          | none => exact absurd (List.getLast?_eq_none_iff.mp shown) (List.cons_ne_nil _ _)
          | some last => rfl

theorem foldl_allValues (rows : List α) (known : Option (List β)) :
    rows.foldl (fun held row => some (allValues value held row)) known =
      if rows = [] then known else some (known.getD [] ++ rows.map value) := by
  induction rows generalizing known with
  | nil => rfl
  | cons head tail ih =>
      rw [List.foldl_cons, ih, if_neg (List.cons_ne_nil head tail)]
      by_cases ended : tail = []
      · rw [if_pos ended, ended]
        rfl
      · rw [if_neg ended]
        simp only [allValues, Option.getD_some, List.map_cons, List.append_assoc,
          List.singleton_append]

/-- The largest value is a value of the rows, and none of them is above it. -/
theorem foldl_largestValue [LinearOrder β] {rows : List α} {largest : β} :
    rows.foldl (fun held row => some (largestValue value held row)) none = some largest <->
      (exists row, row ∈ rows ∧ value row = largest) ∧
        forall row, row ∈ rows -> value row ≤ largest := by
  have grows : forall (rest : List α) (known : β),
      exists top, rest.foldl (fun held row => some (largestValue value held row)) (some known) =
          some top ∧ (top = known ∨ exists row, row ∈ rest ∧ value row = top) ∧ known ≤ top ∧
        forall row, row ∈ rest -> value row ≤ top := by
    intro rest
    induction rest with
    | nil =>
        exact fun known => ⟨known, rfl, Or.inl rfl, le_refl _,
          fun _ none_ => absurd none_ List.not_mem_nil⟩
    | cons head tail ih =>
        intro known
        rcases ih (max known (value head)) with ⟨top, ends, source, above, all⟩
        refine ⟨top, ends, ?_, (le_max_left _ _).trans above, ?_⟩
        · rcases source with same | ⟨row, member, same⟩
          · rcases max_choice known (value head) with first | second
            · exact Or.inl (same.trans first)
            · exact Or.inr ⟨head, List.mem_cons_self, second.symm.trans same.symm⟩
          · exact Or.inr ⟨row, List.mem_cons_of_mem _ member, same⟩
        · intro row member
          rcases List.mem_cons.mp member with here | later
          · exact here ▸ (le_max_right _ _).trans above
          · exact all row later
  cases rows with
  | nil =>
      refine iff_of_false (fun found => by cases found) ?_
      rintro ⟨⟨row, member, _⟩, _⟩
      exact absurd member List.not_mem_nil
  | cons head tail =>
      rcases grows tail (value head) with ⟨top, ends, source, above, all⟩
      have begins : (head :: tail).foldl (fun held row => some (largestValue value held row)) none =
          some top := by
        rw [List.foldl_cons, ← ends]
        simp only [largestValue, Option.getD_none, max_self]
      have inside : exists row, row ∈ head :: tail ∧ value row = top := by
        rcases source with same | ⟨row, member, same⟩
        · exact ⟨head, List.mem_cons_self, same.symm⟩
        · exact ⟨row, List.mem_cons_of_mem _ member, same⟩
      have bound : forall row, row ∈ head :: tail -> value row ≤ top := by
        intro row member
        rcases List.mem_cons.mp member with here | later
        · exact here ▸ above
        · exact all row later
      rw [begins, Option.some.injEq]
      constructor
      · rintro rfl
        exact ⟨inside, bound⟩
      · rintro ⟨⟨row, member, same⟩, highest⟩
        rcases inside with ⟨other, listed, equal⟩
        exact le_antisymm (equal ▸ highest other listed) (same ▸ bound row member)

end Merges

end RunningNotes
end Foundations
end MarketIntelligence
