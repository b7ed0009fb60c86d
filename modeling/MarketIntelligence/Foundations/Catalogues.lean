import MarketIntelligence.Foundations.Tables

namespace MarketIntelligence
namespace Foundations
namespace Catalogues

/-!
# Rows taken over from a catalogue

A table is filled from a catalogue whose items have keys of their own.  A selection of items is
made again and again, and the rows of what the table has not yet are appended.  Whatever has been
selected, and in whatever order, the table then has one row for every item that some selection has
asked for.
-/

universe u v w

variable {α : Type u} {β : Type v} {κ : Type w} [DecidableEq κ]

/-- One row for every selected item, in any order. -/
def Holds (catalogue : List α) (image : α -> β) (selected : α -> Bool) (rows : List β) : Prop :=
  rows.Perm ((catalogue.filter selected).map image)

/-- The items whose row is not in the table. -/
def missing (key : α -> κ) (name : β -> κ) (rows : List β) (items : List α) : List α :=
  items.filter fun item => key item ∉ rows.map name

section Taking

variable {key : α -> κ} {name : β -> κ} {image : α -> β} {catalogue : List α}
  {before selected : α -> Bool} {rows : List β}

theorem Holds.empty (catalogue : List α) (image : α -> β) :
    Holds catalogue image (fun _ => false) [] := by
  rw [Holds, List.filter_false, List.map_nil]

theorem missing_cons (head : α) (tail : List α) :
    missing key name rows (head :: tail) =
      if key head ∈ rows.map name then missing key name rows tail
      else head :: missing key name rows tail := by
  unfold missing
  by_cases known : key head ∈ rows.map name
  · rw [if_pos known, List.filter_cons, if_neg]
    rw [decide_eq_true_eq]
    exact not_not.mpr known
  · rw [if_neg known, List.filter_cons, if_pos (decide_eq_true known)]

/-- A row of another key is not what is missing. -/
theorem missing_append_row {items : List α} {row : β}
    (apart : forall item, item ∈ items -> key item ≠ name row) :
    missing key name (rows ++ [row]) items = missing key name rows items := by
  apply List.filter_congr
  intro item member
  rw [List.map_append, List.map_singleton]
  simp only [List.mem_append, List.mem_singleton, apart item member, or_false]

omit [DecidableEq κ] in
/-- The keys of the table are those of the selected items. -/
theorem Holds.known_iff (holds : Holds catalogue image before rows)
    (named : forall item, name (image item) = key item) (distinct : (catalogue.map key).Nodup)
    {item : α} (listed : item ∈ catalogue) :
    key item ∈ rows.map name <-> before item = true := by
  have keys : (rows.map name).Perm ((catalogue.filter before).map key) := by
    have mapped := holds.map name
    rw [List.map_map] at mapped
    exact mapped.trans (List.Perm.of_eq (List.map_congr_left fun other _ => named other))
  rw [keys.mem_iff]
  constructor
  · intro member
    rcases List.mem_map.mp member with ⟨other, found, same⟩
    rcases List.mem_filter.mp found with ⟨stored, chosen⟩
    rw [← List.inj_on_of_nodup_map distinct stored listed same]
    exact chosen
  · intro chosen
    exact List.mem_map_of_mem (List.mem_filter.mpr ⟨listed, chosen⟩)

/-- What is missing of a selection is what was not selected before. -/
theorem Holds.missing_eq (holds : Holds catalogue image before rows)
    (named : forall item, name (image item) = key item) (distinct : (catalogue.map key).Nodup) :
    missing key name rows (catalogue.filter selected) =
      catalogue.filter fun item => selected item && !before item := by
  rw [missing, List.filter_filter]
  apply List.filter_congr
  intro item listed
  have known := holds.known_iff named distinct listed
  cases was : before item with
  | true =>
      rw [was] at known
      rw [decide_eq_false (not_not.mpr (known.mpr rfl)), Bool.not_true, Bool.and_false,
        Bool.false_and]
  | false =>
      rw [was] at known
      rw [decide_eq_true (mt known.mp Bool.false_ne_true), Bool.not_false, Bool.and_true,
        Bool.true_and]

theorem filter_or_perm (items : List α) (first second : α -> Bool) :
    (items.filter fun item => first item || second item).Perm
      (items.filter first ++ items.filter fun item => second item && !first item) := by
  induction items with
  | nil => exact List.Perm.refl []
  | cons head tail ih =>
      rw [List.filter_cons, List.filter_cons, List.filter_cons]
      cases first head with
      | true =>
          rw [Bool.true_or, Bool.not_true, Bool.and_false, if_pos rfl, if_pos rfl,
            if_neg Bool.false_ne_true]
          exact ih.cons head
      | false =>
          rw [Bool.false_or, Bool.not_false, Bool.and_true, if_neg Bool.false_ne_true]
          cases second head with
          | true =>
              rw [if_pos rfl, if_pos rfl]
              exact (ih.cons head).trans List.perm_middle.symm
          | false =>
              rw [if_neg Bool.false_ne_true, if_neg Bool.false_ne_true]
              exact ih

/-- The rows of what was not selected before complete the table. -/
theorem Holds.append (holds : Holds catalogue image before rows) :
    Holds catalogue image (fun item => before item || selected item)
      (rows ++ (catalogue.filter fun item => selected item && !before item).map image) := by
  refine (holds.append_right _).trans ?_
  rw [← List.map_append]
  exact ((filter_or_perm catalogue before selected).map image).symm

/-- Taking over what is missing of a selection. -/
theorem Holds.takeOver (holds : Holds catalogue image before rows)
    (named : forall item, name (image item) = key item) (distinct : (catalogue.map key).Nodup) :
    Holds catalogue image (fun item => before item || selected item)
      (rows ++ (missing key name rows (catalogue.filter selected)).map image) := by
  rw [holds.missing_eq named distinct]
  exact holds.append

/-- Two tables of the same selection have the same rows. -/
theorem Holds.perm {other : List β} (first : Holds catalogue image selected rows)
    (second : Holds catalogue image selected other) : rows.Perm other :=
  first.trans second.symm

theorem Holds.congr (holds : Holds catalogue image before rows)
    (same : forall item, item ∈ catalogue -> before item = selected item) :
    Holds catalogue image selected rows := by
  rw [Holds, ← List.filter_congr same]
  exact holds

/-- The rows may be read differently where the two readings agree on what is selected. -/
theorem Holds.image_congr {other : α -> β} (holds : Holds catalogue image before rows)
    (same : forall item, item ∈ catalogue -> before item = true -> image item = other item) :
    Holds catalogue other before rows := by
  refine List.Perm.trans holds (List.Perm.of_eq (List.map_congr_left ?_))
  intro item member
  exact same item (List.mem_of_mem_filter member) (List.mem_filter.mp member).2

end Taking

end Catalogues
end Foundations
end MarketIntelligence
