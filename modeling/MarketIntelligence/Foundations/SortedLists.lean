import Mathlib.Data.List.Sort
import Mathlib.Data.List.TakeWhile

namespace MarketIntelligence
namespace Foundations
namespace SortedLists

/-!
# Sorted lists and thresholds

Facts about stable sorting and about strictly increasing lists: sorting keeps
the order of the elements it cannot tell apart, a strictly increasing list is
determined by its members, and a threshold cuts it into two segments.
-/

universe u

variable {α : Type u}

/-- Sorting keeps the order of elements that are pairwise related. -/
theorem filter_insertionSort (relation : α -> α -> Prop) [DecidableRel relation]
    (selected : α -> Bool)
    (related : forall first second, selected first = true -> selected second = true ->
      relation first second) (values : List α) :
    (values.insertionSort relation).filter selected = values.filter selected := by
  have pairwise : (values.filter selected).Pairwise relation := by
    apply List.pairwise_of_forall_mem_list
    intro first firstMember second secondMember
    exact related first second (List.mem_filter.mp firstMember).2 (List.mem_filter.mp secondMember).2
  have inside : (values.filter selected).Sublist (values.insertionSort relation) :=
    List.sublist_insertionSort pairwise List.filter_sublist
  have filtered := inside.filter selected
  simp only [List.filter_filter, Bool.and_self] at filtered
  have lengths := ((List.perm_insertionSort relation values).filter selected).length_eq
  exact (filtered.eq_of_length lengths.symm).symm

/-- An insertion into a sorted list, seen through a filter. -/
theorem filter_orderedInsert (relation : α -> α -> Prop) [DecidableRel relation]
    [IsTrans α relation] (selected : α -> Bool) (value : α) {values : List α}
    (sorted : values.Pairwise relation) :
    (values.orderedInsert relation value).filter selected =
      if selected value then (values.filter selected).orderedInsert relation value
      else values.filter selected := by
  induction values with
  | nil =>
      simp only [List.orderedInsert_nil, List.filter_cons, List.filter_nil]
  | cons head tail ih =>
      rcases List.pairwise_cons.mp sorted with ⟨above, rest⟩
      by_cases first : relation value head
      · rw [List.orderedInsert_cons_of_le relation tail first, List.filter_cons]
        split
        · have least : forall other, other ∈ (head :: tail).filter selected ->
              relation value other := by
            intro other member
            rcases List.mem_cons.mp (List.mem_filter.mp member).1 with same | later
            · exact same ▸ first
            · exact IsTrans.trans _ _ _ first (above other later)
          cases kept : (head :: tail).filter selected with
          | nil => rfl
          | cons lowest others =>
              rw [List.orderedInsert_cons_of_le relation others
                (least lowest (kept ▸ List.mem_cons_self))]
        · rfl
      · rw [List.orderedInsert_of_not_le relation tail first, List.filter_cons,
          ih rest, List.filter_cons]
        by_cases kept : selected head
        · rw [if_pos kept, if_pos kept]
          by_cases wanted : selected value
          · rw [if_pos wanted, if_pos wanted,
              List.orderedInsert_of_not_le relation _ first]
          · rw [if_neg wanted, if_neg wanted]
        · rw [if_neg kept, if_neg kept]

theorem insertionSort_filter (relation : α -> α -> Prop) [DecidableRel relation]
    [Std.Total relation] [IsTrans α relation] (selected : α -> Bool) (values : List α) :
    (values.insertionSort relation).filter selected =
      (values.filter selected).insertionSort relation := by
  induction values with
  | nil => rfl
  | cons head tail ih =>
      rw [List.insertionSort_cons, filter_orderedInsert relation selected head
        (List.pairwise_insertionSort relation tail), ih, List.filter_cons]
      split <;> rfl

/-- A strictly increasing list is determined by its members. -/
theorem eq_of_mem_iff [LinearOrder α] {left right : List α} (leftStrict : left.Pairwise (· < ·))
    (rightStrict : right.Pairwise (· < ·)) (members : forall value, value ∈ left <-> value ∈ right) :
    left = right := by
  have leftNodup : left.Nodup := leftStrict.imp fun less => ne_of_lt less
  have rightNodup : right.Nodup := rightStrict.imp fun less => ne_of_lt less
  have permutation : left.Perm right :=
    (List.perm_ext_iff_of_nodup leftNodup rightNodup).mpr members
  refine permutation.eq_of_pairwise ?_ leftStrict rightStrict
  intro first second _ _ forward backward
  exact absurd forward (lt_asymm backward)

/-- A threshold cuts a strictly increasing list into two segments. -/
theorem split_at [LinearOrder α] (threshold : α) {values : List α}
    (strict : values.Pairwise (· < ·)) :
    values = values.filter (· ≤ threshold) ++ values.filter (fun value => threshold < value) := by
  induction values with
  | nil => rfl
  | cons head tail ih =>
      have parts := List.pairwise_cons.mp strict
      have rest := ih parts.2
      by_cases early : head ≤ threshold
      · have kept : (head :: tail).filter (· ≤ threshold) = head :: tail.filter (· ≤ threshold) :=
          List.filter_cons_of_pos (by simpa using early)
        have dropped : (head :: tail).filter (fun value => threshold < value) =
            tail.filter (fun value => threshold < value) :=
          List.filter_cons_of_neg (by simpa using early)
        rw [kept, dropped, List.cons_append]
        exact congrArg (List.cons head) rest
      · have late : threshold < head := not_le.mp early
        have above : forall value, value ∈ head :: tail -> threshold < value := by
          intro value member
          rcases List.mem_cons.mp member with equal | later
          · exact equal ▸ late
          · exact late.trans (parts.1 value later)
        have none : (head :: tail).filter (· ≤ threshold) = [] :=
          List.filter_eq_nil_iff.mpr fun value member => by simpa using above value member
        have all : (head :: tail).filter (fun value => threshold < value) = head :: tail :=
          List.filter_eq_self.mpr fun value member => decide_eq_true (above value member)
        rw [none, all, List.nil_append]

/-- In a strictly increasing list a later position holds a larger value. -/
theorem getElem?_lt [LinearOrder α] {values : List α} (strict : values.Pairwise (· < ·))
    {first second : Nat} {smaller larger : α} (firstAt : values[first]? = some smaller)
    (secondAt : values[second]? = some larger) (order : first < second) : smaller < larger := by
  rcases List.getElem?_eq_some_iff.mp firstAt with ⟨firstBound, firstValue⟩
  rcases List.getElem?_eq_some_iff.mp secondAt with ⟨secondBound, secondValue⟩
  rw [← firstValue, ← secondValue]
  exact List.pairwise_iff_getElem.mp strict first second firstBound secondBound order

theorem getElem?_le [LinearOrder α] {values : List α} (strict : values.Pairwise (· < ·))
    {first second : Nat} {smaller larger : α} (firstAt : values[first]? = some smaller)
    (secondAt : values[second]? = some larger) (order : first ≤ second) : smaller ≤ larger := by
  rcases lt_or_eq_of_le order with before | same
  · exact le_of_lt (getElem?_lt strict firstAt secondAt before)
  · rw [same, secondAt] at firstAt
    exact le_of_eq (Option.some.inj firstAt).symm

/-! ## Sorting by a key -/

section Keys

variable {κ : Type*} [LinearOrder κ]

/-- The order of a key, for a stable sort. -/
def KeyOrder (key : α -> κ) (first second : α) : Prop :=
  key first ≤ key second

instance (key : α -> κ) : DecidableRel (KeyOrder key) :=
  fun first second => inferInstanceAs (Decidable (key first ≤ key second))

instance (key : α -> κ) : IsTrans α (KeyOrder key) where
  trans _ _ _ := le_trans

instance (key : α -> κ) : Std.Total (KeyOrder key) where
  total first second := le_total (key first) (key second)

def sortedBy (key : α -> κ) (rows : List α) : List α :=
  rows.insertionSort (KeyOrder key)

theorem mem_sortedBy {key : α -> κ} {rows : List α} {row : α} :
    row ∈ sortedBy key rows <-> row ∈ rows :=
  List.mem_insertionSort _

theorem length_sortedBy (key : α -> κ) (rows : List α) :
    (sortedBy key rows).length = rows.length :=
  List.length_insertionSort _ _

theorem nodup_sortedBy {key : α -> κ} {rows : List α} :
    (sortedBy key rows).Nodup <-> rows.Nodup :=
  (List.perm_insertionSort _ _).nodup_iff

theorem sortedBy_filter (key : α -> κ) (selected : α -> Bool) (rows : List α) :
    (sortedBy key rows).filter selected = sortedBy key (rows.filter selected) :=
  insertionSort_filter _ _ _

/-- The first row of a sort has the least key. -/
theorem head?_sortedBy {key : α -> κ} {rows : List α} {row : α}
    (first : (sortedBy key rows).head? = some row) :
    row ∈ rows ∧ forall other, other ∈ rows -> key row ≤ key other := by
  have sorted := List.pairwise_insertionSort (KeyOrder key) rows
  cases listed : sortedBy key rows with
  | nil =>
      rw [listed] at first
      cases first
  | cons head tail =>
      rw [listed] at first
      cases first
      have member : row ∈ sortedBy key rows := listed ▸ List.mem_cons_self
      refine ⟨mem_sortedBy.mp member, fun other known => ?_⟩
      have others : other ∈ row :: tail := listed ▸ mem_sortedBy.mpr known
      rw [sortedBy] at listed
      rw [listed] at sorted
      rcases List.mem_cons.mp others with same | later
      · exact same ▸ le_refl _
      · exact (List.pairwise_cons.mp sorted).1 other later

theorem pairwise_sortedBy {key : α -> κ} {rows : List α} (distinct : (rows.map key).Nodup) :
    (sortedBy key rows).Pairwise fun first second => key first < key second := by
  have sorted := List.pairwise_insertionSort (KeyOrder key) rows
  have apart : ((sortedBy key rows).map key).Nodup :=
    ((List.perm_insertionSort (KeyOrder key) rows).map key).nodup_iff.mpr distinct
  exact sorted.imp₂ (fun _ _ le different => lt_of_le_of_ne le different)
    (List.pairwise_map.mp apart)

/-- Rows with different keys are sorted to the same list in every order. -/
theorem sortedBy_perm {key : α -> κ} {first second : List α} (perm : first.Perm second)
    (distinct : (first.map key).Nodup) : sortedBy key first = sortedBy key second := by
  have other : (second.map key).Nodup := (perm.map key).nodup_iff.mp distinct
  have listed : (sortedBy key first).Perm (sortedBy key second) :=
    (List.perm_insertionSort _ _).trans (perm.trans (List.perm_insertionSort _ _).symm)
  exact listed.eq_of_pairwise (fun _ _ _ _ before after => absurd before (lt_asymm after))
    (pairwise_sortedBy distinct) (pairwise_sortedBy other)

/-- The first row of a key is the same before and after a stable sort. -/
theorem find?_sortedBy (key : α -> κ) (rows : List α) (wanted : κ) :
    (sortedBy key rows).find? (fun row => key row = wanted) =
      rows.find? fun row => key row = wanted := by
  have alike : (rows.filter fun row => key row = wanted).Pairwise (KeyOrder key) :=
    List.pairwise_of_forall_mem_list fun first listed second other =>
      le_of_eq ((of_decide_eq_true (List.mem_filter.mp listed).2).trans
        (of_decide_eq_true (List.mem_filter.mp other).2).symm)
  rw [← List.head?_filter, ← List.head?_filter, sortedBy_filter, sortedBy,
    alike.insertionSort_eq]

theorem sortedBy_map {β : Type*} (key : β -> κ) (view : α -> β) (rows : List α) :
    sortedBy key (rows.map view) = (sortedBy (fun row => key (view row)) rows).map view :=
  (List.map_insertionSort _ _ view rows fun _ _ _ _ => Iff.rfl).symm

/-- The prefixes of a strictly sorted list, by how many elements come before one. -/
theorem mem_take_iff {key : α -> κ} {rows : List α}
    (strict : rows.Pairwise fun first second => key first < key second) {count : Nat} {row : α} :
    row ∈ rows.take count <->
      row ∈ rows ∧ rows.countP (fun other => key other < key row) < count := by
  induction rows generalizing count with
  | nil => simp
  | cons head tail ih =>
      rcases List.pairwise_cons.mp strict with ⟨above, rest⟩
      cases count with
      | zero => simp
      | succ count =>
          rw [List.take_succ_cons, List.mem_cons, List.mem_cons, ih rest,
            List.countP_cons]
          by_cases same : row = head
          · have none : tail.countP (fun other => decide (key other < key row)) = 0 := by
              refine List.countP_eq_zero.mpr fun other member => ?_
              have later := above other member
              rw [same, decide_eq_true_iff]
              exact not_lt.mpr later.le
            rw [none]
            simp [same]
          · constructor
            · rintro (equal | ⟨member, within⟩)
              · exact absurd equal same
              · rw [if_pos (decide_eq_true (above row member))]
                exact ⟨.inr member, by omega⟩
            · rintro ⟨equal | member, within⟩
              · exact absurd equal same
              · rw [if_pos (decide_eq_true (above row member))] at within
                exact .inr ⟨member, by omega⟩

/-- What is among the first of a sort has fewer elements before it. -/
theorem mem_take_sortedBy {key : α -> κ} {rows : List α} (distinct : (rows.map key).Nodup)
    {count : Nat} {row : α} :
    row ∈ (sortedBy key rows).take count <->
      row ∈ rows ∧ rows.countP (fun other => key other < key row) < count := by
  have counts := (List.perm_insertionSort (KeyOrder key) rows).countP_eq
    fun other => decide (key other < key row)
  rw [mem_take_iff (pairwise_sortedBy distinct), mem_sortedBy]
  unfold sortedBy
  rw [counts]

/-- The place of a row in a sort is the number of rows before it. -/
theorem mem_zipIdx_sortedBy {key : α -> κ} {rows : List α} (distinct : (rows.map key).Nodup)
    {row : α} {place : Nat} :
    (row, place) ∈ (sortedBy key rows).zipIdx <->
      row ∈ rows ∧ place = rows.countP (fun other => key other < key row) := by
  have nodup : (sortedBy key rows).Nodup :=
    (List.perm_insertionSort _ _).nodup_iff.mpr (List.Nodup.of_map key distinct)
  have found : forall index, (sortedBy key rows)[index]? = some row ->
      row ∈ rows ∧ index = rows.countP (fun other => key other < key row) := by
    intro index at_
    rcases List.getElem?_eq_some_iff.mp at_ with ⟨bound, value⟩
    have within : row ∈ (sortedBy key rows).take (index + 1) :=
      List.mem_take_iff_getElem.mpr ⟨index, by omega, value⟩
    have without : row ∉ (sortedBy key rows).take index := by
      intro early
      rcases List.mem_take_iff_getElem.mp early with ⟨other, before, same⟩
      have equal : other = index := by
        apply (List.Nodup.getElem_inj_iff nodup).mp
        rw [same, value]
      omega
    rw [mem_take_sortedBy distinct] at within without
    refine ⟨within.1, ?_⟩
    have low : ¬ rows.countP (fun other => key other < key row) < index :=
      fun less => without ⟨within.1, less⟩
    omega
  rw [List.mk_mem_zipIdx_iff_getElem?]
  constructor
  · exact found place
  · rintro ⟨member, same⟩
    have listed : row ∈ sortedBy key rows := mem_sortedBy.mpr member
    rcases List.getElem?_of_mem listed with ⟨index, at_⟩
    rw [same, ← (found index at_).2]
    exact at_

/-! ### Folds over a sort -/

section Folds

variable {σ : Type*} {step : σ -> α -> σ}

/-- A row that can be exchanged with those before it can come first. -/
theorem foldl_front {front back : List α} {row : α}
    (exchange : forall other, other ∈ front -> forall value,
      step (step value other) row = step (step value row) other) (start : σ) :
    (front ++ row :: back).foldl step start = (row :: (front ++ back)).foldl step start := by
  induction front generalizing start with
  | nil => rfl
  | cons other rest ih =>
      have later := ih
        (fun next member => exchange next (List.mem_cons_of_mem _ member)) (step start other)
      rw [List.cons_append, List.foldl_cons, later, List.foldl_cons, List.cons_append,
        List.foldl_cons, List.foldl_cons, exchange other List.mem_cons_self]

/-- Rows of equal keys that can be exchanged leave the fold over ordered rows as it is. -/
theorem foldl_eq_of_ordered {key : α -> κ} {first second : List α} (perm : first.Perm second)
    (firstOrdered : first.Pairwise (KeyOrder key)) (secondOrdered : second.Pairwise (KeyOrder key))
    (exchange : forall left, left ∈ first -> forall right, right ∈ first -> key left = key right ->
      forall value, step (step value left) right = step (step value right) left) (start : σ) :
    first.foldl step start = second.foldl step start := by
  induction first generalizing second start with
  | nil => rw [List.nil_perm.mp perm]
  | cons head tail ih =>
      rcases List.pairwise_cons.mp firstOrdered with ⟨least, rest⟩
      rcases List.append_of_mem (perm.mem_iff.mp List.mem_cons_self) with ⟨front, back, same⟩
      subst same
      have shorter : tail.Perm (front ++ back) :=
        (perm.trans List.perm_middle).cons_inv
      have equal : forall other, other ∈ front -> key other = key head := by
        intro other member
        have below := (List.pairwise_append.mp secondOrdered).2.2 other member head
          List.mem_cons_self
        have above := least other (shorter.mem_iff.mpr (List.mem_append_left _ member))
        exact le_antisymm below above
      have exchangeable : forall other, other ∈ front -> forall value,
          step (step value other) head = step (step value head) other := by
        intro other member
        exact exchange other (List.mem_cons_of_mem _
          (shorter.mem_iff.mpr (List.mem_append_left _ member))) head List.mem_cons_self
          (equal other member)
      have remaining : (front ++ back).Pairwise (KeyOrder key) :=
        secondOrdered.sublist ((List.sublist_cons_self head back).append_left front)
      rw [foldl_front exchangeable, List.foldl_cons, List.foldl_cons]
      exact ih shorter rest remaining (fun left leftMember right rightMember =>
        exchange left (List.mem_cons_of_mem _ leftMember) right
          (List.mem_cons_of_mem _ rightMember)) (step start head)

/-- Where rows of equal keys can be exchanged, every order of the rows is folded to one value. -/
theorem foldl_sortedBy_perm {key : α -> κ} {first second : List α} (perm : first.Perm second)
    (exchange : forall left, left ∈ first -> forall right, right ∈ first -> key left = key right ->
      forall value, step (step value left) right = step (step value right) left) (start : σ) :
    (sortedBy key first).foldl step start = (sortedBy key second).foldl step start := by
  have listed : (sortedBy key first).Perm (sortedBy key second) :=
    (List.perm_insertionSort _ _).trans (perm.trans (List.perm_insertionSort _ _).symm)
  refine foldl_eq_of_ordered listed (List.pairwise_insertionSort _ _)
    (List.pairwise_insertionSort _ _) ?_ start
  intro left leftMember right rightMember
  exact exchange left (mem_sortedBy.mp leftMember) right (mem_sortedBy.mp rightMember)

end Folds

/-- Two rows of one key at the front of a list are neighbours in its sort, in the order that they
have in the list. -/
theorem sortedBy_neighbours (key : α -> κ) {first second : α} (same : key first = key second)
    (rest : List α) : exists lower upper,
      sortedBy key (first :: second :: rest) = lower ++ first :: second :: upper ∧
        sortedBy key (second :: first :: rest) = lower ++ second :: first :: upper := by
  have placed : forall row, key row = key first -> forall other, key other = key first ->
      sortedBy key (row :: other :: rest) =
        ((sortedBy key rest).takeWhile fun later => ¬ key first ≤ key later) ++
          row :: other :: (sortedBy key rest).dropWhile fun later => ¬ key first ≤ key later := by
    intro row rowKey other otherKey
    have below : forall later,
        later ∈ (sortedBy key rest).takeWhile (fun later => ¬ key first ≤ key later) ->
          decide (¬ key first ≤ key later) = true := by
      intro later member
      exact List.mem_takeWhile_imp (p := fun later => decide (¬ key first ≤ key later)) member
    have stops : decide (¬ key first ≤ key other) = false := by
      rw [otherKey]
      exact decide_eq_false (not_not.mpr (le_refl _))
    calc
      sortedBy key (row :: other :: rest)
          = ((sortedBy key rest).orderedInsert (KeyOrder key) other).orderedInsert
              (KeyOrder key) row := rfl
      _ = _ := by
        rw [List.orderedInsert_eq_take_drop, List.orderedInsert_eq_take_drop]
        simp only [KeyOrder, rowKey, otherKey]
        rw [List.takeWhile_append_of_pos below, List.dropWhile_append_of_pos below,
          List.takeWhile_cons_of_neg (by rw [stops]; exact Bool.false_ne_true),
          List.dropWhile_cons_of_neg (by rw [stops]; exact Bool.false_ne_true), List.append_nil]
  exact ⟨_, _, placed first rfl second same.symm, placed second same.symm first rfl⟩

end Keys

/-! ## Keeping the first rows -/

section Keeping

variable {κ : Type*} [DecidableEq κ] (key : α -> κ) (relation : α -> α -> Prop)
  [DecidableRel relation]

/-- The rows without those that come after the first ones in a sort. -/
def keepFirst (count : Nat) (rows : List α) : List α :=
  rows.filter fun row => key row ∉ ((rows.insertionSort relation).drop count).map key

variable {key}

theorem filter_not_mem_drop {rows : List α} (distinct : (rows.map key).Nodup) (count : Nat) :
    rows.filter (fun row => key row ∉ (rows.drop count).map key) = rows.take count := by
  have split : rows.map key = (rows.take count).map key ++ (rows.drop count).map key := by
    rw [← List.map_append, List.take_append_drop]
  have apart := List.disjoint_of_nodup_append (split ▸ distinct)
  have first : (rows.take count).filter (fun row => key row ∉ (rows.drop count).map key) =
      rows.take count := by
    refine List.filter_eq_self.mpr fun row member => decide_eq_true fun dropped => ?_
    exact apart (List.mem_map_of_mem member) dropped
  have last : (rows.drop count).filter (fun row => key row ∉ (rows.drop count).map key) = [] := by
    refine List.filter_eq_nil_iff.mpr fun row member kept => ?_
    exact of_decide_eq_true kept (List.mem_map_of_mem member)
  calc
    rows.filter (fun row => key row ∉ (rows.drop count).map key)
        = (rows.take count ++ rows.drop count).filter
            (fun row => key row ∉ (rows.drop count).map key) := by
          rw [List.take_append_drop]
    _ = rows.take count := by rw [List.filter_append, first, last, List.append_nil]

theorem keepFirst_perm {rows : List α} (distinct : (rows.map key).Nodup) (count : Nat) :
    (keepFirst key relation count rows).Perm ((rows.insertionSort relation).take count) := by
  have perm := List.perm_insertionSort relation rows
  rw [← filter_not_mem_drop ((perm.map key).nodup_iff.mpr distinct) count]
  exact (perm.filter _).symm

theorem length_keepFirst {rows : List α} (distinct : (rows.map key).Nodup) (count : Nat) :
    (keepFirst key relation count rows).length = min count rows.length := by
  rw [(keepFirst_perm relation distinct count).length_eq, List.length_take,
    List.length_insertionSort]

/-- The rows that are left out come after those that are kept. -/
theorem keepFirst_related [Std.Total relation] [IsTrans α relation] {rows : List α}
    (distinct : (rows.map key).Nodup) {count : Nat} {kept row : α}
    (keeps : kept ∈ keepFirst key relation count rows) (member : row ∈ rows)
    (left : row ∉ keepFirst key relation count rows) : relation kept row := by
  have perm := keepFirst_perm relation distinct count
  have sorted := List.pairwise_insertionSort relation rows
  rw [← List.take_append_drop count (rows.insertionSort relation)] at sorted
  have listed : row ∈ (rows.insertionSort relation).take count ++
      (rows.insertionSort relation).drop count := by
    rw [List.take_append_drop]
    exact (List.mem_insertionSort relation).mpr member
  rcases List.mem_append.mp listed with early | late
  · exact absurd (perm.mem_iff.mpr early) left
  · exact (List.pairwise_append.mp sorted).2.2 kept (perm.mem_iff.mp keeps) row late

end Keeping

end SortedLists
end Foundations
end MarketIntelligence
