import MarketIntelligence.Foundations.Causality
import MarketIntelligence.Foundations.FractionalRanks
import MarketIntelligence.Foundations.SortedLists
import Mathlib.Data.Prod.Lex
import Mathlib.Data.List.TakeWhile

namespace MarketIntelligence
namespace ResearchIntelligence

open Foundations
open FractionalRanks SortedLists

/-!
# Ranks of values

The values are sorted with their positions, and the loop goes from group to group of equal
values.  At the start of a group the values before it are smaller than those after it, so the
mean of its places is the fractional rank of its value.  The ranks of the groups behind the
loop stand at their positions.
-/

section Loops

variable {α : Type*} [LinearOrder α]

/-- `sorted(enumerate(values), key=lambda item: (item[1], item[0]))`, with the value first. -/
def ordered (values : List α) : List (α × Nat) :=
  sortedBy (fun item => toLex item) values.zipIdx

variable (items : List (α × Nat))

/-- The inner loop, which looks for the end of the group that starts at `index`. -/
def groupEnd (index fin : Nat) : Nat :=
  if fin < items.length ∧ (items[fin]?).map Prod.fst = (items[index]?).map Prod.fst then
    groupEnd index (fin + 1)
  else fin
termination_by items.length - fin

theorem le_groupEnd (index fin : Nat) : fin ≤ groupEnd items index fin := by
  induction fin using groupEnd.induct items index with
  | case1 fin going ih =>
      rw [groupEnd, if_pos going]
      exact (Nat.le_succ fin).trans ih
  | case2 fin ended => rw [groupEnd, if_neg ended]

/-- The places from `index` on and before `fin` have this rank. -/
def average (index fin : Nat) : Rat := ((index : Rat) + fin - 1) / 2 + 1

/-- The `for` loop over a group. -/
def writeGroup (index fin : Nat) (ranks : List Rat) : List Rat :=
  (Causality.slice index fin items).foldl
    (fun ranks item => ranks.set item.2 (average index fin)) ranks

/-- The outer loop. -/
def rankFrom (index : Nat) (ranks : List Rat) : List Rat :=
  if index < items.length then
    rankFrom (groupEnd items index (index + 1))
      (writeGroup items index (groupEnd items index (index + 1)) ranks)
  else ranks
termination_by items.length - index
decreasing_by
  have further := le_groupEnd items index (index + 1)
  omega

/-- `_rank` -/
def rank (values : List α) : List Rat :=
  rankFrom (ordered values) 0 (List.replicate values.length 0)

end Loops

/-! ## One group -/

section Groups

variable {α : Type*} [LinearOrder α] {items : List (α × Nat)}

/-- The values before this place are smaller than those from it on. -/
def Between (items : List (α × Nat)) (index : Nat) : Prop :=
  forall item, item ∈ items.take index -> forall other, other ∈ items.drop index ->
    item.1 < other.1

/-- Where the inner loop stops: after the last of the items that tie with the one it starts from.
-/
theorem groupEnd_spec (index : Nat) {fin : Nat} (inside : fin ≤ items.length) :
    groupEnd items index fin ≤ items.length ∧
      (forall place, fin ≤ place -> place < groupEnd items index fin ->
        (items[place]?).map Prod.fst = (items[index]?).map Prod.fst) ∧
      (groupEnd items index fin < items.length ->
        (items[groupEnd items index fin]?).map Prod.fst ≠ (items[index]?).map Prod.fst) := by
  induction fin using groupEnd.induct items index with
  | case1 fin going ih =>
      rcases ih going.1 with ⟨bound, equal, ends⟩
      rw [groupEnd, if_pos going]
      refine ⟨bound, ?_, ends⟩
      intro place from_ before
      rcases Nat.eq_or_lt_of_le from_ with same | later
      · exact same ▸ going.2
      · exact equal place later before
  | case2 fin ended =>
      rw [groupEnd, if_neg ended]
      refine ⟨inside, fun place from_ before => absurd from_ (not_le.mpr before), ?_⟩
      exact fun within same => ended ⟨within, same⟩

theorem value_le (sorted : items.Pairwise fun item other => item.1 ≤ other.1) {place later : Nat}
    {item other : α × Nat} (found : items[place]? = some item)
    (otherFound : items[later]? = some other) (order : place ≤ later) : item.1 ≤ other.1 := by
  rcases Nat.eq_or_lt_of_le order with same | before
  · subst same
    rw [found] at otherFound
    rw [Option.some.inj otherFound]
  · rcases List.getElem?_eq_some_iff.mp found with ⟨inside, itemAt⟩
    rcases List.getElem?_eq_some_iff.mp otherFound with ⟨within, otherAt⟩
    rw [← itemAt, ← otherAt]
    exact List.pairwise_iff_getElem.mp sorted place later inside within before

/-- A group of a sorted list holds the items of one value, and the next one starts behind it. -/
theorem groupEnd_group (sorted : items.Pairwise fun item other => item.1 ≤ other.1) {index : Nat}
    {first : α × Nat} (found : items[index]? = some first) (between : Between items index) :
    index < groupEnd items index (index + 1) ∧ groupEnd items index (index + 1) ≤ items.length ∧
      (forall item, item ∈ Causality.slice index (groupEnd items index (index + 1)) items ->
        item.1 = first.1) ∧
      (forall item, item ∈ items.drop (groupEnd items index (index + 1)) -> first.1 < item.1) ∧
      Between items (groupEnd items index (index + 1)) := by
  have inside : index < items.length := (List.getElem?_eq_some_iff.mp found).1
  have further := le_groupEnd items index (index + 1)
  rcases groupEnd_spec index inside with ⟨bound, equal, ends⟩
  generalize groupEnd items index (index + 1) = fin at further bound equal ends ⊢
  have same : forall item, item ∈ Causality.slice index fin items -> item.1 = first.1 := by
    intro item member
    rcases Causality.mem_slice member with ⟨place, from_, before, at_⟩
    rcases Nat.eq_or_lt_of_le from_ with start | later
    · rw [← start, found] at at_
      rw [← Option.some.inj at_]
    · have values := equal place later before
      rw [at_, found] at values
      exact Option.some.inj values
  have above : forall item, item ∈ items.drop fin -> first.1 < item.1 := by
    intro item member
    rcases List.getElem?_of_mem member with ⟨offset, at_⟩
    rw [List.getElem?_drop] at at_
    have place := (List.getElem?_eq_some_iff.mp at_).1
    have within : fin < items.length := by omega
    have next : items[fin]? = some items[fin] := List.getElem?_eq_getElem within
    have apart : first.1 ≠ items[fin].1 := by
      intro same
      apply ends within
      rw [next, found, Option.map_some, Option.map_some, same]
    have reached : first.1 ≤ items[fin].1 := value_le sorted found next (by omega)
    exact (lt_of_le_of_ne reached apart).trans_le
      (value_le sorted next at_ (Nat.le_add_right _ _))
  refine ⟨further, bound, same, above, ?_⟩
  intro item member other later
  have order : index ≤ fin := by omega
  rw [Causality.take_eq_append_slice order] at member
  rcases List.mem_append.mp member with before | group
  · apply between item before other
    exact (List.drop_sublist_drop_left items order).subset later
  · rw [same item group]
    exact above other later

/-- The mean of the places of a group is the rank of its value. -/
theorem average_eq {index fin : Nat} {value : α} (order : index < fin) (bound : fin ≤ items.length)
    (before : forall item, item ∈ items.take index -> item.1 < value)
    (group : forall item, item ∈ Causality.slice index fin items -> item.1 = value)
    (behind : forall item, item ∈ items.drop fin -> value < item.1) :
    average index fin = fractionalRank (items.map Prod.fst) value := by
  have parts : items = items.take index ++ Causality.slice index fin items ++ items.drop fin := by
    rw [← Causality.take_eq_append_slice order.le, List.take_append_drop]
  have length : (Causality.slice index fin items).length = fin - index := by
    rw [Causality.slice, List.length_drop, List.length_take, min_eq_left bound]
  have smaller : (items.map Prod.fst).countP (fun other => other < value) = index := by
    rw [List.countP_map, parts, List.countP_append, List.countP_append]
    have all : (items.take index).countP ((fun other => decide (other < value)) ∘ Prod.fst) =
        (items.take index).length :=
      List.countP_eq_length.mpr fun item member => decide_eq_true (before item member)
    have none : (Causality.slice index fin items).countP
        ((fun other => decide (other < value)) ∘ Prod.fst) = 0 := by
      refine List.countP_eq_zero.mpr fun item member smaller => ?_
      exact (group item member).not_lt (of_decide_eq_true smaller)
    have last : (items.drop fin).countP ((fun other => decide (other < value)) ∘ Prod.fst) = 0 := by
      refine List.countP_eq_zero.mpr fun item member smaller => ?_
      exact lt_asymm (behind item member) (of_decide_eq_true smaller)
    rw [all, none, last, List.length_take, min_eq_left (order.le.trans bound)]
    rfl
  have equal : (items.map Prod.fst).count value = fin - index := by
    rw [List.count, List.countP_map, parts, List.countP_append, List.countP_append]
    have none : (items.take index).countP ((fun other => other == value) ∘ Prod.fst) = 0 := by
      refine List.countP_eq_zero.mpr fun item member same => ?_
      exact (before item member).ne (beq_iff_eq.mp same)
    have all : (Causality.slice index fin items).countP
        ((fun other => other == value) ∘ Prod.fst) = (Causality.slice index fin items).length :=
      List.countP_eq_length.mpr fun item member => beq_iff_eq.mpr (group item member)
    have last : (items.drop fin).countP ((fun other => other == value) ∘ Prod.fst) = 0 := by
      refine List.countP_eq_zero.mpr fun item member same => ?_
      exact (behind item member).ne' (beq_iff_eq.mp same)
    rw [none, all, last, length, Nat.zero_add, Nat.add_zero]
  rw [fractionalRank, smaller, equal, average, Nat.cast_sub order.le]
  ring

end Groups

/-! ## The writes -/

section Writes

variable {α : Type*} {group : List (α × Nat)} {ranks : List Rat}

theorem length_writes (value : Rat) :
    (group.foldl (fun ranks item => ranks.set item.2 value) ranks).length = ranks.length := by
  induction group generalizing ranks with
  | nil => rfl
  | cons item rest ih =>
      rw [List.foldl_cons, ih, List.length_set]

theorem getElem?_writes (value : Rat) (place : Nat) (inside : place < ranks.length) :
    (group.foldl (fun ranks item => ranks.set item.2 value) ranks)[place]? =
      if place ∈ group.map Prod.snd then some value else ranks[place]? := by
  induction group generalizing ranks with
  | nil => rfl
  | cons item rest ih =>
      have within : place < (ranks.set item.2 value).length := by
        rw [List.length_set]
        exact inside
      rw [List.foldl_cons, ih within, List.map_cons, List.getElem?_set]
      by_cases later : place ∈ rest.map Prod.snd
      · rw [if_pos later, if_pos (List.mem_cons_of_mem _ later)]
      · rw [if_neg later]
        by_cases here : item.2 = place
        · rw [if_pos here, if_pos (here ▸ inside), if_pos (List.mem_cons.mpr (Or.inl here.symm))]
        · rw [if_neg here, if_neg]
          rw [List.mem_cons, not_or]
          exact ⟨Ne.symm here, later⟩

theorem length_writeGroup (items : List (α × Nat)) (index fin : Nat) (ranks : List Rat) :
    (writeGroup items index fin ranks).length = ranks.length :=
  length_writes _

end Writes

/-! ## All groups -/

section Runs

variable {α : Type*} [LinearOrder α] {items : List (α × Nat)}

/-- The items behind the loop have their ranks. -/
def Ranked (items : List (α × Nat)) (index : Nat) (ranks : List Rat) : Prop :=
  forall item, item ∈ items.take index ->
    ranks[item.2]? = some (fractionalRank (items.map Prod.fst) item.1)

theorem writeGroup_ranked (sorted : items.Pairwise fun item other => item.1 ≤ other.1)
    (distinct : (items.map Prod.snd).Nodup) {index : Nat} {ranks : List Rat}
    (places : forall item, item ∈ items -> item.2 < ranks.length) (inside : index < items.length)
    (between : Between items index) (ranked : Ranked items index ranks) :
    Between items (groupEnd items index (index + 1)) ∧
      Ranked items (groupEnd items index (index + 1))
        (writeGroup items index (groupEnd items index (index + 1)) ranks) := by
  rcases groupEnd_group sorted (List.getElem?_eq_getElem inside) between with
    ⟨further, bound, group, behind, next⟩
  generalize groupEnd items index (index + 1) = fin at further bound group behind next ⊢
  have before : forall item, item ∈ items.take index -> item.1 < items[index].1 := by
    intro item member
    apply between item member
    rw [List.drop_eq_getElem_cons inside]
    exact List.mem_cons_self
  refine ⟨next, fun item member => ?_⟩
  have listed : item ∈ items := List.mem_of_mem_take member
  rw [writeGroup, getElem?_writes _ _ (places item listed)]
  rw [Causality.take_eq_append_slice further.le] at member
  rcases List.mem_append.mp member with old | new
  · have apart : item.2 ∉ (Causality.slice index fin items).map Prod.snd := by
      intro again
      rcases List.mem_map.mp again with ⟨other, inGroup, same⟩
      have equal : other = item :=
        List.inj_on_of_nodup_map distinct
          (List.mem_of_mem_take (List.mem_of_mem_drop inGroup)) listed same
      have smaller := before item old
      rw [← equal, group other inGroup] at smaller
      exact lt_irrefl _ smaller
    rw [if_neg apart]
    exact ranked item old
  · rw [if_pos (List.mem_map_of_mem new), group item new,
      average_eq further bound before group behind]

theorem rankFrom_ranked (sorted : items.Pairwise fun item other => item.1 ≤ other.1)
    (distinct : (items.map Prod.snd).Nodup) {index : Nat} {ranks : List Rat}
    (places : forall item, item ∈ items -> item.2 < ranks.length)
    (between : Between items index) (ranked : Ranked items index ranks) :
    (rankFrom items index ranks).length = ranks.length ∧
      forall item, item ∈ items ->
        (rankFrom items index ranks)[item.2]? =
          some (fractionalRank (items.map Prod.fst) item.1) := by
  induction index, ranks using rankFrom.induct items with
  | case1 index ranks inside ih =>
      rcases writeGroup_ranked sorted distinct places inside between ranked with ⟨next, written⟩
      have length := length_writeGroup items index
        (groupEnd items index (index + 1)) ranks
      rw [rankFrom, if_pos inside]
      rcases ih (length ▸ places) next written with ⟨same, all⟩
      exact ⟨same.trans length, all⟩
  | case2 index ranks ended =>
      rw [rankFrom, if_neg ended]
      refine ⟨rfl, fun item member => ranked item ?_⟩
      rw [List.take_of_length_le (not_lt.mp ended)]
      exact member

end Runs

/-! ## The ranks of a list -/

section Values

variable {α : Type*} [LinearOrder α] (values : List α)

theorem ordered_perm : (ordered values).Perm values.zipIdx :=
  List.perm_insertionSort _ _

theorem ordered_sorted : (ordered values).Pairwise fun item other => item.1 ≤ other.1 := by
  have sorted := List.pairwise_insertionSort
    (KeyOrder fun item : α × Nat => toLex item) values.zipIdx
  refine sorted.imp ?_
  intro item other order
  rcases Prod.Lex.toLex_le_toLex.mp order with less | ⟨same, _⟩
  · exact less.le
  · exact same.le

theorem ordered_positions : ((ordered values).map Prod.snd).Perm (List.range values.length) := by
  have listed := (ordered_perm values).map Prod.snd
  rw [List.zipIdx_map_snd, ← List.range_eq_range'] at listed
  exact listed

theorem ordered_values : ((ordered values).map Prod.fst).Perm values := by
  have listed := (ordered_perm values).map Prod.fst
  rw [List.zipIdx_map_fst] at listed
  exact listed

theorem rank_eq_map : rank values = values.map (fractionalRank values) := by
  have distinct : ((ordered values).map Prod.snd).Nodup :=
    (ordered_positions values).nodup_iff.mpr List.nodup_range
  have places : forall item, item ∈ ordered values ->
      item.2 < (List.replicate values.length (0 : Rat)).length := by
    intro item member
    rw [List.length_replicate]
    exact List.mem_range.mp ((ordered_positions values).subset (List.mem_map_of_mem member))
  have start : Between (ordered values) 0 := fun item member => by cases member
  have empty : Ranked (ordered values) 0 (List.replicate values.length 0) :=
    fun item member => by cases member
  rcases rankFrom_ranked (ordered_sorted values) distinct places start empty with ⟨length, all⟩
  rw [List.length_replicate] at length
  apply List.ext_getElem?
  intro place
  rw [List.getElem?_map]
  cases found : values[place]? with
  | none =>
      have beyond := List.getElem?_eq_none_iff.mp found
      exact List.getElem?_eq_none_iff.mpr (length.trans_le beyond)
  | some value =>
      have member : (value, place) ∈ ordered values :=
        (ordered_perm values).mem_iff.mpr (List.mk_mem_zipIdx_iff_getElem?.mpr found)
      rw [rank, all (value, place) member, fractionalRank_perm (ordered_values values)]
      rfl

/-- Every element gets its fractional rank at its own position, so the ranks have the total of
the places and equal values share a rank. -/
theorem rank_fractional :
    rank values = values.map (fractionalRank values) ∧
      (rank values).sum = (values.length : Rat) * (values.length + 1) / 2 ∧
      forall first second : Nat, values[first]? = values[second]? ->
        (rank values)[first]? = (rank values)[second]? := by
  have ranks := rank_eq_map values
  refine ⟨ranks, ?_, ?_⟩
  · rw [ranks]
    exact sum_fractionalRank values
  · intro first second same
    rw [ranks, List.getElem?_map, List.getElem?_map, same]

end Values

end ResearchIntelligence
end MarketIntelligence
