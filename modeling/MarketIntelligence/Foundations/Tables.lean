import Mathlib.Algebra.BigOperators.Group.List.Basic
import Mathlib.Data.List.Nodup
import Mathlib.Tactic.Abel

namespace MarketIntelligence
namespace Foundations
namespace Tables

/-!
# Tables with a key

A table is a list of rows, and a key reads the identity of a row.  Writing a row
replaces the one that has its key, or adds it at the end.  A lookup after a
write, and a total over the table after a write, are determined by what the
table held under that key.
-/

universe u v w

variable {α : Type u} {κ : Type v} [DecidableEq κ] (key : α -> κ)

def lookup (wanted : κ) (rows : List α) : Option α :=
  rows.find? fun row => key row = wanted

def put (row : α) : List α -> List α
  | [] => [row]
  | head :: tail => if key head = key row then row :: tail else head :: put row tail

/-- Pairs of texts are looked for in lists by one proof everywhere. -/
instance lawfulPairs : LawfulBEq (String × String) := inferInstance

section Lookup

variable {key}

theorem lookup_some {wanted : κ} {rows : List α} {row : α}
    (found : lookup key wanted rows = some row) : row ∈ rows ∧ key row = wanted :=
  ⟨List.mem_of_find?_eq_some found,
    of_decide_eq_true (List.find?_some (p := fun row => decide (key row = wanted)) found)⟩

theorem lookup_cons (wanted : κ) (head : α) (tail : List α) :
    lookup key wanted (head :: tail) =
      if key head = wanted then some head else lookup key wanted tail := by
  unfold lookup
  by_cases hit : key head = wanted
  · rw [if_pos hit]
    exact List.find?_cons_of_pos (decide_eq_true hit)
  · rw [if_neg hit]
    exact List.find?_cons_of_neg (by simpa using hit)

theorem lookup_put (row : α) (wanted : κ) (rows : List α) :
    lookup key wanted (put key row rows) =
      if key row = wanted then some row else lookup key wanted rows := by
  induction rows with
  | nil => exact lookup_cons wanted row []
  | cons head tail ih =>
      unfold put
      by_cases replaced : key head = key row
      · rw [if_pos replaced, lookup_cons, lookup_cons, replaced]
        split <;> rfl
      · rw [if_neg replaced, lookup_cons, lookup_cons, ih]
        by_cases hit : key head = wanted
        · have different : key row ≠ wanted := fun equal => replaced (hit.trans equal.symm)
          rw [if_pos hit, if_neg different, if_pos hit]
        · rw [if_neg hit, if_neg hit]

theorem lookup_map {change : α -> α} (keeps : forall row, key (change row) = key row) (wanted : κ)
    (rows : List α) :
    lookup key wanted (rows.map change) = (lookup key wanted rows).map change := by
  induction rows with
  | nil => rfl
  | cons head tail ih =>
      rw [List.map_cons, lookup_cons, lookup_cons, keeps head, ih]
      split <;> rfl

theorem lookup_filter {rows : List α} (distinct : (rows.map key).Nodup) (selected : α -> Bool)
    (wanted : κ) :
    lookup key wanted (rows.filter selected) = (lookup key wanted rows).filter selected := by
  induction rows with
  | nil => rfl
  | cons head tail ih =>
      rcases List.nodup_cons.mp distinct with ⟨fresh, others⟩
      rw [lookup_cons, List.filter_cons]
      by_cases hit : key head = wanted
      · have missing : lookup key wanted tail = none := by
          apply List.find?_eq_none.mpr
          intro row member same
          exact fresh (List.mem_map.mpr ⟨row, member, (of_decide_eq_true same).trans hit.symm⟩)
        rw [if_pos hit]
        by_cases chosen : selected head = true
        · rw [if_pos chosen, lookup_cons, if_pos hit, Option.filter_some_pos chosen]
        · rw [if_neg chosen, ih others, missing,
            Option.filter_some_neg (Bool.eq_false_iff.mpr chosen)]
          rfl
      · rw [if_neg hit, ← ih others]
        split
        · rw [lookup_cons, if_neg hit]
        · rfl

theorem mem_put_self (row : α) (rows : List α) : row ∈ put key row rows := by
  induction rows with
  | nil => exact List.mem_singleton.mpr rfl
  | cons head tail ih =>
      unfold put
      split
      · exact List.mem_cons_self
      · exact List.mem_cons_of_mem _ ih

theorem mem_put {row other : α} {rows : List α} (member : other ∈ put key row rows) :
    other = row ∨ other ∈ rows := by
  induction rows with
  | nil => exact Or.inl (List.mem_singleton.mp member)
  | cons head tail ih =>
      unfold put at member
      split at member
      · rcases List.mem_cons.mp member with first | later
        · exact Or.inl first
        · exact Or.inr (List.mem_cons_of_mem _ later)
      · rcases List.mem_cons.mp member with first | later
        · exact Or.inr (first ▸ List.mem_cons_self)
        · rcases ih later with new | old
          · exact Or.inl new
          · exact Or.inr (List.mem_cons_of_mem _ old)

theorem lookup_of_mem {rows : List α} {row : α} (distinct : (rows.map key).Nodup)
    (member : row ∈ rows) : lookup key (key row) rows = some row := by
  cases found : lookup key (key row) rows with
  | none =>
      have absent := List.find?_eq_none.mp found row member
      exact absurd (decide_eq_true rfl) absent
  | some other =>
      rcases lookup_some found with ⟨known, same⟩
      rw [List.inj_on_of_nodup_map distinct known member same]

/-- A row that is replaced leaves the keys as they are. -/
theorem map_put {row known : α} {rows : List α} (found : lookup key (key row) rows = some known) :
    (put key row rows).map key = rows.map key := by
  induction rows with
  | nil => cases found
  | cons head tail ih =>
      rw [lookup_cons] at found
      unfold put
      by_cases replaced : key head = key row
      · rw [if_pos replaced, List.map_cons, List.map_cons, replaced]
      · rw [if_neg replaced] at found ⊢
        rw [List.map_cons, List.map_cons, ih found]

/-- A write between rows that a filter drops does not show behind it. -/
theorem filter_put {row known : α} {rows : List α} {selected : α -> Bool}
    (found : lookup key (key row) rows = some known) (before : selected known = false)
    (after : selected row = false) : (put key row rows).filter selected = rows.filter selected := by
  induction rows with
  | nil => cases found
  | cons head tail ih =>
      rw [lookup_cons] at found
      unfold put
      by_cases replaced : key head = key row
      · rw [if_pos replaced] at found
        cases found
        rw [if_pos replaced, List.filter_cons_of_neg (by simp [after]),
          List.filter_cons_of_neg (by simp [before])]
      · rw [if_neg replaced] at found
        rw [if_neg replaced, List.filter_cons, List.filter_cons, ih found]

/-- A write under keys that a selection leaves out does not show in it. -/
theorem filter_put_unselected {row : α} {selected : α -> Bool}
    (unselected : forall other, key other = key row -> selected other = false) (rows : List α) :
    (put key row rows).filter selected = rows.filter selected := by
  have dropped : selected row = false := unselected row rfl
  induction rows with
  | nil => exact List.filter_cons_of_neg (by simp [dropped])
  | cons head tail ih =>
      unfold put
      by_cases replaced : key head = key row
      · rw [if_pos replaced, List.filter_cons_of_neg (by simp [dropped]),
          List.filter_cons_of_neg (by simp [unselected head replaced])]
      · rw [if_neg replaced, List.filter_cons, List.filter_cons, ih]

/-- A change of the rows that a selection leaves out does not show in it. -/
theorem filter_map_unselected {change : α -> α} {selected : α -> Bool}
    (kept : forall row, selected row = true -> change row = row)
    (dropped : forall row, selected row = false -> selected (change row) = false)
    (rows : List α) : (rows.map change).filter selected = rows.filter selected := by
  induction rows with
  | nil => rfl
  | cons head tail ih =>
      cases chosen : selected head with
      | true =>
          rw [List.map_cons, kept head chosen, List.filter_cons_of_pos chosen,
            List.filter_cons_of_pos chosen, ih]
      | false =>
          rw [List.map_cons, List.filter_cons_of_neg (by simp [dropped head chosen]),
            List.filter_cons_of_neg (by simp [chosen]), ih]

/-- A write adds the key of its row, and no other. -/
theorem mem_map_put {row : α} {rows : List α} {wanted : κ} :
    wanted ∈ (put key row rows).map key <-> wanted = key row ∨ wanted ∈ rows.map key := by
  induction rows with
  | nil => simp [put]
  | cons head tail ih =>
      unfold put
      by_cases replaced : key head = key row
      · simp [replaced]
      · rw [if_neg replaced, List.map_cons, List.mem_cons, ih, List.map_cons,
          List.mem_cons]
        exact or_left_comm

/-- A write makes the table longer where its key is new. -/
theorem length_put (row : α) (rows : List α) :
    (put key row rows).length =
      if (lookup key (key row) rows).isNone then rows.length + 1 else rows.length := by
  induction rows with
  | nil => rfl
  | cons head tail ih =>
      unfold put
      rw [lookup_cons]
      by_cases replaced : key head = key row
      · rw [if_pos replaced, if_pos replaced]
        rfl
      · rw [if_neg replaced, if_neg replaced, List.length_cons, ih]
        split <;> rfl

theorem lookup_isNone_iff {wanted : κ} {rows : List α} :
    (lookup key wanted rows).isNone = true <-> wanted ∉ rows.map key := by
  rw [Option.isNone_iff_eq_none, lookup, List.find?_eq_none, List.mem_map]
  constructor
  · rintro missing ⟨row, member, same⟩
    exact missing row member (decide_eq_true same)
  · intro missing row member same
    exact missing ⟨row, member, of_decide_eq_true same⟩

theorem nodup_put {row : α} {rows : List α} (distinct : (rows.map key).Nodup) :
    ((put key row rows).map key).Nodup := by
  induction rows with
  | nil => exact List.nodup_singleton _
  | cons head tail ih =>
      rcases List.nodup_cons.mp distinct with ⟨fresh, rest⟩
      unfold put
      split
      · rename_i replaced
        exact List.nodup_cons.mpr ⟨replaced ▸ fresh, rest⟩
      · rename_i kept
        refine List.nodup_cons.mpr ⟨fun listed => ?_, ih rest⟩
        rcases List.mem_map.mp listed with ⟨other, member, same⟩
        rcases mem_put member with new | old
        · exact kept (new ▸ same.symm)
        · exact fresh (List.mem_map.mpr ⟨other, old, same⟩)

omit [DecidableEq κ] in
/-- A row at the end keeps the keys apart exactly when its key is new. -/
theorem nodup_append_row {row : α} {rows : List α} :
    ((rows ++ [row]).map key).Nodup <-> key row ∉ rows.map key ∧ (rows.map key).Nodup := by
  rw [List.map_append, List.map_singleton, ← List.concat_eq_append, List.nodup_concat]

end Lookup

/-! ## A table after several writes -/

section Writes

variable {key} {β : Type w} {γ : Type w}

/-- A write leaves the rows of the other keys, and the row that was written. -/
theorem put_perm {row : α} {rows : List α} (distinct : (rows.map key).Nodup) :
    (put key row rows).Perm (rows.filter (fun other => key other ≠ key row) ++ [row]) := by
  induction rows with
  | nil => exact .refl _
  | cons head tail ih =>
      rcases List.nodup_cons.mp distinct with ⟨fresh, rest⟩
      unfold put
      by_cases replaced : key head = key row
      · have others : tail.filter (fun other => key other ≠ key row) = tail := by
          apply List.filter_eq_self.mpr
          intro other member
          apply decide_eq_true
          intro same
          exact fresh (List.mem_map.mpr ⟨other, member, same.trans replaced.symm⟩)
        rw [if_pos replaced, List.filter_cons_of_neg (by simpa using replaced), others]
        exact (List.perm_append_singleton row tail).symm
      · rw [if_neg replaced, List.filter_cons_of_pos (by simpa using replaced)]
        exact (ih rest).cons head

/-- After writes under different keys a lookup finds what was written, or what was there. -/
theorem lookup_foldl_put {written : List α} (apart : (written.map key).Nodup) (rows : List α)
    (wanted : κ) :
    lookup key wanted (written.foldl (fun rows row => put key row rows) rows) =
      (lookup key wanted written).or (lookup key wanted rows) := by
  induction written generalizing rows with
  | nil => rfl
  | cons row rest ih =>
      rcases List.nodup_cons.mp apart with ⟨fresh, others⟩
      rw [List.foldl_cons, ih others, lookup_put, lookup_cons]
      by_cases hit : key row = wanted
      · have missing : lookup key wanted rest = none := by
          rw [← Option.isNone_iff_eq_none, lookup_isNone_iff, ← hit]
          exact fresh
        rw [if_pos hit, if_pos hit, missing]
        rfl
      · rw [if_neg hit, if_neg hit]

theorem nodup_foldl_put (written : List α) {rows : List α} (distinct : (rows.map key).Nodup) :
    ((written.foldl (fun rows row => put key row rows) rows).map key).Nodup := by
  induction written generalizing rows with
  | nil => exact distinct
  | cons row rest ih => exact ih (nodup_put distinct)

/-- Writes under different keys leave the rows of the other keys, and a row for each write.
Only what a view shows of the written rows has to be known. -/
theorem foldl_put_perm {write : β -> List α -> α} {name : β -> κ} {view : α -> γ}
    {shown : β -> γ} (named : forall item rows, key (write item rows) = name item)
    (views : forall item rows, view (write item rows) = shown item) {items : List β}
    {rows : List α} {kept : α -> Bool}
    (untouched : forall row, kept row = true <-> key row ∉ items.map name)
    (distinct : (rows.map key).Nodup) (apart : (items.map name).Nodup) :
    ((items.foldl (fun rows item => put key (write item rows) rows) rows).map view).Perm
      ((rows.filter kept).map view ++ items.map shown) := by
  induction items generalizing rows kept with
  | nil =>
      have all : rows.filter kept = rows :=
        List.filter_eq_self.mpr fun row _ => (untouched row).mpr List.not_mem_nil
      rw [all, List.map_nil, List.append_nil]
      exact .refl _
  | cons item rest ih =>
      rcases List.nodup_cons.mp apart with ⟨fresh, others⟩
      let later : α -> Bool := fun row => key row ∉ rest.map name
      have latest : forall row, later row = true <-> key row ∉ rest.map name :=
        fun row => decide_eq_true_iff
      refine (ih latest (nodup_put distinct) others).trans ?_
      have written : ((put key (write item rows) rows).filter later).Perm
          (rows.filter kept ++ [write item rows]) := by
        refine ((put_perm distinct).filter _).trans ?_
        have last : [write item rows].filter later = [write item rows] := by
          apply List.filter_eq_self.mpr
          intro row member
          rw [List.mem_singleton.mp member, latest, named]
          exact fresh
        rw [List.filter_append, List.filter_filter, named, last]
        refine List.Perm.of_eq (congrArg (· ++ [write item rows]) ?_)
        apply List.filter_congr
        intro row _
        apply Bool.eq_iff_iff.mpr
        rw [Bool.and_eq_true, latest, decide_eq_true_eq, untouched, List.map_cons, List.mem_cons,
          not_or]
        exact and_comm
      refine ((written.map view).append_right _).trans (List.Perm.of_eq ?_)
      rw [List.map_append, List.map_singleton, views, List.append_assoc]
      rfl

end Writes

/-! ## The only row of its key -/

section Sole

variable {key}

/-- The row is in the table, and no other row has its key. -/
def Sole (key : α -> κ) (row : α) (rows : List α) : Prop :=
  rows.filter (fun other => key other = key row) = [row]

theorem filter_key_cons (wanted : κ) (head : α) (tail : List α) :
    (head :: tail).filter (fun other => key other = wanted) =
      if key head = wanted then head :: tail.filter (fun other => key other = wanted)
      else tail.filter fun other => key other = wanted := by
  rw [List.filter_cons]
  by_cases hit : key head = wanted
  · rw [if_pos hit, if_pos (decide_eq_true hit)]
  · rw [if_neg hit, if_neg (by simpa using hit)]

theorem filter_put_other {row : α} {wanted : κ} (different : key row ≠ wanted) (rows : List α) :
    (put key row rows).filter (fun other => key other = wanted) =
      rows.filter fun other => key other = wanted := by
  induction rows with
  | nil => exact (filter_key_cons wanted row []).trans (if_neg different)
  | cons head tail ih =>
      unfold put
      by_cases replaced : key head = key row
      · rw [if_pos replaced, filter_key_cons, filter_key_cons, replaced, if_neg different,
          if_neg different]
      · rw [if_neg replaced, filter_key_cons, filter_key_cons, ih]

theorem filter_put_same {row old : α} {rows : List α}
    (sole : rows.filter (fun other => key other = key row) = [old]) :
    (put key row rows).filter (fun other => key other = key row) = [row] := by
  induction rows with
  | nil => cases sole
  | cons head tail ih =>
      unfold put
      rw [filter_key_cons] at sole
      by_cases replaced : key head = key row
      · rw [if_pos replaced] at sole
        rw [if_pos replaced, filter_key_cons, if_pos rfl, (List.cons.inj sole).2]
      · rw [if_neg replaced] at sole
        rw [if_neg replaced, filter_key_cons, if_neg replaced, ih sole]

theorem Sole.lookup {row : α} {rows : List α} (sole : Sole key row rows) :
    lookup key (key row) rows = some row := by
  unfold Tables.lookup
  rw [← List.head?_filter, sole]
  rfl

theorem Sole.eq_of_mem {row other : α} {rows : List α} (sole : Sole key row rows)
    (member : other ∈ rows) (same : key other = key row) : other = row := by
  have kept : other ∈ rows.filter fun other => key other = key row :=
    List.mem_filter.mpr ⟨member, decide_eq_true same⟩
  rw [sole] at kept
  exact List.mem_singleton.mp kept

theorem sole_of_lookup {row : α} {rows : List α} (distinct : (rows.map key).Nodup)
    (found : Tables.lookup key (key row) rows = some row) : Sole key row rows := by
  unfold Sole
  induction rows with
  | nil => cases found
  | cons head tail ih =>
      rcases List.nodup_cons.mp distinct with ⟨fresh, rest⟩
      rw [lookup_cons] at found
      rw [filter_key_cons]
      by_cases hit : key head = key row
      · rw [if_pos hit] at found ⊢
        have others : tail.filter (fun other => key other = key row) = [] :=
          List.filter_eq_nil_iff.mpr fun other member same =>
            fresh (List.mem_map.mpr ⟨other, member, (of_decide_eq_true same).trans hit.symm⟩)
        rw [others, Option.some.inj found]
      · rw [if_neg hit] at found ⊢
        exact ih rest found

theorem Sole.put_same {row written : α} {rows : List α} (sole : Sole key row rows)
    (same : key written = key row) : Sole key written (put key written rows) := by
  have only : rows.filter (fun other => key other = key written) = [row] := by
    rw [same]
    exact sole
  exact filter_put_same only

theorem Sole.put_other {row written : α} {rows : List α} (sole : Sole key row rows)
    (different : key written ≠ key row) : Sole key row (put key written rows) :=
  (filter_put_other different rows).trans sole

theorem Sole.append {row : α} {rows added : List α} (sole : Sole key row rows)
    (different : forall other, other ∈ added -> key other ≠ key row) :
    Sole key row (rows ++ added) := by
  unfold Sole
  have none_ : added.filter (fun other => key other = key row) = [] :=
    List.filter_eq_nil_iff.mpr fun other member => by simpa using different other member
  rw [List.filter_append, sole, none_, List.append_nil]

end Sole

/-! ## The first row of each key -/

section Firsts

/-- The rows whose key is neither seen nor that of an earlier row. -/
def firsts (seen : List κ) : List α -> List α
  | [] => []
  | row :: rest =>
      if key row ∈ seen then firsts seen rest else row :: firsts (key row :: seen) rest

variable {key}

theorem firsts_cons (seen : List κ) (row : α) (rest : List α) :
    firsts key seen (row :: rest) =
      if key row ∈ seen then firsts key seen rest else row :: firsts key (key row :: seen) rest :=
  rfl

theorem firsts_congr {seen other : List κ} (same : forall wanted, wanted ∈ seen <-> wanted ∈ other)
    (rows : List α) : firsts key seen rows = firsts key other rows := by
  induction rows generalizing seen other with
  | nil => rfl
  | cons head tail ih =>
      have further : forall wanted, wanted ∈ key head :: seen <-> wanted ∈ key head :: other := by
        intro wanted
        rw [List.mem_cons, List.mem_cons, same wanted]
      rw [firsts_cons, firsts_cons, ih same, ih further]
      exact if_congr (same (key head)) rfl rfl

theorem mem_firsts_iff {seen : List κ} {rows : List α} {row : α} :
    row ∈ firsts key seen rows <->
      exists before after, rows = before ++ row :: after ∧ key row ∉ seen ∧
        forall earlier, earlier ∈ before -> key earlier ≠ key row := by
  induction rows generalizing seen with
  | nil => simp [firsts]
  | cons head tail ih =>
      rw [firsts_cons]
      by_cases known : key head ∈ seen
      · rw [if_pos known, ih]
        constructor
        · rintro ⟨before, after, split, new, first⟩
          refine ⟨head :: before, after, congrArg (head :: ·) split, new, ?_⟩
          intro earlier member same
          rcases List.mem_cons.mp member with here | later
          · exact new (same ▸ here ▸ known)
          · exact first earlier later same
        · rintro ⟨before, after, split, new, first⟩
          cases before with
          | nil =>
              cases split
              exact absurd known new
          | cons other before =>
              cases split
              exact ⟨before, after, rfl, new, fun earlier member =>
                first earlier (List.mem_cons_of_mem _ member)⟩
      · rw [if_neg known, List.mem_cons, ih]
        constructor
        · rintro (same | ⟨before, after, split, new, first⟩)
          · subst same
            exact ⟨[], tail, rfl, known, fun earlier impossible => by cases impossible⟩
          · rw [List.mem_cons, not_or] at new
            refine ⟨head :: before, after, congrArg (head :: ·) split, new.2, ?_⟩
            intro earlier member same
            rcases List.mem_cons.mp member with here | later
            · exact new.1 (same ▸ here ▸ rfl)
            · exact first earlier later same
        · rintro ⟨before, after, split, new, first⟩
          cases before with
          | nil =>
              cases split
              exact Or.inl rfl
          | cons other before =>
              cases split
              refine Or.inr ⟨before, after, rfl, ?_, fun earlier member =>
                first earlier (List.mem_cons_of_mem _ member)⟩
              rw [List.mem_cons, not_or]
              exact ⟨fun same => first head List.mem_cons_self same.symm, new⟩

/-- The rows of new keys are the first ones when no key comes twice. -/
theorem filter_eq_firsts {seen : List κ} {rows : List α} {selected : α -> Bool}
    (decides : forall row, selected row = true <-> key row ∉ seen)
    (distinct : ((rows.filter selected).map key).Nodup) :
    rows.filter selected = firsts key seen rows := by
  induction rows generalizing seen selected with
  | nil => rfl
  | cons head tail ih =>
      rw [firsts_cons]
      by_cases known : key head ∈ seen
      · have dropped : ¬ selected head = true := fun chosen => (decides head).mp chosen known
        rw [List.filter_cons_of_neg dropped] at distinct ⊢
        rw [if_pos known]
        exact ih decides distinct
      · rw [List.filter_cons_of_pos ((decides head).mpr known)] at distinct ⊢
        rw [if_neg known]
        rcases List.nodup_cons.mp distinct with ⟨fresh, rest⟩
        have same : tail.filter selected =
            tail.filter fun row => selected row && decide (key row ≠ key head) := by
          refine List.filter_congr fun row member => ?_
          cases chosen : selected row with
          | false => rfl
          | true =>
              have apart : key row ≠ key head := fun equal =>
                fresh (List.mem_map.mpr ⟨row, List.mem_filter.mpr ⟨member, chosen⟩, equal⟩)
              simp [apart]
        rw [same] at rest ⊢
        have further : forall row, (selected row && decide (key row ≠ key head)) = true <->
            key row ∉ key head :: seen := by
          intro row
          rw [Bool.and_eq_true, decides row, decide_eq_true_eq, List.mem_cons, not_or, and_comm]
        rw [ih further rest]

theorem firsts_cons_append (seen : List κ) (row : α) (rest : List α) :
    firsts key seen (row :: rest) =
      if key row ∈ seen then firsts key seen rest
      else row :: firsts key (seen ++ [key row]) rest := by
  have same : firsts key (key row :: seen) rest = firsts key (seen ++ [key row]) rest := by
    refine firsts_congr (fun wanted => ?_) rest
    rw [List.mem_cons, List.mem_append, List.mem_singleton, or_comm]
  rw [firsts_cons, same]

theorem firsts_append (seen : List κ) (rows more : List α) :
    firsts key seen (rows ++ more) =
      firsts key seen rows ++ firsts key (seen ++ (firsts key seen rows).map key) more := by
  induction rows generalizing seen with
  | nil => simp [firsts]
  | cons head tail ih =>
      rw [List.cons_append, firsts_cons, firsts_cons]
      by_cases known : key head ∈ seen
      · rw [if_pos known, if_pos known]
        exact ih seen
      · rw [if_neg known, if_neg known, ih, List.cons_append]
        refine congrArg (fun rest => head :: (_ ++ rest)) (firsts_congr ?_ more)
        intro wanted
        simp only [List.mem_append, List.mem_cons, List.map_cons]
        exact or_left_comm

/-- Every key is seen at the end. -/
theorem mem_firsts_or_seen (seen : List κ) {rows : List α} {row : α} (member : row ∈ rows) :
    key row ∈ seen ∨ key row ∈ (firsts key seen rows).map key := by
  induction rows generalizing seen with
  | nil => cases member
  | cons head tail ih =>
      rw [firsts_cons]
      rcases List.mem_cons.mp member with first | later
      · subst first
        by_cases known : key row ∈ seen
        · exact Or.inl known
        · rw [if_neg known, List.map_cons]
          exact Or.inr List.mem_cons_self
      · split
        · exact ih seen later
        · rw [List.map_cons, List.mem_cons]
          rcases ih (key head :: seen) later with known | new
          · rcases List.mem_cons.mp known with same | earlier
            · exact Or.inr (Or.inl same)
            · exact Or.inl earlier
          · exact Or.inr (Or.inr new)

theorem mem_of_mem_firsts {seen : List κ} {rows : List α} {row : α}
    (member : row ∈ firsts key seen rows) : row ∈ rows ∧ key row ∉ seen := by
  rcases mem_firsts_iff.mp member with ⟨before, after, split, new, _⟩
  exact ⟨split ▸ List.mem_append_right _ List.mem_cons_self, new⟩

/-- The first rows of a table that is made row by row. -/
theorem firsts_map {β : Type*} (make : β -> α) (seen : List κ) (rows : List β) :
    firsts key seen (rows.map make) =
      (firsts (fun row => key (make row)) seen rows).map make := by
  induction rows generalizing seen with
  | nil => rfl
  | cons head tail ih =>
      rw [List.map_cons, firsts_cons, firsts_cons, ih, ih]
      split <;> rfl

theorem firsts_eq_nil {seen : List κ} {rows : List α}
    (known : forall row, row ∈ rows -> key row ∈ seen) : firsts key seen rows = [] :=
  List.eq_nil_iff_forall_not_mem.mpr fun row member =>
    (mem_of_mem_firsts member).2 (known row (mem_of_mem_firsts member).1)

/-- A selection by the key meets the first rows of the keys that it selects. -/
theorem filter_firsts {selected : κ -> Bool} {seen other : List κ}
    (agree : forall wanted, selected wanted = true -> (wanted ∈ seen <-> wanted ∈ other))
    (rows : List α) :
    (firsts key seen rows).filter (fun row => selected (key row)) =
      firsts key other (rows.filter fun row => selected (key row)) := by
  induction rows generalizing seen other with
  | nil => rfl
  | cons head tail ih =>
      rw [firsts_cons]
      cases chosen : selected (key head) with
      | false =>
          rw [List.filter_cons_of_neg (by simp [chosen])]
          by_cases known : key head ∈ seen
          · rw [if_pos known]
            exact ih agree
          · rw [if_neg known, List.filter_cons_of_neg (by simp [chosen])]
            refine ih fun wanted own => ?_
            have different : wanted ≠ key head := fun same => by
              rw [same, chosen] at own
              cases own
            rw [List.mem_cons, or_iff_right different]
            exact agree wanted own
      | true =>
          have kept : forall rest : List α, (head :: rest).filter (fun row => selected (key row)) =
              head :: rest.filter fun row => selected (key row) :=
            fun rest => List.filter_cons_of_pos chosen
          rw [kept, firsts_cons]
          by_cases known : key head ∈ seen
          · rw [if_pos known, if_pos ((agree _ chosen).mp known)]
            exact ih agree
          · rw [if_neg known, if_neg fun member => known ((agree _ chosen).mpr member)]
            refine (kept _).trans (congrArg (head :: ·) ?_)
            refine ih fun wanted own => ?_
            rw [List.mem_cons, List.mem_cons, agree wanted own]

theorem firsts_nodup (seen : List κ) (rows : List α) :
    ((firsts key seen rows).map key).Nodup := by
  induction rows generalizing seen with
  | nil => exact List.nodup_nil
  | cons head tail ih =>
      rw [firsts_cons]
      split
      · exact ih seen
      · refine List.nodup_cons.mpr ⟨?_, ih _⟩
        intro member
        rcases List.mem_map.mp member with ⟨row, listed, same⟩
        rcases mem_firsts_iff.mp listed with ⟨_, _, _, new, _⟩
        exact new (same ▸ List.mem_cons_self)

end Firsts

/-- Tables whose rows are the same under each key, up to their order. -/
theorem perm_of_parts [DecidableEq α] {rows others : List α}
    (same : forall wanted, (rows.filter fun row => key row = wanted) =
      others.filter fun row => key row = wanted) : rows.Perm others := by
  rw [List.perm_iff_count]
  intro row
  have own : forall table : List α,
      (table.filter fun other => key other = key row).count row = table.count row := by
    intro table
    apply List.count_filter
    exact decide_eq_true rfl
  rw [← own rows, ← own others, same (key row)]

/-- Rows that agree under each key, up to their order. -/
theorem perm_map_of_keys {γ δ : Type*} {name : α -> δ} {view : α -> γ} {rows others : List α}
    (keys : (rows.map name).Perm (others.map name))
    (agree : forall row, row ∈ rows -> forall other, other ∈ others -> name row = name other ->
      view row = view other) : (rows.map view).Perm (others.map view) := by
  induction rows generalizing others with
  | nil =>
      have empty : others = [] := List.map_eq_nil_iff.mp keys.nil_eq.symm
      rw [empty]
  | cons row rest ih =>
      have listed : name row ∈ others.map name := keys.subset List.mem_cons_self
      rcases List.mem_map.mp listed with ⟨other, member, same⟩
      rcases List.append_of_mem member with ⟨before, after, split⟩
      subst split
      have moved : (before ++ other :: after).Perm (other :: (before ++ after)) := List.perm_middle
      have others_ : (rest.map name).Perm ((before ++ after).map name) := by
        have whole := keys.trans (moved.map name)
        rw [List.map_cons, List.map_cons, same] at whole
        exact whole.cons_inv
      have viewed := agree row List.mem_cons_self other member same.symm
      refine List.Perm.trans ?_ (moved.map view).symm
      rw [List.map_cons, List.map_cons, viewed]
      refine (ih others_ fun first firstMember second secondMember => ?_).cons _
      exact agree first (List.mem_cons_of_mem _ firstMember) second
        (moved.symm.subset (List.mem_cons_of_mem _ secondMember))

/-- A total after a write, against the total before it. -/
theorem sum_put {M : Type w} [AddCommMonoid M] (value : α -> M) (row : α) (rows : List α) :
    ((put key row rows).map value).sum + ((lookup key (key row) rows).map value).getD 0 =
      (rows.map value).sum + value row := by
  induction rows with
  | nil => simp [put, lookup]
  | cons head tail ih =>
      unfold put
      rw [lookup_cons]
      by_cases replaced : key head = key row
      · rw [if_pos replaced, if_pos replaced]
        simp only [List.map_cons, List.sum_cons, Option.map_some, Option.getD_some]
        abel
      · rw [if_neg replaced, if_neg replaced]
        simp only [List.map_cons, List.sum_cons]
        rw [add_assoc, ih, add_assoc]

end Tables
end Foundations
end MarketIntelligence
