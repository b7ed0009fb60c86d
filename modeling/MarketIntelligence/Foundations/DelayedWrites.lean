import Mathlib.Data.List.Basic
import Mathlib.Data.List.MinMax
import Mathlib.Data.List.Nodup

namespace MarketIntelligence
namespace Foundations
namespace DelayedWrites

/-!
# Writes that are applied later than they are issued

A plan lists items in the order they were issued.  Each is applied in a slot of
its own choosing, slot after slot, and the items of one slot are applied in the
order of the plan.  A key then holds what the last applied item wrote to it.

That item is the newest one exactly when nothing overtakes: of two items that
write one key, the one issued first is not applied in a later slot.  If a key is
also read between two items of a slot, no slot may be shared.
-/

universe u v

/-- When an item was issued, in which slot it is applied, and what it writes. -/
structure Timing (ι : Type u) (κ : Type v) where
  issued : ι -> Nat
  applied : ι -> Nat
  writes : ι -> κ -> Bool

namespace Timing

variable {ι : Type u} {κ : Type v} (timing : Timing ι κ)

def dueAt (plan : List ι) (slot : Nat) : List ι :=
  plan.filter fun item => timing.applied item = slot

/-- The items of the earlier slots, in the order they are applied.  The last of them about a key
is what the key holds. -/
def before (plan : List ι) : Nat -> List ι
  | 0 => []
  | slot + 1 => before plan slot ++ timing.dueAt plan slot

/-- The items whose slot has come. -/
def arrived (plan : List ι) (slot : Nat) : List ι :=
  plan.filter fun item => timing.applied item ≤ slot

def lastWriter (items : List ι) (key : κ) : Option ι :=
  items.reverse.find? fun item => timing.writes item key

/-- The item issued last among those that write the key. -/
structure Newest (items : List ι) (key : κ) (item : ι) : Prop where
  member : item ∈ items
  writer : timing.writes item key = true
  newest : forall other, other ∈ items -> timing.writes other key = true ->
    timing.issued other ≤ timing.issued item

/-- Of two items that write one key, the one issued first is not applied later. -/
def NoOvertaking (plan : List ι) : Prop :=
  forall first, first ∈ plan -> forall second, second ∈ plan ->
    timing.issued first < timing.issued second ->
      forall key, timing.writes first key = true -> timing.writes second key = true ->
        timing.applied first ≤ timing.applied second

/-- No two items are applied in one slot. -/
def SeparateSlots (plan : List ι) : Prop :=
  forall first, first ∈ plan -> forall second, second ∈ plan ->
    timing.issued first < timing.issued second -> timing.applied first ≠ timing.applied second

/-- The earlier slots and a first part of this one have been applied. -/
structure Stage (plan : List ι) (slot : Nat) (started executed : List ι) : Prop where
  due : started <+: timing.dueAt plan slot
  executed : executed = timing.before plan slot ++ started

/-- Every key holds what the newest item whose slot has come wrote to it. -/
def ReadsNewest (plan : List ι) (slot : Nat) (executed : List ι) : Prop :=
  forall key item, timing.Newest (timing.arrived plan slot) key item ->
    timing.lastWriter executed key = some item

variable {timing}

/-! ## The applied items -/

section Applied

variable {plan started executed items : List ι} {slot : Nat} {item : ι} {key : κ}

theorem mem_dueAt : item ∈ timing.dueAt plan slot <-> item ∈ plan ∧ timing.applied item = slot := by
  simp only [dueAt, List.mem_filter, decide_eq_true_eq]

theorem mem_before :
    item ∈ timing.before plan slot <-> item ∈ plan ∧ timing.applied item < slot := by
  induction slot with
  | zero => simp [before]
  | succ slot ih =>
      rw [before, List.mem_append, ih, mem_dueAt, ← and_or_left]
      refine and_congr_right fun _ => ?_
      omega

theorem mem_arrived :
    item ∈ timing.arrived plan slot <-> item ∈ plan ∧ timing.applied item ≤ slot := by
  simp only [arrived, List.mem_filter, decide_eq_true_eq]

/-- The order in which items are applied. -/
def AppliedFirst (timing : Timing ι κ) (first second : ι) : Prop :=
  timing.applied first < timing.applied second ∨
    (timing.applied first = timing.applied second ∧ timing.issued first < timing.issued second)

theorem pairwise_dueAt
    (plan_issued : plan.Pairwise fun first second => timing.issued first < timing.issued second) :
    (timing.dueAt plan slot).Pairwise timing.AppliedFirst := by
  refine List.Pairwise.imp_of_mem ?_ (plan_issued.filter _)
  intro first second inFirst inSecond order
  exact Or.inr ⟨(mem_dueAt.mp inFirst).2.trans (mem_dueAt.mp inSecond).2.symm, order⟩

theorem pairwise_before
    (plan_issued : plan.Pairwise fun first second => timing.issued first < timing.issued second) :
    (timing.before plan slot).Pairwise timing.AppliedFirst := by
  induction slot with
  | zero => exact List.Pairwise.nil
  | succ slot ih =>
      refine List.pairwise_append.mpr ⟨ih, pairwise_dueAt plan_issued, ?_⟩
      intro first inFirst second inSecond
      have earlier := (mem_before.mp inFirst).2
      rw [← (mem_dueAt.mp inSecond).2] at earlier
      exact Or.inl earlier

theorem Stage.mem (stage : timing.Stage plan slot started executed) (member : item ∈ executed) :
    item ∈ plan ∧ timing.applied item ≤ slot := by
  rw [stage.executed] at member
  rcases List.mem_append.mp member with earlier | here
  · exact ⟨(mem_before.mp earlier).1, le_of_lt (mem_before.mp earlier).2⟩
  · have due := mem_dueAt.mp (stage.due.subset here)
    exact ⟨due.1, le_of_eq due.2⟩

theorem Stage.pairwise (stage : timing.Stage plan slot started executed)
    (plan_issued : plan.Pairwise fun first second => timing.issued first < timing.issued second) :
    executed.Pairwise timing.AppliedFirst := by
  rw [stage.executed]
  refine List.pairwise_append.mpr
    ⟨pairwise_before plan_issued, (pairwise_dueAt plan_issued).sublist stage.due.sublist, ?_⟩
  intro first inFirst second inSecond
  have earlier := (mem_before.mp inFirst).2
  rw [← (mem_dueAt.mp (stage.due.subset inSecond)).2] at earlier
  exact Or.inl earlier

end Applied

/-! ## The last writer and the newest one -/

section Writers

variable {items : List ι} {item other : ι} {key : κ}

/-- Every other writer stands before the last one. -/
theorem lastWriter_some {order : ι -> ι -> Prop} (sorted : items.Pairwise order)
    (found : timing.lastWriter items key = some item) :
    item ∈ items ∧ timing.writes item key = true ∧
      forall other, other ∈ items -> timing.writes other key = true ->
        other = item ∨ order other item := by
  rcases List.find?_eq_some_iff_append.mp found with ⟨writer, later, earlier, split, silent⟩
  have ordered : (earlier.reverse ++ item :: later.reverse).Pairwise order := by
    have same : items = earlier.reverse ++ item :: later.reverse := by
      rw [← List.reverse_reverse items, split]
      simp
    rwa [same] at sorted
  refine ⟨List.mem_reverse.mp (split ▸ List.mem_append_right _ List.mem_cons_self), writer, ?_⟩
  intro other member writes
  rw [← List.mem_reverse, split] at member
  rcases List.mem_append.mp member with after | here
  · have contradiction := silent other after
    rw [writes] at contradiction
    cases contradiction
  · rcases List.mem_cons.mp here with same | before
    · exact Or.inl same
    · exact Or.inr ((List.pairwise_append.mp ordered).2.2 other (List.mem_reverse.mpr before) item
        List.mem_cons_self)

theorem lastWriter_of_writer (member : item ∈ items) (writer : timing.writes item key = true) :
    exists last, timing.lastWriter items key = some last :=
  Option.isSome_iff_exists.mp
    (List.find?_isSome.mpr ⟨item, List.mem_reverse.mpr member, writer⟩)

theorem exists_newest (member : item ∈ items) (writer : timing.writes item key = true) :
    exists newest, timing.Newest items key newest ∧ timing.issued item ≤ timing.issued newest := by
  have writers : item ∈ items.filter fun other => timing.writes other key :=
    List.mem_filter.mpr ⟨member, writer⟩
  cases chosen : List.argmax timing.issued (items.filter fun other => timing.writes other key) with
  | none =>
      rw [List.argmax_eq_none.mp chosen] at writers
      cases writers
  | some newest =>
      have found := List.mem_filter.mp (List.argmax_mem chosen)
      refine ⟨newest, { member := found.1, writer := found.2, newest := ?_ },
        List.le_of_mem_argmax writers chosen⟩
      intro other inItems writes
      exact List.le_of_mem_argmax (List.mem_filter.mpr ⟨inItems, writes⟩) chosen

theorem lastWriter_concat (writer : timing.writes item key = true) :
    timing.lastWriter (items ++ [item]) key = some item := by
  unfold lastWriter
  rw [List.reverse_append, List.reverse_singleton, List.singleton_append]
  exact List.find?_cons_of_pos writer

end Writers

/-! ## Reading the newest write -/

section Reading

variable {plan started executed : List ι} {slot : Nat}

theorem eq_of_issued_eq
    (plan_issued : plan.Pairwise fun first second => timing.issued first < timing.issued second)
    {first second : ι} (inFirst : first ∈ plan) (inSecond : second ∈ plan)
    (same : timing.issued first = timing.issued second) : first = second := by
  have distinct : (plan.map timing.issued).Nodup :=
    List.pairwise_map.mpr (plan_issued.imp ne_of_lt)
  exact List.inj_on_of_nodup_map distinct inFirst inSecond same

/-- Without overtaking, the last writer of a stage is the newest one applied. -/
theorem Stage.newest (stage : timing.Stage plan slot started executed)
    (plan_issued : plan.Pairwise fun first second => timing.issued first < timing.issued second)
    (ordered : timing.NoOvertaking plan) {key : κ} {item : ι}
    (newest : timing.Newest executed key item) : timing.lastWriter executed key = some item := by
  rcases lastWriter_of_writer newest.member newest.writer with ⟨last, found⟩
  rcases lastWriter_some (stage.pairwise plan_issued) found with ⟨member, writer, before⟩
  have inLast := (stage.mem member).1
  have inItem := (stage.mem newest.member).1
  rcases before item newest.member newest.writer with same | first
  · rw [same]
    exact found
  · rcases lt_or_eq_of_le (newest.newest last member writer) with older | same
    · -- The last writer is older and not earlier, so both share a slot out of order.
      have overtaken := ordered last inLast item inItem older key writer newest.writer
      rcases first with earlier | ⟨_, issued⟩ <;> omega
    · rw [← eq_of_issued_eq plan_issued inLast inItem same]
      exact found

/-- With separate slots, a stage that has begun has applied everything that arrived. -/
theorem Stage.arrived (stage : timing.Stage plan slot started executed)
    (plan_issued : plan.Pairwise fun first second => timing.issued first < timing.issued second)
    (separate : timing.SeparateSlots plan)
    (begun : started ≠ [] ∨ timing.dueAt plan slot = []) {item : ι}
    (member : item ∈ timing.arrived plan slot) : item ∈ executed := by
  rcases mem_arrived.mp member with ⟨inPlan, come⟩
  rw [stage.executed]
  rcases lt_or_eq_of_le come with earlier | here
  · exact List.mem_append_left _ (mem_before.mpr ⟨inPlan, earlier⟩)
  · have due : item ∈ timing.dueAt plan slot := mem_dueAt.mpr ⟨inPlan, here⟩
    rcases begun with some | none
    · cases first : started with
      | nil => exact absurd first some
      | cons head tail =>
          have inStarted : head ∈ started := first ▸ List.mem_cons_self
          have headDue := mem_dueAt.mp (stage.due.subset inStarted)
          have same : timing.issued head = timing.issued item := by
            rcases lt_trichotomy (timing.issued head) (timing.issued item) with less | equal | more
            · exact absurd (headDue.2.trans here.symm) (separate head headDue.1 item inPlan less)
            · exact equal
            · exact absurd (here.trans headDue.2.symm) (separate item inPlan head headDue.1 more)
          rw [← eq_of_issued_eq plan_issued headDue.1 inPlan same]
          exact List.mem_append_right _ List.mem_cons_self
    · rw [none] at due
      cases due

theorem Stage.readsNewest (stage : timing.Stage plan slot started executed)
    (plan_issued : plan.Pairwise fun first second => timing.issued first < timing.issued second)
    (ordered : timing.NoOvertaking plan) (separate : timing.SeparateSlots plan)
    (begun : started ≠ [] ∨ timing.dueAt plan slot = []) :
    timing.ReadsNewest plan slot executed := by
  intro key item newest
  refine stage.newest plan_issued ordered
    { member := stage.arrived plan_issued separate begun newest.member
      writer := newest.writer, newest := ?_ }
  intro other member writer
  exact newest.newest other (mem_arrived.mpr (stage.mem member)) writer

/-- Where an item was overtaken, it is the last writer and not the newest. -/
theorem noOvertaking_of_reads
    (reads : forall item, item ∈ plan -> exists started executed,
      timing.Stage plan (timing.applied item) (started ++ [item]) executed ∧
        timing.ReadsNewest plan (timing.applied item) executed) :
    timing.NoOvertaking plan := by
  intro first inFirst second inSecond older key firstWrites secondWrites
  by_contra later
  have passed : timing.applied second ≤ timing.applied first := le_of_lt (not_le.mp later)
  rcases reads first inFirst with ⟨started, executed, stage, reading⟩
  rcases exists_newest (mem_arrived.mpr ⟨inSecond, passed⟩) secondWrites with
    ⟨newest, isNewest, issued⟩
  have found := reading key newest isNewest
  rw [stage.executed, ← List.append_assoc, lastWriter_concat firstWrites] at found
  cases found
  omega

/-- Where two items share a slot, what the second one writes is missing after the
first one. -/
theorem separateSlots_of_reads
    (plan_issued : plan.Pairwise fun first second => timing.issued first < timing.issued second)
    (reads : forall item, item ∈ plan -> exists started executed,
      timing.Stage plan (timing.applied item) (started ++ [item]) executed ∧
        timing.ReadsNewest plan (timing.applied item) executed)
    (writing : forall item, item ∈ plan -> exists key, timing.writes item key = true) :
    timing.SeparateSlots plan := by
  intro first inFirst second inSecond older together
  have ordered := noOvertaking_of_reads reads
  rcases writing second inSecond with ⟨key, secondWrites⟩
  rcases reads first inFirst with ⟨started, executed, stage, reading⟩
  rcases exists_newest (mem_arrived.mpr ⟨inSecond, le_of_eq together.symm⟩) secondWrites with
    ⟨newest, isNewest, issued⟩
  have found := reading key newest isNewest
  have sorted := stage.pairwise plan_issued
  have applied := lastWriter_some sorted found
  have inNewest := stage.mem applied.1
  rcases lt_or_eq_of_le inNewest.2 with earlier | here
  · rcases lt_or_eq_of_le issued with overtakes | same
    · have contradiction := ordered second inSecond newest inNewest.1 overtakes key secondWrites
        isNewest.writer
      omega
    · have equal := eq_of_issued_eq plan_issued inSecond inNewest.1 same
      rw [← equal] at earlier
      omega
  · -- The newest item is applied in this slot and no later than the first one.
    rw [stage.executed, ← List.append_assoc] at sorted applied
    rcases List.mem_append.mp applied.1 with before | last
    · rcases (List.pairwise_append.mp sorted).2.2 newest before first List.mem_cons_self with
        earlier | ⟨_, order⟩ <;> omega
    · rw [List.mem_singleton.mp last] at issued
      omega

end Reading

end Timing

end DelayedWrites
end Foundations
end MarketIntelligence
