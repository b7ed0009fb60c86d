import Mathlib.Data.List.Induction

namespace MarketIntelligence
namespace Foundations
namespace Sessions

/-!
# Objects of a session

A session holds an object for each row.  The object has what the database holds of the row,
which is what a query sees, and the values the session has given it since.  A flush writes
these values.

Entries that are stamped on rows one after the other leave each row with the stamp of the last
entry that targets it.  If stamps replace one another, then stamping such a row with all the
entries again changes nothing.
-/

universe u v w

variable {α : Type u} {β : Type v}

/-- What the database holds of a row, if it was flushed, and what the session holds. -/
structure Tracked (α : Type u) where
  stored : Option α
  current : α
  deriving DecidableEq

def load (rows : List α) : List (Tracked α) :=
  rows.map fun row => ⟨some row, row⟩

def rows (objects : List (Tracked α)) : List α :=
  objects.map Tracked.current

def add (row : α) (objects : List (Tracked α)) : List (Tracked α) :=
  objects ++ [⟨none, row⟩]

/-- The first object whose stored row is selected. -/
def select (selected : α -> Bool) (objects : List (Tracked α)) : Option α :=
  (objects.find? fun object => object.stored.any selected).map Tracked.current

section Updates

variable {κ : Type w} [DecidableEq κ]

def update (key : α -> κ) (wanted : κ) (change : α -> α) (objects : List (Tracked α)) :
    List (Tracked α) :=
  objects.map fun object =>
    if key object.current = wanted then ⟨object.stored, change object.current⟩ else object

theorem rows_update (key : α -> κ) (wanted : κ) (change : α -> α) (objects : List (Tracked α)) :
    rows (update key wanted change objects) =
      (rows objects).map fun row => if key row = wanted then change row else row := by
  rw [rows, rows, update, List.map_map, List.map_map]
  apply List.map_congr_left
  intro object _
  by_cases same : key object.current = wanted
  · simp only [Function.comp_apply, if_pos same]
  · simp only [Function.comp_apply, if_neg same]

end Updates

@[simp]
theorem rows_load (kept : List α) : rows (load kept) = kept := by
  rw [rows, load, List.map_map]
  exact List.map_id kept

@[simp]
theorem rows_add (row : α) (objects : List (Tracked α)) :
    rows (add row objects) = rows objects ++ [row] :=
  List.map_append

/-- A query of what every object has stored as it is now finds what it would find in the rows. -/
def Synced (view : α -> β) (objects : List (Tracked α)) : Prop :=
  forall object, object ∈ objects -> object.stored.map view = some (view object.current)

theorem synced_load (view : α -> β) (kept : List α) : Synced view (load kept) := by
  intro object member
  rcases List.mem_map.mp member with ⟨row, _, same⟩
  subst same
  rfl

theorem Synced.update {κ : Type w} [DecidableEq κ] {view : α -> β} {objects : List (Tracked α)}
    (synced : Synced view objects) (key : α -> κ) (wanted : κ) {change : α -> α}
    (keeps : forall row, row ∈ rows objects -> key row = wanted -> view (change row) = view row) :
    Synced view (update key wanted change objects) := by
  intro object member
  rcases List.mem_map.mp member with ⟨before, listed, same⟩
  subst same
  by_cases targeted : key before.current = wanted
  · rw [if_pos targeted]
    have same := keeps before.current (List.mem_map_of_mem listed) targeted
    exact (synced before listed).trans (congrArg some same.symm)
  · rw [if_neg targeted]
    exact synced before listed

theorem Synced.select {view : α -> β} {objects : List (Tracked α)} (synced : Synced view objects)
    (test : β -> Bool) :
    select (fun row => test (view row)) objects =
      (rows objects).find? fun row => test (view row) := by
  induction objects with
  | nil => rfl
  | cons object rest ih =>
      have here := synced object List.mem_cons_self
      have later := ih fun other member =>
        synced other (List.mem_cons_of_mem _ member)
      have same : object.stored.any (fun row => test (view row)) =
          test (view object.current) := by
        cases held : object.stored with
        | none =>
            rw [held] at here
            cases here
        | some row =>
            rw [held] at here
            exact congrArg test (Option.some.inj here)
      simp only [Sessions.select, rows, List.map_cons, List.find?_cons, same] at later ⊢
      cases test (view object.current) with
      | true => rfl
      | false => exact later

/-- The objects of rows that were loaded and not flushed since. -/
structure Unflushed (kept : List α) (view : α -> β) (objects : List (Tracked α)) : Prop where
  stored : objects.map Tracked.stored = kept.map some
  synced : Synced view objects

theorem unflushed_load (view : α -> β) (kept : List α) : Unflushed kept view (load kept) := by
  refine ⟨?_, synced_load view kept⟩
  rw [load, List.map_map]
  rfl

theorem Unflushed.update {κ : Type w} [DecidableEq κ] {kept : List α} {view : α -> β}
    {objects : List (Tracked α)} (unflushed : Unflushed kept view objects) (key : α -> κ)
    (wanted : κ) {change : α -> α} (keeps : forall row, view (change row) = view row) :
    Unflushed kept view (update key wanted change objects) := by
  refine ⟨?_, unflushed.synced.update key wanted fun row _ _ => keeps row⟩
  rw [← unflushed.stored, Sessions.update, List.map_map]
  apply List.map_congr_left
  intro object _
  by_cases same : key object.current = wanted
  · rw [Function.comp_apply, if_pos same]
  · rw [Function.comp_apply, if_neg same]

/-- In view, the rows are those that were loaded. -/
theorem Unflushed.rows_view {kept : List α} {view : α -> β} {objects : List (Tracked α)}
    (unflushed : Unflushed kept view objects) : (rows objects).map view = kept.map view := by
  have seen : objects.map (fun object => object.stored.map view) =
      (kept.map view).map some := by
    have composed : objects.map (fun object => object.stored.map view) =
        (objects.map Tracked.stored).map (Option.map view) := by
      rw [List.map_map]
      rfl
    rw [composed, unflushed.stored, List.map_map, List.map_map]
    rfl
  have current : objects.map (fun object => object.stored.map view) =
      ((rows objects).map view).map some := by
    rw [rows, List.map_map, List.map_map]
    exact List.map_congr_left unflushed.synced
  exact (List.map_inj_right fun _ _ same => Option.some.inj same).mp (current.symm.trans seen)

theorem Synced.select_some {view : α -> β} {objects : List (Tracked α)} (synced : Synced view objects)
    {test : β -> Bool} {row : α} (member : row ∈ rows objects) (holds : test (view row) = true) :
    exists found, Sessions.select (fun row => test (view row)) objects = some found ∧
      test (view found) = true := by
  rw [synced.select]
  cases selected : (rows objects).find? fun row => test (view row) with
  | none => exact absurd holds (List.find?_eq_none.mp selected row member)
  | some found =>
      have there := List.find?_some selected
      exact ⟨found, rfl, there⟩

/-- What is stored of an object, if anything is, looks like what the session holds. -/
def Held (view : α -> β) (objects : List (Tracked α)) : Prop :=
  forall object, object ∈ objects -> forall row, object.stored = some row ->
    view row = view object.current

theorem Synced.held {view : α -> β} {objects : List (Tracked α)} (synced : Synced view objects) :
    Held view objects := by
  intro object member row stored
  have same := synced object member
  rw [stored] at same
  exact Option.some.inj same

theorem Held.add {view : α -> β} {objects : List (Tracked α)} (held : Held view objects)
    (row : α) : Held view (add row objects) := by
  intro object member stored same
  rcases List.mem_append.mp member with old | new
  · exact held object old stored same
  · rw [List.mem_singleton.mp new] at same
    cases same

theorem Held.update {κ : Type w} [DecidableEq κ] {view : α -> β} {objects : List (Tracked α)}
    (held : Held view objects) (key : α -> κ) (wanted : κ) {change : α -> α}
    (keeps : forall row, view (change row) = view row) :
    Held view (update key wanted change objects) := by
  intro object member row stored
  rcases List.mem_map.mp member with ⟨before, listed, same⟩
  subst same
  by_cases targeted : key before.current = wanted
  · rw [if_pos targeted] at stored ⊢
    exact (held before listed row stored).trans (keeps before.current).symm
  · rw [if_neg targeted] at stored ⊢
    exact held before listed row stored

theorem Held.select_some {view : α -> β} {objects : List (Tracked α)} (held : Held view objects)
    {test : β -> Bool} {found : α}
    (selected : select (fun row => test (view row)) objects = some found) :
    found ∈ rows objects ∧ test (view found) = true := by
  rcases Option.map_eq_some_iff.mp selected with ⟨object, first, same⟩
  have member := List.mem_of_find?_eq_some first
  have holds := List.find?_some first
  subst same
  refine ⟨List.mem_map_of_mem member, ?_⟩
  cases stored : object.stored with
  | none =>
      simp [stored] at holds
  | some row =>
      simp only [stored, Option.any_some] at holds
      rw [← held object member row stored]
      exact holds

/-! ## Stamps -/

theorem find?_congr_mem {first second : α -> Bool} {values : List α}
    (same : forall value, value ∈ values -> first value = second value) :
    values.find? first = values.find? second := by
  induction values with
  | nil => rfl
  | cons head tail ih =>
      rw [List.find?_cons, List.find?_cons, same head List.mem_cons_self,
        ih fun value member => same value (List.mem_cons_of_mem _ member)]

section Stamps

variable {ε : Type v} (targets : ε -> α -> Bool) (stamp : ε -> α -> α)

def stamped (row : α) (entry : ε) : α :=
  if targets entry row then stamp entry row else row

/-- The last entry that targets the row has left its stamp in view. -/
def Settled (view : α -> β) (entries : List ε) (row : α) : Prop :=
  forall entry, entries.reverse.find? (fun other => targets other row) = some entry ->
    view (stamp entry row) = view row

variable {targets stamp} {view : α -> β} {entries : List ε} {row : α}

/-- Where an entry targets the row of one key, its stamp is the update of that row. -/
theorem rows_update_stamped {κ : Type w} [DecidableEq κ] {key : α -> κ} {wanted : κ} {entry : ε}
    (targeted : forall row, targets entry row = true <-> key row = wanted)
    (objects : List (Tracked α)) :
    rows (update key wanted (stamp entry) objects) =
      (rows objects).map fun row => stamped targets stamp row entry := by
  rw [rows_update]
  apply List.map_congr_left
  intro row _
  rw [stamped]
  by_cases hit : key row = wanted
  · rw [if_pos hit, if_pos ((targeted row).mpr hit)]
  · rw [if_neg hit, if_neg (mt (targeted row).mp hit)]

theorem settled_of_untargeted (untargeted : forall entry, entry ∈ entries ->
    targets entry row = false) : Settled targets stamp view entries row := by
  intro entry found
  have listed := List.mem_reverse.mp (List.mem_of_find?_eq_some found)
  have targeted := List.find?_some found
  rw [untargeted entry listed] at targeted
  cases targeted

theorem settled_concat {last : ε} (targeted : targets last row = true) :
    Settled targets stamp view (entries ++ [last]) row <->
      view (stamp last row) = view row := by
  simp only [Settled, List.reverse_append, List.reverse_singleton, List.singleton_append,
    List.find?_cons, targeted, Option.some.injEq]
  exact ⟨fun settled => settled last rfl, fun done entry same => same ▸ done⟩

theorem settled_concat_other {last : ε} (untargeted : targets last row = false) :
    Settled targets stamp view (entries ++ [last]) row <->
      Settled targets stamp view entries row := by
  simp only [Settled, List.reverse_append, List.reverse_singleton, List.singleton_append,
    List.find?_cons, untargeted]

theorem Settled.congr {targets_ : ε -> α -> Bool} {stamp_ : ε -> α -> α}
    (settled : Settled targets stamp view entries row)
    (agrees : forall entry, entry ∈ entries ->
      targets_ entry row = targets entry row ∧ stamp_ entry row = stamp entry row) :
    Settled targets_ stamp_ view entries row := by
  intro entry found
  have listed := List.mem_reverse.mp (List.mem_of_find?_eq_some found)
  rw [(agrees entry listed).2]
  apply settled entry
  rw [← found]
  apply find?_congr_mem
  intro other member
  exact ((agrees other (List.mem_reverse.mp member)).1).symm

/-- A row that the next entry does not target stays settled. -/
theorem Settled.advance {targets_ : ε -> α -> Bool} {stamp_ : ε -> α -> α}
    (settled : Settled targets stamp view entries row)
    (agrees : forall entry, entry ∈ entries ->
      targets_ entry row = targets entry row ∧ stamp_ entry row = stamp entry row)
    {last : ε} (untargeted : targets_ last row = false) :
    Settled targets_ stamp_ view (entries ++ [last]) row :=
  (settled_concat_other untargeted).mpr (settled.congr agrees)

/-- A row that is targeted and stamped alike in view is settled as well. -/
theorem Settled.of_view {other : α} (settled : Settled targets stamp view entries row)
    (aims : forall entry, targets entry other = targets entry row) (keeps : view other = view row)
    (stamps : forall entry, view (stamp entry other) = view (stamp entry row)) :
    Settled targets stamp view entries other := by
  intro entry found
  rw [stamps, keeps]
  apply settled entry
  rw [← found]
  exact find?_congr_mem fun earlier _ => (aims earlier).symm

theorem targets_foldl_stamped
    (keeps : forall entry other row, targets entry (stamp other row) = targets entry row)
    (entry : ε) (entries : List ε) (row : α) :
    targets entry (entries.foldl (stamped targets stamp) row) = targets entry row := by
  induction entries generalizing row with
  | nil => rfl
  | cons head tail ih =>
      rw [List.foldl_cons, ih, stamped]
      by_cases targeted : targets head row = true
      · rw [if_pos targeted, keeps]
      · rw [if_neg targeted]

/-- The stamp of an entry replaces the stamps of the entries before it. -/
theorem stamp_foldl_stamped
    (keeps : forall entry other row, targets entry (stamp other row) = targets entry row)
    (replaces : forall entry other row, entry ∈ entries -> other ∈ entries ->
      targets entry row = true -> targets other row = true ->
        view (stamp entry (stamp other row)) = view (stamp entry row))
    {front : List ε} (among : forall entry, entry ∈ front -> entry ∈ entries) {entry : ε}
    (listed : entry ∈ entries) (targeted : targets entry row = true) :
    view (stamp entry (front.foldl (stamped targets stamp) row)) = view (stamp entry row) := by
  induction front generalizing row with
  | nil => rfl
  | cons head tail ih =>
      rw [List.foldl_cons]
      have further : forall other, other ∈ tail -> other ∈ entries := fun other member =>
        among other (List.mem_cons_of_mem _ member)
      by_cases there : targets head row = true
      · rw [stamped, if_pos there, ih further ((keeps entry head row).trans targeted)]
        exact replaces entry head row listed (among head List.mem_cons_self) targeted there
      · rw [stamped, if_neg there]
        exact ih further targeted

/-- Stamping a settled row with all the entries again changes nothing in view. -/
theorem foldl_stamped_settled
    (keeps : forall entry other row, targets entry (stamp other row) = targets entry row)
    (replaces : forall entry other row, entry ∈ entries -> other ∈ entries ->
      targets entry row = true -> targets other row = true ->
        view (stamp entry (stamp other row)) = view (stamp entry row))
    (settled : Settled targets stamp view entries row) :
    view (entries.foldl (stamped targets stamp) row) = view row := by
  have general : forall front : List ε, (forall entry, entry ∈ front -> entry ∈ entries) ->
      Settled targets stamp view front row ->
        view (front.foldl (stamped targets stamp) row) = view row := by
    intro front
    induction front using List.reverseRecOn with
    | nil => exact fun _ _ => rfl
    | append_singleton front last ih =>
        intro among settled
        rw [List.foldl_append, List.foldl_cons, List.foldl_nil, stamped]
        have further : forall entry, entry ∈ front -> entry ∈ entries := fun entry member =>
          among entry (List.mem_append_left _ member)
        have same := targets_foldl_stamped keeps last front row
        by_cases targeted : targets last row = true
        · rw [if_pos (same.trans targeted),
            stamp_foldl_stamped keeps replaces further
              (among last (List.mem_append_right _ List.mem_cons_self)) targeted]
          exact (settled_concat targeted).mp settled
        · rw [if_neg fun there => targeted (same.symm.trans there)]
          exact ih further
            ((settled_concat_other (Bool.eq_false_iff.mpr targeted)).mp settled)
  exact general entries (fun _ member => member) settled

/-- Rows that are stamped one entry after the other are stamped each on its own. -/
theorem foldl_map_stamped (entries : List ε) (rows : List α) :
    entries.foldl (fun rows entry => rows.map fun row => stamped targets stamp row entry) rows =
      rows.map fun row => entries.foldl (stamped targets stamp) row := by
  induction entries generalizing rows with
  | nil => exact (List.map_id rows).symm
  | cons head tail ih =>
      rw [List.foldl_cons, ih, List.map_map]
      rfl

/-- Entries that all leave the same stamp leave it where one of them targets the row. -/
theorem foldl_stamped_alike {change : α -> α}
    (once : forall row, change (change row) = change row) (entries : List ε) (row : α) :
    entries.foldl (stamped targets fun _ => change) row =
      if entries.any fun entry => targets entry row then change row else row := by
  have changed : forall entries : List ε, forall row,
      entries.foldl (stamped targets fun _ => change) (change row) = change row := by
    intro entries row
    induction entries with
    | nil => rfl
    | cons head tail ih =>
        rw [List.foldl_cons, stamped, once, ite_self]
        exact ih
  induction entries with
  | nil => rfl
  | cons head tail ih =>
      rw [List.foldl_cons, List.any_cons, stamped]
      cases targeted : targets head row with
      | true =>
          rw [if_pos rfl, Bool.true_or, if_pos rfl]
          exact changed tail row
      | false =>
          rw [if_neg Bool.false_ne_true, Bool.false_or]
          exact ih

end Stamps

end Sessions
end Foundations
end MarketIntelligence
