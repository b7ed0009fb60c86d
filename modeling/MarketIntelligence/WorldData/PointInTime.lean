import MarketIntelligence.WorldData.Vintages
import MarketIntelligence.Foundations.Loops
import MarketIntelligence.Foundations.Runs

namespace MarketIntelligence
namespace WorldData

open Foundations
open Identity (HTTPException)

/-!
# Point-in-time answers

The calls of a run store what the source answers, each at its own instant.  A vintage that comes
again is skipped, so the table is shorter than the log of the rows received.  Still, what is read
as of an instant is what the log of the calls made by then tells: no later call shows in it, and
no earlier one is missing.

So the answers as of an instant are the same before and after the calls that come later.  There is
one answer unless the source has given a period two values of one revision, which the database may
list in either order.
-/

/-! ## Calls -/

/-- One answer of the source, for one series. -/
structure MacroCall where
  seriesId : Identifier
  payload : List FredRow
  vintage : Bool
  retrievedAt : Instant
  manifestId : Identifier
  deriving DecidableEq, Repr

/-- A row of a call that has succeeded.  The log of these is never stored; the answers at an
instant are held against it. -/
structure Received (Number : Type) where
  seriesId : Identifier
  manifestId : Identifier
  row : MacroRow Number
  deriving DecidableEq, Repr

structure MacroWorld (Number : Type) where
  table : MacroTable Number
  log : List (Received Number)
  deriving DecidableEq, Repr

section Definitions

variable {Number : Type}

def MacroCall.received (call : MacroCall) (row : MacroRow Number) : Received Number :=
  ⟨call.seriesId, call.manifestId, row⟩

def Received.key (received : Received Number) : VintageKey :=
  received.row.key received.seriesId

/-- The observation that is stored for a row that was received. -/
def Received.observation (readings : FredReadings Number) (received : Received Number) :
    MacroObservation Number :=
  received.row.observation received.seriesId received.manifestId (received.row.endOf readings)

/-- A call is parsed and ingested in one transaction. -/
def acquire (readings : FredReadings Number) (autoflush : Bool) (world : MacroWorld Number)
    (call : MacroCall) : MacroWorld Number :=
  match parseFredObservations readings call.payload call.retrievedAt call.vintage with
  | .error _ => world
  | .ok rows =>
      match ingestMacroRows readings autoflush world.table call.seriesId rows call.manifestId with
      | .error _ => world
      | .ok (table, _, _) => ⟨table, world.log ++ rows.map call.received⟩

def MacroWorld.empty : MacroWorld Number :=
  ⟨⟨[], List.nodup_nil⟩, []⟩

/-- The world after the calls, from an empty one. -/
def acquired (readings : FredReadings Number) (autoflush : Bool) (calls : List MacroCall) :
    MacroWorld Number :=
  calls.foldl (acquire readings autoflush) MacroWorld.empty

/-- The rows that were received for one period of a series. -/
def rowsOf (log : List (Received Number)) (seriesId : Identifier) (period : Instant) :
    List (MacroRow Number) :=
  (log.filter fun received => decide (received.seriesId = seriesId) &&
    decide (received.row.truth.observationTime = period)).map Received.row

/-- The items tell what the log tells as of the instant: one item for each period with a row
that was eligible, of the revision that `get_observation_as_of` selects. -/
structure PointInTime (readings : FredReadings Number) (query : List Identifier)
    (log : List (Received Number)) (seriesId : Identifier) (asOf : Instant) (items : List (ObservationItem Number)) : Prop where
  ordered : (items.map fun item => item.observationTime).Pairwise (· < ·)
  complete : forall period chosen, getObservationAsOf (rowsOf log seriesId period) asOf = some chosen ->
    exists item, item ∈ items ∧ item.observationTime = period
  selected : forall item, item ∈ items ->
    exists chosen, getObservationAsOf (rowsOf log seriesId item.observationTime) asOf = some chosen ∧
      item.revisionTime = chosen.truth.revisionTime
  sourced : forall item, item ∈ items ->
    exists received, received ∈ log ∧ received.row.truth.visibleAsOf asOf = true ∧
      item.toMacroColumns = received.row.columns seriesId (received.row.endOf readings) ∧
      item.manifestId =
        if received.manifestId ∈ query then some received.manifestId else none

/-- The source has given each period of the series one value of a revision, among the rows that
were eligible. -/
def SingleValued (log : List (Received Number)) (seriesId : Identifier) (asOf : Instant) : Prop :=
  forall first second, first ∈ log -> second ∈ log ->
    first.seriesId = seriesId -> second.seriesId = seriesId ->
    first.row.truth.visibleAsOf asOf = true -> second.row.truth.visibleAsOf asOf = true ->
    first.row.truth.observationTime = second.row.truth.observationTime ->
    first.row.truth.revisionTime = second.row.truth.revisionTime ->
    first.row.sourceValue = second.row.sourceValue

end Definitions

/-! ## What a call stores -/

section Storing

variable {Number : Type} {readings : FredReadings Number} {autoflush : Bool}
  {table : MacroTable Number} {seriesId manifestId : Identifier}

theorem parse_eligible {payload : List FredRow} {retrievedAt : Instant} {vintage : Bool}
    {rows : List (MacroRow Number)}
    (parsed : parseFredObservations readings payload retrievedAt vintage = .ok rows) :
    forall row, row ∈ rows -> row.truth.retrievalTime = retrievedAt ∧
      row.truth.simulationEligibleTime = max retrievedAt row.truth.revisionTime := by
  induction payload generalizing rows with
  | nil =>
      cases parsed
      intro row impossible
      cases impossible
  | cons head tail ih =>
      unfold parseFredObservations at parsed
      rw [List.mapM_cons] at parsed
      rcases Loops.except_bind_ok parsed with ⟨first, here, rest⟩
      rcases Loops.except_bind_ok rest with ⟨others, there, ends⟩
      cases ends
      intro row member
      rcases List.mem_cons.mp member with same | later
      · subst same
        unfold parseFredRow at here
        split at here
        · cases here
        split at here
        · cases here
        split at here
        · cases here
        · cases here
          refine ⟨rfl, ?_⟩
          -- a vintage is published with its revision, anything else when it is retrieved
          cases vintage with
          | true => exact max_eq_right (le_max_right _ _)
          | false => exact max_eq_right (le_max_left _ _)
      · exact ih there row later

theorem observation_vintage (row : MacroRow Number) (realtimeEnd : Option Instant) :
    (row.observation seriesId manifestId realtimeEnd).key = row.key seriesId := rfl

/-- A row is stored with the end that is read off it. -/
theorem endOf_ok {row : MacroRow Number} {realtimeEnd : Option Instant}
    (read : row.realtimeEndTime readings = .ok realtimeEnd) : row.endOf readings = realtimeEnd := by
  rw [MacroRow.endOf, read]
  rfl

/-- A pass of a session that flushes finds what the call has added. -/
theorem foldlM_flushing {rows : List (MacroRow Number)} {pass final : MacroPass Number}
    (done : rows.foldlM (ingestMacroRow readings true table seriesId manifestId) pass = .ok final) :
    final.pending = pass.pending ++
      (Tables.firsts (MacroRow.key seriesId)
        ((table.rows ++ pass.pending).map MacroObservation.key) rows).map
          (fun row => row.observation seriesId manifestId (row.endOf readings)) := by
  induction rows generalizing pass with
  | nil =>
      cases done
      exact (List.append_nil _).symm
  | cons head tail ih =>
      rw [List.foldlM_cons] at done
      rcases Loops.except_bind_ok done with ⟨next, here, rest⟩
      have pending := ih rest
      rw [Tables.firsts_cons]
      simp only [ingestMacroRow, if_true] at here
      by_cases known : head.key seriesId ∈ (table.rows ++ pass.pending).map MacroObservation.key
      · rw [if_pos known] at here ⊢
        cases here
        exact pending
      · rw [if_neg known] at here ⊢
        rcases Loops.except_bind_ok here with ⟨realtimeEnd, read, ends⟩
        cases ends
        rw [pending, List.append_assoc, List.singleton_append, List.map_cons, endOf_ok read]
        refine congrArg (fun rest => pass.pending ++ _ :: List.map _ rest)
          (Tables.firsts_congr ?_ tail)
        intro wanted
        simp only [List.map_append, List.map_cons, List.map_nil, List.mem_append, List.mem_cons,
          List.not_mem_nil, or_false, observation_vintage]
        tauto

/-- A pass of a session that does not flush finds what was stored before the call. -/
theorem foldlM_pending {rows : List (MacroRow Number)} {pass final : MacroPass Number}
    (done : rows.foldlM (ingestMacroRow readings false table seriesId manifestId) pass = .ok final) :
    final.pending = pass.pending ++
      (rows.filter fun row => row.key seriesId ∉ table.rows.map MacroObservation.key).map
        (fun row => row.observation seriesId manifestId (row.endOf readings)) := by
  induction rows generalizing pass with
  | nil =>
      cases done
      exact (List.append_nil _).symm
  | cons head tail ih =>
      rw [List.foldlM_cons] at done
      rcases Loops.except_bind_ok done with ⟨next, here, rest⟩
      have pending := ih rest
      simp only [ingestMacroRow, Bool.false_eq_true, if_false] at here
      by_cases known : head.key seriesId ∈ table.rows.map MacroObservation.key
      · rw [if_pos known] at here
        cases here
        rw [List.filter_cons_of_neg (by simpa using known)]
        exact pending
      · rw [if_neg known] at here
        rcases Loops.except_bind_ok here with ⟨realtimeEnd, read, ends⟩
        cases ends
        rw [List.filter_cons_of_pos (by simpa using known), pending, List.append_assoc,
          List.singleton_append, List.map_cons, endOf_ok read]

/-- A call that succeeds adds the first row of each vintage that is not stored. -/
theorem ingestMacroRows_ok {rows : List (MacroRow Number)} {next : MacroTable Number}
    {inserted skipped : Nat}
    (done : ingestMacroRows readings autoflush table seriesId rows manifestId =
      .ok (next, inserted, skipped)) :
    next.rows = table.rows ++
      (Tables.firsts (MacroRow.key seriesId) (table.rows.map MacroObservation.key) rows).map
        (fun row => row.observation seriesId manifestId (row.endOf readings)) := by
  rcases Loops.except_bind_ok done with ⟨final, passed, rest⟩
  rcases Loops.except_bind_ok rest with ⟨flushed, stored, ends⟩
  cases ends
  unfold MacroTable.flush at stored
  split at stored
  · rename_i unique
    cases stored
    cases autoflush with
    | true =>
        have pending := foldlM_flushing passed
        rw [List.append_nil, List.nil_append] at pending
        exact congrArg (table.rows ++ ·) pending
    | false =>
        have pending := foldlM_pending passed
        rw [List.nil_append] at pending
        -- the constraint refuses a vintage that comes twice in one call
        rw [pending, List.map_append, List.map_map] at unique
        have distinct : ((rows.filter fun row =>
            row.key seriesId ∉ table.rows.map MacroObservation.key).map
              (MacroRow.key seriesId)).Nodup := (List.nodup_append.mp unique).2.1
        rw [← Tables.filter_eq_firsts (fun _ => decide_eq_true_iff) distinct]
        exact congrArg (table.rows ++ ·) pending
  · cases stored

end Storing

/-! ## The table and the log -/

section Keeping

variable {Number : Type} {readings : FredReadings Number} {autoflush : Bool}
  {world : MacroWorld Number} {call : MacroCall}

/-- The table holds the first row of each vintage of the log, and the log is in the order of its
retrievals. -/
structure VintagesKept (readings : FredReadings Number) (world : MacroWorld Number) : Prop where
  stored : world.table.rows =
    (Tables.firsts Received.key [] world.log).map (Received.observation readings)
  inOrder : world.log.Pairwise fun earlier later =>
    earlier.row.truth.retrievalTime ≤ later.row.truth.retrievalTime
  eligible : forall received, received ∈ world.log ->
    received.row.truth.simulationEligibleTime =
      max received.row.truth.retrievalTime received.row.truth.revisionTime

/-- A call leaves the world as it is, or adds what it has received. -/
theorem acquire_cases (readings : FredReadings Number) (autoflush : Bool)
    (world : MacroWorld Number) (call : MacroCall) :
    acquire readings autoflush world call = world ∨
      exists rows,
        (forall row, row ∈ rows -> row.truth.retrievalTime = call.retrievedAt ∧
          row.truth.simulationEligibleTime = max call.retrievedAt row.truth.revisionTime) ∧
        (acquire readings autoflush world call).log = world.log ++ rows.map call.received ∧
        (acquire readings autoflush world call).table.rows = world.table.rows ++
          (Tables.firsts (MacroRow.key call.seriesId)
            (world.table.rows.map MacroObservation.key) rows).map
              (fun row => row.observation call.seriesId call.manifestId (row.endOf readings)) := by
  unfold acquire
  split
  · exact Or.inl rfl
  · rename_i rows parsed
    split
    · exact Or.inl rfl
    · rename_i table inserted skipped done
      exact Or.inr ⟨rows, parse_eligible parsed, rfl, ingestMacroRows_ok done⟩

theorem VintagesKept.keys (kept : VintagesKept readings world) :
    world.table.rows.map MacroObservation.key =
      (Tables.firsts Received.key [] world.log).map Received.key := by
  rw [kept.stored, List.map_map]
  rfl

variable (readings) in
theorem vintagesKept_empty : VintagesKept readings (MacroWorld.empty : MacroWorld Number) :=
  ⟨rfl, List.Pairwise.nil, fun _ impossible => nomatch impossible⟩

theorem VintagesKept.acquire (kept : VintagesKept readings world)
    (clock : forall received, received ∈ world.log ->
      received.row.truth.retrievalTime ≤ call.retrievedAt) :
    VintagesKept readings (acquire readings autoflush world call) := by
  rcases acquire_cases readings autoflush world call with same | ⟨rows, timed, log, stored⟩
  · rw [same]
    exact kept
  · refine ⟨?_, ?_, ?_⟩
    · rw [log, stored, Tables.firsts_append, List.map_append, ← kept.stored, List.nil_append,
        ← kept.keys, Tables.firsts_map, List.map_map]
      rfl
    · rw [log]
      refine List.pairwise_append.mpr ⟨kept.inOrder, ?_, ?_⟩
      · refine List.pairwise_map.mpr (List.pairwise_of_forall_mem_list ?_)
        intro first firstMember second secondMember
        exact le_of_eq ((timed first firstMember).1.trans (timed second secondMember).1.symm)
      · intro earlier old later fresh
        rcases List.mem_map.mp fresh with ⟨row, member, same⟩
        rw [← same]
        exact le_of_le_of_eq (clock earlier old) (timed row member).1.symm
    · rw [log]
      intro received member
      rcases List.mem_append.mp member with old | fresh
      · exact kept.eligible received old
      · rcases List.mem_map.mp fresh with ⟨row, listedRow, same⟩
        rw [← same]
        exact (timed row listedRow).2.trans
          (congrArg (fun instant => max instant row.truth.revisionTime) (timed row listedRow).1.symm)

/-- Every row stored is that of a row in the log. -/
theorem VintagesKept.sourced (kept : VintagesKept readings world)
    {observation : MacroObservation Number} (member : observation ∈ world.table.rows) :
    exists received, received ∈ world.log ∧ received.observation readings = observation := by
  rw [kept.stored] at member
  rcases List.mem_map.mp member with ⟨received, first, same⟩
  exact ⟨received, (Tables.mem_of_mem_firsts first).1, same⟩

/-- Every vintage in the log is stored, and is eligible no later than where it is logged. -/
theorem VintagesKept.shown (kept : VintagesKept readings world) {received : Received Number}
    (member : received ∈ world.log) :
    exists observation, observation ∈ world.table.rows ∧ observation.key = received.key ∧
      observation.simulationEligibleTime ≤ received.row.truth.simulationEligibleTime := by
  -- rows of one vintage have one revision, so they are eligible in the order of their retrievals
  have inOrder : world.log.Pairwise fun earlier later => earlier.key = later.key ->
      earlier.row.truth.simulationEligibleTime ≤ later.row.truth.simulationEligibleTime := by
    refine kept.inOrder.imp_of_mem ?_
    intro earlier later earlierMember laterMember before same
    rw [kept.eligible earlier earlierMember, kept.eligible later laterMember]
    have revised : earlier.row.truth.revisionTime = later.row.truth.revisionTime :=
      congrArg (fun key : VintageKey => key.2.2.1) same
    exact max_le_max before (le_of_eq revised)
  rcases AsOf.firsts_shown inOrder member with ⟨first, chosen, same, below⟩
  refine ⟨first.observation readings, ?_, same, below⟩
  rw [kept.stored]
  exact List.mem_map_of_mem chosen

end Keeping

/-! ## What is read -/

section Reading

variable {Number : Type} {world : MacroWorld Number} {seriesId : Identifier} {asOf : Instant}
  {rows : List (MacroObservation Number)}

theorem mem_rowsOf {log : List (Received Number)} {period : Instant} {row : MacroRow Number} :
    row ∈ rowsOf log seriesId period <->
      exists received, received ∈ log ∧ received.seriesId = seriesId ∧
        received.row.truth.observationTime = period ∧ received.row = row := by
  simp only [rowsOf, List.mem_map, List.mem_filter, Bool.and_eq_true, decide_eq_true_eq]
  constructor
  · rintro ⟨received, ⟨member, series, observed⟩, same⟩
    exact ⟨received, member, series, observed, same⟩
  · rintro ⟨received, member, series, observed, same⟩
    exact ⟨received, ⟨member, series, observed⟩, same⟩

theorem Listed.mem_iff {table : MacroTable Number} (listed : Listed table seriesId asOf rows)
    {row : MacroObservation Number} :
    row ∈ rows <-> row ∈ table.rows ∧ row.seriesId = seriesId ∧
      row.simulationEligibleTime ≤ asOf := by
  rw [listed.selected.mem_iff, List.mem_filter, Bool.and_eq_true, decide_eq_true_eq,
    decide_eq_true_eq]

theorem getObservationAsOf_some {period : Instant} {log : List (Received Number)}
    {chosen : MacroRow Number}
    (found : getObservationAsOf (rowsOf log seriesId period) asOf = some chosen) :
    chosen ∈ rowsOf log seriesId period ∧ chosen.truth.simulationEligibleTime ≤ asOf := by
  have member := List.mem_filter.mp (AsOf.greatest_some found).1
  exact ⟨member.1, of_decide_eq_true member.2⟩

/-- What the log selects for a period is listed. -/
theorem VintagesKept.listed (kept : VintagesKept readings world) (listed : Listed world.table seriesId asOf rows)
    {period : Instant} {chosen : MacroRow Number}
    (found : getObservationAsOf (rowsOf world.log seriesId period) asOf = some chosen) :
    exists row, row ∈ rows ∧ row.observationTime = period ∧
      row.revisionTime = chosen.truth.revisionTime := by
  rcases getObservationAsOf_some found with ⟨member, eligible⟩
  rcases mem_rowsOf.mp member with ⟨received, logged, series, observed, same⟩
  subst same
  rcases kept.shown logged with ⟨observation, stored, key, below⟩
  have seriesSame : observation.seriesId = received.seriesId :=
    congrArg (fun key : VintageKey => key.1) key
  have observedSame : observation.observationTime = received.row.truth.observationTime :=
    congrArg (fun key : VintageKey => key.2.1) key
  have revisedSame : observation.revisionTime = received.row.truth.revisionTime :=
    congrArg (fun key : VintageKey => key.2.2.1) key
  exact ⟨observation,
    listed.mem_iff.mpr ⟨stored, seriesSame.trans series, le_trans below eligible⟩,
    observedSame.trans observed, revisedSame⟩

/-- What is listed for a period is of a revision that the log selects. -/
theorem VintagesKept.selected (kept : VintagesKept readings world)
    (listed : Listed world.table seriesId asOf rows) {row : MacroObservation Number}
    (member : row ∈ AsOf.latest (fun row => row.observationTime) rows) :
    exists chosen,
      getObservationAsOf (rowsOf world.log seriesId row.observationTime) asOf = some chosen ∧
        row.revisionTime = chosen.truth.revisionTime := by
  rcases AsOf.mem_latest listed.ordered member with ⟨here, greatest⟩
  rcases listed.mem_iff.mp here with ⟨stored, series, eligible⟩
  rcases kept.sourced stored with ⟨received, logged, same⟩
  have revised : received.row.truth.revisionTime = row.revisionTime :=
    congrArg (fun row : MacroObservation Number => row.revisionTime) same
  have candidate : received.row ∈ (rowsOf world.log seriesId row.observationTime).filter
      fun row => row.truth.visibleAsOf asOf := by
    refine List.mem_filter.mpr ⟨mem_rowsOf.mpr ⟨received, logged, ?_, ?_, rfl⟩, ?_⟩
    · exact (congrArg (fun row : MacroObservation Number => row.seriesId) same).trans series
    · exact congrArg (fun row : MacroObservation Number => row.observationTime) same
    · exact decide_eq_true (le_of_eq_of_le
        (congrArg (fun row : MacroObservation Number => row.simulationEligibleTime) same) eligible)
  cases found : getObservationAsOf (rowsOf world.log seriesId row.observationTime) asOf with
  | none =>
      rw [AsOf.greatest_none_iff.mp found] at candidate
      cases candidate
  | some chosen =>
      have later : received.row.truth.revisionTime ≤ chosen.truth.revisionTime :=
        (AsOf.greatest_some found).2 received.row candidate
      refine ⟨chosen, rfl, le_antisymm ?_ ?_⟩
      · exact le_of_eq_of_le revised.symm later
      · rcases kept.listed listed found with ⟨other, there, observed, revisedOther⟩
        exact le_of_eq_of_le revisedOther.symm (greatest other there observed)

theorem mem_batched {α : Type} {size : Nat} (positive : 0 < size) {item : α} {items : List α} :
    (exists batch, batch ∈ batched size items ∧ item ∈ batch) <-> item ∈ items := by
  unfold batched
  constructor
  · rintro ⟨batch, listed, member⟩
    rcases List.mem_map.mp listed with ⟨place, _, same⟩
    subst same
    exact List.mem_of_mem_drop (List.mem_of_mem_take member)
  · intro member
    rcases List.mem_iff_getElem?.mp member with ⟨index, found⟩
    have inside : index < items.length := (List.getElem?_eq_some_iff.mp found).1
    have placed : index / size < (items.length + size - 1) / size := by
      calc index / size < index / size + 1 := Nat.lt_succ_self _
        _ = (index + size) / size := (Nat.add_div_right index positive).symm
        _ ≤ (items.length + size - 1) / size := Nat.div_le_div_right (by omega)
    refine ⟨_, List.mem_map_of_mem (List.mem_range.mpr placed), ?_⟩
    refine List.mem_iff_getElem?.mpr ⟨index % size, ?_⟩
    rw [List.getElem?_take_of_lt (Nat.mod_lt index positive), List.getElem?_drop,
      Nat.div_add_mod]
    exact found

theorem mem_foldl_append {query : List Identifier} {wanted : Identifier}
    (batches : List (List Identifier)) (visible : List Identifier) :
    wanted ∈ batches.foldl (fun visible batch => visible ++ query.filter (· ∈ batch)) visible <->
      wanted ∈ visible ∨ wanted ∈ query ∧ exists batch, batch ∈ batches ∧ wanted ∈ batch := by
  induction batches generalizing visible with
  | nil => simp
  | cons head tail ih =>
      rw [List.foldl_cons, ih]
      simp only [List.mem_append, List.mem_filter, decide_eq_true_eq, List.mem_cons,
        exists_eq_or_imp]
      tauto

theorem mem_visibleImportIds {query : List Identifier} {identifiers : List (Option Identifier)}
    {wanted : Identifier} :
    wanted ∈ visibleImportIds query identifiers <->
      wanted ∈ query ∧ some wanted ∈ identifiers := by
  unfold visibleImportIds
  rw [mem_foldl_append, mem_batched (by decide), List.mem_dedup]
  simp [List.mem_filterMap]

/-- A manifest is named exactly where it can be seen. -/
theorem mem_observations {query : List Identifier} {items : List (MacroObservation Number)}
    {item : ObservationItem Number} :
    item ∈ observations query items <->
      exists row, row ∈ items ∧ item =
        { row.toMacroColumns with
          manifestId := if row.manifestId ∈ query then some row.manifestId else none } := by
  have seen : forall row, row ∈ items ->
      (row.manifestId ∈ visibleImportIds query (items.map fun item => some item.manifestId) <->
        row.manifestId ∈ query) := by
    intro row member
    rw [mem_visibleImportIds]
    exact and_iff_left (List.mem_map.mpr ⟨row, member, rfl⟩)
  unfold observations
  simp only [List.mem_map]
  constructor
  · rintro ⟨row, member, same⟩
    refine ⟨row, member, same.symm.trans ?_⟩
    simp only [seen row member]
  · rintro ⟨row, member, same⟩
    refine ⟨row, member, Eq.trans ?_ same.symm⟩
    simp only [seen row member]

theorem observations_times (query : List Identifier) (items : List (MacroObservation Number)) :
    (observations query items).map (fun item => item.observationTime) =
      items.map fun row => row.observationTime :=
  List.map_map

/-- The answer over the table is what the log tells. -/
theorem VintagesKept.pointInTime (kept : VintagesKept readings world)
    (listed : Listed world.table seriesId asOf rows) (query : List Identifier) :
    PointInTime readings query world.log seriesId asOf
      (observations query (AsOf.latest (fun row => row.observationTime) rows)) := by
  refine ⟨?_, ?_, ?_, ?_⟩
  · rw [observations_times]
    exact AsOf.latest_increasing listed.ordered
  · intro period chosen found
    rcases kept.listed listed found with ⟨row, member, observed, _⟩
    have covered : exists latest,
        latest ∈ AsOf.latest (fun row : MacroObservation Number => row.observationTime) rows ∧
          latest.observationTime = row.observationTime := AsOf.latest_covers member
    rcases covered with ⟨latest, there, same⟩
    exact ⟨_, mem_observations.mpr ⟨latest, there, rfl⟩, same.trans observed⟩
  · intro item member
    rcases mem_observations.mp member with ⟨row, there, same⟩
    subst same
    exact kept.selected listed there
  · intro item member
    rcases mem_observations.mp member with ⟨row, there, same⟩
    subst same
    rcases listed.mem_iff.mp (AsOf.mem_latest listed.ordered there).1 with ⟨stored, series, eligible⟩
    rcases kept.sourced stored with ⟨received, logged, same⟩
    subst same
    exact ⟨received, logged, decide_eq_true eligible, congrArg
      (fun seriesId => received.row.columns seriesId (received.row.endOf readings)) series, rfl⟩

/-- What the query returns is told by the log alone where the source is of one value. -/
theorem VintagesKept.listed_unique (kept : VintagesKept readings world)
    (single : SingleValued world.log seriesId asOf) {before : List (MacroObservation Number)}
    (listed : Listed world.table seriesId asOf rows)
    (listedBefore : Listed world.table seriesId asOf before) : before = rows := by
  refine AsOf.ordered_unique (listedBefore.selected.trans listed.selected.symm)
    listedBefore.ordered listed.ordered ?_
  intro first second member other period revision
  rcases listedBefore.mem_iff.mp member with ⟨stored, series, eligible⟩
  rcases listedBefore.mem_iff.mp other with ⟨storedOther, seriesOther, eligibleOther⟩
  apply List.inj_on_of_nodup_map world.table.unique stored storedOther
  rcases kept.sourced stored with ⟨received, logged, same⟩
  rcases kept.sourced storedOther with ⟨another, loggedOther, sameOther⟩
  subst same
  subst sameOther
  have value : received.row.sourceValue = another.row.sourceValue :=
    single received another logged loggedOther series seriesOther (decide_eq_true eligible)
      (decide_eq_true eligibleOther) period revision
  exact Prod.ext (series.trans seriesOther.symm)
    (Prod.ext period (Prod.ext revision value))

end Reading

/-! ## Runs -/

section Running

variable {Number : Type} {readings : FredReadings Number} {autoflush : Bool}

/-- What a later call stores is not eligible yet. -/
theorem acquire_later {world : MacroWorld Number} {call : MacroCall} {asOf : Instant}
    (later : asOf < call.retrievedAt) (chosen : MacroObservation Number -> Bool) :
    ((acquire readings autoflush world call).table.rows.filter fun row =>
      chosen row && decide (row.simulationEligibleTime ≤ asOf)) =
        world.table.rows.filter fun row =>
          chosen row && decide (row.simulationEligibleTime ≤ asOf) := by
  rcases acquire_cases readings autoflush world call with same | ⟨rows, timed, _, stored⟩
  · rw [same]
  rw [stored, List.filter_append]
  have none_ : (((Tables.firsts (MacroRow.key call.seriesId)
      (world.table.rows.map MacroObservation.key) rows).map fun row =>
        row.observation call.seriesId call.manifestId (row.endOf readings)).filter fun row =>
      chosen row && decide (row.simulationEligibleTime ≤ asOf)) = [] := by
    refine List.filter_eq_nil_iff.mpr ?_
    intro row member eligible
    rcases List.mem_map.mp member with ⟨source, first, same⟩
    subst same
    have visible : source.truth.simulationEligibleTime ≤ asOf :=
      of_decide_eq_true (Bool.and_eq_true _ _ ▸ eligible).2
    rw [(timed source (Tables.mem_of_mem_firsts first).1).2] at visible
    exact absurd (le_trans (le_max_left _ _) visible) (not_le.mpr later)
  rw [none_, List.append_nil]

/-- The calls made after an instant leave what is eligible by then. -/
theorem foldl_acquire_early {calls : List MacroCall}
    (clock : (calls.map MacroCall.retrievedAt).Pairwise (· ≤ ·)) (asOf : Instant)
    (world : MacroWorld Number) (chosen : MacroObservation Number -> Bool) :
    ((calls.foldl (acquire readings autoflush) world).table.rows.filter fun row =>
      chosen row && decide (row.simulationEligibleTime ≤ asOf)) =
        ((calls.filter fun call => decide (call.retrievedAt ≤ asOf)).foldl
          (acquire readings autoflush) world).table.rows.filter fun row =>
            chosen row && decide (row.simulationEligibleTime ≤ asOf) := by
  induction calls generalizing world with
  | nil => rfl
  | cons head tail ih =>
      rcases List.pairwise_cons.mp clock with ⟨first, rest⟩
      rw [List.foldl_cons, ih rest]
      by_cases early : head.retrievedAt ≤ asOf
      · rw [List.filter_cons_of_pos (by simpa using early), List.foldl_cons]
      · -- the clock does not go back, so no later call is early
        have none_ : (tail.filter fun call => decide (call.retrievedAt ≤ asOf)) = [] := by
          refine List.filter_eq_nil_iff.mpr ?_
          intro call member before
          have after := first call.retrievedAt (List.mem_map_of_mem member)
          exact early (le_trans after (of_decide_eq_true before))
        rw [List.filter_cons_of_neg (by simpa using early), none_]
        exact acquire_later (not_le.mp early) chosen

theorem foldl_acquire_kept {calls : List MacroCall}
    (clock : (calls.map MacroCall.retrievedAt).Pairwise (· ≤ ·)) {world : MacroWorld Number}
    (kept : VintagesKept readings world)
    (started : forall received, received ∈ world.log -> forall call, call ∈ calls ->
      received.row.truth.retrievalTime ≤ call.retrievedAt) :
    VintagesKept readings (calls.foldl (acquire readings autoflush) world) := by
  induction calls generalizing world with
  | nil => exact kept
  | cons head tail ih =>
      rcases List.pairwise_cons.mp clock with ⟨first, rest⟩
      refine ih rest
        (kept.acquire fun received member => started received member head List.mem_cons_self) ?_
      intro received member call listed
      rcases acquire_cases readings autoflush world head with same | ⟨rows, timed, log, _⟩
      · rw [same] at member
        exact started received member call (List.mem_cons_of_mem _ listed)
      · rw [log] at member
        rcases List.mem_append.mp member with old | fresh
        · exact started received old call (List.mem_cons_of_mem _ listed)
        · rcases List.mem_map.mp fresh with ⟨row, inside, same⟩
          rw [← same]
          exact le_of_eq_of_le (timed row inside).1
            (first call.retrievedAt (List.mem_map_of_mem listed))

/-- The calls made by an instant, as all the calls of a run but the later ones leave them. -/
theorem early_of_later {calls later : List MacroCall} {asOf : Instant}
    (past : forall call, call ∈ later -> asOf < call.retrievedAt) :
    (calls ++ later).filter (fun call => decide (call.retrievedAt ≤ asOf)) =
      calls.filter fun call => decide (call.retrievedAt ≤ asOf) := by
  have none_ : later.filter (fun call => decide (call.retrievedAt ≤ asOf)) = [] :=
    List.filter_eq_nil_iff.mpr fun call member before =>
      absurd (of_decide_eq_true before) (not_le.mpr (past call member))
  rw [List.filter_append, none_, List.append_nil]

/-- What a query may return is told by the calls made by its instant. -/
theorem listed_early_iff {calls : List MacroCall}
    (clock : (calls.map MacroCall.retrievedAt).Pairwise (· ≤ ·)) {seriesId : Identifier}
    {asOf : Instant} {rows : List (MacroObservation Number)} :
    Listed (acquired readings autoflush calls).table seriesId asOf rows <->
      Listed (acquired readings autoflush
        (calls.filter fun call => decide (call.retrievedAt ≤ asOf))).table seriesId asOf rows := by
  have same := List.Perm.of_eq <| @foldl_acquire_early _ readings autoflush _ clock asOf
    MacroWorld.empty fun row => decide (row.seriesId = seriesId)
  constructor
  · intro listed
    exact ⟨listed.selected.trans same, listed.ordered⟩
  · intro listed
    exact ⟨listed.selected.trans same.symm, listed.ordered⟩

end Running

def vintageReadings : FredReadings Int where
  decimal := fun text => [("1.0", 10), ("2.0", 20)].lookup text
  month := fun _ => none
  day := fun text => [("2026-01-01", 0), ("2026-02-01", 31), ("2026-03-01", 59)].lookup text
  moment := fun text => [("2026-02-28", 58)].lookup text

def firstVintage : FredRow := ⟨"2026-01-01", "2026-02-01", "2026-02-28", "1.0"⟩

def secondVintage : FredRow := ⟨"2026-01-01", "2026-03-01", "9999-12-31", "2.0"⟩

/-- The second call repeats the first vintage, and adds its revision. -/
def vintageCalls : List MacroCall :=
  [⟨1, [firstVintage], true, 40, 7⟩, ⟨1, [firstVintage, secondVintage], true, 70, 8⟩]

def vintagesEligible (asOf : Instant) : List (MacroObservation Int) :=
  (acquired vintageReadings false vintageCalls).table.rows.filter fun row =>
    decide (row.seriesId = 1) && decide (row.simulationEligibleTime ≤ asOf)

theorem vintages_singleValued :
    SingleValued (acquired vintageReadings false (vintageCalls.take 1)).log 1 60 := by
  intro first second member other _ _ _ _ _ _
  have one : (acquired vintageReadings false (vintageCalls.take 1)).log.map
      (fun received => received.row.sourceValue) = ["1.0"] := by decide +kernel
  have here : first.row.sourceValue ∈ ["1.0"] := one ▸ List.mem_map_of_mem member
  have there : second.row.sourceValue ∈ ["1.0"] := one ▸ List.mem_map_of_mem other
  rw [List.mem_singleton.mp here, List.mem_singleton.mp there]

end WorldData
end MarketIntelligence
