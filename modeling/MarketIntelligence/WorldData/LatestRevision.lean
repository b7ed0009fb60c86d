import MarketIntelligence.WorldData.EnergyIngestion
import MarketIntelligence.Foundations.Loops
import MarketIntelligence.Foundations.Runs
import MarketIntelligence.Foundations.Tables

namespace MarketIntelligence
namespace WorldData

open Foundations

/-!
# The latest revision of a period

Each call stores the rows of one retrieval, and its instant is the revision of what it stores.
A row whose source value is stored for its period is left out, whichever revision it was
stored with and whatever its number is.  So the latest revision has the value of the last row
only where the rows that are left out agree with it.
-/

/-! ## Calls -/

/-- One answer of the source, for one series. -/
structure EnergyCall where
  payload : List ElectricityRow
  retrievedAt : Instant
  manifestId : Identifier
  deriving DecidableEq, Repr

/-- The table, with the periods and values of the rows of the calls that have succeeded, the
last one first. -/
structure EnergyWorld (Number : Type) where
  table : EnergyTable Number
  ingested : List (Instant × Option Number)
  deriving DecidableEq, Repr

def valuesOf {Number : Type} (rows : List (EnergyRow Number)) : List (Instant × Option Number) :=
  (rows.map fun row => (row.truth.observationTime, row.value)).reverse

section Definitions

variable {Number : Type} (readings : Readings Number) (autoflush : Bool) (seriesId : Identifier)

/-- A call is parsed and ingested in one transaction. -/
def receive (world : EnergyWorld Number) (call : EnergyCall) : EnergyWorld Number :=
  match parseEiaElectricity readings call.payload call.retrievedAt with
  | .error _ => world
  | .ok rows =>
      match ingestEnergyRows autoflush world.table seriesId rows call.manifestId with
      | .error _ => world
      | .ok (table, _, _) => ⟨table, valuesOf rows ++ world.ingested⟩

/-- The observation is of the period. -/
def EnergyObservation.Of (period : Instant) (observation : EnergyObservation Number) : Prop :=
  observation.seriesId = seriesId ∧ observation.observationTime = period

/-- The latest revision of the period is stored, and has this value. -/
structure Latest (rows : List (EnergyObservation Number)) (period : Instant)
    (value : Option Number) : Prop where
  stored : exists observation, observation ∈ rows ∧ observation.Of seriesId period
  agrees : forall observation, observation ∈ rows -> observation.Of seriesId period ->
    (forall other, other ∈ rows -> other.Of seriesId period ->
      other.revisionTime ≤ observation.revisionTime) -> observation.numericValue = value

/-- The stored revision of each period that is the latest has the value of the last row that a
call has brought for the period. -/
def LatestWins (world : EnergyWorld Number) : Prop :=
  forall period value, world.ingested.lookup period = some value ->
    Latest seriesId world.table.rows period value

/-- The row is the first of the call with its period and source value, which are not stored. -/
def Fresh (table : EnergyTable Number) (rows : List (EnergyRow Number)) (row : EnergyRow Number) :
    Prop :=
  exists before after, rows = before ++ row :: after ∧
    row.key seriesId ∉ table.rows.map EnergyObservation.key ∧
    forall earlier, earlier ∈ before -> earlier.key seriesId ≠ row.key seriesId

/-- The rows can be stored together: the session flushes between them, or no two new ones have
the same key. -/
def Storable (table : EnergyTable Number) (rows : List (EnergyRow Number)) : Prop :=
  autoflush = true ∨
    ((rows.filter fun row => row.key seriesId ∉ table.rows.map EnergyObservation.key).map
      fun row => row.key seriesId).Nodup

/-- The fresh rows of a period carry the value of its last row.  Where there are none, the latest
revision that is stored carries it. -/
def Consistent (world : EnergyWorld Number) (call : EnergyCall) : Prop :=
  forall rows, parseEiaElectricity readings call.payload call.retrievedAt = .ok rows ->
    Storable autoflush seriesId world.table rows ->
      forall period value, (valuesOf rows).lookup period = some value ->
        (forall row, Fresh seriesId world.table rows row ->
          row.truth.observationTime = period -> row.value = value) ∧
        ((forall row, Fresh seriesId world.table rows row -> row.truth.observationTime ≠ period) ->
          Latest seriesId world.table.rows period value)

end Definitions

/-! ## What a call stores -/

section Storing

variable {Number : Type} {table : EnergyTable Number} {seriesId manifestId : Identifier}

/-- The rows that a call adds: those under keys that are not stored, and of several under one key
the first. -/
def added (table : EnergyTable Number) (seriesId : Identifier) (rows : List (EnergyRow Number)) :
    List (EnergyRow Number) :=
  Tables.firsts (EnergyRow.key seriesId) (table.rows.map EnergyObservation.key) rows

theorem observation_key (row : EnergyRow Number) :
    (row.observation seriesId manifestId).key = row.key seriesId := rfl

/-- A session that flushes finds what the call has added. -/
theorem foldl_flushing (rows : List (EnergyRow Number)) (pass : EnergyPass Number) :
    (rows.foldl (ingestEnergyRow true table seriesId manifestId) pass).pending =
      pass.pending ++ (Tables.firsts (EnergyRow.key seriesId)
        ((table.rows ++ pass.pending).map EnergyObservation.key) rows).map
          (EnergyRow.observation seriesId manifestId) := by
  induction rows generalizing pass with
  | nil => exact (List.append_nil _).symm
  | cons head tail ih =>
      rw [List.foldl_cons, ih, Tables.firsts_cons]
      unfold ingestEnergyRow
      by_cases known : head.key seriesId ∈ (table.rows ++ pass.pending).map EnergyObservation.key
      · simp only [if_true, if_pos known]
      · simp only [if_true, if_neg known, List.map_cons, List.append_assoc, List.singleton_append]
        rw [Tables.firsts_congr]
        intro wanted
        simp only [List.map_append, List.map_cons, List.map_nil, List.mem_append, List.mem_cons,
          List.not_mem_nil, or_false, observation_key]
        tauto

/-- A session that does not flush finds what was stored before the call. -/
theorem foldl_pending (rows : List (EnergyRow Number)) (pass : EnergyPass Number) :
    (rows.foldl (ingestEnergyRow false table seriesId manifestId) pass).pending =
      pass.pending ++ (rows.filter fun row =>
        row.key seriesId ∉ table.rows.map EnergyObservation.key).map
          (EnergyRow.observation seriesId manifestId) := by
  induction rows generalizing pass with
  | nil => exact (List.append_nil _).symm
  | cons head tail ih =>
      rw [List.foldl_cons, ih]
      unfold ingestEnergyRow
      by_cases known : head.key seriesId ∈ table.rows.map EnergyObservation.key
      · rw [List.filter_cons_of_neg (by simpa using known)]
        simp only [Bool.false_eq_true, if_false, if_pos known]
      · rw [List.filter_cons_of_pos (by simpa using known)]
        simp only [Bool.false_eq_true, if_false, if_neg known, List.map_cons, List.append_assoc,
          List.singleton_append]

theorem flush_keys (rows : List (EnergyRow Number)) :
    (table.rows ++ rows.map (EnergyRow.observation seriesId manifestId)).map
        EnergyObservation.key =
      table.rows.map EnergyObservation.key ++ rows.map (EnergyRow.key seriesId) := by
  rw [List.map_append, List.map_map]
  rfl

theorem added_nodup (rows : List (EnergyRow Number)) :
    (table.rows.map EnergyObservation.key ++
      (added table seriesId rows).map (EnergyRow.key seriesId)).Nodup := by
  refine List.nodup_append.mpr ⟨table.unique, Tables.firsts_nodup _ _, ?_⟩
  intro old stored new listed same
  rcases List.mem_map.mp listed with ⟨row, member, keyed⟩
  rcases Tables.mem_firsts_iff.mp member with ⟨_, _, _, fresh, _⟩
  exact fresh (keyed ▸ same ▸ stored)

/-- A call succeeds exactly when its rows can be stored together, and adds the fresh ones. -/
theorem ingestEnergyRows_storable (manifestId : Identifier) {autoflush : Bool}
    {rows : List (EnergyRow Number)} (storable : Storable autoflush seriesId table rows) :
    exists next inserted skipped,
      ingestEnergyRows autoflush table seriesId rows manifestId = .ok (next, inserted, skipped) ∧
        next.rows = table.rows ++
          (added table seriesId rows).map (EnergyRow.observation seriesId manifestId) := by
  have pending : (rows.foldl (ingestEnergyRow autoflush table seriesId manifestId)
      ⟨[], 0, 0⟩).pending =
      (added table seriesId rows).map (EnergyRow.observation seriesId manifestId) := by
    cases autoflush with
    | true =>
        rw [foldl_flushing]
        simp only [List.append_nil, List.nil_append]
        rfl
    | false =>
        have distinct := storable.resolve_left Bool.false_ne_true
        rw [foldl_pending, Tables.filter_eq_firsts (fun _ => decide_eq_true_iff) distinct]
        rfl
  have unique : ((table.rows ++ (added table seriesId rows).map
      (EnergyRow.observation seriesId manifestId)).map EnergyObservation.key).Nodup := by
    rw [flush_keys]
    exact added_nodup rows
  have flushed : table.flush (rows.foldl (ingestEnergyRow autoflush table seriesId manifestId)
      ⟨[], 0, 0⟩).pending = .ok ⟨_, unique⟩ := by
    simp only [EnergyTable.flush, pending, dif_pos unique]
  exact ⟨⟨_, unique⟩, _, _, Loops.except_bind_eq flushed _, rfl⟩

theorem ingestEnergyRows_refused {autoflush : Bool} {rows : List (EnergyRow Number)}
    (refused : ¬ Storable autoflush seriesId table rows) :
    ingestEnergyRows autoflush table seriesId rows manifestId = .error .integrityError := by
  unfold Storable at refused
  rw [not_or] at refused
  have plain : autoflush = false := Bool.eq_false_iff.mpr refused.1
  subst plain
  have twice : ¬ ((table.rows ++ (rows.foldl (ingestEnergyRow false table seriesId manifestId)
      ⟨[], 0, 0⟩).pending).map EnergyObservation.key).Nodup := by
    rw [foldl_pending, List.nil_append, flush_keys]
    exact fun distinct => refused.2 (List.nodup_append.mp distinct).2.1
  simp only [ingestEnergyRows, EnergyTable.flush, dif_neg twice]
  rfl

end Storing

/-! ## The latest revision after a call -/

section Revisions

variable {Number : Type} {seriesId : Identifier} {old new : List (EnergyObservation Number)}
  {period : Instant} {value : Option Number}

/-- Where the new observations are later, they are the latest revision. -/
theorem latest_append_iff (revised : exists observation, observation ∈ new ∧
      observation.Of seriesId period) {instant : Instant}
    (before : forall observation, observation ∈ old -> observation.seriesId = seriesId ->
      observation.revisionTime < instant)
    (after : forall observation, observation ∈ new -> observation.revisionTime = instant) :
    Latest seriesId (old ++ new) period value <->
      forall observation, observation ∈ new -> observation.Of seriesId period ->
        observation.numericValue = value := by
  rcases revised with ⟨latest, member, of⟩
  have bound : forall observation, observation ∈ old ++ new -> observation.Of seriesId period ->
      observation.revisionTime ≤ instant := by
    intro observation listed there
    rcases List.mem_append.mp listed with earlier | later
    · exact le_of_lt (before observation earlier there.1)
    · exact le_of_eq (after observation later)
  constructor
  · intro wins observation listed there
    refine wins.agrees observation (List.mem_append_right _ listed) there ?_
    intro other otherListed otherThere
    rw [after observation listed]
    exact bound other otherListed otherThere
  · intro agree
    refine ⟨⟨latest, List.mem_append_right _ member, of⟩, ?_⟩
    intro observation listed there greatest
    rcases List.mem_append.mp listed with earlier | later
    · have least := greatest latest (List.mem_append_right _ member) of
      rw [after latest member] at least
      exact absurd (before observation earlier there.1) (not_lt.mpr least)
    · exact agree observation later there

/-- Where the period has no new observation, it keeps its latest revision. -/
theorem latest_append_other (unrevised : forall observation, observation ∈ new ->
      ¬ observation.Of seriesId period) :
    Latest seriesId (old ++ new) period value <-> Latest seriesId old period value := by
  have members : forall observation : EnergyObservation Number, observation.Of seriesId period ->
      (observation ∈ old ++ new <-> observation ∈ old) := by
    intro observation there
    rw [List.mem_append]
    exact or_iff_left fun added => unrevised observation added there
  constructor
  · rintro ⟨⟨latest, listed, of⟩, agrees⟩
    refine ⟨⟨latest, (members latest of).mp listed, of⟩, ?_⟩
    intro observation member there greatest
    refine agrees observation ((members observation there).mpr member) there ?_
    intro other otherListed otherThere
    exact greatest other ((members other otherThere).mp otherListed) otherThere
  · rintro ⟨⟨latest, listed, of⟩, agrees⟩
    refine ⟨⟨latest, (members latest of).mpr listed, of⟩, ?_⟩
    intro observation member there greatest
    refine agrees observation ((members observation there).mp member) there ?_
    intro other otherListed otherThere
    exact greatest other ((members other otherThere).mpr otherListed) otherThere

end Revisions

section Calls

variable {Number : Type} {readings : Readings Number} {autoflush : Bool} {seriesId : Identifier}
  {world : EnergyWorld Number} {call : EnergyCall}

/-- Every row of a retrieval has its instant as revision. -/
theorem parse_revision {payload : List ElectricityRow} {retrievedAt : Instant}
    {rows : List (EnergyRow Number)}
    (parsed : parseEiaElectricity readings payload retrievedAt = .ok rows) :
    forall row, row ∈ rows -> row.truth.revisionTime = retrievedAt := by
  induction payload generalizing rows with
  | nil =>
      cases parsed
      intro row impossible
      cases impossible
  | cons head tail ih =>
      unfold parseEiaElectricity at parsed
      rw [List.mapM_cons] at parsed
      rcases Loops.except_bind_ok parsed with ⟨first, here, rest⟩
      rcases Loops.except_bind_ok rest with ⟨others, there, ends⟩
      cases ends
      intro row member
      rcases List.mem_cons.mp member with same | later
      · subst same
        unfold parseRow at here
        split at here
        · cases here
        split at here
        · cases here
        · cases here
          rfl
      · exact ih there row later

theorem receive_stored {rows : List (EnergyRow Number)}
    (parsed : parseEiaElectricity readings call.payload call.retrievedAt = .ok rows)
    (storable : Storable autoflush seriesId world.table rows) :
    (receive readings autoflush seriesId world call).table.rows = world.table.rows ++
        (added world.table seriesId rows).map (EnergyRow.observation seriesId call.manifestId) ∧
      (receive readings autoflush seriesId world call).ingested =
        valuesOf rows ++ world.ingested := by
  rcases ingestEnergyRows_storable call.manifestId storable with
    ⟨next, inserted, skipped, stored, listed⟩
  have received : receive readings autoflush seriesId world call =
      ⟨next, valuesOf rows ++ world.ingested⟩ := by
    simp only [receive, parsed, stored]
  rw [received]
  exact ⟨listed, rfl⟩

/-- A call that does not succeed leaves everything as it is. -/
theorem receive_refused
    (refused : forall rows, parseEiaElectricity readings call.payload call.retrievedAt = .ok rows ->
      ¬ Storable autoflush seriesId world.table rows) :
    receive readings autoflush seriesId world call = world := by
  unfold receive
  split
  · rfl
  · rename_i rows parsed
    rw [ingestEnergyRows_refused (refused rows parsed)]

theorem fresh_iff {table : EnergyTable Number} {rows : List (EnergyRow Number)}
    {row : EnergyRow Number} : Fresh seriesId table rows row <-> row ∈ added table seriesId rows :=
  Tables.mem_firsts_iff.symm

theorem mem_of_added {table : EnergyTable Number} {rows : List (EnergyRow Number)}
    {row : EnergyRow Number} (chosen : row ∈ added table seriesId rows) : row ∈ rows := by
  rcases fresh_iff.mpr chosen with ⟨before, after, split, _, _⟩
  rw [split]
  exact List.mem_append_right _ List.mem_cons_self

theorem valuesOf_none {rows : List (EnergyRow Number)} {period : Instant}
    (absent : (valuesOf rows).lookup period = none) :
    forall row, row ∈ rows -> row.truth.observationTime ≠ period := by
  intro row member same
  have listed : (row.truth.observationTime, row.value) ∈ valuesOf rows :=
    List.mem_reverse.mpr (List.mem_map_of_mem member)
  have different := List.lookup_eq_none_iff.mp absent _ listed
  simp [same] at different

/-- The instants of the calls to come increase, and all of them are later than every revision
that is stored of the series.  A call stores its rows with its own instant as their revision. -/
def Later (seriesId : Identifier) (world : EnergyWorld Number) (calls : List EnergyCall) : Prop :=
  (calls.map EnergyCall.retrievedAt).Pairwise (· < ·) ∧
    forall observation, observation ∈ world.table.rows -> observation.seriesId = seriesId ->
      forall call, call ∈ calls -> observation.revisionTime < call.retrievedAt

theorem Later.receive {calls : List EnergyCall} (later : Later seriesId world (call :: calls)) :
    Later seriesId (receive readings autoflush seriesId world call) calls := by
  rcases List.pairwise_cons.mp later.1 with ⟨first, rest⟩
  refine ⟨rest, ?_⟩
  intro observation member of other listed
  by_cases succeeds : exists rows,
      parseEiaElectricity readings call.payload call.retrievedAt = .ok rows ∧
        Storable autoflush seriesId world.table rows
  · rcases succeeds with ⟨rows, parsed, storable⟩
    rw [(receive_stored parsed storable).1] at member
    rcases List.mem_append.mp member with old | new
    · exact later.2 observation old of other (List.mem_cons_of_mem _ listed)
    · rcases List.mem_map.mp new with ⟨row, chosen, same⟩
      have revised : observation.revisionTime = call.retrievedAt := by
        rw [← same]
        exact parse_revision parsed row (mem_of_added chosen)
      rw [revised]
      exact first other.retrievedAt (List.mem_map_of_mem listed)
  · have same : WorldData.receive readings autoflush seriesId world call = world :=
      receive_refused fun rows parsed storable => succeeds ⟨rows, parsed, storable⟩
    rw [same] at member
    exact later.2 observation member of other (List.mem_cons_of_mem _ listed)

/-- After a call the latest revisions are right exactly when the call is consistent. -/
theorem receive_latestWins_iff {calls : List EnergyCall}
    (later : Later seriesId world (call :: calls)) (wins : LatestWins seriesId world) :
    LatestWins seriesId (receive readings autoflush seriesId world call) <->
      Consistent readings autoflush seriesId world call := by
  by_cases succeeds : exists rows,
      parseEiaElectricity readings call.payload call.retrievedAt = .ok rows ∧
        Storable autoflush seriesId world.table rows
  · rcases succeeds with ⟨rows, parsed, storable⟩
    rcases receive_stored parsed storable with ⟨stored, ingested⟩
    let new := (added world.table seriesId rows).map
      (EnergyRow.observation seriesId call.manifestId)
    have before : forall observation, observation ∈ world.table.rows ->
        observation.seriesId = seriesId -> observation.revisionTime < call.retrievedAt :=
      fun observation member of => later.2 observation member of call List.mem_cons_self
    have after : forall observation, observation ∈ new ->
        observation.revisionTime = call.retrievedAt := by
      intro observation member
      rcases List.mem_map.mp member with ⟨row, chosen, same⟩
      rw [← same]
      exact parse_revision parsed row (mem_of_added chosen)
    have revised : forall period row, Fresh seriesId world.table rows row ->
        row.truth.observationTime = period -> exists observation, observation ∈ new ∧
          observation.Of seriesId period :=
      fun period row fresh of => ⟨_, List.mem_map_of_mem (fresh_iff.mp fresh), rfl, of⟩
    have unrevised : forall period, (forall row, Fresh seriesId world.table rows row ->
        row.truth.observationTime ≠ period) -> forall observation, observation ∈ new ->
          ¬ observation.Of seriesId period := by
      intro period none_ observation member of
      rcases List.mem_map.mp member with ⟨row, chosen, same⟩
      rw [← same] at of
      exact none_ row (fresh_iff.mpr chosen) of.2
    unfold LatestWins
    rw [stored, ingested]
    constructor
    · intro holds others parsedOthers _ period value last
      cases parsed.symm.trans parsedOthers
      have latest := holds period value (by rw [List.lookup_append, last, Option.some_or])
      constructor
      · intro row fresh of
        have agree := (latest_append_iff (revised period row fresh of) before after).mp latest
        exact agree _ (List.mem_map_of_mem (fresh_iff.mp fresh)) ⟨rfl, of⟩
      · intro none_
        exact (latest_append_other (unrevised period none_)).mp latest
    · intro consistent period value last
      rw [List.lookup_append] at last
      cases here : (valuesOf rows).lookup period with
      | none =>
          rw [here, Option.none_or] at last
          refine (latest_append_other (unrevised period ?_)).mpr (wins period value last)
          intro row fresh
          exact valuesOf_none here row (mem_of_added (fresh_iff.mp fresh))
      | some known =>
          rw [here, Option.some_or] at last
          cases last
          rcases consistent rows parsed storable period value here with ⟨agree, kept⟩
          by_cases any : exists row, Fresh seriesId world.table rows row ∧
              row.truth.observationTime = period
          · rcases any with ⟨row, fresh, of⟩
            refine (latest_append_iff (revised period row fresh of) before after).mpr ?_
            intro observation member there
            rcases List.mem_map.mp member with ⟨chosen, listed, same⟩
            rw [← same] at there ⊢
            exact agree chosen (fresh_iff.mpr listed) there.2
          · have none_ : forall row, Fresh seriesId world.table rows row ->
                row.truth.observationTime ≠ period :=
              fun row fresh of => any ⟨row, fresh, of⟩
            exact (latest_append_other (unrevised period none_)).mpr (kept none_)
  · have same : receive readings autoflush seriesId world call = world :=
      receive_refused fun rows parsed storable => succeeds ⟨rows, parsed, storable⟩
    rw [same]
    exact iff_of_true wins fun rows parsed storable => absurd ⟨rows, parsed, storable⟩ succeeds

/-- Over calls at increasing instants, the latest revision of every period has the value of its
last row after each call exactly when every call is consistent. -/
theorem latestRevision_wins_iff {calls : List EnergyCall} (later : Later seriesId world calls)
    (wins : LatestWins seriesId world) :
    (forall visited, visited ∈ Runs.states (receive readings autoflush seriesId) world calls ->
      LatestWins seriesId visited) <->
      Runs.Along (receive readings autoflush seriesId) (Consistent readings autoflush seriesId)
        world calls :=
  Runs.invariant_states_iff_along_within
    (fun _ _ _ within holds => receive_latestWins_iff within holds)
    (fun _ _ _ within => within.receive) later wins

/-- A call of one row is consistent where its source value is new. -/
theorem consistent_of_new {row : EnergyRow Number}
    (parsed : parseEiaElectricity readings call.payload call.retrievedAt = .ok [row])
    (new : row.key seriesId ∉ world.table.rows.map EnergyObservation.key) :
    Consistent readings autoflush seriesId world call := by
  intro rows parsedRows _ period value last
  cases parsed.symm.trans parsedRows
  have found : (period, value) = (row.truth.observationTime, row.value) := by
    have listed := List.lookup_eq_some_iff.mp last
    rcases listed with ⟨front, back, split, _⟩
    have member : (period, value) ∈ valuesOf [row] := by
      rw [split]
      exact List.mem_append_right _ List.mem_cons_self
    exact List.mem_singleton.mp member
  cases found
  constructor
  · intro other fresh _
    rw [List.mem_singleton.mp (mem_of_added (fresh_iff.mp fresh))]
  · intro none_
    refine absurd rfl (none_ row ⟨[], [], rfl, new, ?_⟩)
    intro earlier impossible
    cases impossible

end Calls

/-! ## A price that is revised -/

def january : Instant := 1767225600000000

def day : Int := 86400000000

def plainReadings : Readings Int where
  decimal := fun text =>
    if text = "5" then some 5 else if text = "6" then some 6 else none
  month := fun text => if text = "2026-01" then some january else none

def priceCall (price : String) (days : Int) : EnergyCall :=
  ⟨[⟨some "2026-01", some price, none, none, none⟩], january + days * day, 0⟩

def valueCall (value : String) (days : Int) : EnergyCall :=
  ⟨[⟨some "2026-01", none, some value, none, none⟩], january + days * day, 0⟩

def noObservations : EnergyWorld Int := ⟨⟨[], List.nodup_nil⟩, []⟩

def electricityRow (value : Int) (sourceValue : String) (days : Int) : EnergyRow Int where
  value := some value
  sourceValue := sourceValue
  geography := "US"
  units := "cents/kWh"
  truth :=
    { eventTime := january
      observationTime := january
      publicationTime := january + days * day
      retrievalTime := january + days * day
      effectiveTime := january
      revisionTime := january + days * day
      simulationEligibleTime := january + days * day
      precision := "month"
      sourceTimeZone := "UTC"
      qualityFlags := []
      floor := by simp }

theorem revisedPrice_wins :
    LatestWins 0 ([priceCall "5" 40, priceCall "6" 70].foldl (receive plainReadings false 0)
      noObservations) := by
  have later : Later 0 noObservations [priceCall "5" 40, priceCall "6" 70] := by
    refine ⟨by decide, ?_⟩
    intro observation impossible
    cases impossible
  have wins : LatestWins 0 noObservations := by
    intro period value impossible
    cases impossible
  refine (latestRevision_wins_iff later wins).mpr ⟨?_, ?_, trivial⟩ _
    (Runs.foldl_mem_states _ _)
  · have parsed : parseEiaElectricity plainReadings (priceCall "5" 40).payload
        (priceCall "5" 40).retrievedAt = .ok [electricityRow 5 "5" 40] := by
      decide +kernel
    exact consistent_of_new parsed (by decide +kernel)
  · have parsed : parseEiaElectricity plainReadings (priceCall "6" 70).payload
        (priceCall "6" 70).retrievedAt = .ok [electricityRow 6 "6" 70] := by
      decide +kernel
    exact consistent_of_new parsed (by decide +kernel)

/-- A price that is revised back, and numbers that come as values: the last row is left out, and
the latest revision is another one. -/
theorem revisedBack_loses :
    (exists visited,
      visited ∈ Runs.states (receive plainReadings false 0) noObservations
        [priceCall "5" 40, priceCall "6" 70, priceCall "5" 100] ∧ ¬ LatestWins 0 visited) ∧
    exists visited,
      visited ∈ Runs.states (receive plainReadings false 0) noObservations
        [valueCall "5" 40, valueCall "6" 70] ∧ ¬ LatestWins 0 visited := by
  constructor
  · refine ⟨_, Runs.foldl_mem_states _ _, fun wins => ?_⟩
    have rows : ([priceCall "5" 40, priceCall "6" 70, priceCall "5" 100].foldl
        (receive plainReadings false 0) noObservations).table.rows =
        [(electricityRow 5 "5" 40).observation 0 0, (electricityRow 6 "6" 70).observation 0 0] := by
      decide +kernel
    have latest := wins january (some 5) (by decide +kernel)
    rw [rows] at latest
    have stale := latest.agrees ((electricityRow 6 "6" 70).observation 0 0) (by simp) ⟨rfl, rfl⟩
      (by
        intro other member _
        rcases List.mem_cons.mp member with first | second
        · rw [first]
          decide
        · rw [List.mem_singleton.mp second])
    exact absurd stale (by decide)
  · refine ⟨_, Runs.foldl_mem_states _ _, fun wins => ?_⟩
    have rows : ([valueCall "5" 40, valueCall "6" 70].foldl
        (receive plainReadings false 0) noObservations).table.rows =
        [(electricityRow 5 "" 40).observation 0 0] := by
      decide +kernel
    have latest := wins january (some 6) (by decide +kernel)
    rw [rows] at latest
    have stale := latest.agrees ((electricityRow 5 "" 40).observation 0 0) (by simp) ⟨rfl, rfl⟩
      (by
        intro other member _
        rw [List.mem_singleton.mp member])
    exact absurd stale (by decide)

end WorldData
end MarketIntelligence
