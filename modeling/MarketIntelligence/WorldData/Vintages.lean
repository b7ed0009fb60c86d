import MarketIntelligence.Foundations.AsOf
import MarketIntelligence.Identity.Workspace
import MarketIntelligence.WorldData.EnergyIngestion

namespace MarketIntelligence
namespace WorldData

open Foundations
open Identity (HTTPException)

/-!
# Macroeconomic vintages

An answer of FRED or ALFRED holds one row for each period and revision.  Each row is stored as
an observation of its series unless the vintage is stored with the same source value.  What a
reader sees as of an instant is the latest revision of each period that was eligible by then.
-/

/-! ## Parsing -/

/-- A row of `observations`: `str` of its members, where it has them. -/
structure FredRow where
  date : Option String
  realtimeStart : Option String
  realtimeEnd : Option String
  value : Option String
  deriving DecidableEq, Repr

/-- With `date.fromisoformat` at midnight in UTC, and `datetime.fromisoformat` with its time zone
replaced by UTC.  Both may refuse. -/
structure FredReadings (Number : Type) extends Readings Number where
  day : String -> Option Instant
  moment : String -> Option Instant

structure MacroRow (Number : Type) where
  value : Option Number
  sourceValue : String
  truth : TemporalTruth
  realtimeEnd : Option String
  deriving DecidableEq, Repr

section Parsing

variable {Number : Type} (readings : FredReadings Number)

/-- The body of the loop of `parse_fred_observations`. -/
def parseFredRow (vintage : Bool) (retrievedAt : Instant) (row : FredRow) :
    Except IngestionError (MacroRow Number) :=
  match row.date with
  | none => .error (.keyError "date")
  | some date =>
      match readings.day date with
      | none => .error .valueError
      | some observation =>
          match readings.day (row.realtimeStart.getD date) with
          | none => .error .valueError
          | some revision =>
              let (value, flags) := parseDecimal readings.toReadings (row.value.getD ".")
              let publication := if vintage then revision else retrievedAt
              .ok
                { value := value
                  sourceValue := row.value.getD "."
                  truth :=
                    { eventTime := observation
                      observationTime := observation
                      publicationTime := publication
                      retrievalTime := retrievedAt
                      effectiveTime := observation
                      revisionTime := revision
                      simulationEligibleTime := max publication (max retrievedAt revision)
                      precision := "day"
                      sourceTimeZone := "UTC"
                      qualityFlags := flags ++ if vintage then [.revised] else []
                      floor := le_refl _ }
                  realtimeEnd := row.realtimeEnd }

def parseFredObservations (payload : List FredRow) (retrievedAt : Instant) (vintage : Bool) :
    Except IngestionError (List (MacroRow Number)) :=
  payload.mapM (parseFredRow readings vintage retrievedAt)

end Parsing

def TemporalTruth.visibleAsOf (truth : TemporalTruth) (asOf : Instant) : Bool :=
  truth.simulationEligibleTime ≤ asOf

/-- `max` keeps the first of the greatest. -/
def getObservationAsOf {Number : Type} (rows : List (MacroRow Number)) (asOf : Instant) :
    Option (MacroRow Number) :=
  AsOf.greatest (fun row => row.truth.revisionTime)
    (rows.filter fun row => row.truth.visibleAsOf asOf)

/-! ## Storing -/

structure MacroColumns (Number : Type) where
  seriesId : Identifier
  sourceValue : String
  numericValue : Option Number
  eventTime : Instant
  observationTime : Instant
  publicationTime : Instant
  retrievalTime : Instant
  effectiveTime : Instant
  revisionTime : Instant
  simulationEligibleTime : Instant
  realtimeEnd : Option Instant
  timePrecision : String
  sourceTimeZone : String
  qualityFlags : List QualityFlag
  deriving DecidableEq, Repr

structure MacroObservation (Number : Type) extends MacroColumns Number where
  manifestId : Identifier
  deriving DecidableEq, Repr

abbrev VintageKey := Identifier × Instant × Instant × String

/-- The columns of `uq_macro_observation_vintage`. -/
def MacroObservation.key {Number : Type} (observation : MacroObservation Number) : VintageKey :=
  (observation.seriesId, observation.observationTime, observation.revisionTime,
    observation.sourceValue)

/-- The stored observations, under their unique constraint. -/
structure MacroTable (Number : Type) where
  rows : List (MacroObservation Number)
  unique : (rows.map MacroObservation.key).Nodup
  deriving DecidableEq, Repr

section Storing

variable {Number : Type}

def MacroRow.key (seriesId : Identifier) (row : MacroRow Number) : VintageKey :=
  (seriesId, row.truth.observationTime, row.truth.revisionTime, row.sourceValue)

/-- An open vintage ends on `9999-12-31`, or has no end. -/
def MacroRow.realtimeEndTime (readings : FredReadings Number) (row : MacroRow Number) :
    Except IngestionError (Option Instant) :=
  match row.realtimeEnd with
  | none => .ok none
  | some text =>
      if text ≠ "" ∧ text ≠ "9999-12-31" then
        match readings.moment text with
        | none => .error .valueError
        | some instant => .ok (some instant)
      else .ok none

/-- The end of the vintage as it is stored. -/
def MacroRow.endOf (readings : FredReadings Number) (row : MacroRow Number) : Option Instant :=
  (row.realtimeEndTime readings).toOption.join

def MacroRow.columns (seriesId : Identifier) (row : MacroRow Number)
    (realtimeEnd : Option Instant) : MacroColumns Number where
  seriesId := seriesId
  sourceValue := row.sourceValue
  numericValue := row.value
  eventTime := row.truth.eventTime
  observationTime := row.truth.observationTime
  publicationTime := row.truth.publicationTime
  retrievalTime := row.truth.retrievalTime
  effectiveTime := row.truth.effectiveTime
  revisionTime := row.truth.revisionTime
  simulationEligibleTime := row.truth.simulationEligibleTime
  realtimeEnd := realtimeEnd
  timePrecision := row.truth.precision
  sourceTimeZone := row.truth.sourceTimeZone
  qualityFlags := row.truth.qualityFlags

/-- The observation that is added for a row. -/
def MacroRow.observation (seriesId manifestId : Identifier) (row : MacroRow Number)
    (realtimeEnd : Option Instant) : MacroObservation Number :=
  { row.columns seriesId realtimeEnd with manifestId := manifestId }

/-- The variables of the loop, with the observations that are still to be flushed. -/
structure MacroPass (Number : Type) where
  pending : List (MacroObservation Number)
  inserted : Nat
  skipped : Nat
  deriving DecidableEq, Repr

/-- The body of `for row in rows`.  Where the session flushes before a query, the query sees
what this call has added. -/
def ingestMacroRow (readings : FredReadings Number) (autoflush : Bool) (table : MacroTable Number)
    (seriesId manifestId : Identifier) (pass : MacroPass Number) (row : MacroRow Number) :
    Except IngestionError (MacroPass Number) :=
  let visible := if autoflush then table.rows ++ pass.pending else table.rows
  if row.key seriesId ∈ visible.map MacroObservation.key then
    .ok { pass with skipped := pass.skipped + 1 }
  else do
    let realtimeEnd ← row.realtimeEndTime readings
    .ok
      { pass with
        pending := pass.pending ++ [row.observation seriesId manifestId realtimeEnd]
        inserted := pass.inserted + 1 }

def MacroTable.flush (table : MacroTable Number) (pending : List (MacroObservation Number)) :
    Except IngestionError (MacroTable Number) :=
  if unique : ((table.rows ++ pending).map MacroObservation.key).Nodup then
    .ok ⟨table.rows ++ pending, unique⟩
  else .error .integrityError

def ingestMacroRows (readings : FredReadings Number) (autoflush : Bool) (table : MacroTable Number)
    (seriesId : Identifier) (rows : List (MacroRow Number)) (manifestId : Identifier) :
    Except IngestionError (MacroTable Number × Nat × Nat) := do
  let pass ← rows.foldlM (ingestMacroRow readings autoflush table seriesId manifestId) ⟨[], 0, 0⟩
  let flushed ← table.flush pass.pending
  pure (flushed, pass.inserted, pass.skipped)

end Storing

/-! ## Reading as of an instant -/

/-- `itertools.batched` -/
def batched {α : Type} (size : Nat) (items : List α) : List (List α) :=
  (List.range ((items.length + size - 1) / size)).map fun place =>
    (items.drop (size * place)).take size

/-- `visible_import_ids`, over the identifiers that `manifest_query` finds: those of the manifests
whose import jobs the session can see. -/
def visibleImportIds (query : List Identifier) (identifiers : List (Option Identifier)) :
    List Identifier :=
  (batched 500 (identifiers.filterMap id).dedup).foldl
    (fun visible batch => visible ++ query.filter (· ∈ batch)) []

/-- A `datetime` of a request, with or without a time zone. -/
structure RequestTime where
  instant : Instant
  aware : Bool
  deriving DecidableEq, Repr

/-- An observation as it is answered: the manifest is left out where it cannot be seen. -/
structure ObservationItem (Number : Type) extends MacroColumns Number where
  manifestId : Option Identifier
  deriving DecidableEq, Repr

structure AsOfAnswer (Number : Type) where
  items : List (ObservationItem Number)
  total : Nat
  asOf : Instant
  pointInTimeSafe : Bool
  deriving DecidableEq, Repr

section Reading

variable {Number : Type}

/-- `_observations` -/
def observations (query : List Identifier) (items : List (MacroObservation Number)) :
    List (ObservationItem Number) :=
  let visible := visibleImportIds query (items.map fun item => some item.manifestId)
  items.map fun item =>
    { item.toMacroColumns with
      manifestId := if item.manifestId ∈ visible then some item.manifestId else none }

/-- What the query of `macro_as_of` may return.  Rows of one period and revision come in any
order. -/
structure Listed (table : MacroTable Number) (seriesId : Identifier) (asOf : Instant)
    (rows : List (MacroObservation Number)) : Prop where
  selected : rows.Perm (table.rows.filter fun row =>
    decide (row.seriesId = seriesId) && decide (row.simulationEligibleTime ≤ asOf))
  ordered : AsOf.Ordered (fun row => row.observationTime) (fun row => row.revisionTime) rows

/-- `macro_as_of`, over what its query has returned. -/
def macroAsOf (query : List Identifier) (asOf : RequestTime)
    (rows : List (MacroObservation Number)) : Except HTTPException (AsOfAnswer Number) :=
  if asOf.aware = false then .error ⟨422, "as_of must include a timezone"⟩
  else
    let latestByPeriod := AsOf.latest (fun row => row.observationTime) rows
    .ok
      { items := observations query latestByPeriod
        total := latestByPeriod.length
        asOf := asOf.instant
        pointInTimeSafe := true }

end Reading

end WorldData
end MarketIntelligence
