import MarketIntelligence.Core.Values

namespace MarketIntelligence
namespace WorldData

/-!
# Energy observations

Monthly electricity prices are parsed from the answer of the source, and each row is stored
as an observation of its series unless its source value is already stored for its period.
-/

/-! ## Temporal truth -/

inductive QualityFlag where
  | missing
  | revised
  | estimated
  | preliminary
  | outlier
  | duplicate
  | malformed
  | stale
  | unitMismatch
  | temporalAmbiguity
  deriving DecidableEq, Repr

/-- A record that can be built meets `enforce_eligibility_floor`. -/
structure TemporalTruth where
  eventTime : Instant
  observationTime : Instant
  publicationTime : Instant
  retrievalTime : Instant
  effectiveTime : Instant
  revisionTime : Instant
  simulationEligibleTime : Instant
  precision : String
  sourceTimeZone : String
  qualityFlags : List QualityFlag
  floor : max publicationTime (max retrievalTime revisionTime) ≤ simulationEligibleTime
  deriving DecidableEq, Repr

/-! ## Parsing -/

/-- A row of `response.data`: `str` of its members, where it has them. -/
structure ElectricityRow where
  period : Option String
  price : Option String
  value : Option String
  stateid : Option String
  priceUnits : Option String
  deriving DecidableEq, Repr

/-- What is read from texts: `Decimal(value)`, and the first day of the month
`datetime(int(period[:4]), int(period[5:7]), 1, tzinfo=UTC)`.  Both may refuse. -/
structure Readings (Number : Type) where
  decimal : String -> Option Number
  month : String -> Option Instant

structure EnergyRow (Number : Type) where
  value : Option Number
  sourceValue : String
  geography : String
  units : String
  truth : TemporalTruth
  deriving DecidableEq, Repr

inductive IngestionError where
  | keyError (key : String)
  | valueError
  | integrityError
  deriving DecidableEq, Repr

section Parsing

variable {Number : Type} (readings : Readings Number)

def parseDecimal (value : String) : Option Number × List QualityFlag :=
  if value ∈ [".", "", "NA", "null"] then (none, [.missing])
  else
    match readings.decimal value with
    | some number => (some number, [])
    | none => (none, [.malformed])

/-- The body of the loop of `parse_eia_electricity`. -/
def parseRow (retrievedAt : Instant) (row : ElectricityRow) :
    Except IngestionError (EnergyRow Number) :=
  match row.period with
  | none => .error (.keyError "period")
  | some period =>
      match readings.month period with
      | none => .error .valueError
      | some observed =>
          let (value, flags) := parseDecimal readings (row.price.getD (row.value.getD ""))
          .ok
            { value := value
              -- the fallback on `value` is not repeated here
              sourceValue := row.price.getD ""
              geography := row.stateid.getD "US"
              units := row.priceUnits.getD "cents/kWh"
              truth :=
                { eventTime := observed
                  observationTime := observed
                  publicationTime := retrievedAt
                  retrievalTime := retrievedAt
                  effectiveTime := observed
                  revisionTime := retrievedAt
                  simulationEligibleTime := retrievedAt
                  precision := "month"
                  sourceTimeZone := "UTC"
                  qualityFlags := flags
                  floor := by simp } }

def parseEiaElectricity (payload : List ElectricityRow) (retrievedAt : Instant) :
    Except IngestionError (List (EnergyRow Number)) :=
  payload.mapM (parseRow readings retrievedAt)

end Parsing

/-! ## Storing -/

structure EnergyObservation (Number : Type) where
  seriesId : Identifier
  sourceValue : String
  numericValue : Option Number
  eventTime : Instant
  observationTime : Instant
  publicationTime : Instant
  retrievalTime : Instant
  effectiveTime : Instant
  revisionTime : Instant
  simulationEligibleTime : Instant
  timePrecision : String
  sourceTimeZone : String
  qualityFlags : List QualityFlag
  manifestId : Identifier
  deriving DecidableEq, Repr

/-- The columns of `uq_energy_observation`. -/
def EnergyObservation.key {Number : Type} (observation : EnergyObservation Number) :
    Identifier × Instant × String :=
  (observation.seriesId, observation.observationTime, observation.sourceValue)

instance : LawfulBEq (Identifier × Instant × String) :=
  inferInstance

/-- The stored observations, under their unique constraint. -/
structure EnergyTable (Number : Type) where
  rows : List (EnergyObservation Number)
  unique : (rows.map EnergyObservation.key).Nodup
  deriving DecidableEq, Repr

section Storing

variable {Number : Type}

def EnergyRow.key (seriesId : Identifier) (row : EnergyRow Number) :
    Identifier × Instant × String :=
  (seriesId, row.truth.observationTime, row.sourceValue)

/-- The observation that is added for a row. -/
def EnergyRow.observation (seriesId manifestId : Identifier) (row : EnergyRow Number) :
    EnergyObservation Number where
  seriesId := seriesId
  sourceValue := row.sourceValue
  numericValue := row.value
  eventTime := row.truth.eventTime
  observationTime := row.truth.observationTime
  publicationTime := row.truth.publicationTime
  retrievalTime := row.truth.retrievalTime
  effectiveTime := row.truth.effectiveTime
  revisionTime := row.truth.revisionTime
  simulationEligibleTime := row.truth.simulationEligibleTime
  timePrecision := row.truth.precision
  sourceTimeZone := row.truth.sourceTimeZone
  qualityFlags := row.truth.qualityFlags
  manifestId := manifestId

/-- The variables of the loop, with the observations that are still to be flushed. -/
structure EnergyPass (Number : Type) where
  pending : List (EnergyObservation Number)
  inserted : Nat
  skipped : Nat
  deriving DecidableEq, Repr

/-- The body of `for row in rows`.  Where the session flushes before a query, the query sees
what this call has added. -/
def ingestEnergyRow (autoflush : Bool) (table : EnergyTable Number)
    (seriesId manifestId : Identifier) (pass : EnergyPass Number) (row : EnergyRow Number) :
    EnergyPass Number :=
  let visible := if autoflush then table.rows ++ pass.pending else table.rows
  if row.key seriesId ∈ visible.map EnergyObservation.key then
    { pass with skipped := pass.skipped + 1 }
  else
    { pass with
      pending := pass.pending ++ [row.observation seriesId manifestId]
      inserted := pass.inserted + 1 }

def EnergyTable.flush (table : EnergyTable Number) (pending : List (EnergyObservation Number)) :
    Except IngestionError (EnergyTable Number) :=
  if unique : ((table.rows ++ pending).map EnergyObservation.key).Nodup then
    .ok ⟨table.rows ++ pending, unique⟩
  else .error .integrityError

def ingestEnergyRows (autoflush : Bool) (table : EnergyTable Number) (seriesId : Identifier)
    (rows : List (EnergyRow Number)) (manifestId : Identifier) :
    Except IngestionError (EnergyTable Number × Nat × Nat) := do
  let pass := rows.foldl (ingestEnergyRow autoflush table seriesId manifestId) ⟨[], 0, 0⟩
  let flushed ← table.flush pass.pending
  pure (flushed, pass.inserted, pass.skipped)

end Storing

end WorldData
end MarketIntelligence
