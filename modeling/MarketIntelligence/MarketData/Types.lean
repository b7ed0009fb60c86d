import MarketIntelligence.Core.Values
import MarketIntelligence.Foundations.Tables
import MarketIntelligence.Foundations.Transactions

namespace MarketIntelligence
namespace MarketData

open Foundations

/-!
# Rows of the historical import

The canonical rows are those an import adds observations to.  They refer to an
asset by its symbol, to a provider by its code and to a data source by its name,
which are unique, so their surrogate identifiers are left out.  All datetimes are
aware ones.

`valid_from` of a provider mapping is the instant of its insertion.  No two
insertions share one, so the two constraints that name it never refuse a row.

A job keeps the fields of its request apart from the fields its runs change.
-/

/-! ## Records of a provider -/

structure HistoricalBarRecord where
  symbol : String
  interval : String
  eventTime : Instant
  publicationTime : Instant
  effectiveTime : Instant
  retrievalTime : Instant
  openPrice : Rat
  high : Rat
  low : Rat
  closePrice : Rat
  adjustedClose : Rat
  volume : Int
  adjustmentStatus : String
  version : Int
  checksum : String
  rawMetadata : Option (List (String × String))
  deriving DecidableEq, Repr

structure CorporateActionRecord where
  symbol : String
  actionType : String
  effectiveTime : Instant
  publicationTime : Instant
  retrievalTime : Instant
  ratio : Option Rat
  amount : Option Rat
  currency : Option String
  oldSymbol : Option String
  newSymbol : Option String
  version : Int
  checksum : String
  deriving DecidableEq, Repr

structure AssetMetadataRecord where
  symbol : String
  name : String
  assetType : String
  exchange : String
  currency : String
  sector : Option String
  industry : Option String
  effectiveTime : Instant
  retrievalTime : Instant
  metadata : List (String × String)
  version : Int
  checksum : String
  deriving DecidableEq, Repr

/-! ## Canonical rows -/

structure Asset where
  symbol : String
  name : String
  assetType : String
  exchange : String
  currency : String
  sector : Option String
  industry : Option String
  deriving DecidableEq, Repr

structure AssetMetadataVersion where
  asset : String
  provider : String
  originalSymbol : String
  metadata : List (String × String)
  effectiveTime : Instant
  retrievalTime : Instant
  checksum : String
  version : Int
  deriving DecidableEq, Repr

structure ProviderAssetMapping where
  provider : String
  asset : String
  providerSymbol : String
  exchangeCode : String
  validTo : Option Instant
  isActive : Bool
  source : String
  deriving DecidableEq, Repr

structure ProviderSymbolMapping where
  provider : String
  canonicalSymbol : String
  providerSymbol : String
  exchangeCode : String
  deriving DecidableEq, Repr

structure PriceBar where
  asset : String
  interval : String
  eventTime : Instant
  publicationTime : Instant
  effectiveTime : Instant
  retrievalTime : Instant
  openPrice : Rat
  high : Rat
  low : Rat
  closePrice : Rat
  adjustedClose : Rat
  volume : Int
  dataSource : String
  provider : Option String
  originalSymbol : String
  adjustmentStatus : String
  checksum : String
  recordVersion : Int
  importJob : Option Identifier
  rawProviderMetadata : List (String × String)
  isDemonstrationData : Bool
  deriving DecidableEq, Repr

structure CorporateAction where
  asset : String
  provider : String
  actionType : String
  originalSymbol : String
  effectiveTime : Instant
  publicationTime : Instant
  retrievalTime : Instant
  ratio : Option Rat
  amount : Option Rat
  currency : Option String
  oldSymbol : Option String
  newSymbol : Option String
  checksum : String
  recordVersion : Int
  deriving DecidableEq, Repr

/-- The capability refers to the bar it was read from by the bar's identity. -/
structure AssetCapability where
  asset : String
  capability : String
  providerCode : String
  status : String
  feedType : String
  asOfTime : Instant
  barIdentity : String × String × Instant × String
  barChecksum : String
  deriving DecidableEq, Repr

/-- `uq_price_bar_asset_interval_event_source` -/
def PriceBar.identity (bar : PriceBar) : String × String × Instant × String :=
  (bar.asset, bar.interval, bar.eventTime, bar.dataSource)

/-- The rows an import adds observations to, in the order of their insertion.  They belong to no
job, so what an import has added stays when its job fails. -/
structure Canonical where
  assets : List Asset
  versions : List AssetMetadataVersion
  assetMappings : List ProviderAssetMapping
  symbolMappings : List ProviderSymbolMapping
  bars : List PriceBar
  actions : List CorporateAction
  capabilities : List AssetCapability
  deriving DecidableEq, Repr

def Canonical.empty : Canonical := ⟨[], [], [], [], [], [], []⟩

/-- The rows with the new ones behind them. -/
def Canonical.append (stored added : Canonical) : Canonical where
  assets := stored.assets ++ added.assets
  versions := stored.versions ++ added.versions
  assetMappings := stored.assetMappings ++ added.assetMappings
  symbolMappings := stored.symbolMappings ++ added.symbolMappings
  bars := stored.bars ++ added.bars
  actions := stored.actions ++ added.actions
  capabilities := stored.capabilities ++ added.capabilities

/-- The unique and check constraints of the canonical tables. -/
structure Canonical.Consistent (rows : Canonical) : Prop where
  assets : (rows.assets.map (·.symbol)).Nodup
  versions : (rows.versions.map fun row => (row.asset, row.provider, row.version)).Nodup
  canonicalSymbols : (rows.symbolMappings.map fun row => (row.provider, row.canonicalSymbol)).Nodup
  providerSymbols : (rows.symbolMappings.map fun row => (row.provider, row.providerSymbol)).Nodup
  bars : (rows.bars.map PriceBar.identity).Nodup
  barValues : forall bar, bar ∈ rows.bars -> bar.low ≤ bar.high ∧ 0 ≤ bar.volume
  actions : (rows.actions.map fun row => (row.provider, row.checksum)).Nodup
  capabilities :
    (rows.capabilities.map fun row => (row.asset, row.capability, row.providerCode)).Nodup

instance (rows : Canonical) : Decidable rows.Consistent :=
  decidable_of_iff
    ((rows.assets.map (·.symbol)).Nodup ∧
      (rows.versions.map fun row => (row.asset, row.provider, row.version)).Nodup ∧
      (rows.symbolMappings.map fun row => (row.provider, row.canonicalSymbol)).Nodup ∧
      (rows.symbolMappings.map fun row => (row.provider, row.providerSymbol)).Nodup ∧
      (rows.bars.map PriceBar.identity).Nodup ∧
      (forall bar, bar ∈ rows.bars -> bar.low ≤ bar.high ∧ 0 ≤ bar.volume) ∧
      (rows.actions.map fun row => (row.provider, row.checksum)).Nodup ∧
      (rows.capabilities.map fun row => (row.asset, row.capability, row.providerCode)).Nodup)
    ⟨fun ⟨a, b, c, d, e, f, g, h⟩ => ⟨a, b, c, d, e, f, g, h⟩,
      fun ⟨a, b, c, d, e, f, g, h⟩ => ⟨a, b, c, d, e, f, g, h⟩⟩

/-! ## Operational rows -/

inductive JobStatus where
  | queued
  | running
  | succeeded
  | retrying
  | failed
  | cancelled
  | deadLetter
  | interrupted
  deriving DecidableEq, Repr

def JobStatus.value : JobStatus -> String
  | .queued => "queued"
  | .running => "running"
  | .succeeded => "succeeded"
  | .retrying => "retrying"
  | .failed => "failed"
  | .cancelled => "cancelled"
  | .deadLetter => "dead_letter"
  | .interrupted => "interrupted"

def terminalStatuses : List JobStatus := [.succeeded, .failed, .cancelled, .deadLetter]

def restartableStatuses : List JobStatus := [.failed, .retrying, .interrupted, .cancelled]

inductive ImportMode where
  | full
  | incremental
  deriving DecidableEq, Repr

/-- The fields of a job that no run of it changes.  The scheduler and the routes fill them, and
every retry reads the same ones. -/
structure ImportRequest where
  id : Identifier
  providerId : Identifier
  mode : ImportMode
  symbols : List String
  start : Instant
  finish : Instant
  interval : String
  adjustmentPreference : String
  dryRun : Bool
  maxAttempts : Nat
  priority : Int
  requestedAt : Instant
  deriving DecidableEq, Repr

structure ValidationIssue where
  code : String
  message : String
  severity : String
  recordIdentifier : String
  deriving DecidableEq, Repr

structure ValidationReport where
  recordsChecked : Nat
  validRecords : Nat
  issues : List ValidationIssue
  deriving DecidableEq, Repr

def ValidationReport.isValid (report : ValidationReport) : Bool :=
  !report.issues.any fun issue => issue.severity = "error"

structure ImportJob where
  request : ImportRequest
  status : JobStatus
  resumeCursor : Nat
  startedAt : Option Instant
  completedAt : Option Instant
  nextRetryAt : Option Instant
  cancelRequested : Bool
  attempt : Nat
  recordsProcessed : Nat
  recordsInserted : Nat
  recordsSkipped : Nat
  errorSummary : Option String
  validationReport : List (String × ValidationReport)
  deriving DecidableEq, Repr

def ImportJob.id (job : ImportJob) : Identifier := job.request.id

inductive BatchStatus where
  | running
  | succeeded
  | failed
  | failedValidation
  deriving DecidableEq, Repr

structure ImportBatch where
  jobId : Identifier
  sequence : Nat
  status : BatchStatus
  requestTimestamp : Instant
  retrievalTimestamp : Option Instant
  publicationTimestamp : Option Instant
  effectiveTimestamp : Option Instant
  checksum : String
  recordsProcessed : Nat
  recordsInserted : Nat
  recordsSkipped : Nat
  validationReport : Option ValidationReport
  completedAt : Option Instant
  deriving DecidableEq, Repr

def ImportBatch.identity (batch : ImportBatch) : Identifier × Nat := (batch.jobId, batch.sequence)

structure ImportError where
  jobId : Identifier
  batch : Option Nat
  errorCode : String
  message : String
  recordIdentifier : Option String
  payloadSummary : List (String × String)
  isRetryable : Bool
  deriving DecidableEq, Repr

inductive Health where
  | healthy
  | degraded
  | unavailable
  | disabled
  deriving DecidableEq, Repr

structure DataSource where
  name : String
  health : Health
  lastSuccessfulRetrieval : Option Instant
  deriving DecidableEq, Repr

structure Provider where
  id : Identifier
  code : String
  isEnabled : Bool
  health : Health
  lastSuccessfulImportAt : Option Instant
  deriving DecidableEq, Repr

structure ProviderRateLimitState where
  providerId : Identifier
  requestsRemaining : Option Nat
  resetAt : Option Instant
  rateLimitEvents : Nat
  lastResponseStatus : Option Nat
  deriving DecidableEq, Repr

/-- A `session_date` is the number of its day. -/
structure TradingSession where
  sessionDate : Int
  openTime : Instant
  isOpen : Bool
  deriving DecidableEq, Repr

structure JobLease where
  jobId : Identifier
  workerId : Identifier
  acquiredAt : Instant
  heartbeatAt : Instant
  expiresAt : Instant
  deriving DecidableEq, Repr

inductive WorkerStatus where
  | idle
  | running
  | unavailable
  | stopped
  deriving DecidableEq, Repr

structure WorkerInstance where
  id : Identifier
  status : WorkerStatus
  currentJobId : Option Identifier
  lastHeartbeatAt : Instant
  stoppedAt : Option Instant
  deriving DecidableEq, Repr

structure JobEvent where
  jobId : Identifier
  eventType : String
  fromStatus : Option JobStatus
  toStatus : Option JobStatus
  message : String
  deriving DecidableEq, Repr

/-- The rows that say who works on what. -/
structure Fleet where
  leases : List JobLease
  workers : List WorkerInstance
  deriving DecidableEq, Repr

structure Database where
  rows : Canonical
  sources : List DataSource
  providers : List Provider
  rateLimits : List ProviderRateLimitState
  calendar : List TradingSession
  jobs : List ImportJob
  batches : List ImportBatch
  errors : List ImportError
  fleet : Fleet
  events : List JobEvent
  deriving DecidableEq, Repr

/-! ## Exceptions -/

/-- The attributes of a provider error that its handlers read. -/
structure ProviderFailure where
  classification : String
  message : String
  reachable : Bool
  deriving DecidableEq, Repr

/-- The classes that the `except` clauses of the import tell apart.  The delay of a
rate limit is in microseconds. -/
inductive Exception where
  | temporary (failure : ProviderFailure)
  | rateLimit (failure : ProviderFailure) (retryAfter : Option Int)
  | provider (failure : ProviderFailure)
  | valueError (message : String)
  | integrityError (message : String)
  | escaping (name : String)
  deriving DecidableEq, Repr

end MarketData
end MarketIntelligence
