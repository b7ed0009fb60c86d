import MarketIntelligence.EconomicGraph.Resolution
import MarketIntelligence.Foundations.CalendarDates
import MarketIntelligence.Foundations.Catalogues

namespace MarketIntelligence
namespace SecIntelligence

open Foundations
open Foundations.CalendarDates (Date)
open Foundations.Catalogues (missing)
open EconomicGraph (PythonText zfill)

/-!
# Imports of filings

An import asks for the forms of one company.  The adapter answers from a fixture, and the request
stores what the tables do not have: the company, its filings with a document and a parse result
each, and the facts, transactions and holdings of the filings.  A request whose key has been used
in its workspace gets the job of that time.

A company is referred to by its CIK, a filing by its accession number and a job by its workspace
and its key, all of which are unique.  Sessions do not flush on their own, so a lookup sees the
rows that have been flushed.
-/

/-! ## What the adapter reads -/

/-- `SUPPORTED_FORMS` -/
def supportedForms : List String := ["10-K", "10-Q", "8-K", "3", "4", "5", "13F-HR"]

structure CompanyRecord where
  cik : String
  name : String
  tickers : List String
  sic : String
  submissionsUrl : String
  factsUrl : String
  deriving DecidableEq, Repr

structure FilingRecord where
  accessionNumber : String
  formType : String
  filingDate : Date
  acceptedAt : Instant
  reportingPeriod : Date
  sourceUrl : String
  rawDocumentReference : String
  isAmendment : Bool
  deriving DecidableEq, Repr

structure FactRecord where
  accessionNumber : String
  taxonomy : String
  concept : String
  unit : String
  numericValue : Rat
  periodStart : Date
  periodEnd : Date
  filedAt : Instant
  deriving DecidableEq, Repr

structure InsiderTransactionRecord where
  accessionNumber : String
  ownerName : String
  relationship : String
  transactionCode : String
  securityTitle : String
  transactionDate : Date
  shares : Rat
  price : Option Rat
  acquiredDisposed : String
  deriving DecidableEq, Repr

structure InstitutionalHoldingRecord where
  accessionNumber : String
  issuerName : String
  cusip : String
  asOfDate : Date
  shares : Rat
  valueUsd : Rat
  votingAuthority : List (String × Nat)
  deriving DecidableEq, Repr

/-- A fact is known by its filing, its concept and the end of its period. -/
def FactRecord.key (fact : FactRecord) : String × String × Date :=
  (fact.accessionNumber, fact.concept, fact.periodEnd)

def InsiderTransactionRecord.key (transaction : InsiderTransactionRecord) : String × String :=
  (transaction.accessionNumber, transaction.ownerName)

def InstitutionalHoldingRecord.key (holding : InstitutionalHoldingRecord) : String × String :=
  (holding.accessionNumber, holding.cusip)

/-- A payload whose records are told apart by what the import looks them up by. -/
structure Fixture where
  company : CompanyRecord
  filings : List FilingRecord
  facts : List FactRecord
  insiderTransactions : List InsiderTransactionRecord
  institutionalHoldings : List InstitutionalHoldingRecord
  distinctFilings : (filings.map FilingRecord.accessionNumber).Nodup
  distinctFacts : (facts.map FactRecord.key).Nodup
  distinctTransactions : (insiderTransactions.map InsiderTransactionRecord.key).Nodup
  distinctHoldings : (institutionalHoldings.map InstitutionalHoldingRecord.key).Nodup

def epochOrdinal : Int := 719163

/-- A minute of a day in UTC. -/
def minuteOf (date : Date) (hour minute : Int) : Instant :=
  (((date.ordinal - epochOrdinal) * 24 + hour) * 60 + minute) * 60000000

/-- `FIXTURE_PAYLOAD` -/
def fixturePayload : Fixture where
  company :=
    { cik := "0000320193", name := "Example Technology Inc.", tickers := ["EXM"], sic := "3571"
      submissionsUrl := "https://data.sec.gov/submissions/CIK0000320193.json"
      factsUrl := "https://data.sec.gov/api/xbrl/companyfacts/CIK0000320193.json" }
  filings :=
    [{ accessionNumber := "0000320193-26-000001", formType := "10-K"
       filingDate := ⟨2026, 2, 1, by decide⟩
       acceptedAt := minuteOf ⟨2026, 2, 1, by decide⟩ 21 15
       reportingPeriod := ⟨2025, 12, 31, by decide⟩
       sourceUrl := "https://www.sec.gov/Archives/edgar/data/320193/fixture-10k.htm"
       rawDocumentReference := "fixture://sec/0000320193-26-000001", isAmendment := false },
      { accessionNumber := "0000320193-26-000002", formType := "4"
        filingDate := ⟨2026, 2, 3, by decide⟩
        acceptedAt := minuteOf ⟨2026, 2, 3, by decide⟩ 22 5
        reportingPeriod := ⟨2026, 2, 2, by decide⟩
        sourceUrl := "https://www.sec.gov/Archives/edgar/data/320193/fixture-form4.xml"
        rawDocumentReference := "fixture://sec/0000320193-26-000002", isAmendment := false },
      { accessionNumber := "0000320193-26-000003", formType := "13F-HR"
        filingDate := ⟨2026, 2, 14, by decide⟩
        acceptedAt := minuteOf ⟨2026, 2, 14, by decide⟩ 19 30
        reportingPeriod := ⟨2025, 12, 31, by decide⟩
        sourceUrl := "https://www.sec.gov/Archives/edgar/data/320193/fixture-13f.xml"
        rawDocumentReference := "fixture://sec/0000320193-26-000003", isAmendment := false }]
  facts :=
    [{ accessionNumber := "0000320193-26-000001", taxonomy := "us-gaap", concept := "Revenues"
       unit := "USD", numericValue := 250000000, periodStart := ⟨2025, 1, 1, by decide⟩
       periodEnd := ⟨2025, 12, 31, by decide⟩
       filedAt := minuteOf ⟨2026, 2, 1, by decide⟩ 21 15 }]
  insiderTransactions :=
    [{ accessionNumber := "0000320193-26-000002", ownerName := "Jordan Example"
       relationship := "Director", transactionCode := "A", securityTitle := "Common Stock"
       transactionDate := ⟨2026, 2, 2, by decide⟩, shares := 100, price := some 0
       acquiredDisposed := "A" }]
  institutionalHoldings :=
    [{ accessionNumber := "0000320193-26-000003", issuerName := "Example Holdings Corp."
       cusip := "123456789", asOfDate := ⟨2025, 12, 31, by decide⟩, shares := 1200
       valueUsd := 180000, votingAuthority := [("sole", 1200), ("shared", 0), ("none", 0)] }]
  distinctFilings := by decide
  distinctFacts := by decide
  distinctTransactions := by decide
  distinctHoldings := by decide

/-- What an import is answered with; the checksum is taken of the rest. -/
structure Payload where
  company : CompanyRecord
  filings : List FilingRecord
  facts : List FactRecord
  insiderTransactions : List InsiderTransactionRecord
  institutionalHoldings : List InstitutionalHoldingRecord
  retrievedAt : Instant
  checksum : String
  edgartoolsVersion : String
  parserVersion : String
  deriving DecidableEq, Repr

/-- A `ValueError`. -/
structure ValueError where
  text : String
  deriving DecidableEq, Repr

structure Services where
  text : PythonText
  payloadChecksum : Payload -> String
  filingChecksum : FilingRecord -> String

section Adapter

variable (services : Services)

def normalizeCik (value : String) : Except ValueError String :=
  let digits := value.toList.filter services.text.isDigit
  if digits = [] ∨ 10 < digits.length then
    .error ⟨"CIK must contain between 1 and 10 digits"⟩
  else .ok (String.ofList (zfill 10 digits))

/-- No forms ask for all filings. -/
def requested (forms : List String) (filing : FilingRecord) : Bool :=
  forms.isEmpty || filing.formType ∈ forms

/-- The accession numbers of the filings of some forms. -/
def accepted (fixture : Fixture) (forms : List String) : List String :=
  (fixture.filings.filter (requested forms)).map FilingRecord.accessionNumber

/-- Noon of the first of March, 2026. -/
def retrievalTime : Instant := minuteOf ⟨2026, 3, 1, by decide⟩ 12 0

/-- The payload of an import, without a checksum. -/
def selectedPayload (fixture : Fixture) (forms : List String) : Payload where
  company := fixture.company
  filings := fixture.filings.filter (requested forms)
  facts := fixture.facts.filter fun fact => fact.accessionNumber ∈ accepted fixture forms
  insiderTransactions := fixture.insiderTransactions.filter fun transaction =>
    transaction.accessionNumber ∈ accepted fixture forms
  institutionalHoldings := fixture.institutionalHoldings.filter fun holding =>
    holding.accessionNumber ∈ accepted fixture forms
  retrievedAt := retrievalTime
  checksum := ""
  edgartoolsVersion := "5.43.1-fixture"
  parserVersion := "1.0"

def payloadOf (fixture : Fixture) (forms : List String) : Payload :=
  { selectedPayload fixture forms with
    checksum := services.payloadChecksum (selectedPayload fixture forms) }

/-- `FixtureSecAdapter.import_company` -/
def importCompany (fixture : Fixture) (cik : String) (forms : List String) :
    Except ValueError Payload :=
  match normalizeCik services cik with
  | .error failure => .error failure
  | .ok normalized =>
      if ¬ forms.all (· ∈ supportedForms) then
        .error ⟨"One or more SEC forms are unsupported"⟩
      else if normalized ≠ fixture.company.cik then .error ⟨"Fixture CIK is unavailable"⟩
      else .ok (payloadOf services fixture forms)

end Adapter

/-! ## The request -/

/-- A request that has passed its own validation. -/
structure SecImportRequest where
  cik : String
  forms : List String
  idempotencyKey : String
  cikLength : 1 ≤ cik.length ∧ cik.length ≤ 16
  supported : forms.all (· ∈ supportedForms) = true
  keyLength : 8 ≤ idempotencyKey.length ∧ idempotencyKey.length ≤ 120

/-! ## Rows -/

structure SecCompany where
  cik : String
  name : String
  tickers : List String
  sic : String
  submissionsUrl : String
  factsUrl : String
  retrievedAt : Instant
  sourceChecksum : String
  deriving DecidableEq, Repr

structure SecFiling where
  companyCik : String
  accessionNumber : String
  formType : String
  filingDate : Date
  acceptedAt : Instant
  reportingPeriod : Date
  sourceUrl : String
  retrievedAt : Instant
  contentChecksum : String
  rawDocumentReference : String
  parserVersion : String
  edgartoolsVersion : String
  isAmendment : Bool
  simulationEligibleAt : Instant
  deriving DecidableEq, Repr

structure SecDocument where
  filing : String
  sequence : Nat
  documentType : String
  sourceUrl : String
  contentReference : String
  contentChecksum : String
  deriving DecidableEq, Repr

/-- A job is known by its workspace and the key of its request. -/
abbrev JobKey := Identifier × String

structure SecParseResult where
  job : JobKey
  filing : String
  status : String
  parserVersion : String
  parserChecksum : String
  deriving DecidableEq, Repr

structure SecFact where
  companyCik : String
  filing : String
  taxonomy : String
  concept : String
  unit : String
  numericValue : Rat
  textValue : Option String
  periodStart : Date
  periodEnd : Date
  filedAt : Instant
  deriving DecidableEq, Repr

structure SecInsiderTransaction where
  companyCik : String
  filing : String
  ownerName : String
  relationship : String
  transactionCode : String
  securityTitle : String
  transactionDate : Date
  shares : Rat
  price : Option Rat
  acquiredDisposed : String
  deriving DecidableEq, Repr

structure SecInstitutionalHolding where
  filing : String
  companyCik : Option String
  issuerName : String
  cusip : String
  asOfDate : Date
  shares : Rat
  valueUsd : Rat
  votingAuthority : List (String × Nat)
  deriving DecidableEq, Repr

structure SecIngestionJob where
  workspaceId : Identifier
  requestedByUserId : Identifier
  cik : String
  forms : List String
  mode : String
  status : String
  idempotencyKey : String
  recordsProcessed : Nat
  requestedAt : Instant
  completedAt : Option Instant
  deriving DecidableEq, Repr

def SecIngestionJob.key (job : SecIngestionJob) : JobKey :=
  (job.workspaceId, job.idempotencyKey)

structure AuditEvent where
  actorUserId : Identifier
  workspaceId : Identifier
  action : String
  entityType : String
  entity : JobKey
  cik : String
  forms : List String
  networkAccess : Bool
  deriving DecidableEq, Repr

structure Tables where
  companies : List SecCompany
  filings : List SecFiling
  documents : List SecDocument
  parseResults : List SecParseResult
  facts : List SecFact
  insiderTransactions : List SecInsiderTransaction
  institutionalHoldings : List SecInstitutionalHolding
  jobs : List SecIngestionJob
  audits : List AuditEvent
  deriving DecidableEq, Repr

def noTables : Tables := ⟨[], [], [], [], [], [], [], [], []⟩

/-- What the import looks facts up by. -/
def SecFact.key (fact : SecFact) : String × String × Date :=
  (fact.filing, fact.concept, fact.periodEnd)

def SecInsiderTransaction.key (transaction : SecInsiderTransaction) : String × String :=
  (transaction.filing, transaction.ownerName)

def SecInstitutionalHolding.key (holding : SecInstitutionalHolding) : String × String :=
  (holding.filing, holding.cusip)

section Rows

variable (services : Services) (imported : Payload)

def companyRow : SecCompany where
  cik := imported.company.cik
  name := imported.company.name
  tickers := imported.company.tickers
  sic := imported.company.sic
  submissionsUrl := imported.company.submissionsUrl
  factsUrl := imported.company.factsUrl
  retrievedAt := imported.retrievedAt
  sourceChecksum := imported.checksum

def filingRow (value : FilingRecord) : SecFiling where
  companyCik := imported.company.cik
  accessionNumber := value.accessionNumber
  formType := value.formType
  filingDate := value.filingDate
  acceptedAt := value.acceptedAt
  reportingPeriod := value.reportingPeriod
  sourceUrl := value.sourceUrl
  retrievedAt := imported.retrievedAt
  contentChecksum := services.filingChecksum value
  rawDocumentReference := value.rawDocumentReference
  parserVersion := imported.parserVersion
  edgartoolsVersion := imported.edgartoolsVersion
  isAmendment := value.isAmendment
  simulationEligibleAt := value.acceptedAt

def documentRow (value : FilingRecord) : SecDocument where
  filing := value.accessionNumber
  sequence := 1
  documentType := value.formType
  sourceUrl := value.sourceUrl
  contentReference := value.rawDocumentReference
  contentChecksum := services.filingChecksum value

def parseRow (job : JobKey) (value : FilingRecord) : SecParseResult where
  job := job
  filing := value.accessionNumber
  status := "parsed"
  parserVersion := imported.parserVersion
  parserChecksum := services.filingChecksum value

def factRow (value : FactRecord) : SecFact where
  companyCik := imported.company.cik
  filing := value.accessionNumber
  taxonomy := value.taxonomy
  concept := value.concept
  unit := value.unit
  numericValue := value.numericValue
  textValue := none
  periodStart := value.periodStart
  periodEnd := value.periodEnd
  filedAt := value.filedAt

def insiderTransactionRow (value : InsiderTransactionRecord) : SecInsiderTransaction where
  companyCik := imported.company.cik
  filing := value.accessionNumber
  ownerName := value.ownerName
  relationship := value.relationship
  transactionCode := value.transactionCode
  securityTitle := value.securityTitle
  transactionDate := value.transactionDate
  shares := value.shares
  price := value.price
  acquiredDisposed := value.acquiredDisposed

def institutionalHoldingRow (value : InstitutionalHoldingRecord) : SecInstitutionalHolding where
  filing := value.accessionNumber
  companyCik := none
  issuerName := value.issuerName
  cusip := value.cusip
  asOfDate := value.asOfDate
  shares := value.shares
  valueUsd := value.valueUsd
  votingAuthority := value.votingAuthority

end Rows

/-! ## The import -/

structure Call where
  workspaceId : Identifier
  userId : Identifier
  request : SecImportRequest
  now : Instant

def Call.key (call : Call) : JobKey := (call.workspaceId, call.request.idempotencyKey)

/-- What a request is refused with, or raises. -/
inductive Failure where
  | valueError (text : String)
  | httpException (status : Nat) (detail : String)
  deriving DecidableEq, Repr

section Import

variable (services : Services)

def importCompanyRow (imported : Payload) (tables : Tables) : Tables :=
  if imported.company.cik ∈ tables.companies.map SecCompany.cik then tables
  else { tables with companies := tables.companies ++ [companyRow imported] }

def importFiling (imported : Payload) (job : JobKey) (tables : Tables) (value : FilingRecord) :
    Tables :=
  if value.accessionNumber ∈ tables.filings.map SecFiling.accessionNumber then tables
  else
    { tables with
      filings := tables.filings ++ [filingRow services imported value]
      documents := tables.documents ++ [documentRow services value]
      parseResults := tables.parseResults ++ [parseRow services imported job value] }

/-- The facts, transactions and holdings are looked up before any of them is flushed.  The adapter
leaves out those of other filings, so that their filings are all found. -/
def importRecords (imported : Payload) (tables : Tables) : Tables :=
  { tables with
    facts := tables.facts ++
      (missing FactRecord.key SecFact.key tables.facts imported.facts).map (factRow imported)
    insiderTransactions := tables.insiderTransactions ++
      (missing InsiderTransactionRecord.key SecInsiderTransaction.key tables.insiderTransactions
        imported.insiderTransactions).map (insiderTransactionRow imported)
    institutionalHoldings := tables.institutionalHoldings ++
      (missing InstitutionalHoldingRecord.key SecInstitutionalHolding.key
        tables.institutionalHoldings imported.institutionalHoldings).map
          institutionalHoldingRow }

def importPayload (imported : Payload) (job : JobKey) (tables : Tables) : Tables :=
  importRecords imported
    (imported.filings.foldl (importFiling services imported job) (importCompanyRow imported tables))

def completedJob (call : Call) (cik : String) (imported : Payload) : SecIngestionJob where
  workspaceId := call.workspaceId
  requestedByUserId := call.userId
  cik := cik
  forms := call.request.forms
  mode := "fixture"
  status := "completed"
  idempotencyKey := call.request.idempotencyKey
  recordsProcessed := imported.filings.length
  requestedAt := call.now
  completedAt := some call.now

def completedEvent (job : SecIngestionJob) : AuditEvent where
  actorUserId := job.requestedByUserId
  workspaceId := job.workspaceId
  action := "sec.import.completed"
  entityType := "sec_ingestion_job"
  entity := job.key
  cik := job.cik
  forms := job.forms
  networkAccess := false

/-- `create_import`; what the adapter raises rolls the job back. -/
def createImport (fixture : Fixture) (tables : Tables) (call : Call) :
    Except Failure SecIngestionJob × Tables :=
  match Foundations.Tables.lookup SecIngestionJob.key call.key tables.jobs with
  | some existing => (.ok existing, tables)
  | none =>
      match normalizeCik services call.request.cik with
      | .error failure => (.error (.valueError failure.text), tables)
      | .ok cik =>
          match importCompany services fixture cik call.request.forms with
          | .error failure => (.error (.httpException 422 failure.text), tables)
          | .ok imported =>
              let job := completedJob call cik imported
              let stored := importPayload services imported job.key tables
              (.ok job, { stored with
                jobs := stored.jobs ++ [job]
                audits := stored.audits ++ [completedEvent job] })

/-- The tables after some requests, one after the other. -/
def importAll (fixture : Fixture) (calls : List Call) (tables : Tables) : Tables :=
  calls.foldl (fun state call => (createImport services fixture state call).2) tables

end Import

end SecIntelligence
end MarketIntelligence
