import MarketIntelligence.SecIntelligence.Imports

namespace MarketIntelligence
namespace SecIntelligence

open Foundations
open Foundations.CalendarDates (Date)
open Foundations.Catalogues

/-!
# Imports converge

After any requests the tables are told by the requests that were granted: a job for the first
request of each key, and the filings that some job has asked for, with all that belongs to them.
Each filing has one document and one parse result, of the first job that has asked for it.

The order of the requests shows in two columns only: the source checksum of the company, which is
taken of the payload of the first job, and the job of a parse result.
-/

section Converge

variable (services : Services) (fixture : Fixture)

/-! ## What requests ask for -/

/-- The request is accepted by the adapter. -/
def granted (call : Call) : Bool :=
  match normalizeCik services call.request.cik with
  | .error _ => false
  | .ok cik =>
      match importCompany services fixture cik call.request.forms with
      | .error _ => false
      | .ok _ => true

/-- The job of a granted request. -/
def jobOf (call : Call) : SecIngestionJob :=
  completedJob call ((normalizeCik services call.request.cik).toOption.getD "")
    (payloadOf services fixture call.request.forms)

/-- Some job has asked for the filing. -/
def covered (jobs : List SecIngestionJob) (filing : FilingRecord) : Bool :=
  jobs.any fun job => requested job.forms filing

/-- Some job has asked for the filing of the number. -/
def coveredNumber (jobs : List SecIngestionJob) (accessionNumber : String) : Bool :=
  jobs.any fun job => accessionNumber ∈ accepted fixture job.forms

/-- The first job that has asked for the filing. -/
def firstImport (jobs : List SecIngestionJob) (filing : FilingRecord) : JobKey :=
  ((jobs.find? fun job => requested job.forms filing).map SecIngestionJob.key).getD (0, "")

/-- The tables are told by the requests: which jobs, companies, filings and documents there are,
and of which request each of them comes. -/
structure Imported (calls : List Call) (tables : Tables) : Prop where
  jobs : tables.jobs = (Foundations.Tables.firsts Call.key []
    (calls.filter (granted services fixture))).map (jobOf services fixture)
  audits : tables.audits = tables.jobs.map completedEvent
  companies : tables.companies = (tables.jobs.head?.map fun job =>
    companyRow (payloadOf services fixture job.forms)).toList
  filings : Holds fixture.filings (filingRow services (payloadOf services fixture []))
    (covered tables.jobs) tables.filings
  documents : Holds fixture.filings (documentRow services) (covered tables.jobs) tables.documents
  parseResults : Holds fixture.filings (fun filing =>
      parseRow services (payloadOf services fixture []) (firstImport tables.jobs filing) filing)
    (covered tables.jobs) tables.parseResults
  facts : Holds fixture.facts (factRow (payloadOf services fixture []))
    (fun fact => coveredNumber fixture tables.jobs fact.accessionNumber) tables.facts
  insiderTransactions : Holds fixture.insiderTransactions
    (insiderTransactionRow (payloadOf services fixture []))
    (fun transaction => coveredNumber fixture tables.jobs transaction.accessionNumber)
    tables.insiderTransactions
  institutionalHoldings : Holds fixture.institutionalHoldings institutionalHoldingRow
    (fun holding => coveredNumber fixture tables.jobs holding.accessionNumber)
    tables.institutionalHoldings

variable {services fixture}

variable (services fixture) in
theorem noTables_imported : Imported services fixture [] noTables where
  jobs := rfl
  audits := rfl
  companies := rfl
  filings := Holds.empty _ _
  documents := Holds.empty _ _
  parseResults := Holds.empty _ _
  facts := Holds.empty _ _
  insiderTransactions := Holds.empty _ _
  institutionalHoldings := Holds.empty _ _

/-! ## One import -/

theorem importCompany_ok {cik : String} {forms : List String} {imported : Payload}
    (done : importCompany services fixture cik forms = .ok imported) :
    imported = payloadOf services fixture forms := by
  unfold importCompany at done
  split at done
  · cases done
  · split at done
    · cases done
    · split at done
      · cases done
      · cases done
        rfl

/-- The loop over the filings adds the missing ones, each with its document and its result. -/
theorem foldl_importFiling {imported : Payload} {job : JobKey} {values : List FilingRecord}
    (distinct : (values.map FilingRecord.accessionNumber).Nodup) (tables : Tables) :
    values.foldl (importFiling services imported job) tables =
      { tables with
        filings := tables.filings ++ (missing FilingRecord.accessionNumber
          SecFiling.accessionNumber tables.filings values).map (filingRow services imported)
        documents := tables.documents ++ (missing FilingRecord.accessionNumber
          SecFiling.accessionNumber tables.filings values).map (documentRow services)
        parseResults := tables.parseResults ++ (missing FilingRecord.accessionNumber
          SecFiling.accessionNumber tables.filings values).map
            (parseRow services imported job) } := by
  induction values generalizing tables with
  | nil =>
      simp only [missing, List.filter_nil, List.map_nil, List.append_nil]
      rfl
  | cons head tail ih =>
      rw [List.map_cons, List.nodup_cons] at distinct
      rw [List.foldl_cons, ih distinct.2]
      have apart : forall value, value ∈ tail ->
          value.accessionNumber ≠ (filingRow services imported head).accessionNumber := by
        intro value member same
        have named : value.accessionNumber = head.accessionNumber := same
        apply distinct.1
        rw [← named]
        exact List.mem_map_of_mem member
      rw [missing_cons]
      by_cases known : head.accessionNumber ∈ tables.filings.map SecFiling.accessionNumber
      · rw [importFiling, if_pos known, if_pos known]
      · rw [importFiling, if_neg known, if_neg known]
        simp only [missing_append_row apart, List.map_cons, List.append_assoc,
          List.singleton_append]

theorem importCompanyRow_others (imported : Payload) (tables : Tables) :
    importCompanyRow imported tables =
      { tables with companies := (importCompanyRow imported tables).companies } := by
  unfold importCompanyRow
  split
  · rfl
  · rfl

/-- What an import adds to the tables. -/
theorem importPayload_eq {imported : Payload}
    (distinct : (imported.filings.map FilingRecord.accessionNumber).Nodup) (job : JobKey)
    (tables : Tables) :
    importPayload services imported job tables = importRecords imported
      { tables with
        companies := (importCompanyRow imported tables).companies
        filings := tables.filings ++ (missing FilingRecord.accessionNumber
          SecFiling.accessionNumber tables.filings imported.filings).map
            (filingRow services imported)
        documents := tables.documents ++ (missing FilingRecord.accessionNumber
          SecFiling.accessionNumber tables.filings imported.filings).map (documentRow services)
        parseResults := tables.parseResults ++ (missing FilingRecord.accessionNumber
          SecFiling.accessionNumber tables.filings imported.filings).map
            (parseRow services imported job) } := by
  rw [importPayload, foldl_importFiling distinct, importCompanyRow_others]

variable (services fixture) in
/-- The three things that a request can come to. -/
inductive Answered (tables : Tables) (call : Call) : Tables -> Prop where
  | known (used : call.key ∈ tables.jobs.map SecIngestionJob.key) : Answered tables call tables
  | refused (unused : call.key ∉ tables.jobs.map SecIngestionJob.key)
      (not : granted services fixture call = false) : Answered tables call tables
  | stored (unused : call.key ∉ tables.jobs.map SecIngestionJob.key)
      (accept : granted services fixture call = true) :
      Answered tables call
        (let stored := importPayload services (payloadOf services fixture call.request.forms)
          call.key tables
        { stored with
          jobs := stored.jobs ++ [jobOf services fixture call]
          audits := stored.audits ++ [completedEvent (jobOf services fixture call)] })

variable (services fixture) in
theorem createImport_answered (tables : Tables) (call : Call) :
    Answered services fixture tables call (createImport services fixture tables call).2 := by
  unfold createImport
  cases found : Foundations.Tables.lookup SecIngestionJob.key call.key tables.jobs with
  | some existing =>
      rcases Foundations.Tables.lookup_some found with ⟨member, same⟩
      apply Answered.known
      rw [← same]
      exact List.mem_map_of_mem member
  | none =>
      have unused : call.key ∉ tables.jobs.map SecIngestionJob.key :=
        Foundations.Tables.lookup_isNone_iff.mp (Option.isNone_iff_eq_none.mpr found)
      dsimp only
      cases normalized : normalizeCik services call.request.cik with
      | error failure =>
          apply Answered.refused unused
          rw [granted, normalized]
      | ok cik =>
          dsimp only
          cases answer : importCompany services fixture cik call.request.forms with
          | error failure =>
              apply Answered.refused unused
              rw [granted, normalized]
              dsimp only
              rw [answer]
          | ok imported =>
              have accept : granted services fixture call = true := by
                rw [granted, normalized]
                dsimp only
                rw [answer]
              have job : jobOf services fixture call = completedJob call cik
                  (payloadOf services fixture call.request.forms) := by
                rw [jobOf, normalized]
                rfl
              have result := Answered.stored unused accept
              rw [job] at result
              rw [importCompany_ok answer]
              exact result

/-! ## What is covered -/

theorem covered_append (jobs : List SecIngestionJob) (job : SecIngestionJob)
    (filing : FilingRecord) :
    covered (jobs ++ [job]) filing = (covered jobs filing || requested job.forms filing) := by
  rw [covered, List.any_append, List.any_cons, List.any_nil, Bool.or_false, covered]

theorem coveredNumber_append (jobs : List SecIngestionJob) (job : SecIngestionJob)
    (number : String) :
    coveredNumber fixture (jobs ++ [job]) number =
      (coveredNumber fixture jobs number || decide (number ∈ accepted fixture job.forms)) := by
  rw [coveredNumber, List.any_append, List.any_cons, List.any_nil, Bool.or_false, coveredNumber]

/-- A filing stays with the first job that has asked for it. -/
theorem firstImport_append {jobs : List SecIngestionJob} {filing : FilingRecord}
    (before : covered jobs filing = true) (job : SecIngestionJob) :
    firstImport (jobs ++ [job]) filing = firstImport jobs filing := by
  rcases List.any_eq_true.mp before with ⟨earlier, member, asked⟩
  have found : (jobs.find? fun job => requested job.forms filing).isSome = true :=
    List.find?_isSome.mpr ⟨earlier, member, asked⟩
  rw [firstImport, firstImport, List.find?_append, Option.or_of_isSome found]

theorem firstImport_new {jobs : List SecIngestionJob} {filing : FilingRecord}
    {job : SecIngestionJob} (before : covered jobs filing = false)
    (asks : requested job.forms filing = true) :
    firstImport (jobs ++ [job]) filing = job.key := by
  have none : jobs.find? (fun job => requested job.forms filing) = none := by
    apply List.find?_eq_none.mpr
    intro earlier member asked
    exact Bool.false_ne_true (before.symm.trans (List.any_eq_true.mpr ⟨earlier, member, asked⟩))
  rw [firstImport, List.find?_append, none, Option.none_or, List.find?_cons, asks]
  rfl

/-! ## One more request -/

theorem firsts_known {calls : List Call} {call : Call}
    (used : call.key ∈ (Foundations.Tables.firsts Call.key [] calls).map Call.key) :
    Foundations.Tables.firsts Call.key [] (calls ++ [call]) =
      Foundations.Tables.firsts Call.key [] calls := by
  rw [Foundations.Tables.firsts_append, List.nil_append, Foundations.Tables.firsts_cons,
    if_pos used]
  exact List.append_nil _

theorem firsts_new {calls : List Call} {call : Call}
    (unused : call.key ∉ (Foundations.Tables.firsts Call.key [] calls).map Call.key) :
    Foundations.Tables.firsts Call.key [] (calls ++ [call]) =
      Foundations.Tables.firsts Call.key [] calls ++ [call] := by
  rw [Foundations.Tables.firsts_append, List.nil_append, Foundations.Tables.firsts_cons,
    if_neg unused]
  rfl

theorem Imported.keys {calls : List Call} {tables : Tables}
    (imported : Imported services fixture calls tables) :
    tables.jobs.map SecIngestionJob.key = (Foundations.Tables.firsts Call.key []
      (calls.filter (granted services fixture))).map Call.key := by
  rw [imported.jobs, List.map_map]
  rfl

/-- A request that is answered with a job of its key, or refused, changes nothing. -/
theorem Imported.same {calls : List Call} {tables : Tables}
    (imported : Imported services fixture calls tables) {call : Call}
    (passed : granted services fixture call = false ∨
      call.key ∈ tables.jobs.map SecIngestionJob.key) :
    Imported services fixture (calls ++ [call]) tables := by
  refine { imported with jobs := ?_ }
  rw [List.filter_append, List.filter_cons, List.filter_nil]
  cases accept : granted services fixture call with
  | false =>
      rw [if_neg Bool.false_ne_true, List.append_nil]
      exact imported.jobs
  | true =>
      have used : call.key ∈ tables.jobs.map SecIngestionJob.key := by
        refine passed.resolve_left fun refused => ?_
        rw [accept] at refused
        cases refused
      rw [imported.keys] at used
      rw [if_pos rfl, firsts_known used]
      exact imported.jobs

section Stored

variable {calls : List Call} {tables : Tables} {call : Call}

/-- The filings of an import that are new are those that no job has asked for. -/
theorem Imported.missing_filings (imported : Imported services fixture calls tables)
    (forms : List String) :
    missing FilingRecord.accessionNumber SecFiling.accessionNumber tables.filings
        (payloadOf services fixture forms).filings =
      fixture.filings.filter fun filing =>
        requested forms filing && !covered tables.jobs filing :=
  imported.filings.missing_eq (fun _ => rfl) fixture.distinctFilings

theorem Imported.parsed (imported : Imported services fixture calls tables)
    (job : SecIngestionJob) :
    Holds fixture.filings (fun filing =>
        parseRow services (payloadOf services fixture []) (firstImport (tables.jobs ++ [job]) filing)
          filing)
      (covered (tables.jobs ++ [job]))
      (tables.parseResults ++ (fixture.filings.filter fun filing =>
        requested job.forms filing && !covered tables.jobs filing).map
          (parseRow services (payloadOf services fixture job.forms) job.key)) := by
  have kept : Holds fixture.filings (fun filing => parseRow services
      (payloadOf services fixture []) (firstImport (tables.jobs ++ [job]) filing) filing)
      (covered tables.jobs) tables.parseResults := by
    apply imported.parseResults.image_congr
    intro filing _ before
    rw [firstImport_append before]
  have same : (fixture.filings.filter fun filing =>
        requested job.forms filing && !covered tables.jobs filing).map (fun filing =>
          parseRow services (payloadOf services fixture [])
            (firstImport (tables.jobs ++ [job]) filing) filing) =
      (fixture.filings.filter fun filing =>
        requested job.forms filing && !covered tables.jobs filing).map
          (parseRow services (payloadOf services fixture job.forms) job.key) := by
    apply List.map_congr_left
    intro filing member
    have chosen := (List.mem_filter.mp member).2
    rw [Bool.and_eq_true, Bool.not_eq_true'] at chosen
    rw [firstImport_new chosen.2 chosen.1]
    rfl
  rw [← same]
  exact kept.append.congr fun filing _ => (covered_append tables.jobs job filing).symm

/-- The company is stored by the first job. -/
theorem Imported.company (imported : Imported services fixture calls tables)
    (job : SecIngestionJob) :
    (importCompanyRow (payloadOf services fixture job.forms) tables).companies =
      ((tables.jobs ++ [job]).head?.map fun first =>
        companyRow (payloadOf services fixture first.forms)).toList := by
  have companies := imported.companies
  unfold importCompanyRow
  cases jobs : tables.jobs with
  | nil =>
      rw [jobs] at companies
      rw [if_neg]
      · rw [companies]
        rfl
      · rw [companies]
        exact List.not_mem_nil
  | cons first rest =>
      rw [jobs] at companies
      rw [if_pos]
      · rw [companies]
        rfl
      · rw [companies]
        exact List.mem_singleton.mpr rfl

theorem Imported.stored (imported : Imported services fixture calls tables)
    (accept : granted services fixture call = true)
    (unused : call.key ∉ tables.jobs.map SecIngestionJob.key) :
    Imported services fixture (calls ++ [call])
      (let stored := importPayload services (payloadOf services fixture call.request.forms)
        call.key tables
      { stored with
        jobs := stored.jobs ++ [jobOf services fixture call]
        audits := stored.audits ++ [completedEvent (jobOf services fixture call)] }) := by
  have distinct : ((payloadOf services fixture call.request.forms).filings.map
      FilingRecord.accessionNumber).Nodup :=
    fixture.distinctFilings.sublist (List.filter_sublist.map _)
  have number : forall number : String,
      (coveredNumber fixture tables.jobs number ||
        decide (number ∈ accepted fixture call.request.forms)) =
        coveredNumber fixture (tables.jobs ++ [jobOf services fixture call]) number :=
    fun number => (coveredNumber_append tables.jobs (jobOf services fixture call) number).symm
  have new := imported.missing_filings call.request.forms
  rw [importPayload_eq distinct]
  refine
    { jobs := ?_, audits := ?_
      companies := imported.company (jobOf services fixture call)
      filings := (imported.filings.takeOver (fun _ => rfl) fixture.distinctFilings).congr
        fun filing _ => (covered_append tables.jobs (jobOf services fixture call) filing).symm
      documents := ?_, parseResults := ?_
      facts := (imported.facts.takeOver (fun _ => rfl) fixture.distinctFacts).congr
        fun fact _ => number fact.accessionNumber
      insiderTransactions := (imported.insiderTransactions.takeOver (fun _ => rfl)
        fixture.distinctTransactions).congr fun transaction _ => number transaction.accessionNumber
      institutionalHoldings := (imported.institutionalHoldings.takeOver (fun _ => rfl)
        fixture.distinctHoldings).congr fun holding _ => number holding.accessionNumber }
  · rw [imported.keys] at unused
    rw [List.filter_append, List.filter_cons, accept, if_pos rfl, List.filter_nil,
      firsts_new unused, List.map_append, List.map_singleton, ← imported.jobs]
    rfl
  · change tables.audits ++ _ = (tables.jobs ++ _).map completedEvent
    rw [List.map_append, imported.audits, List.map_singleton]
  · change Holds fixture.filings (documentRow services) _ (tables.documents ++ _)
    rw [new]
    exact imported.documents.append.congr fun filing _ =>
      (covered_append tables.jobs (jobOf services fixture call) filing).symm
  · change Holds fixture.filings _ _ (tables.parseResults ++ _)
    rw [new]
    exact imported.parsed (jobOf services fixture call)

end Stored

/-! ## All requests -/

theorem createImport_imported {calls : List Call} {tables : Tables}
    (imported : Imported services fixture calls tables) (call : Call) :
    Imported services fixture (calls ++ [call]) (createImport services fixture tables call).2 := by
  have answered := createImport_answered services fixture tables call
  generalize (createImport services fixture tables call).2 = next at answered
  cases answered with
  | known used => exact imported.same (Or.inr used)
  | refused unused not => exact imported.same (Or.inl not)
  | stored unused accept => exact imported.stored accept unused

theorem importAll_imported {calls : List Call} {tables : Tables}
    (imported : Imported services fixture calls tables) (more : List Call) :
    Imported services fixture (calls ++ more) (importAll services fixture more tables) := by
  induction more generalizing calls tables with
  | nil =>
      rw [List.append_nil]
      exact imported
  | cons head tail ih =>
      have after := ih (createImport_imported imported head)
      rw [List.append_assoc] at after
      exact after

/-- A company without the checksum of the payload it came with. -/
def SecCompany.unchecked (company : SecCompany) : SecCompany :=
  { company with sourceChecksum := "" }

/-- A parse result without its job. -/
def SecParseResult.jobless (result : SecParseResult) : SecParseResult :=
  { result with job := (0, "") }

/-- The two have the same rows, in any order, but for the checksum of the company and the jobs of
the parse results. -/
structure SameRecords (first second : Tables) : Prop where
  jobs : first.jobs.Perm second.jobs
  audits : first.audits.Perm second.audits
  companies : first.companies.map SecCompany.unchecked =
    second.companies.map SecCompany.unchecked
  filings : first.filings.Perm second.filings
  documents : first.documents.Perm second.documents
  parseResults : (first.parseResults.map SecParseResult.jobless).Perm
    (second.parseResults.map SecParseResult.jobless)
  facts : first.facts.Perm second.facts
  insiderTransactions : first.insiderTransactions.Perm second.insiderTransactions
  institutionalHoldings : first.institutionalHoldings.Perm second.institutionalHoldings

/-- Without its checksum, the company is the same whatever the first job has asked for. -/
theorem Imported.unchecked {calls : List Call} {tables : Tables}
    (imported : Imported services fixture calls tables) :
    tables.companies.map SecCompany.unchecked =
      if tables.jobs = [] then [] else [(companyRow (payloadOf services fixture [])).unchecked] := by
  rw [imported.companies]
  cases tables.jobs with
  | nil => rfl
  | cons head tail => rfl

/-- Without their jobs, the parse results are told by the filings alone. -/
theorem Imported.jobless {calls : List Call} {tables : Tables}
    (imported : Imported services fixture calls tables) :
    Holds fixture.filings (fun filing =>
        parseRow services (payloadOf services fixture []) (0, "") filing)
      (covered tables.jobs) (tables.parseResults.map SecParseResult.jobless) := by
  have mapped := imported.parseResults.map SecParseResult.jobless
  rw [List.map_map] at mapped
  exact mapped

/-- Tables of the same jobs have the same records. -/
theorem Imported.sameRecords {calls more : List Call} {first second : Tables}
    (imported : Imported services fixture calls first)
    (other : Imported services fixture more second) (same : first.jobs.Perm second.jobs) :
    SameRecords first second where
  jobs := same
  audits := by
    rw [imported.audits, other.audits]
    exact same.map completedEvent
  companies := by
    have empty : first.jobs = [] <-> second.jobs = [] := by
      rw [← List.length_eq_zero_iff, ← List.length_eq_zero_iff, same.length_eq]
    rw [imported.unchecked, other.unchecked]
    simp only [empty]
  filings := (imported.filings.congr fun _ _ => same.any_eq).perm other.filings
  documents := (imported.documents.congr fun _ _ => same.any_eq).perm other.documents
  parseResults := (imported.jobless.congr fun _ _ => same.any_eq).perm other.jobless
  facts := (imported.facts.congr fun _ _ => same.any_eq).perm other.facts
  insiderTransactions :=
    (imported.insiderTransactions.congr fun _ _ => same.any_eq).perm other.insiderTransactions
  institutionalHoldings :=
    (imported.institutionalHoldings.congr fun _ _ => same.any_eq).perm
      other.institutionalHoldings

/-- With keys of their own, all granted requests have a job. -/
theorem Imported.jobs_of_distinct {calls : List Call} {tables : Tables}
    (imported : Imported services fixture calls tables)
    (distinct : ((calls.filter (granted services fixture)).map Call.key).Nodup) :
    tables.jobs = (calls.filter (granted services fixture)).map (jobOf services fixture) := by
  have all : (calls.filter (granted services fixture)).filter (fun _ => true) =
      calls.filter (granted services fixture) := List.filter_true _
  rw [imported.jobs, ← Foundations.Tables.filter_eq_firsts
    (fun _ => ⟨fun _ => List.not_mem_nil, fun _ => rfl⟩) (by rw [all]; exact distinct), all]

end Converge

/-! ## Two requests -/

/-- The checksum of a payload tells which filings are in it. -/
def plainServices : Services where
  text := { isSpace := Char.isWhitespace, isDigit := Char.isDigit, casefold := id, upper := id }
  payloadChecksum := fun imported =>
    String.intercalate "," (imported.filings.map FilingRecord.accessionNumber)
  filingChecksum := FilingRecord.accessionNumber

/-- The forms are asked for in two workspaces. -/
def twoCalls : List Call :=
  [{ workspaceId := 1, userId := 1, now := 0
     request := ⟨"CIK 320193", ["10-K"], "import-1", by decide, by decide, by decide⟩ },
    { workspaceId := 2, userId := 2, now := 1
      request := ⟨"320193", ["10-K", "4"], "import-1", by decide, by decide, by decide⟩ }]

example : ((importAll plainServices fixturePayload twoCalls noTables).filings.map
    SecFiling.formType) = ["10-K", "4"] := by
  decide +kernel

end SecIntelligence
end MarketIntelligence
