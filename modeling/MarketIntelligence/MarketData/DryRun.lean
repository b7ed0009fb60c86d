import MarketIntelligence.MarketData.Convergence

namespace MarketIntelligence
namespace MarketData

open Foundations
open Loops

/-!
# What a dry run writes

A dry run inserts no bar and publishes no capability, whatever the provider answers and
however the run ends.  It does resolve its assets and store the corporate actions it is
given, so it may add rows to the other canonical tables, behind the stored ones.

Everything else it writes belongs to its job, its provider or the source of its provider.
-/

/-- What a dry run of the request leaves, apart from the fleet: bars, capabilities, calendar and
events as they were, and every other write in the rows of its job, of its provider and of its
source. -/
structure Confined (request : ImportRequest) (source : String) (before after : Database) :
    Prop where
  bars : after.rows.bars = before.rows.bars
  capabilities : after.rows.capabilities = before.rows.capabilities
  kept : before.rows.Grows after.rows
  calendar : after.calendar = before.calendar
  events : after.events = before.events
  identities : after.fixed.providers = before.fixed.providers
  providers : after.providers.filter (·.id ≠ request.providerId) =
    before.providers.filter (·.id ≠ request.providerId)
  rateLimits : after.rateLimits.filter (·.providerId ≠ request.providerId) =
    before.rateLimits.filter (·.providerId ≠ request.providerId)
  sources : after.sources.filter (·.name ≠ source) = before.sources.filter (·.name ≠ source)
  jobs : after.jobs.filter (·.id ≠ request.id) = before.jobs.filter (·.id ≠ request.id)
  batches : after.batches.filter (·.jobId ≠ request.id) =
    before.batches.filter (·.jobId ≠ request.id)
  errors : exists added, after.errors = before.errors ++ added ∧
    forall error, error ∈ added -> error.jobId = request.id

theorem Confined.refl (request : ImportRequest) (source : String) (database : Database) :
    Confined request source database database where
  bars := rfl
  capabilities := rfl
  kept := .refl _
  calendar := rfl
  events := rfl
  identities := rfl
  providers := rfl
  rateLimits := rfl
  sources := rfl
  jobs := rfl
  batches := rfl
  errors := ⟨[], (List.append_nil _).symm, fun _ impossible => by cases impossible⟩

section Writes

variable {context : Context} {origin database after : Database}

/-- A change of the rows of one key does not show among the others. -/
theorem filter_others {α κ : Type} [DecidableEq κ] (key : α -> κ) (own : κ) (change : α -> α)
    (same : forall row, key (change row) = key row) (rows : List α) :
    (rows.map fun row => if key row = own then change row else row).filter (key · ≠ own) =
      rows.filter (key · ≠ own) := by
  apply Tables.filter_map_unselected
  · intro row others
    exact if_neg (of_decide_eq_true others)
  · intro row mine
    have here : key row = own := Classical.not_not.mp (of_decide_eq_false mine)
    rw [if_pos here, same]
    exact mine

/-- A batch of the job is written. -/
theorem filter_batches {batch : ImportBatch} {jobId : Identifier} (own : batch.jobId = jobId)
    (batches : List ImportBatch) :
    (Tables.put ImportBatch.identity batch batches).filter (·.jobId ≠ jobId) =
      batches.filter (·.jobId ≠ jobId) := by
  apply Tables.filter_put_unselected
  intro other same
  have mine : other.jobId = jobId := (congrArg Prod.fst same).trans own
  exact decide_eq_false fun different => different mine

/-- No write of a run leaves its confines. -/
theorem Write.confined (write : Write context database after)
    (confined : Confined context.request context.source origin database) :
    Confined context.request context.source origin after := by
  have touched : forall (change : Provider -> Provider) (changeSource : DataSource -> DataSource),
      (forall row, ((change row).id, (change row).code, (change row).isEnabled) =
        (row.id, row.code, row.isEnabled)) ->
      (forall row, (changeSource row).name = row.name) ->
      forall rateLimits : List ProviderRateLimitState,
      rateLimits.filter (·.providerId ≠ context.request.providerId) =
        database.rateLimits.filter (·.providerId ≠ context.request.providerId) ->
      Confined context.request context.source origin
        { database with
          rateLimits := rateLimits
          providers := database.providers.map fun row =>
            if row.id = context.request.providerId then change row else row
          sources := database.sources.map fun row =>
            if row.name = context.source then changeSource row else row } := by
    intro change changeSource same named rateLimits others
    exact
      { confined with
        identities := by
          refine Eq.trans ?_ confined.identities
          apply providers_fixed
          intro row
          split
          · exact same row
          · rfl
        providers := (filter_others (·.id) _ change (fun row => congrArg (·.1) (same row)) _).trans
          confined.providers
        rateLimits := others.trans confined.rateLimits
        sources := (filter_others (·.name) _ changeSource named _).trans confined.sources }
  cases write with
  | error error own =>
      rcases confined.errors with ⟨added, appended, mine⟩
      refine { confined with errors := ⟨added ++ [error], ?_, ?_⟩ }
      · rw [← List.append_assoc, ← appended]
      · intro other member
        rcases List.mem_append.mp member with old | new
        · exact mine other old
        · rw [List.mem_singleton.mp new]
          exact own
  | health health =>
      exact touched (fun row => { row with health := health })
        (fun row => { row with health := health }) (by intro _; rfl) (by intro _; rfl)
        database.rateLimits rfl
  | recovery =>
      exact touched (fun row => { row with lastSuccessfulImportAt := some context.finishedAt })
        (fun row => { row with lastSuccessfulRetrieval := some context.finishedAt })
        (by intro _; rfl) (by intro _; rfl) _ (filter_others _ _ _ (by intro _; rfl) _)
  | limit delay =>
      refine { confined with rateLimits := Eq.trans ?_ confined.rateLimits }
      apply Tables.filter_put_unselected
      intro other same
      have known : ((Tables.lookup (·.providerId) context.request.providerId
          database.rateLimits).getD ⟨context.request.providerId, none, none, 0, none⟩).providerId =
            context.request.providerId := by
        cases found : Tables.lookup (·.providerId) context.request.providerId
            database.rateLimits with
        | none => rfl
        | some row => exact (Tables.lookup_some found).2
      exact decide_eq_false fun different => different (same.trans known)
  | opened sequence batch own =>
      exact { confined with
        batches := (filter_batches (congrArg Prod.fst own) _).trans confined.batches }
  | batch sequence change same =>
      unfold changeBatch
      cases found : Tables.lookup ImportBatch.identity (context.request.id, sequence)
          database.batches with
      | none => exact confined
      | some batch =>
          have own : (change batch).jobId = context.request.id :=
            (congrArg Prod.fst (same batch)).trans (congrArg Prod.fst (Tables.lookup_some found).2)
          exact { confined with batches := (filter_batches own _).trans confined.batches }

/-- A dry run keeps its confines, with nothing to flush that it must not write. -/
theorem confined_invariant (dry : context.request.dryRun = true) (origin : Database) :
    RunInvariant context fun database pending =>
      Confined context.request context.source origin database ∧
        pending.bars = [] ∧ pending.capabilities = [] where
  stores := fun database =>
    { adds := by
        intro store rows addable holds
        rcases holds with ⟨confined, bars, capabilities⟩
        refine ⟨confined, ?_, ?_⟩
        · simp only [Canonical.append, bars, addable.bars dry, List.append_nil]
        · simp only [Canonical.append, capabilities, addable.capabilities, List.append_nil]
      flushes := by
        intro store _ holds
        rcases holds with ⟨confined, bars, capabilities⟩
        refine ⟨?_, rfl, rfl⟩
        have flushedBars : (store.stored.append store.pending).bars = store.stored.bars := by
          simp only [Canonical.append, bars, List.append_nil]
        have flushedCapabilities :
            (store.stored.append store.pending).capabilities = store.stored.capabilities := by
          simp only [Canonical.append, capabilities, List.append_nil]
        exact { confined with
          bars := flushedBars.trans confined.bars
          capabilities := flushedCapabilities.trans confined.capabilities
          kept := confined.kept.trans (.append store.stored store.pending) }
      publishes := fun real => by
        rw [dry] at real
        cases real }
  empties := fun _ _ holds => ⟨holds.1, rfl, rfl⟩
  writes := fun _ _ _ write holds => ⟨write.confined holds.1, holds.2⟩

end Writes

/-! ## The call -/

section Call

variable {library : Library} {surroundings : Surroundings} {job : ImportJob} {database : Database}

theorem Opened.source_eq {context : Context}
    (opened : Opened library surroundings job database context) :
    context.source = sourceName (providerCode job.request database) := by
  rcases opened.provider with ⟨row, found, code⟩
  rw [opened.source, code, providerCode, found]
  rfl

/-- The source is there, or it is added. -/
theorem filter_dataSource (source : String) (sources : List DataSource) :
    (dataSource source sources).filter (·.name ≠ source) = sources.filter (·.name ≠ source) := by
  unfold dataSource
  split
  · rfl
  · rw [List.filter_append, List.filter_cons_of_neg (by simp), List.filter_nil, List.append_nil]

/-- A dry run, completed or raised, stores no bar and no capability and changes no
canonical row.  What it adds stands behind the stored rows, and its other writes belong
to its job, its provider and the heartbeat. -/
theorem dryRun_confined (dry : job.request.dryRun = true) :
    Confined job.request (sourceName (providerCode job.request database)) database
        (finalState (runImportJob library surroundings job database)) ∧
      (surroundings.heartbeat = none ->
        (finalState (runImportJob library surroundings job database)).fleet = database.fleet) := by
  constructor
  · have rule := @runImportJob_keeps library surroundings job database fun after pending =>
      Confined job.request (sourceName (providerCode job.request database)) database after ∧
        pending.bars = [] ∧ pending.capabilities = []
    have start := Confined.refl job.request (sourceName (providerCode job.request database))
      database
    refine (rule ?_ ?_ ⟨start, rfl, rfl⟩ ?_).1
    · intro context opened
      have dryContext : context.request.dryRun = true := opened.request.symm ▸ dry
      have invariant := confined_invariant dryContext database
      rw [opened.source_eq, opened.request] at invariant
      refine ⟨invariant, callHeartbeat_keeps ?_⟩
      intro beat _ call after pending kept
      exact ⟨{ kept.1 with }, kept.2⟩
    · intro context opened
      refine ⟨{ start with sources := ?_ }, rfl, rfl⟩
      rw [opened.source_eq]
      exact filter_dataSource _ _
    · intro after pending written same kept
      refine ⟨{ kept.1 with jobs := Eq.trans ?_ kept.1.jobs }, rfl, rfl⟩
      apply Tables.filter_put_unselected
      intro other equal
      have mine : other.id = job.request.id := equal.trans (congrArg ImportRequest.id same)
      exact decide_eq_false fun different => different mine
  · intro quiet
    have rule := @runImportJob_fleet library surroundings job database (· = database.fleet)
    exact rule (fun beat given => by rw [quiet] at given; cases given) rfl

end Call

/-! ## A dry run of a new asset -/

def dryRequest : ImportRequest := { dailyRequest with dryRun := true }

def dailySplit : CorporateActionRecord where
  symbol := "ATOM"
  actionType := "split"
  effectiveTime := 0
  publicationTime := 0
  retrievalTime := day
  ratio := some 2
  amount := none
  currency := none
  oldSymbol := none
  newSymbol := none
  version := 1
  checksum := "a0"

/-- The daily answers, with a split. -/
def splitSurroundings : Surroundings :=
  { dailyResponses with actions := fun _ _ _ => [dailySplit] : Responses }.surroundings fun _ => 0

/-- The dry run of the new asset succeeds without a bar. -/
theorem dryRun_confined_daily :
    (finalState (runImportJob plainLibrary splitSurroundings (queuedJob dryRequest)
        dailyQueue)).jobs.map (·.status) = [.succeeded] ∧
      Confined dryRequest (sourceName (providerCode dryRequest dailyQueue)) dailyQueue
        (finalState (runImportJob plainLibrary splitSurroundings (queuedJob dryRequest)
          dailyQueue)) :=
  ⟨by decide +kernel,
    (dryRun_confined (show (queuedJob dryRequest).request.dryRun = true from rfl)).1⟩

/-- The dry run stores the asset, its metadata, its mappings and the split. -/
theorem dryRun_writes :
    (finalState (runImportJob plainLibrary splitSurroundings (queuedJob dryRequest)
        dailyQueue)).rows.assets.map (·.symbol) = ["ATOM"] ∧
    (finalState (runImportJob plainLibrary splitSurroundings (queuedJob dryRequest)
        dailyQueue)).rows.actions.map (·.actionType) = ["split"] ∧
    ¬ forall library surroundings job database, job.request.dryRun = true ->
      (finalState (runImportJob library surroundings job database)).rows = database.rows := by
  refine ⟨by decide +kernel, by decide +kernel, ?_⟩
  intro readOnly
  have unchanged := readOnly plainLibrary splitSurroundings (queuedJob dryRequest) dailyQueue rfl
  have stored : (finalState (runImportJob plainLibrary splitSurroundings (queuedJob dryRequest)
      dailyQueue)).rows ≠ dailyQueue.rows := by
    decide +kernel
  exact stored unchanged

end MarketData
end MarketIntelligence
