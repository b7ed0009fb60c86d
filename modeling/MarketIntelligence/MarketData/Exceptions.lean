import MarketIntelligence.MarketData.Bookkeeping
import MarketIntelligence.MarketData.Operations

namespace MarketIntelligence
namespace MarketData

open Foundations
open Loops

/-!
# What a run can raise

The `except` clauses of a run name the errors of a provider, refused values and
refused rows.  Anything else escapes, with the transaction around it.

A run raises nothing of its own that escapes.  When no call of the adapter does
either, and the lease that the heartbeat renews is there, the run returns.
-/

/-- The exceptions that the clauses name.  Any other escapes the run, and with it the transaction
of the worker. -/
def Exception.Caught : Exception -> Prop
  | .escaping _ => False
  | _ => True

/-- No call for the symbol raises an exception that escapes. -/
structure Adapter.Contained (adapter : Adapter) (symbol : String) : Prop where
  metadata : forall raised, adapter.fetchAssetMetadata symbol = .error raised -> raised.Caught
  bars : forall start finish interval raised,
    adapter.fetchHistoricalBars symbol start finish interval = .error raised -> raised.Caught
  actions : forall start finish raised,
    adapter.fetchCorporateActions symbol start finish = .error raised -> raised.Caught

/-! ## The canonical part -/

section Store

abbrev RaisesCaught {σ α : Type} (program : EStateM Exception σ α) : Prop :=
  Raises (fun _ => True) Exception.Caught program

theorem RaisesCaught.bind {σ α β : Type} {first : EStateM Exception σ α}
    {next : α -> EStateM Exception σ β} (begins : RaisesCaught first)
    (continues : forall value, RaisesCaught (next value)) : RaisesCaught (first >>= next) :=
  Raises.bind begins (fun _ _ => trivial) continues

theorem raise_caught {σ α : Type} {outcome : Except Exception α}
    (caught : forall raised, outcome = .error raised -> raised.Caught) :
    RaisesCaught (raise outcome : EStateM Exception σ α) := by
  intro state raised final _ stopped
  cases outcome with
  | ok value => cases stopped
  | error failure =>
      cases stopped
      exact caught raised rfl

theorem flush_caught : RaisesCaught flush := by
  intro store raised final _ stopped
  by_cases consistent : (store.stored.append store.pending).Consistent
  · simp only [flush, if_pos consistent] at stopped
    cases stopped
  · simp only [flush, if_neg consistent] at stopped
    cases stopped
    trivial

variable {library : Library} {request : ImportRequest} {provider source symbol : String}
  {adapter : Adapter}

theorem assetOf_caught (contained : adapter.Contained symbol) :
    RaisesCaught (assetOf library adapter provider symbol) := by
  apply Raises.get_bind
  intro before
  apply (raise_caught contained.metadata).bind
  intro metadata
  apply RaisesCaught.bind
  · cases knownAsset provider symbol before.stored with
    | some asset => exact Raises.pure _
    | none =>
        apply RaisesCaught.bind (Raises.modify _)
        intro _
        exact flush_caught.bind fun _ => Raises.pure _
  · intro asset
    apply Raises.get_bind
    intro current
    exact RaisesCaught.bind (Raises.modify _) fun _ => Raises.pure _

theorem fetchStart_caught (asset : Asset) : RaisesCaught (fetchStart request source asset) := by
  apply Raises.get_bind
  intro current
  cases request.mode with
  | full => exact Raises.pure _
  | incremental =>
      cases latestBar (fun bar => bar.asset = asset.symbol ∧ bar.interval = request.interval ∧
          bar.dataSource = source) current.stored with
      | none => exact Raises.pure _
      | some latest => exact Raises.pure _

theorem storeBar_caught (bar : PriceBar) (known : Option PriceBar) :
    RaisesCaught (storeBar request bar known) := by
  cases known with
  | some duplicate =>
      rw [storeBar]
      split <;> exact Raises.pure _
  | none =>
      rw [storeBar]
      split
      · exact Raises.pure _
      · exact RaisesCaught.bind (Raises.modify _) fun _ => Raises.pure _

theorem storeRecord_caught (asset : Asset) (record : HistoricalBarRecord) :
    RaisesCaught (storeRecord library request provider source asset record) := by
  apply Raises.get_bind
  intro current
  exact storeBar_caught _ _

theorem validateCorporateAction_caught (record : CorporateActionRecord) (raised : Exception)
    (refused : validateCorporateAction record = .error raised) : raised.Caught := by
  unfold validateCorporateAction at refused
  split at refused
  · cases refused
    trivial
  split at refused
  · cases refused
    trivial
  split at refused
  · cases refused
    trivial
  split at refused
  · cases refused
    trivial
  · cases refused

theorem persistAction_caught (asset : Asset) (record : CorporateActionRecord) :
    RaisesCaught (persistAction library provider asset record) := by
  apply (raise_caught (validateCorporateAction_caught record)).bind
  intro _
  apply Raises.get_bind
  intro current
  dsimp only
  split
  · exact Raises.pure _
  · exact Raises.modify _

theorem persistActions_caught (contained : adapter.Contained symbol) (asset : Asset) :
    RaisesCaught (persistActions library request provider adapter asset symbol) := by
  apply (raise_caught (contained.actions request.start request.finish)).bind
  intro records
  exact Raises.forM (fun record _ => persistAction_caught asset record) fun _ _ _ _ => trivial

theorem publishCapability_caught (asset : Asset) :
    RaisesCaught (publishCapability request provider asset) := by
  unfold publishCapability
  split
  · exact Raises.pure _
  · exact flush_caught.bind fun _ => Raises.modify _

theorem fetchRecords_caught (contained : adapter.Contained symbol) (start : Instant)
    (raised : Exception)
    (refused : fetchRecords request provider adapter symbol start = .error raised) :
    raised.Caught := by
  unfold fetchRecords at refused
  cases asked : requestedRecords request adapter symbol start with
  | error failure =>
      rw [asked] at refused
      cases refused
      unfold requestedRecords at asked
      split at asked
      · exact contained.bars _ _ _ _ asked
      · cases asked
  | ok records =>
      rw [Loops.except_bind_eq asked] at refused
      split at refused
      · cases refused
        trivial
      · cases refused

end Store

/-! ## The loop -/

section Loop

variable {context : Context}

theorem batchRows_caught {sequence : Nat} {symbol : String}
    (contained : (context.adapter sequence).Contained symbol) :
    RaisesCaught (batchRows context sequence symbol) := by
  apply (assetOf_caught contained).bind
  intro asset
  apply (fetchStart_caught asset).bind
  intro start
  apply RaisesCaught.bind
  · apply raise_caught
    intro raised refused
    cases fetched : fetchRecords context.request context.provider (context.adapter sequence)
        symbol start with
    | error failure =>
        rw [validatedRecords, fetched] at refused
        cases refused
        exact fetchRecords_caught contained start raised fetched
    | ok records =>
        rw [validatedRecords, fetched] at refused
        cases refused
  · intro answer
    split
    · apply RaisesCaught.bind
      · apply Raises.forM
        · intro record _
          exact (storeRecord_caught asset record).bind fun _ => Raises.pure _
        · exact fun _ _ _ _ => trivial
      · intro _
        apply (persistActions_caught contained asset).bind
        intro _
        exact (publishCapability_caught asset).bind fun _ => Raises.pure _
    · exact Raises.pure _

theorem onProgress_caught {α : Type} {program : StoreProgram α} (caught : RaisesCaught program) :
    RaisesCaught (onProgress program) := by
  intro progress raised final _ stopped
  cases ended : program progress.store with
  | ok value store =>
      rw [onProgress_ok ended] at stopped
      cases stopped
  | error failure store =>
      rw [onProgress_error ended] at stopped
      cases stopped
      exact caught _ _ _ trivial ended

theorem symbolProgress_caught {sequence : Nat} {symbol : String}
    (contained : (context.adapter sequence).Contained symbol) :
    RaisesCaught (symbolProgress context sequence symbol) := by
  apply RaisesCaught.bind (Raises.modify _)
  intro _
  apply (onProgress_caught (batchRows_caught contained)).bind
  intro complete
  split
  · apply RaisesCaught.bind
    · apply RaisesCaught.bind (Raises.modify _)
      intro _
      exact (onProgress_caught flush_caught).bind fun _ => Raises.modify _
    · exact fun _ => Raises.pure _
  · apply RaisesCaught.bind
    · exact RaisesCaught.bind (Raises.modify _) fun _ => Raises.modify _
    · exact fun _ => Raises.pure _

/-- The bookkeeping around a symbol raises nothing. -/
theorem importSymbol_caught {sequence : Nat} {symbol : String}
    (contained : (context.adapter sequence).Contained symbol) :
    RaisesCaught (importSymbol context sequence symbol) := by
  intro run raised final _ stopped
  exact symbolProgress_caught contained _ _ _ trivial
    ((importSymbol_projects context sequence symbol).error stopped)

end Loop

/-! ## The heartbeat -/

section Fleet

variable {context : Context} {held : Fleet -> Prop}

/-- The condition on leases and workers holds now and at the savepoint. -/
abbrev Run.Holds (held : Fleet -> Prop) : Run -> Prop :=
  Run.Keeps fun database _ => held database.fleet

/-- Every call of the heartbeat keeps the condition and raises nothing that escapes. -/
structure HeartbeatContained (held : Fleet -> Prop)
    (heartbeat : Option (Nat -> EStateM Exception Fleet PUnit)) : Prop where
  keeps : forall beat, heartbeat = some beat -> forall call, Preserves held (beat call)
  raises : forall beat, heartbeat = some beat -> forall call,
    Raises held Exception.Caught (beat call)

variable (beats : HeartbeatContained held context.heartbeat)

include beats

theorem callHeartbeat_holds (call : Nat) :
    Preserves (Run.Holds held) (callHeartbeat context call) :=
  callHeartbeat_keeps (fun beat heartbeat call _ _ holds =>
    beats.keeps beat heartbeat call _ holds) call

theorem callHeartbeat_caught (call : Nat) :
    Raises (Run.Holds held) Exception.Caught (callHeartbeat context call) := by
  intro run raised final holds stopped
  unfold callHeartbeat at stopped
  cases heartbeat : context.heartbeat with
  | none =>
      rw [heartbeat] at stopped
      cases stopped
  | some beat =>
      rw [heartbeat] at stopped
      cases beaten : beat call run.database.fleet with
      | ok value fleet =>
          simp only [beaten] at stopped
          cases stopped
      | error failure fleet =>
          simp only [beaten] at stopped
          cases stopped
          exact beats.raises beat heartbeat call _ _ _ holds.current beaten

theorem visitSymbol_caught {sequence : Nat} {symbol : String}
    (contained : (context.adapter sequence).Contained symbol) :
    Raises (Run.Holds held) Exception.Caught (visitSymbol context sequence symbol) := by
  apply Raises.get_bind
  intro run
  split
  · exact Raises.bind (Raises.modify _) (modifyJob_keeps _) fun _ => Raises.pure _
  · apply Raises.bind
    · intro state raised final _ stopped
      exact importSymbol_caught contained state raised final trivial stopped
    · exact importSymbol_keeps (fleetInvariant context held) sequence symbol
    · intro complete
      split
      · exact (callHeartbeat_caught beats _).bind (callHeartbeat_holds beats _) fun _ =>
          Raises.pure _
      · exact Raises.pure _

/-- By induction on the symbols that are left. -/
theorem importSymbols_caught {rest : List (String × Nat)}
    (contained : forall symbol sequence, (symbol, sequence) ∈ rest ->
      (context.adapter sequence).Contained symbol) :
    Raises (Run.Holds held) Exception.Caught (importSymbols context rest) := by
  induction rest with
  | nil => exact Raises.pure _
  | cons head tail ih =>
      rcases head with ⟨symbol, sequence⟩
      have others := ih fun symbol sequence member =>
        contained symbol sequence (List.mem_cons_of_mem _ member)
      rw [importSymbols]
      apply (callHeartbeat_caught beats _).bind (callHeartbeat_holds beats _)
      intro _
      split
      · exact others
      · apply (visitSymbol_caught beats (contained symbol sequence List.mem_cons_self)).bind
          (visitSymbol_keeps (fleetInvariant context held) (callHeartbeat_holds beats) sequence
            symbol)
        intro goesOn
        split
        · exact others
        · exact Raises.pure _

end Fleet

/-! ## The lease of a claimed job -/

def Leased (jobId : Identifier) (fleet : Fleet) : Prop :=
  (Tables.lookup (·.jobId) jobId fleet.leases).isSome = true

section Renewal

variable {jobId workerId : Identifier} {leaseSeconds : Int} {now : Instant}

theorem renewLease_leased :
    Preserves (Leased jobId) (renewLease jobId workerId leaseSeconds now) := by
  intro fleet leased
  cases found : Tables.lookup (·.jobId) jobId fleet.leases with
  | none =>
      simp only [renewLease, found]
      exact leased
  | some lease =>
      simp only [renewLease, found]
      split
      · exact leased
      split
      · exact leased
      · have key : lease.jobId = jobId := (Tables.lookup_some found).2
        simp only [finalState, Leased, changeWorker]
        rw [Tables.lookup_put, if_pos key]
        rfl

theorem renewLease_caught :
    Raises (Leased jobId) Exception.Caught (renewLease jobId workerId leaseSeconds now) := by
  intro fleet raised final leased stopped
  cases found : Tables.lookup (·.jobId) jobId fleet.leases with
  | none =>
      rw [Leased, found] at leased
      cases leased
  | some lease =>
      simp only [renewLease, found] at stopped
      split at stopped
      · cases stopped
        trivial
      split at stopped
      · cases stopped
        trivial
      · cases stopped

end Renewal

theorem surroundings_contained (pass : Pass) (job : ImportJob) :
    HeartbeatContained (Leased job.id) (pass.surroundings job).heartbeat where
  keeps := by
    intro beat same call
    cases same
    exact renewLease_leased
  raises := by
    intro beat same call
    cases same
    exact renewLease_caught

/-! ## Calls that return -/

section Call

variable {context : Context} {promise : Nat -> Canonical -> Prop} {origin : Snapshot}

/-- The clauses settle every exception they name. -/
theorem recordFailure_completes {run : Run} {raised : Exception} (caught : raised.Caught)
    (started : 1 ≤ origin.job.attempt)
    (interrupted : Interrupted promise origin run.progress) :
    exists final, recordFailure context raised run = .ok ⟨⟩ final := by
  have temporary : forall failure rateLimit,
      exists final, recordTemporary context failure rateLimit run = .ok ⟨⟩ final := by
    intro failure rateLimit
    have attempt : ¬ run.progress.checkpoint.job.attempt < 1 := by
      rw [interrupted.follows.attempt]
      omega
    have delay : retryDelay run.progress.checkpoint.job.attempt =
        .ok (min 3600 (30 * 2 ^ (run.progress.checkpoint.job.attempt - 1)) * 1000000) :=
      if_neg attempt
    have projected : exists target, retryProgress run.progress = .ok ⟨⟩ target := by
      rw [retryProgress, Loops.bind_modify, Loops.bind_get, interrupted.rollback, delay]
      exact ⟨_, rfl⟩
    rcases projected with ⟨target, ended⟩
    rcases (recordTemporary_projects context failure rateLimit).lift ended with ⟨final, done, _⟩
    exact ⟨final, done⟩
  have permanent : forall health errorCode message classified,
      exists final, recordPermanent context health errorCode message classified run =
        .ok ⟨⟩ final := by
    intro health errorCode message classified
    have ended : rejectProgress run.progress =
        .ok ⟨⟩ (run.progress.rollback.change (Snapshot.withStatus .failed)) := rfl
    rcases (recordPermanent_projects context health errorCode message classified).lift ended with
      ⟨final, done, _⟩
    exact ⟨final, done⟩
  cases raised with
  | temporary failure => exact temporary failure none
  | rateLimit failure retryAfter => exact temporary failure (some retryAfter)
  | provider failure => exact permanent _ _ _ _
  | valueError message => exact permanent _ _ _ _
  | integrityError message => exact permanent _ _ _ _
  | escaping name => cases caught

theorem runSymbols_completes {held : Fleet -> Prop}
    (keeps : Keeps context promise origin.job.request)
    (beats : HeartbeatContained held context.heartbeat)
    (contained : forall symbol sequence, (symbol, sequence) ∈ context.request.batches ->
      (context.adapter sequence).Contained symbol)
    (started : 1 ≤ origin.job.attempt) {run : Run} (same : context.request = origin.job.request)
    (ready : Ready context promise origin 0 run.progress) (holds : run.Holds held) :
    exists final, runSymbols context run = .ok ⟨⟩ final := by
  have loop := importSymbols_outcome keeps
    (show origin.job.request.batches.drop 0 = context.request.symbols.zipIdx by rw [same]; rfl)
    ready
  cases outcome : importSymbols context context.request.symbols.zipIdx run with
  | error raised reached =>
      rw [outcome] at loop
      have caught := importSymbols_caught beats contained run raised reached holds outcome
      have stopped : (importSymbols context context.request.symbols.zipIdx >>= fun _ =>
          concludeLoop context) run = .error raised reached := by
        rw [Loops.bind_apply, outcome]
      rcases recordFailure_completes caught started loop with ⟨final, done⟩
      rw [runSymbols, Transactions.tryCatch_error stopped]
      exact ⟨final, done⟩
  | ok value reached =>
      rcases (concludeLoop_projects context).completes reached with
        ⟨concluded, ended, _⟩
      have completed : (importSymbols context context.request.symbols.zipIdx >>= fun _ =>
          concludeLoop context) run = .ok ⟨⟩ concluded := by
        rw [Loops.bind_apply, outcome]
        exact ended
      rw [runSymbols, Transactions.tryCatch_ok completed]
      exact ⟨concluded, rfl⟩

end Call

/-- The provider of the job can be used, and no call it gets for a symbol of the job
raises an exception that escapes. -/
structure Available (registry : String -> Option (Nat -> Adapter)) (request : ImportRequest)
    (providers : List Provider) : Prop where
  enabled : exists row, Tables.lookup (·.id) request.providerId providers = some row ∧
    row.isEnabled = true ∧ (registry row.code).isSome = true
  contained : forall row adapter, Tables.lookup (·.id) request.providerId providers = some row ->
    registry row.code = some adapter -> forall symbol sequence,
      (symbol, sequence) ∈ request.batches -> (adapter sequence).Contained symbol

section Completion

variable {library : Library} {surroundings : Surroundings} {job : ImportJob} {database : Database}

theorem openRun_completes (runnable : job.status ∈ runnableStatuses)
    (usable : exists row, Tables.lookup (·.id) job.request.providerId database.providers =
      some row ∧ row.isEnabled = true ∧ (surroundings.registry row.code).isSome = true) :
    exists context, openRun library surroundings job database = .ok context := by
  rcases usable with ⟨row, found, enabled, known⟩
  rcases Option.isSome_iff_exists.mp known with ⟨adapter, registered⟩
  unfold openRun
  rw [if_neg (Classical.not_not.mpr runnable), found]
  simp only [enabled, Bool.true_eq_false, if_false, registered]
  exact ⟨_, rfl⟩

/-- A call that finds its provider, and a heartbeat that is contained, returns. -/
theorem runImportJob_completes {held : Fleet -> Prop} (runnable : job.status ∈ runnableStatuses)
    (available : Available surroundings.registry job.request database.providers)
    (beats : HeartbeatContained held surroundings.heartbeat) (holds : held database.fleet) :
    exists finished after,
      runImportJob library surroundings job database = .ok finished after := by
  have opens : exists context, openRun library surroundings job database = .ok context :=
    openRun_completes runnable available.enabled
  rcases opens with ⟨context, opening⟩
  have opened := openRun_ok opening
  rcases opened.provider with ⟨row, found, code⟩
  have contained : forall symbol sequence, (symbol, sequence) ∈ context.request.batches ->
      (context.adapter sequence).Contained symbol := by
    rw [opened.request]
    exact available.contained row context.adapter found (code ▸ opened.adapter)
  have ready : Ready context (fun _ _ => True) (startRun context job database).progress.current 0
      (startRun context job database).progress := opened.ready trivial
  have contained' : HeartbeatContained held context.heartbeat := by
    rw [opened.heartbeat]
    exact beats
  have completes := runSymbols_completes (fun _ _ _ _ _ _ _ => trivial) contained' contained
    (Nat.succ_le_succ (Nat.zero_le job.attempt)) opened.request ready
    ⟨holds, fun _ absent => by cases absent⟩
  rcases completes with ⟨final, done⟩
  refine ⟨(finishRun final).2, (finishRun final).1, ?_⟩
  simp only [runImportJob, opening, done]

end Completion

end MarketData
end MarketIntelligence
