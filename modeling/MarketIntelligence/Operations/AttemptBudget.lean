import MarketIntelligence.Operations.Exclusion

namespace MarketIntelligence
namespace Operations

open Foundations

/-!
# Leases and attempts of an occurrence

A claim sets the lease of an occurrence and counts an attempt.  Everything that ends a
claim clears the lease, and gives the occurrence back only while its retry policy has
attempts left.  An operator can give it back once more.

An occurrence that waits is therefore one attempt short of what it may have had, and this
is what every operation keeps, with what the operators have granted noted beside the
tables.
-/

/-! ## The activities of the system -/

/-- One transaction of a worker, of the scheduler or of an operator.  The run loop claims and
executes in one transaction. -/
inductive Activity where
  | operation (transaction : Transaction)
  | execute (occurrenceId : Identifier)
  | processNext (workerId : String) (leaseSeconds : Int)
  deriving DecidableEq, Repr

/-- The tables, and the occurrences that operators have retried, once for each time.  The second
part is no table: the budget is counted with it. -/
structure Ledger (Data : Type) where
  stored : Database Data
  retried : List Identifier
  deriving DecidableEq, Repr

section Activities

variable {Data : Type} (upper : String -> String)

/-- The occurrence that an operator sends back. -/
def retryOf (now : Instant) (stored : Database Data) : Activity -> List Identifier
  | .operation (.resolve workspaceId occurrenceId action) =>
      match resolveQuarantinedOccurrence upper now workspaceId occurrenceId action stored with
      | .ok (resolution, _) => if resolution.action = "RETRY" then [resolution.id] else []
      | .error _ => []
  | _ => []

def performed (environment : Environment Data) (stored : Database Data) :
    Activity -> Database Data
  | .operation transaction => operate environment upper stored environment.now transaction
  | .execute occurrenceId =>
      Transactions.transact Session.begins Session.commits
        (finishing occurrenceId (executeOccurrence environment)) stored
  | .processNext workerId leaseSeconds => iterate environment workerId leaseSeconds stored

/-- The clock, the random draws and the handlers can differ from one activity to the next. -/
def Ledger.perform (ledger : Ledger Data) (label : Environment Data × Activity) : Ledger Data where
  stored := performed upper label.1 ledger.stored label.2
  retried := retryOf upper label.1.now ledger.stored label.2 ++ ledger.retried

end Activities

/-! ## The budget -/

/-- The attempts that the retry policy allows.  A policy that cannot be read never gives an
occurrence back. -/
def allowance (definitions : List ScheduledTaskDefinition) (definitionId : Identifier) : Int :=
  match maximumAttempts (Tables.lookup (·.id) definitionId definitions) with
  | .ok maximum => max 1 maximum
  | .error _ => 1

def budget (definitions : List ScheduledTaskDefinition) (retried : List Identifier)
    (row : ScheduledTaskOccurrence) : Int :=
  allowance definitions row.definitionId + retried.count row.id

def ScheduledTaskOccurrence.Active (row : ScheduledTaskOccurrence) : Prop :=
  row.status = .claimed ∨ row.status = .running

def ScheduledTaskOccurrence.Waiting (row : ScheduledTaskOccurrence) : Prop :=
  row.status = .queued ∨ row.status = .retryWait

instance (row : ScheduledTaskOccurrence) : Decidable row.Active :=
  inferInstanceAs (Decidable (_ ∨ _))

instance (row : ScheduledTaskOccurrence) : Decidable row.Waiting :=
  inferInstanceAs (Decidable (_ ∨ _))

/-- The lease is set while the occurrence is claimed or running, and its attempts are within the
bound. -/
structure Leased (bound : Int) (row : ScheduledTaskOccurrence) : Prop where
  claimed : row.claimedBy.isSome <-> row.Active
  lease : row.leaseExpiresAt.isSome <-> row.Active
  attempts : (row.attempts : Int) ≤ bound

/-- An occurrence that waits has an attempt left. -/
structure Accounted (bound : Int) (row : ScheduledTaskOccurrence) : Prop extends
    Leased bound row where
  spare : row.Waiting -> (row.attempts : Int) + 1 ≤ bound

/-- An occurrence as the scheduler inserts it: queued, without a worker or a lease, and with no
attempt made. -/
structure ScheduledTaskOccurrence.Inserted (row : ScheduledTaskOccurrence) : Prop where
  status : row.status = .queued
  claimedBy : row.claimedBy = none
  leaseExpiresAt : row.leaseExpiresAt = none
  attempts : row.attempts = 0

/-- What is said of the tables, the definitions being fixed. -/
structure Balanced (definitions : List ScheduledTaskDefinition) (retried : List Identifier)
    (occurrences : List ScheduledTaskOccurrence) : Prop where
  keyed : (occurrences.map (·.id)).Nodup
  accounted : forall wanted row, Tables.lookup (·.id) wanted occurrences = some row ->
    Accounted (budget definitions retried row) row

section Budget

variable {definitions : List ScheduledTaskDefinition} {retried : List Identifier}
  {row : ScheduledTaskOccurrence}

theorem one_le_allowance (definitionId : Identifier) : 1 ≤ allowance definitions definitionId := by
  unfold allowance
  split
  · exact le_max_left _ _
  · exact le_refl _

theorem le_allowance {definitionId : Identifier} {maximum : Int}
    (known : maximumAttempts (Tables.lookup (·.id) definitionId definitions) = .ok maximum) :
    maximum ≤ allowance definitions definitionId := by
  rw [allowance, known]
  exact le_max_right _ _

theorem allowance_le_budget : allowance definitions row.definitionId ≤
    budget definitions retried row := by
  unfold budget
  omega

theorem ScheduledTaskOccurrence.Inserted.accounted (inserted : row.Inserted) :
    Accounted (budget definitions retried row) row := by
  have idle : ¬ row.Active := by
    rw [ScheduledTaskOccurrence.Active, inserted.status]
    decide
  have first : 1 ≤ budget definitions retried row :=
    le_trans (one_le_allowance row.definitionId) allowance_le_budget
  refine ⟨⟨?_, ?_, ?_⟩, ?_⟩
  · rw [inserted.claimedBy]
    exact iff_of_false Bool.false_ne_true idle
  · rw [inserted.leaseExpiresAt]
    exact iff_of_false Bool.false_ne_true idle
  · rw [inserted.attempts]
    omega
  · intro _
    rw [inserted.attempts]
    omega

theorem Balanced.mem {occurrences : List ScheduledTaskOccurrence}
    (balanced : Balanced definitions retried occurrences) (member : row ∈ occurrences) :
    Accounted (budget definitions retried row) row :=
  balanced.accounted row.id row (Tables.lookup_of_mem balanced.keyed member)

theorem Balanced.changed {touched : Identifier -> Prop}
    {written : ScheduledTaskOccurrence -> Prop} {before after : List ScheduledTaskOccurrence}
    (balanced : Balanced definitions retried before) (changed : Changed touched written before after)
    (holds : forall row, written row -> Accounted (budget definitions retried row) row) :
    Balanced definitions retried after where
  keyed := changed.keyed balanced.keyed
  accounted := by
    intro wanted row stands
    by_cases rewritten : touched wanted
    · exact holds row (changed.holds wanted row rewritten stands)
    · rw [changed.others wanted rewritten] at stands
      exact balanced.accounted wanted row stands

theorem Balanced.put {occurrences : List ScheduledTaskOccurrence}
    (balanced : Balanced definitions retried occurrences)
    (accounted : Accounted (budget definitions retried row) row) :
    Balanced definitions retried (Tables.put (·.id) row occurrences) where
  keyed := Tables.nodup_put balanced.keyed
  accounted := by
    intro wanted other stands
    rw [Tables.lookup_put] at stands
    split at stands
    · cases stands
      exact accounted
    · exact balanced.accounted wanted other stands

/-- A change that rewrites everything an earlier one has written. -/
theorem Changed.absorb {first second : Identifier -> Prop}
    {interim written : ScheduledTaskOccurrence -> Prop}
    {before middle after : List ScheduledTaskOccurrence}
    (begins : Changed first interim before middle) (continues : Changed second written middle after)
    (covers : forall wanted, first wanted -> second wanted) :
    Changed second written before after where
  keyed := fun distinct => continues.keyed (begins.keyed distinct)
  others := by
    intro wanted untouched
    rw [continues.others wanted untouched, begins.others wanted fun early =>
      untouched (covers wanted early)]
  holds := continues.holds

end Budget

/-! ## Claims that end -/

/-- How the row of an occurrence looks when its claim has ended. -/
structure Ended (definitions : List ScheduledTaskDefinition)
    (occurrence row : ScheduledTaskOccurrence) : Prop where
  id : row.id = occurrence.id
  definition : row.definitionId = occurrence.definitionId
  attempts : row.attempts = occurrence.attempts
  claimedBy : row.claimedBy = none
  leaseExpiresAt : row.leaseExpiresAt = none
  status : row.status = .succeeded ∨ row.status = .quarantined ∨
    row.status = .retryWait ∧
      (occurrence.attempts : Int) < allowance definitions occurrence.definitionId

theorem Ended.accounted {definitions : List ScheduledTaskDefinition} {retried : List Identifier}
    {occurrence row : ScheduledTaskOccurrence} (ended : Ended definitions occurrence row)
    (spent : (occurrence.attempts : Int) ≤ budget definitions retried occurrence) :
    Accounted (budget definitions retried row) row := by
  have same : budget definitions retried row = budget definitions retried occurrence := by
    rw [budget, budget, ended.id, ended.definition]
  have idle : ¬ row.Active := by
    rw [ScheduledTaskOccurrence.Active]
    rcases ended.status with succeeded | quarantined | ⟨waits, _⟩
    · rw [succeeded]
      decide
    · rw [quarantined]
      decide
    · rw [waits]
      decide
  rw [same]
  refine ⟨⟨?_, ?_, ?_⟩, ?_⟩
  · rw [ended.claimedBy]
    exact iff_of_false Bool.false_ne_true idle
  · rw [ended.leaseExpiresAt]
    exact iff_of_false Bool.false_ne_true idle
  · rw [ended.attempts]
    exact spent
  · intro waiting
    rw [ended.attempts]
    rcases ended.status with succeeded | quarantined | ⟨_, left⟩
    · rw [ScheduledTaskOccurrence.Waiting, succeeded] at waiting
      exact absurd waiting (by decide)
    · rw [ScheduledTaskOccurrence.Waiting, quarantined] at waiting
      exact absurd waiting (by decide)
    · exact le_trans left allowance_le_budget

section Programs

variable {Data : Type} {environment : Environment Data} {session final : Session Data}
  {occurrence : ScheduledTaskOccurrence}

/-- The program ends the claim of the occurrence, and leaves the definitions as they are. -/
structure Ends (occurrence : ScheduledTaskOccurrence) (session final : Session Data) : Prop where
  definitions : final.definitions = session.definitions
  changed : Changed (· = occurrence.id) (Ended session.definitions occurrence)
    session.occurrences final.occurrences

theorem ended_put {definitions : List ScheduledTaskDefinition} {row : ScheduledTaskOccurrence}
    (ended : Ended definitions occurrence row) (rows : List ScheduledTaskOccurrence) :
    Changed (· = occurrence.id) (Ended definitions occurrence) rows (Tables.put (·.id) row rows) :=
  changed_put ended.id ended rows

theorem interim_put {row : ScheduledTaskOccurrence} (same : row.id = occurrence.id)
    (rows : List ScheduledTaskOccurrence) :
    Changed (· = occurrence.id) (fun _ => True) rows (Tables.put (·.id) row rows) :=
  changed_put same trivial rows

/-- That the occurrence has been set running before its claim ends does not matter. -/
theorem Ends.ofRunning {work : Work Data}
    (ends : Ends { occurrence with status := .running }
      { calling occurrence session with work := work } final)
    (interim : Changed (· = occurrence.id) (fun _ => True) session.occurrences
      (calling occurrence session).occurrences) : Ends occurrence session final where
  definitions := ends.definitions
  changed := by
    have whole := interim.absorb ends.changed fun _ => id
    refine ⟨whole.keyed, whole.others, fun wanted row touched stands => ?_⟩
    have last := whole.holds wanted row touched stands
    exact ⟨last.id, last.definition, last.attempts, last.claimedBy, last.leaseExpiresAt, last.status⟩

theorem completeOccurrence_ends {manifest : Manifest} {value : PUnit}
    (done : completeOccurrence environment occurrence manifest session = .ok value final) :
    Ends occurrence session final := by
  simp only [completeOccurrence, bind_write] at done
  rw [flush_ok done]
  refine ⟨rfl, ?_⟩
  apply ended_put
  exact ⟨rfl, rfl, rfl, rfl, rfl, Or.inl rfl⟩

theorem failOccurrence_ends {errorCategory : ErrorCategory} {sanitizedError : String}
    {value : PUnit}
    (done : failOccurrence environment occurrence errorCategory sanitizedError session =
      .ok value final) : Ends occurrence session final := by
  simp only [failOccurrence, bind_getDefinition] at done
  rcases bind_raise_some done with ⟨maximum, known, rest⟩
  split at rest
  · rename_i retryable
    have left := lt_of_lt_of_le retryable.2 (le_allowance known)
    rw [bind_write] at rest
    rcases bind_raise_some rest with ⟨delay, _, last⟩
    rw [bind_write] at last
    rw [flush_ok last]
    refine ⟨rfl, ?_⟩
    apply Changed.absorb
    case covers => exact fun _ => id
    case continues =>
      apply ended_put
      exact ⟨rfl, rfl, rfl, rfl, rfl, Or.inr (Or.inr ⟨rfl, left⟩)⟩
    case begins =>
      apply interim_put
      · rfl
  · rw [bind_write] at rest
    rw [flush_ok rest]
    refine ⟨rfl, ?_⟩
    apply ended_put
    exact ⟨rfl, rfl, rfl, rfl, rfl, Or.inr (Or.inl rfl)⟩

theorem recordFailure_ends {raised : Exception} {value : PUnit}
    (done : recordFailure environment occurrence raised session = .ok value final) :
    Ends occurrence session final := by
  rcases raised with ⟨family, name⟩
  cases family with
  | timeoutError | connectionError | typeError | valueError => exact failOccurrence_ends done
  | providerError | databaseError | otherException => cases done

theorem executeOccurrence_ends {value : PUnit}
    (done : executeOccurrence environment occurrence session = .ok value final) :
    Ends occurrence session final := by
  cases found : Tables.lookup (·.id) occurrence.definitionId session.definitions with
  | none =>
      rw [executeOccurrence_undefined found] at done
      exact failOccurrence_ends done
  | some definition =>
      cases handled : environment.handlers.lookup definition.taskType with
      | none =>
          rw [executeOccurrence_unhandled found handled] at done
          exact failOccurrence_ends done
      | some handler =>
          let running := { occurrence with status := .running }
          have interim : Changed (· = occurrence.id) (fun _ => True) session.occurrences
              (calling occurrence session).occurrences := by
            apply interim_put
            rfl
          rw [executeOccurrence_handled found handled] at done
          cases called : handler definition session.work with
          | ok manifest work =>
              have ran : (runHandler handler definition >>= fun manifest =>
                  completeOccurrence environment running manifest) (calling occurrence session) =
                  completeOccurrence environment running manifest
                    { calling occurrence session with work := work } := by
                rw [Loops.bind_apply]
                simp only [runHandler, calling, called]
              cases completion : completeOccurrence environment running manifest
                  { calling occurrence session with work := work } with
              | ok result reached =>
                  rw [Transactions.tryCatch_ok (ran.trans completion)] at done
                  cases done
                  exact (completeOccurrence_ends completion).ofRunning interim
              | error raised reached =>
                  rw [Transactions.tryCatch_error (ran.trans completion),
                    (completeOccurrence_error completion).1] at done
                  cases done
          | error raised work =>
              have stopped : (runHandler handler definition >>= fun manifest =>
                  completeOccurrence environment running manifest) (calling occurrence session) =
                  .error raised { calling occurrence session with work := work } := by
                rw [Loops.bind_apply]
                simp only [runHandler, calling, called]
              rw [Transactions.tryCatch_error stopped] at done
              exact (recordFailure_ends done).ofRunning interim

theorem recoverRow_ends {row recovered : ScheduledTaskOccurrence}
    (done : recoverRow environment row session = .ok recovered final) : Ends row session final := by
  simp only [recoverRow, bind_getDefinition] at done
  rcases bind_raise_some done with ⟨maximum, known, rest⟩
  split at rest
  · cases rest
    refine ⟨rfl, ?_⟩
    apply ended_put
    exact ⟨rfl, rfl, rfl, rfl, rfl, Or.inr (Or.inl rfl)⟩
  · rename_i more
    have left := lt_of_lt_of_le (not_le.mp more) (le_allowance known)
    rcases bind_raise_some rest with ⟨delay, _, last⟩
    cases last
    refine ⟨rfl, ?_⟩
    apply ended_put
    exact ⟨rfl, rfl, rfl, rfl, rfl, Or.inr (Or.inr ⟨rfl, left⟩)⟩

end Programs

/-! ## What every activity keeps -/

/-- The definitions are the given ones, and the occurrences are within their budgets. -/
structure Kept {Data : Type} (definitions : List ScheduledTaskDefinition)
    (retried : List Identifier) (stored : Database Data) : Prop where
  fixed : stored.definitions = definitions
  balanced : Balanced definitions retried stored.occurrences

section Keeping

variable {Data : Type} {environment : Environment Data} {session final : Session Data}
  {stored : Database Data} {definitions : List ScheduledTaskDefinition}
  {retried : List Identifier} {occurrence : ScheduledTaskOccurrence}

theorem Kept.ends (kept : Kept definitions retried session.commits)
    (ends : Ends occurrence session final)
    (spent : (occurrence.attempts : Int) ≤ budget definitions retried occurrence) :
    Kept definitions retried final.commits where
  fixed := ends.definitions.trans kept.fixed
  balanced := by
    apply kept.balanced.changed ends.changed
    intro row ended
    have same : session.definitions = definitions := kept.fixed
    rw [same] at ended
    exact ended.accounted spent

/-- A claim takes a waiting occurrence, which has an attempt left. -/
theorem Kept.claim {workerId : String} {leaseSeconds : Int}
    {result : Option ScheduledTaskOccurrence} (kept : Kept definitions retried session.commits)
    (done : claimNextOccurrence environment workerId leaseSeconds session = .ok result final) :
    Kept definitions retried final.commits ∧ forall claimed, result = some claimed ->
      (claimed.attempts : Int) ≤ budget definitions retried claimed := by
  simp only [claimNextOccurrence, Loops.bind_get] at done
  cases next : nextOccurrence environment.now session.occurrences with
  | none =>
      rw [next] at done
      cases done
      refine ⟨kept, fun claimed impossible => ?_⟩
      cases impossible
  | some candidate =>
      rw [next] at done
      simp only [bind_write] at done
      rcases Loops.bind_ok done with ⟨_, flushed, last, ends⟩
      rw [flush_ok last] at ends
      cases ends
      rcases nextOccurrence_mem next with ⟨member, free⟩
      have accounted := kept.balanced.mem member
      have waiting : candidate.Waiting := by
        rw [claimable] at free
        split at free
        · rename_i queued
          exact Or.inl queued
        · rename_i waits
          exact Or.inr waits
        · cases free
      have spent := accounted.spare waiting
      refine ⟨⟨kept.fixed, ?_⟩, ?_⟩
      · apply kept.balanced.put
        refine ⟨⟨?_, ?_, spent⟩, ?_⟩
        · exact iff_of_true rfl (Or.inl rfl)
        · exact iff_of_true rfl (Or.inl rfl)
        · rintro (queued | waits)
          · cases queued
          · cases waits
      · intro claimed same
        cases same
        exact spent

theorem Kept.recoverRows {rows recovered : List ScheduledTaskOccurrence}
    (kept : Kept definitions retried session.commits)
    (spent : forall row, row ∈ rows -> (row.attempts : Int) ≤ budget definitions retried row)
    (done : rows.mapM (recoverRow environment) session = .ok recovered final) :
    Kept definitions retried final.commits := by
  induction rows generalizing session recovered with
  | nil =>
      cases done
      exact kept
  | cons row rest ih =>
      rw [List.mapM_cons] at done
      rcases Loops.bind_ok done with ⟨first, middle, here, later⟩
      rcases Loops.bind_ok later with ⟨others, reached, there, ends⟩
      cases ends
      exact ih (kept.ends (recoverRow_ends here) (spent row List.mem_cons_self))
        (fun other member => spent other (List.mem_cons_of_mem _ member)) there

theorem Kept.recover {recovered : List ScheduledTaskOccurrence}
    (kept : Kept definitions retried session.commits)
    (done : recoverExpiredOccurrences environment session = .ok recovered final) :
    Kept definitions retried final.commits := by
  refine kept.recoverRows (fun row member => ?_) (recoverExpired_ok done)
  exact (kept.balanced.mem (List.mem_filter.mp member).1).attempts

/-- A program that ends the claim of the occurrence that it is given. -/
theorem Kept.finishing {occurrenceId : Identifier}
    {finish : ScheduledTaskOccurrence -> Program Data PUnit} {value : PUnit}
    (kept : Kept definitions retried session.commits)
    (ends : forall occurrence session value final,
      finish occurrence session = .ok value final -> Ends occurrence session final)
    (done : finishing occurrenceId finish session = .ok value final) :
    Kept definitions retried final.commits := by
  simp only [Operations.finishing, Loops.bind_get] at done
  cases found : Tables.lookup (·.id) occurrenceId session.occurrences with
  | none =>
      rw [found] at done
      cases done
      exact kept
  | some occurrence =>
      rw [found] at done
      exact kept.ends (ends occurrence session value final done)
        (kept.balanced.accounted occurrenceId occurrence found).attempts

theorem Kept.processNext {workerId : String} {leaseSeconds : Int} {claimed : Bool}
    (kept : Kept definitions retried session.commits)
    (done : processNext environment workerId leaseSeconds session = .ok claimed final) :
    Kept definitions retried final.commits := by
  simp only [Operations.processNext] at done
  rcases Loops.bind_ok done with ⟨result, middle, claims, rest⟩
  rcases kept.claim claims with ⟨held, spent⟩
  cases result with
  | none =>
      cases rest
      exact held
  | some occurrence =>
      rcases Loops.bind_ok rest with ⟨_, reached, executes, ends⟩
      cases ends
      exact held.ends (executeOccurrence_ends executes) (spent occurrence rfl)

theorem Kept.transact {α : Type} {program : Program Data α} (kept : Kept definitions retried stored)
    (keeps : forall value final, program (Session.begins stored) = .ok value final ->
      Kept definitions retried final.commits) :
    Kept definitions retried (Transactions.transact Session.begins Session.commits program stored) :=
  Transactions.transact_preserves kept keeps

/-! ### An operator's resolution -/

/-- What an action does to a quarantined row. -/
structure Resolved (normalized : String) (row changed : ScheduledTaskOccurrence) : Prop where
  id : changed.id = row.id
  definition : changed.definitionId = row.definitionId
  attempts : changed.attempts = row.attempts
  claimedBy : changed.claimedBy = row.claimedBy
  leaseExpiresAt : changed.leaseExpiresAt = row.leaseExpiresAt
  status : changed.status = .cancelled ∨ changed.status = .retryWait ∧ normalized = "RETRY"

theorem resolutionChanges_resolved {now : Instant} {normalized : String} {status : Status}
    {change : ScheduledTaskOccurrence -> ScheduledTaskOccurrence}
    (known : resolutionChanges now occurrence normalized = some (status, change))
    (row : ScheduledTaskOccurrence) : Resolved normalized row (change row) := by
  unfold resolutionChanges at known
  split at known
  · rename_i retry
    cases known
    exact ⟨rfl, rfl, rfl, rfl, rfl, Or.inr ⟨rfl, retry⟩⟩
  split at known
  · cases known
    exact ⟨rfl, rfl, rfl, rfl, rfl, Or.inl rfl⟩
  split at known
  · cases known
    exact ⟨rfl, rfl, rfl, rfl, rfl, Or.inl rfl⟩
  · cases known

/-- A resolution changes quarantined rows of one identifier, which it reports. -/
theorem resolveQuarantined_ok {upper : String -> String} {now : Instant}
    {workspaceId occurrenceId : Identifier} {action : String} {resolution : Resolution}
    {next : Database Data}
    (resolved : resolveQuarantinedOccurrence upper now workspaceId occurrenceId action stored =
      .ok (resolution, next)) :
    resolution.action = upper action ∧
      exists change : ScheduledTaskOccurrence -> ScheduledTaskOccurrence,
        next = { stored with occurrences := stored.occurrences.map change } ∧
          forall row, change row = row ∨
            row.id = resolution.id ∧ row.status = .quarantined ∧
              Resolved (upper action) row (change row) := by
  unfold resolveQuarantinedOccurrence at resolved
  split at resolved
  · cases resolved
  rename_i found
  split at resolved
  · cases resolved
  split at resolved
  · cases resolved
  rename_i status change known
  simp only at resolved
  split at resolved
  · cases resolved
  cases resolved
  refine ⟨rfl, _, rfl, fun row => ?_⟩
  split
  · rename_i matched
    rw [Bool.and_eq_true, Bool.and_eq_true] at matched
    have own := List.find?_some found
    rw [Bool.and_eq_true] at own
    refine Or.inr ⟨?_, of_decide_eq_true matched.2, resolutionChanges_resolved known row⟩
    exact (of_decide_eq_true matched.1.1).trans (of_decide_eq_true own.1).symm
  · exact Or.inl rfl

theorem Resolved.accounted {normalized : String} {row changed : ScheduledTaskOccurrence}
    (resolved : Resolved normalized row changed) (quarantined : row.status = .quarantined)
    (accounted : Accounted (budget definitions retried row) row) :
    Accounted (budget definitions
      ((if normalized = "RETRY" then [row.id] else []) ++ retried) changed) changed := by
  have idle : ¬ row.Active := by
    rw [ScheduledTaskOccurrence.Active, quarantined]
    decide
  have still : ¬ changed.Active := by
    rw [ScheduledTaskOccurrence.Active]
    rcases resolved.status with cancelled | ⟨waits, _⟩
    · rw [cancelled]
      decide
    · rw [waits]
      decide
  have granted : budget definitions
      ((if normalized = "RETRY" then [row.id] else []) ++ retried) changed =
        budget definitions retried row + if normalized = "RETRY" then 1 else 0 := by
    rw [budget, budget, resolved.id, resolved.definition, List.count_append]
    split
    · rw [List.count_singleton_self]
      omega
    · rw [List.count_nil]
      omega
  rw [granted]
  refine ⟨⟨?_, ?_, ?_⟩, ?_⟩
  · rw [resolved.claimedBy, accounted.claimed]
    exact iff_of_false idle still
  · rw [resolved.leaseExpiresAt, accounted.lease]
    exact iff_of_false idle still
  · rw [resolved.attempts]
    have spent := accounted.attempts
    split <;> omega
  · intro waiting
    rcases resolved.status with cancelled | ⟨_, retry⟩
    · rw [ScheduledTaskOccurrence.Waiting, cancelled] at waiting
      exact absurd waiting (by decide)
    · rw [resolved.attempts, if_pos retry]
      have spent := accounted.attempts
      omega

theorem Accounted.widen {row : ScheduledTaskOccurrence} (granted : List Identifier)
    (accounted : Accounted (budget definitions retried row) row) :
    Accounted (budget definitions (granted ++ retried) row) row := by
  have wider : budget definitions retried row ≤ budget definitions (granted ++ retried) row := by
    rw [budget, budget, List.count_append]
    omega
  exact ⟨⟨accounted.claimed, accounted.lease, le_trans accounted.attempts wider⟩,
    fun waiting => le_trans (accounted.spare waiting) wider⟩

theorem Kept.resolve (environment : Environment Data) (upper : String -> String) (now : Instant)
    (workspaceId occurrenceId : Identifier) (action : String) (kept : Kept definitions retried stored) :
    Kept definitions
      (retryOf upper now stored (.operation (.resolve workspaceId occurrenceId action)) ++ retried)
      (operate environment upper stored now (.resolve workspaceId occurrenceId action)) := by
  rw [retryOf, operate]
  cases resolved : resolveQuarantinedOccurrence upper now workspaceId occurrenceId action stored with
  | error refusal => exact kept
  | ok result =>
      rcases result with ⟨resolution, next⟩
      rcases resolveQuarantined_ok resolved with ⟨named, change, same, changes⟩
      have keeps : forall row, (change row).id = row.id := by
        intro row
        rcases changes row with unchanged | ⟨_, _, changed⟩
        · rw [unchanged]
        · exact changed.id
      subst same
      refine ⟨kept.fixed, ?_, ?_⟩
      · have ids : (stored.occurrences.map change).map (·.id) = stored.occurrences.map (·.id) := by
          rw [List.map_map]
          exact List.map_congr_left fun row _ => keeps row
        exact ids.symm ▸ kept.balanced.keyed
      · intro wanted row stands
        change Tables.lookup (·.id) wanted (stored.occurrences.map change) = some row at stands
        rw [Tables.lookup_map keeps] at stands
        rcases Option.map_eq_some_iff.mp stands with ⟨before, found, changed⟩
        have accounted := kept.balanced.accounted wanted before found
        subst changed
        rcases changes before with unchanged | ⟨own, quarantined, resolves⟩
        · rw [unchanged]
          exact accounted.widen _
        · have given := resolves.accounted quarantined accounted
          rw [own, ← named] at given
          exact given

end Keeping

/-! ## Runs -/

section Runs

variable {Data : Type} {upper : String -> String} {ledger : Ledger Data}
  {definitions : List ScheduledTaskDefinition}

theorem Kept.perform (label : Environment Data × Activity)
    (kept : Kept definitions ledger.retried ledger.stored) :
    Kept definitions (ledger.perform upper label).retried (ledger.perform upper label).stored := by
  rcases label with ⟨environment, activity⟩
  cases activity with
  | execute occurrenceId =>
      exact kept.transact fun _ _ done => kept.finishing
        (fun _ _ _ _ => executeOccurrence_ends) done
  | processNext workerId leaseSeconds =>
      exact kept.transact fun _ _ done => kept.processNext done
  | operation transaction =>
      cases transaction with
      | claim workerId leaseSeconds =>
          exact kept.transact fun _ _ done => (kept.claim done).1
      | complete workerId occurrenceId manifest =>
          exact kept.transact fun _ _ done => kept.finishing
            (fun _ _ _ _ => completeOccurrence_ends) done
      | fail workerId occurrenceId errorCategory sanitizedError =>
          exact kept.transact fun _ _ done => kept.finishing
            (fun _ _ _ _ => failOccurrence_ends) done
      | recover => exact kept.transact fun _ _ done => kept.recover done
      | resolve workspaceId occurrenceId action =>
          exact kept.resolve environment upper environment.now workspaceId occurrenceId action

/-- Whatever the workers, the scheduler and the operators do, an occurrence has a lease exactly
while it is claimed or running, and no more attempts than its policy and the operators allow. -/
theorem occurrences_leased (scheduled : forall row, row ∈ ledger.stored.occurrences -> row.Inserted)
    (keyed : (ledger.stored.occurrences.map (·.id)).Nodup)
    (labels : List (Environment Data × Activity)) :
    forall visited, visited ∈ Runs.states (Ledger.perform upper) ledger labels ->
      forall row, row ∈ visited.stored.occurrences ->
        Leased (budget ledger.stored.definitions visited.retried row) row := by
  have initial : Kept ledger.stored.definitions ledger.retried ledger.stored := by
    refine ⟨rfl, keyed, fun wanted row stands => ?_⟩
    exact (scheduled row (Tables.lookup_some stands).1).accounted
  intro visited member row listed
  have kept : Kept ledger.stored.definitions visited.retried visited.stored :=
    Runs.invariant_states (motive := fun ledger' =>
        Kept ledger.stored.definitions ledger'.retried ledger'.stored)
      (fun _ label held => held.perform label) initial visited member
  exact (kept.balanced.mem listed).toLeased

end Runs

/-! ## A retry after the last attempt -/

/-- The policy of the task allows no second attempt. -/
def oneShot : Ledger Unit where
  stored := ⟨[⟨0, "DATA_FRESHNESS", false, .integer 0⟩],
    [{ freshnessTask with workspaceId := some 7 }], ()⟩
  retried := []

/-- No handler is configured, so the occurrence is quarantined, sent back and claimed again. -/
def secondChance : List (Environment Unit × Activity) :=
  [(quietHost, .processNext "first" 60), (quietHost, .operation (.resolve 7 0 "RETRY")),
    (quietHost, .operation (.claim "second" 60))]

theorem secondChance_leased :
    (secondChance.foldl (Ledger.perform id) oneShot).stored.occurrences.map
        (fun row => (row.status, row.attempts)) = [(.claimed, 2)] ∧
      forall row, row ∈ (secondChance.foldl (Ledger.perform id) oneShot).stored.occurrences ->
        Leased (budget oneShot.stored.definitions
          (secondChance.foldl (Ledger.perform id) oneShot).retried row) row := by
  refine ⟨by decide +kernel, occurrences_leased ?_ (by decide) secondChance _
    (Runs.foldl_mem_states oneShot secondChance)⟩
  intro row member
  rw [List.mem_singleton.mp member]
  exact ⟨rfl, rfl, rfl, rfl⟩

end Operations
end MarketIntelligence
