import MarketIntelligence.Operations.Containment
import MarketIntelligence.Operations.Recovery
import MarketIntelligence.Foundations.Runs

namespace MarketIntelligence
namespace Operations

open Foundations

/-!
# Workers that have lost their occurrence

A worker may finish its occurrence after the scheduler has taken it back, or after
another worker has claimed it.  A success or a failure is recorded without a look at the
row, so it is left to the caller that only the worker that holds an occurrence finishes it.
-/

/-! ## What a transaction changes -/

/-- Only rows of these identifiers differ, and `written` holds of the rows that stand there. -/
structure Changed (touched : Identifier -> Prop) (written : ScheduledTaskOccurrence -> Prop)
    (before after : List ScheduledTaskOccurrence) : Prop where
  keyed : (before.map (·.id)).Nodup -> (after.map (·.id)).Nodup
  others : forall wanted, ¬ touched wanted ->
    Tables.lookup (·.id) wanted after = Tables.lookup (·.id) wanted before
  holds : forall wanted row, touched wanted ->
    Tables.lookup (·.id) wanted after = some row -> written row

section Changes

variable {written : ScheduledTaskOccurrence -> Prop}

theorem changed_put {row : ScheduledTaskOccurrence} {wanted : Identifier} (named : row.id = wanted)
    (holds : written row) (rows : List ScheduledTaskOccurrence) :
    Changed (· = wanted) written rows (Tables.put (·.id) row rows) where
  keyed := Tables.nodup_put
  others := by
    intro other untouched
    rw [Tables.lookup_put, if_neg fun same => untouched (same.symm.trans named)]
  holds := by
    intro other found touched stands
    rw [Tables.lookup_put, if_pos (named.trans touched.symm)] at stands
    cases stands
    exact holds

theorem Changed.trans {first second : Identifier -> Prop}
    {before middle after : List ScheduledTaskOccurrence} (begins : Changed first written before middle)
    (continues : Changed second written middle after) :
    Changed (fun wanted => first wanted ∨ second wanted) written before after where
  keyed := fun distinct => continues.keyed (begins.keyed distinct)
  others := by
    intro wanted untouched
    rw [continues.others wanted fun touched => untouched (Or.inr touched),
      begins.others wanted fun touched => untouched (Or.inl touched)]
  holds := by
    intro wanted row touched stands
    by_cases again : second wanted
    · exact continues.holds wanted row again stands
    · rw [continues.others wanted again] at stands
      exact begins.holds wanted row (touched.resolve_right again) stands

theorem Changed.congr {touched other : Identifier -> Prop}
    {before after : List ScheduledTaskOccurrence} (changed : Changed touched written before after)
    (same : forall wanted, touched wanted <-> other wanted) :
    Changed other written before after := by
  have equal : touched = other := funext fun wanted => propext (same wanted)
  exact equal ▸ changed

theorem changed_refl (rows : List ScheduledTaskOccurrence) :
    Changed (fun _ => False) written rows rows :=
  ⟨id, fun _ _ => rfl, fun _ _ impossible => absurd impossible not_false⟩

end Changes

section Programs

variable {Data : Type} {environment : Environment Data} {session final : Session Data}

theorem flush_ok {value : PUnit} (done : flush session = .ok value final) : final = session := by
  simp only [flush] at done
  split at done
  · cases done
  · cases done
    rfl

theorem bind_raise_some {α β : Type} {outcome : Except Exception α}
    {next : α -> Program Data β} {result : β}
    (done : (raise outcome >>= next) session = .ok result final) :
    exists value, outcome = .ok value ∧ next value session = .ok result final := by
  cases drawn : outcome with
  | error raised =>
      rw [bind_raise_error drawn] at done
      cases done
  | ok value =>
      rw [bind_raise_ok drawn] at done
      exact ⟨value, rfl, done⟩

/-- An occurrence that is recorded as finished is not held any more. -/
abbrev Released (row : ScheduledTaskOccurrence) : Prop := row.claimedBy = none

theorem released_put {row : ScheduledTaskOccurrence} {wanted : Identifier}
    (named : row.id = wanted) (free : row.claimedBy = none) (rows : List ScheduledTaskOccurrence) :
    Changed (· = wanted) Released rows (Tables.put (·.id) row rows) :=
  changed_put named free rows

theorem completeOccurrence_changed {occurrence : ScheduledTaskOccurrence} {manifest : Manifest}
    {value : PUnit}
    (done : completeOccurrence environment occurrence manifest session = .ok value final) :
    Changed (· = occurrence.id) Released session.occurrences final.occurrences := by
  simp only [completeOccurrence, bind_write] at done
  rw [flush_ok done]
  apply released_put
  · rfl
  · rfl

theorem failOccurrence_changed {occurrence : ScheduledTaskOccurrence}
    {errorCategory : ErrorCategory} {sanitizedError : String} {value : PUnit}
    (done : failOccurrence environment occurrence errorCategory sanitizedError session =
      .ok value final) :
    Changed (· = occurrence.id) Released session.occurrences final.occurrences := by
  simp only [failOccurrence, bind_getDefinition] at done
  rcases bind_raise_some done with ⟨maximum, _, rest⟩
  split at rest
  · rw [bind_write] at rest
    rcases bind_raise_some rest with ⟨delay, _, last⟩
    rw [bind_write] at last
    have twice : Changed (fun wanted => wanted = occurrence.id ∨ wanted = occurrence.id) Released
        session.occurrences final.occurrences := by
      rw [flush_ok last]
      apply Changed.trans
      case continues =>
        apply released_put
        · rfl
        · rfl
      case begins =>
        apply released_put
        · rfl
        · rfl
    exact twice.congr fun _ => or_self_iff
  · rw [bind_write] at rest
    rw [flush_ok rest]
    apply released_put
    · rfl
    · rfl

theorem recoverRow_changed {row recovered : ScheduledTaskOccurrence}
    (done : recoverRow environment row session = .ok recovered final) :
    recovered.id = row.id ∧
      Changed (· = row.id) Released session.occurrences final.occurrences := by
  simp only [recoverRow, bind_getDefinition] at done
  rcases bind_raise_some done with ⟨maximum, _, rest⟩
  split at rest
  · cases rest
    refine ⟨rfl, ?_⟩
    apply released_put
    · rfl
    · rfl
  · rcases bind_raise_some rest with ⟨delay, _, last⟩
    cases last
    refine ⟨rfl, ?_⟩
    apply released_put
    · rfl
    · rfl

theorem recoverRows_changed {rows recovered : List ScheduledTaskOccurrence}
    (done : rows.mapM (recoverRow environment) session = .ok recovered final) :
    recovered.map (·.id) = rows.map (·.id) ∧
      Changed (· ∈ rows.map (·.id)) Released session.occurrences final.occurrences := by
  induction rows generalizing session recovered with
  | nil =>
      cases done
      exact ⟨rfl, (changed_refl _).congr fun wanted => by simp⟩
  | cons row rest ih =>
      rw [List.mapM_cons] at done
      rcases Loops.bind_ok done with ⟨first, middle, here, later⟩
      rcases Loops.bind_ok later with ⟨others, reached, there, ends⟩
      cases ends
      rcases recoverRow_changed here with ⟨named, begins⟩
      rcases ih there with ⟨names, continues⟩
      refine ⟨by simp only [List.map_cons, named, names], ?_⟩
      exact (begins.trans continues).congr fun wanted => by simp

/-- The flushes around the loop write nothing of their own. -/
theorem recoverExpired_ok {recovered : List ScheduledTaskOccurrence}
    (done : recoverExpiredOccurrences environment session = .ok recovered final) :
    (session.occurrences.filter (leaseExpired environment.now)).mapM (recoverRow environment)
      session = .ok recovered final := by
  simp only [recoverExpiredOccurrences] at done
  rcases Loops.bind_ok done with ⟨_, opened, first, rest⟩
  cases flush_ok first
  rw [Loops.bind_get] at rest
  rcases Loops.bind_ok rest with ⟨rows, middle, recovers, later⟩
  rcases Loops.bind_ok later with ⟨_, last, flushed, ends⟩
  cases flush_ok flushed
  cases ends
  exact recovers

theorem recoverExpired_changed {stored : Database Data} {recovered : List ScheduledTaskOccurrence}
    (done : recoverExpiredOccurrences environment (Session.begins stored) = .ok recovered final) :
    recovered.map (·.id) =
        (stored.occurrences.filter (leaseExpired environment.now)).map (·.id) ∧
      Changed (· ∈ recovered.map (·.id)) Released stored.occurrences final.occurrences := by
  rcases recoverRows_changed (recoverExpired_ok done) with ⟨names, changed⟩
  exact ⟨names, names ▸ changed⟩

end Programs

/-! ## The system -/

/-- A worker has claimed an occurrence.  It has lost it when its lease has run out and the
occurrence has since been recovered, or claimed by another worker. -/
structure Holding where
  workerId : String
  occurrenceId : Identifier
  leaseEnds : Instant
  lost : Bool
  deriving DecidableEq, Repr

def Holding.key (holding : Holding) : String × Identifier :=
  (holding.workerId, holding.occurrenceId)

/-- At the instant, these occurrences are taken from the workers whose lease has run out. -/
def Holding.taken (now : Instant) (occurrenceIds : List Identifier) (holding : Holding) : Holding :=
  { holding with
    lost := holding.lost ||
      (holding.occurrenceId ∈ occurrenceIds && holding.leaseEnds ≤ now) }

structure World (Data : Type) where
  stored : Database Data
  holdings : List Holding
  deriving DecidableEq, Repr

section System

variable {Data : Type} (environment : Environment Data) (upper : String -> String)

/-- What an observer notes of a transaction. -/
def holdingsAfter (stored : Database Data) (now : Instant) (holdings : List Holding) :
    Transaction -> List Holding
  | .claim workerId leaseSeconds =>
      match nextOccurrence now stored.occurrences with
      | none => holdings
      | some occurrence =>
          Tables.put Holding.key ⟨workerId, occurrence.id, now + leaseSeconds * second, false⟩
            (holdings.map (Holding.taken now [occurrence.id]))
  | .recover =>
      holdings.map
        (Holding.taken now ((recoveredRows (environment.at now) stored).map (·.id)))
  | _ => holdings

def advance (world : World Data) (label : Instant × Transaction) : World Data where
  stored := operate environment upper world.stored label.1 label.2
  holdings := holdingsAfter environment world.stored label.1 world.holdings label.2

/-- The worker and the occurrence of a transaction that records an outcome. -/
def Transaction.finisher : Transaction -> Option (String × Identifier)
  | .complete workerId occurrenceId _ => some (workerId, occurrenceId)
  | .fail workerId occurrenceId _ _ => some (workerId, occurrenceId)
  | _ => none

/-- The transaction leaves the row of the occurrence as it is. -/
def Unchanged (world : World Data) (label : Instant × Transaction) (wanted : Identifier) : Prop :=
  Tables.lookup (·.id) wanted (advance environment upper world label).stored.occurrences =
    Tables.lookup (·.id) wanted world.stored.occurrences

instance (world : World Data) (label : Instant × Transaction) (wanted : Identifier) :
    Decidable (Unchanged environment upper world label wanted) :=
  inferInstanceAs (Decidable (_ = _))

/-- What is required of a transaction: occurrences that are done with stay as they are, and
so does an occurrence that the worker has lost. -/
structure Excluded (world : World Data) (label : Instant × Transaction) : Prop where
  final : forall row, Tables.lookup (·.id) row.id world.stored.occurrences = some row ->
    row.status = .succeeded ∨ row.status = .cancelled -> Unchanged environment upper world label row.id
  stale : forall holding, holding ∈ world.holdings -> holding.lost = true ->
    label.2.finisher = some holding.key ->
      Unchanged environment upper world label holding.occurrenceId

/-- A worker finishes only an occurrence that is claimed or running in its name, as the tables
have it when the transaction begins.  The functions that finish do not ask for that. -/
def Owned (world : World Data) (label : Instant × Transaction) : Prop :=
  forall workerId row, label.2.finisher = some (workerId, row.id) ->
    Tables.lookup (·.id) row.id world.stored.occurrences = some row ->
      (row.status = .claimed ∨ row.status = .running) ∧ row.claimedBy = some workerId

/-- The keys are distinct, and no row is claimed by a worker that has lost it. -/
structure Observed (world : World Data) : Prop where
  keyed : (world.stored.occurrences.map (·.id)).Nodup
  noted : (world.holdings.map Holding.key).Nodup
  lost : forall holding, holding ∈ world.holdings -> holding.lost = true ->
    forall row, Tables.lookup (·.id) holding.occurrenceId world.stored.occurrences = some row ->
      row.claimedBy ≠ some holding.workerId

end System

/-! ## What each transaction changes -/

section Steps

variable {Data : Type} (environment : Environment Data) (upper : String -> String)
  {stored : Database Data} {now : Instant}

theorem nextOccurrence_mem {occurrences : List ScheduledTaskOccurrence}
    {candidate : ScheduledTaskOccurrence} (next : nextOccurrence now occurrences = some candidate) :
    candidate ∈ occurrences ∧ claimable now candidate = true := by
  have member := List.mem_of_head? next
  rw [List.mem_insertionSort] at member
  exact List.mem_filter.mp member

theorem operate_claim_none {workerId : String} {leaseSeconds : Int}
    (empty : nextOccurrence now stored.occurrences = none) :
    operate environment upper stored now (.claim workerId leaseSeconds) = stored := by
  have done : claimNextOccurrence (environment.at now) workerId leaseSeconds
      (Session.begins stored) = .ok none (Session.begins stored) := by
    simp only [claimNextOccurrence, Loops.bind_get, Session.begins, Environment.at, empty]
    rfl
  exact Transactions.transact_ok done

theorem operate_claim_some {workerId : String} {leaseSeconds : Int}
    {candidate : ScheduledTaskOccurrence}
    (next : nextOccurrence now stored.occurrences = some candidate) :
    Changed (· = candidate.id) (fun row => row.claimedBy = some workerId) stored.occurrences
      (operate environment upper stored now (.claim workerId leaseSeconds)).occurrences := by
  have done : exists row session, claimNextOccurrence (environment.at now) workerId leaseSeconds
      (Session.begins stored) = .ok (some row) session ∧ row.id = candidate.id ∧
      row.claimedBy = some workerId ∧
      session.occurrences = Tables.put (·.id) row stored.occurrences := by
    simp only [claimNextOccurrence, Loops.bind_get, Session.begins, Environment.at, next,
      bind_write]
    exact ⟨_, _, rfl, rfl, rfl, rfl⟩
  rcases done with ⟨row, session, claimed, named, held, written⟩
  have committed : operate environment upper stored now (.claim workerId leaseSeconds) =
      session.commits := Transactions.transact_ok claimed
  rw [committed]
  change Changed _ _ _ session.occurrences
  rw [written]
  exact changed_put named held _

/-- A transaction that finishes an occurrence releases it, or leaves everything as it is. -/
theorem transact_finishing {occurrenceId : Identifier}
    {finish : ScheduledTaskOccurrence -> Program Data PUnit}
    (releases : forall occurrence session value final,
      finish occurrence session = .ok value final ->
        Changed (· = occurrence.id) Released session.occurrences final.occurrences) :
    let next := Transactions.transact Session.begins Session.commits
      (finishing occurrenceId finish) stored
    next.occurrences = stored.occurrences ∨
      exists row, Tables.lookup (·.id) occurrenceId stored.occurrences = some row ∧
        Changed (· = row.id) Released stored.occurrences next.occurrences := by
  cases ended : finishing occurrenceId finish (Session.begins stored) with
  | error raised session =>
      rw [Transactions.transact_error ended]
      exact Or.inl rfl
  | ok value session =>
      rw [Transactions.transact_ok ended]
      simp only [finishing, Loops.bind_get, Session.begins] at ended
      cases found : Tables.lookup (·.id) occurrenceId stored.occurrences with
      | none =>
          rw [found] at ended
          cases ended
          exact Or.inl rfl
      | some row =>
          rw [found] at ended
          exact Or.inr ⟨row, rfl, releases row _ value session ended⟩

theorem operate_finish {workerId : String} {occurrenceId : Identifier} {label : Transaction}
    (finishes : label.finisher = some (workerId, occurrenceId)) :
    (operate environment upper stored now label).occurrences = stored.occurrences ∨
      exists row, Tables.lookup (·.id) occurrenceId stored.occurrences = some row ∧
        Changed (· = row.id) Released stored.occurrences
          (operate environment upper stored now label).occurrences := by
  cases label with
  | complete worker wanted manifest =>
      cases finishes
      exact transact_finishing fun _ _ _ _ done => completeOccurrence_changed done
  | fail worker wanted errorCategory sanitizedError =>
      cases finishes
      exact transact_finishing fun _ _ _ _ done => failOccurrence_changed done
  | claim | recover | resolve => cases finishes

theorem operate_recover :
    (operate environment upper stored now .recover).occurrences = stored.occurrences ∧
        recoveredRows (environment.at now) stored = [] ∨
      (recoveredRows (environment.at now) stored).map (·.id) =
          (stored.occurrences.filter (leaseExpired now)).map (·.id) ∧
        Changed (· ∈ (recoveredRows (environment.at now) stored).map (·.id)) Released
          stored.occurrences (operate environment upper stored now .recover).occurrences := by
  cases ended : recoverExpiredOccurrences (environment.at now) (Session.begins stored) with
  | error raised session =>
      have same : operate environment upper stored now .recover = stored :=
        Transactions.transact_error ended
      refine Or.inl ⟨congrArg Database.occurrences same, ?_⟩
      simp only [recoveredRows, ended]
  | ok rows session =>
      have committed : operate environment upper stored now .recover = session.commits :=
        Transactions.transact_ok ended
      have given : recoveredRows (environment.at now) stored = rows := by
        simp only [recoveredRows, ended]
      rw [committed, given]
      exact Or.inr (recoverExpired_changed ended)

theorem resolutionChanges_keep {occurrence : ScheduledTaskOccurrence} {normalized : String}
    {status : Status} {change : ScheduledTaskOccurrence -> ScheduledTaskOccurrence}
    (known : resolutionChanges now occurrence normalized = some (status, change))
    (row : ScheduledTaskOccurrence) :
    (change row).id = row.id ∧ (change row).claimedBy = row.claimedBy := by
  unfold resolutionChanges at known
  split at known
  · cases known
    exact ⟨rfl, rfl⟩
  split at known
  · cases known
    exact ⟨rfl, rfl⟩
  split at known
  · cases known
    exact ⟨rfl, rfl⟩
  · cases known

/-- A resolution changes a quarantined row, and leaves its claim. -/
theorem operate_resolve (workspaceId occurrenceId : Identifier) (action : String) :
    exists change : ScheduledTaskOccurrence -> ScheduledTaskOccurrence,
      (operate environment upper stored now (.resolve workspaceId occurrenceId action)).occurrences =
          stored.occurrences.map change ∧
        (forall row, (change row).id = row.id ∧ (change row).claimedBy = row.claimedBy) ∧
        forall row, row.status ≠ .quarantined -> change row = row := by
  simp only [operate]
  split
  · exact ⟨id, (List.map_id _).symm, fun _ => ⟨rfl, rfl⟩, fun _ _ => rfl⟩
  · rename_i resolution next resolved
    unfold resolveQuarantinedOccurrence at resolved
    split at resolved
    · cases resolved
    split at resolved
    · cases resolved
    split at resolved
    · cases resolved
    · rename_i status change known
      simp only at resolved
      split at resolved
      · cases resolved
      · cases resolved
        refine ⟨_, rfl, ?_, ?_⟩
        · intro row
          split
          · exact resolutionChanges_keep known row
          · exact ⟨rfl, rfl⟩
        · intro row free
          apply if_neg
          simp [free]

end Steps

/-! ## Runs -/

section Runs

variable {Data : Type} {world : World Data}

theorem taken_key (now : Instant) (occurrenceIds : List Identifier) (holdings : List Holding) :
    (holdings.map (Holding.taken now occurrenceIds)).map Holding.key = holdings.map Holding.key := by
  rw [List.map_map]
  rfl

theorem taken_nothing (now : Instant) (holdings : List Holding) :
    holdings.map (Holding.taken now []) = holdings := by
  induction holdings with
  | nil => rfl
  | cons head tail ih =>
      rw [List.map_cons, ih]
      simp [Holding.taken]

theorem taken_lost {now : Instant} {occurrenceIds : List Identifier} {holding : Holding}
    (lost : (holding.taken now occurrenceIds).lost = true) :
    holding.lost = true ∨ holding.occurrenceId ∈ occurrenceIds := by
  simp only [Holding.taken, Bool.or_eq_true, Bool.and_eq_true, decide_eq_true_eq] at lost
  exact lost.imp_right And.left

/-- The observation stays true when the rows that change are not claimed by a worker that has
lost them. -/
theorem Observed.changed {next : World Data} {touched : Identifier -> Prop}
    {written : ScheduledTaskOccurrence -> Prop} (observed : Observed world)
    (changed : Changed touched written world.stored.occurrences next.stored.occurrences)
    (noted : (next.holdings.map Holding.key).Nodup)
    (free : forall holding, holding ∈ next.holdings -> holding.lost = true ->
      touched holding.occurrenceId -> forall row, written row ->
        row.claimedBy ≠ some holding.workerId)
    (kept : forall holding, holding ∈ next.holdings -> holding.lost = true ->
      ¬ touched holding.occurrenceId ->
        exists old, old ∈ world.holdings ∧ old.lost = true ∧ old.key = holding.key) :
    Observed next where
  keyed := changed.keyed observed.keyed
  noted := noted
  lost := by
    intro holding member lost row stands
    by_cases met : touched holding.occurrenceId
    · exact free holding member lost met row (changed.holds _ row met stands)
    · rcases kept holding member lost met with ⟨old, known, before, same⟩
      rw [changed.others _ met] at stands
      rcases Prod.ext_iff.mp same with ⟨worker, occurrence⟩
      have workerSame : old.workerId = holding.workerId := worker
      have occurrenceSame : old.occurrenceId = holding.occurrenceId := occurrence
      rw [← workerSame]
      exact observed.lost old known before row (occurrenceSame ▸ stands)

variable (environment : Environment Data) (upper : String -> String)

/-- Nothing has changed, and nothing has been taken. -/
theorem Observed.unchanged {next : World Data} (observed : Observed world)
    (same : next.stored.occurrences = world.stored.occurrences)
    (noted : next.holdings = world.holdings) : Observed next := by
  constructor
  · rw [same]
    exact observed.keyed
  · rw [noted]
    exact observed.noted
  · rw [same, noted]
    exact observed.lost

theorem Observed.finish {workerId : String} {occurrenceId : Identifier} {now : Instant}
    {label : Transaction} (observed : Observed world)
    (finishes : label.finisher = some (workerId, occurrenceId)) :
    Observed ⟨operate environment upper world.stored now label, world.holdings⟩ := by
  rcases operate_finish environment upper finishes with same | ⟨row, _, changed⟩
  · exact observed.unchanged same rfl
  · refine observed.changed changed observed.noted ?_ ?_
    · intro holding _ _ _ row released same
      rw [released] at same
      cases same
    · intro holding member lost _
      exact ⟨holding, member, lost, rfl⟩

/-- A claim notes a new holding, and takes the occurrence from whoever held it. -/
theorem Observed.claim (observed : Observed world) (now : Instant) (workerId : String)
    (leaseSeconds : Int) :
    Observed (advance environment upper world (now, .claim workerId leaseSeconds)) := by
  cases next : nextOccurrence now world.stored.occurrences with
  | none =>
      have same : Operations.advance environment upper world
          (now, .claim workerId leaseSeconds) = world := by
        simp only [Operations.advance, operate_claim_none environment upper next,
          holdingsAfter, next]
      rw [same]
      exact observed
  | some candidate =>
      have holdings : (Operations.advance environment upper world
          (now, .claim workerId leaseSeconds)).holdings =
          Tables.put Holding.key
            ⟨workerId, candidate.id, now + leaseSeconds * second, false⟩
            (world.holdings.map (Holding.taken now [candidate.id])) := by
        simp only [Operations.advance, holdingsAfter, next]
      have noted : ((world.holdings.map (Holding.taken now [candidate.id])).map
          Holding.key).Nodup := by
        rw [taken_key]
        exact observed.noted
      have distinct : ((Tables.put Holding.key
          ⟨workerId, candidate.id, now + leaseSeconds * second, false⟩
          (world.holdings.map (Holding.taken now [candidate.id]))).map Holding.key).Nodup :=
        Tables.nodup_put noted
      refine observed.changed (operate_claim_some environment upper next)
        (holdings ▸ distinct) ?_ ?_
      · intro holding member lost met row claimed same
        rw [holdings] at member
        have equal : holding = ⟨workerId, candidate.id, now + leaseSeconds * second, false⟩ := by
          refine List.inj_on_of_nodup_map distinct member (Tables.mem_put_self _ _) ?_
          exact Prod.ext (Option.some.inj (same.symm.trans claimed)) met
        rw [equal] at lost
        cases lost
      · intro holding member lost apart
        rw [holdings] at member
        rcases Tables.mem_put member with new | old
        · rw [new] at apart
          exact absurd rfl apart
        · rcases List.mem_map.mp old with ⟨before, known, same⟩
          subst same
          refine ⟨before, known, ?_, rfl⟩
          rcases taken_lost lost with already | taken
          · exact already
          · exact absurd (List.mem_singleton.mp taken) apart

theorem Observed.recover (observed : Observed world) (now : Instant) :
    Observed (advance environment upper world (now, .recover)) := by
  rcases operate_recover environment upper with ⟨same, nothing⟩ | ⟨_, changed⟩
  · refine observed.unchanged same ?_
    simp only [Operations.advance, holdingsAfter, nothing]
    exact taken_nothing now world.holdings
  · refine observed.changed changed ?_ ?_ ?_
    · have noted := observed.noted
      rw [← taken_key now ((recoveredRows (environment.at now) world.stored).map (·.id))] at noted
      exact noted
    · intro holding _ _ _ row released same
      rw [released] at same
      cases same
    · intro holding member lost apart
      rcases List.mem_map.mp member with ⟨before, known, same⟩
      subst same
      exact ⟨before, known, (taken_lost lost).resolve_right apart, rfl⟩

theorem Observed.resolve (observed : Observed world) (now : Instant)
    (workspaceId occurrenceId : Identifier) (action : String) :
    Observed (advance environment upper world
      (now, .resolve workspaceId occurrenceId action)) := by
  rcases operate_resolve environment upper workspaceId occurrenceId action with
    ⟨change, mapped, keeps, _⟩
  constructor
  · change ((operate environment upper world.stored now
      (.resolve workspaceId occurrenceId action)).occurrences.map (·.id)).Nodup
    rw [mapped, List.map_map]
    exact (List.map_congr_left fun row _ => (keeps row).1).symm ▸ observed.keyed
  · exact observed.noted
  · intro holding member lost row stands
    change Tables.lookup (·.id) holding.occurrenceId (operate environment upper world.stored now
      (.resolve workspaceId occurrenceId action)).occurrences = some row at stands
    rw [mapped, Tables.lookup_map fun row => (keeps row).1] at stands
    rcases Option.map_eq_some_iff.mp stands with ⟨old, found, same⟩
    rw [← same, (keeps old).2]
    exact observed.lost holding member lost old found

/-- Every transaction keeps the observation, whoever takes it. -/
theorem Observed.advance (observed : Observed world) (label : Instant × Transaction) :
    Observed (advance environment upper world label) := by
  rcases label with ⟨now, label⟩
  cases label with
  | claim workerId leaseSeconds => exact observed.claim environment upper now workerId leaseSeconds
  | complete workerId occurrenceId manifest => exact observed.finish environment upper rfl
  | fail workerId occurrenceId errorCategory sanitizedError =>
      exact observed.finish environment upper rfl
  | recover => exact observed.recover environment upper now
  | resolve workspaceId occurrenceId action =>
      exact observed.resolve environment upper now workspaceId occurrenceId action

theorem Observed.sole {other row : ScheduledTaskOccurrence} (observed : Observed world)
    (member : other ∈ world.stored.occurrences) (same : other.id = row.id)
    (stands : Tables.lookup (·.id) row.id world.stored.occurrences = some row) : other = row := by
  have found := Tables.lookup_of_mem observed.keyed member
  rw [same, stands] at found
  exact (Option.some.inj found).symm

/-- No transaction of the scheduler, of the operator or of a claim touches an occurrence that is
done with; one that finishes an occurrence does not where its worker holds it. -/
theorem Observed.final {label : Instant × Transaction} (observed : Observed world)
    (owned : Owned world label) {row : ScheduledTaskOccurrence}
    (stands : Tables.lookup (·.id) row.id world.stored.occurrences = some row)
    (done : row.status = .succeeded ∨ row.status = .cancelled) :
    Unchanged environment upper world label row.id := by
  rcases label with ⟨now, label⟩
  unfold Unchanged
  simp only [Operations.advance]
  have finished : forall workerId occurrenceId,
      label.finisher = some (workerId, occurrenceId) ->
        Tables.lookup (·.id) row.id (operate environment upper world.stored now label).occurrences =
          Tables.lookup (·.id) row.id world.stored.occurrences := by
    intro workerId occurrenceId finishes
    rcases operate_finish environment upper finishes with same | ⟨found, looked, changed⟩
    · rw [same]
    · refine changed.others row.id fun touched => ?_
      have named : found.id = occurrenceId := (Tables.lookup_some looked).2
      have active := (owned workerId row (by rw [finishes, touched, named]) stands).1
      rcases active with claimed | running <;> rcases done with succeeded | cancelled <;> simp_all
  cases label with
  | claim workerId leaseSeconds =>
      cases next : nextOccurrence now world.stored.occurrences with
      | none => rw [operate_claim_none environment upper next]
      | some candidate =>
          refine (operate_claim_some environment upper next).others row.id fun touched => ?_
          rcases nextOccurrence_mem next with ⟨member, free⟩
          have same := observed.sole member touched.symm stands
          subst same
          rcases done with succeeded | cancelled <;> simp_all [claimable]
  | complete workerId occurrenceId manifest => exact finished workerId occurrenceId rfl
  | fail workerId occurrenceId errorCategory sanitizedError =>
      exact finished workerId occurrenceId rfl
  | recover =>
      rcases operate_recover environment upper with ⟨same, _⟩ | ⟨names, changed⟩
      · rw [same]
      · refine changed.others row.id fun touched => ?_
        rw [names] at touched
        rcases List.mem_map.mp touched with ⟨expired, selected, same⟩
        rcases List.mem_filter.mp selected with ⟨member, out⟩
        have equal := observed.sole member same stands
        subst equal
        rcases done with succeeded | cancelled <;> simp_all [leaseExpired]
  | resolve workspaceId occurrenceId action =>
      rcases operate_resolve environment upper workspaceId occurrenceId action with
        ⟨change, mapped, keeps, rest⟩
      rw [mapped, Tables.lookup_map fun row => (keeps row).1, stands, Option.map_some]
      rw [rest row]
      rcases done with succeeded | cancelled <;> simp_all

/-- A transaction whose worker holds the occurrence meets the requirement. -/
theorem Observed.excluded {label : Instant × Transaction} (observed : Observed world)
    (owned : Owned world label) : Excluded environment upper world label where
  final := fun _ stands done => observed.final environment upper owned stands done
  stale := by
    intro holding member lost finishes
    rcases label with ⟨now, label⟩
    unfold Unchanged
    simp only [Operations.advance]
    have named : label.finisher = some (holding.workerId, holding.occurrenceId) := finishes
    rcases operate_finish environment upper named with same | ⟨found, looked, _⟩
    · rw [same]
    · have identified : found.id = holding.occurrenceId := (Tables.lookup_some looked).2
      rw [← identified] at named
      have held := (owned holding.workerId found named (identified.symm ▸ looked)).2
      exact absurd held (observed.lost holding member lost found looked)

/-- In a run in which only the holders finish occurrences, every transaction leaves alone what is
done with and what its worker has lost. -/
theorem workers_excluded {labels : List (Instant × Transaction)}
    (keyed : (world.stored.occurrences.map (·.id)).Nodup) (fresh : world.holdings = [])
    (owned : Runs.Along (advance environment upper) Owned world labels) :
    Runs.Along (advance environment upper) (Excluded environment upper) world labels := by
  have observed : Observed world := by
    refine ⟨keyed, ?_, ?_⟩
    · rw [fresh]
      exact List.nodup_nil
    · rw [fresh]
      intro holding impossible
      cases impossible
  exact owned.entails (motive := Observed) (fun _ label holds _ => holds.advance environment upper label)
    (fun _ _ holds guarded => holds.excluded environment upper guarded) observed

end Runs

/-! ## A slow worker -/

def freshnessTask : ScheduledTaskOccurrence :=
  ⟨0, 0, none, 0, .queued, none, none, 0, none, none, none, [], none, none⟩

def oneTask : World Unit :=
  ⟨⟨[⟨0, "DATA_FRESHNESS", false, .integer 5⟩], [freshnessTask], ()⟩, []⟩

def quietHost : Environment Unit where
  now := 0
  randint := fun _ _ => 0
  handlers := []

/-- The lease of the first worker runs out, and the second worker gets the occurrence. -/
def takeover : List (Instant × Transaction) :=
  [(0, .claim "slow" 60), (61 * second, .recover), (200 * second, .claim "fast" 60)]

def takenOver : World Unit := takeover.foldl (advance quietHost id) oneTask

def fastRow : ScheduledTaskOccurrence :=
  { freshnessTask with
    status := .claimed
    claimedBy := some "fast"
    leaseExpiresAt := some (260 * second)
    attempts := 2
    nextRetryAt := some (91 * second)
    sanitizedError := some "Worker lease expired; occurrence recovered"
    startedAt := some 0 }

theorem takenOver_eq :
    takenOver.stored.occurrences = [fastRow] ∧
      takenOver.holdings =
        [⟨"slow", 0, 60 * second, true⟩, ⟨"fast", 0, 260 * second, false⟩] := by
  decide +kernel

/-- The second worker finishes what it has claimed. -/
theorem takeover_excluded :
    Runs.Along (advance quietHost id) (Excluded quietHost id) oneTask
      (takeover ++ [(201 * second, .complete "fast" 0 [])]) := by
  refine workers_excluded quietHost id (by decide) rfl ⟨?_, ?_, ?_, ?_, trivial⟩
  · intro workerId row impossible
    cases impossible
  · intro workerId row impossible
    cases impossible
  · intro workerId row impossible
    cases impossible
  · intro workerId row finishes stands
    have same : ("fast", 0) = (workerId, row.id) := Option.some.inj finishes
    have named : 0 = row.id := congrArg Prod.snd same
    have worker : "fast" = workerId := congrArg Prod.fst same
    change Tables.lookup (·.id) row.id takenOver.stored.occurrences = some row at stands
    rw [← named, takenOver_eq.1] at stands
    cases stands
    exact ⟨Or.inl rfl, congrArg some worker⟩

/-- The first worker finishes it all the same, and the row of the second one is lost. -/
theorem takeover_unguarded :
    (advance quietHost id takenOver (201 * second, .complete "slow" 0 [])).stored.occurrences =
        [{ fastRow with
            status := .succeeded
            claimedBy := none
            leaseExpiresAt := none
            finishedAt := some (201 * second) }] ∧
      ¬ Runs.Along (advance quietHost id) (Excluded quietHost id) oneTask
        (takeover ++ [(201 * second, .complete "slow" 0 [])]) := by
  refine ⟨by decide +kernel, fun along => ?_⟩
  have last : Excluded quietHost id takenOver (201 * second, .complete "slow" 0 []) :=
    along.2.2.2.1
  have kept := last.stale ⟨"slow", 0, 60 * second, true⟩
    (by
      rw [takenOver_eq.2]
      exact List.mem_cons_self)
    rfl rfl
  revert kept
  decide +kernel

end Operations
end MarketIntelligence
