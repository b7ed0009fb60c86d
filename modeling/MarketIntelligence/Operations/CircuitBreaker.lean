import MarketIntelligence.Operations.Worker
import Mathlib.Data.List.Induction

namespace MarketIntelligence
namespace Operations

/-!
# Circuit breakers of providers

A breaker opens when enough failures have come in a row, and lets requests through
again once a cooldown is over.  It answers a request from its state, a counter and the
instant of the next probe, and answering can change the state.

What it is for is said of the results that have been recorded: a request is refused
while there are enough failures since the last success and the cooldown after the last
of them is not over.  The breaker is shown to answer so, whatever is recorded while it
is open and however many probes it lets through.
-/

inductive CircuitState where
  | closed
  | opened
  | halfOpen
  deriving DecidableEq, Repr

structure ProviderCircuitBreaker where
  state : Option CircuitState
  consecutiveFailures : Option Nat
  openedAt : Option Instant
  nextProbeAt : Option Instant
  lastErrorCategory : Option String
  deriving DecidableEq, Repr

/-- The answer, and the breaker after it. -/
def circuitAllowsRequest (now : Instant) (breaker : ProviderCircuitBreaker) :
    Bool × ProviderCircuitBreaker :=
  if breaker.state ∈ [none, some .closed] then (true, breaker)
  else if breaker.state = some .opened ∧ breaker.nextProbeAt.any (· ≤ now) then
    (true, { breaker with state := some .halfOpen })
  else (breaker.state = some .halfOpen, breaker)

def recordProviderResult (succeeded : Bool) (now : Instant) (errorCategory : Option String)
    (failureThreshold : Nat) (cooldownSeconds : Int) (breaker : ProviderCircuitBreaker) :
    ProviderCircuitBreaker :=
  if succeeded then
    { state := some .closed
      consecutiveFailures := some 0
      openedAt := none
      nextProbeAt := none
      lastErrorCategory := none }
  else
    let failures := breaker.consecutiveFailures.getD 0 + 1
    let category := errorCategory.getD ""
    let recorded :=
      { breaker with
        consecutiveFailures := some failures
        lastErrorCategory := some (if category = "" then "UNKNOWN" else category) }
    if failureThreshold ≤ failures then
      { recorded with
        state := some .opened
        openedAt := some now
        nextProbeAt := some (now + cooldownSeconds * second) }
    else recorded

/-! ## What has happened -/

inductive CircuitEvent where
  | request (now : Instant)
  | result (succeeded : Bool) (now : Instant) (errorCategory : Option String)
  deriving DecidableEq, Repr

namespace CircuitEvent

def now : CircuitEvent -> Instant
  | request now => now
  | result _ now _ => now

def success : CircuitEvent -> Bool
  | result true _ _ => true
  | _ => false

def failure : CircuitEvent -> Option Instant
  | result false now _ => some now
  | _ => none

/-- What the call does to the breaker. -/
def apply (failureThreshold : Nat) (cooldownSeconds : Int) (breaker : ProviderCircuitBreaker) :
    CircuitEvent -> ProviderCircuitBreaker
  | request now => (circuitAllowsRequest now breaker).2
  | result succeeded now errorCategory =>
      recordProviderResult succeeded now errorCategory failureThreshold cooldownSeconds breaker

end CircuitEvent

/-- The instants of the failures since the last success, the last one first. -/
def failuresSinceSuccess (events : List CircuitEvent) : List Instant :=
  (events.reverse.takeWhile fun event => !event.success).filterMap CircuitEvent.failure

/-- Since the last success there are at least as many failures as the threshold, and the cooldown
after the last of them is not over at the instant. -/
def Tripped (failureThreshold : Nat) (cooldownSeconds : Int) (events : List CircuitEvent)
    (now : Instant) : Prop :=
  failureThreshold ≤ (failuresSinceSuccess events).length ∧
    exists last, (failuresSinceSuccess events).head? = some last ∧
      now < last + cooldownSeconds * second

/-- No call is earlier than the one before it, as it is for the calls of one process. -/
def Chronological (instants : List Instant) : Prop :=
  instants.Pairwise (· ≤ ·)

/-- The breaker starts closed, whether its row has been written already or takes the defaults of
its columns, and without a failure counted. -/
structure ProviderCircuitBreaker.Fresh (breaker : ProviderCircuitBreaker) : Prop where
  closed : breaker.state ∈ [none, some .closed]
  clean : breaker.consecutiveFailures.getD 0 = 0

section Events

variable {events : List CircuitEvent}

theorem failuresSinceSuccess_request (now : Instant) :
    failuresSinceSuccess (events ++ [.request now]) = failuresSinceSuccess events := by
  rw [failuresSinceSuccess, List.reverse_append]
  rfl

theorem failuresSinceSuccess_success (now : Instant) (errorCategory : Option String) :
    failuresSinceSuccess (events ++ [.result true now errorCategory]) = [] := by
  rw [failuresSinceSuccess, List.reverse_append]
  rfl

theorem failuresSinceSuccess_failure (now : Instant) (errorCategory : Option String) :
    failuresSinceSuccess (events ++ [.result false now errorCategory]) =
      now :: failuresSinceSuccess events := by
  rw [failuresSinceSuccess, List.reverse_append]
  rfl

end Events

/-! ## The breaker and what has happened -/

/-- The state says what has happened.  A breaker that is half open has answered a request
after the cooldown. -/
structure Agrees (failureThreshold : Nat) (cooldownSeconds : Int) (events : List CircuitEvent)
    (breaker : ProviderCircuitBreaker) : Prop where
  counted : breaker.consecutiveFailures.getD 0 = (failuresSinceSuccess events).length
  closed : breaker.state ∈ [none, some .closed] <->
    (failuresSinceSuccess events).length < failureThreshold
  probe : breaker.state = some .opened ->
    breaker.nextProbeAt =
      (failuresSinceSuccess events).head?.map (· + cooldownSeconds * second)
  probed : breaker.state = some .halfOpen ->
    forall last, (failuresSinceSuccess events).head? = some last ->
      exists event, event ∈ events ∧ last + cooldownSeconds * second ≤ event.now

section Breaker

variable {failureThreshold : Nat} {cooldownSeconds : Int} {events : List CircuitEvent}
  {breaker : ProviderCircuitBreaker} {now : Instant}

theorem ProviderCircuitBreaker.Fresh.agrees (fresh : breaker.Fresh)
    (positive : 1 ≤ failureThreshold) : Agrees failureThreshold cooldownSeconds [] breaker where
  counted := fresh.clean
  closed := iff_of_true fresh.closed positive
  probe opened := by
    have closed := fresh.closed
    rw [opened] at closed
    exact absurd closed (by decide)
  probed := by
    intro _ last impossible
    cases impossible

theorem Agrees.request (agrees : Agrees failureThreshold cooldownSeconds events breaker) :
    Agrees failureThreshold cooldownSeconds (events ++ [.request now])
      (circuitAllowsRequest now breaker).2 := by
  have extended : forall last,
      (exists event, event ∈ events ∧ last + cooldownSeconds * second ≤ event.now) ->
        exists event, event ∈ events ++ [.request now] ∧
          last + cooldownSeconds * second ≤ event.now := by
    rintro last ⟨event, member, elapsed⟩
    exact ⟨event, List.mem_append_left _ member, elapsed⟩
  have unchanged : Agrees failureThreshold cooldownSeconds (events ++ [.request now]) breaker := by
    refine ⟨?_, ?_, ?_, ?_⟩
    · rw [failuresSinceSuccess_request]
      exact agrees.counted
    · rw [failuresSinceSuccess_request]
      exact agrees.closed
    · rw [failuresSinceSuccess_request]
      exact agrees.probe
    · rw [failuresSinceSuccess_request]
      exact fun half last latest => extended last (agrees.probed half last latest)
  rw [circuitAllowsRequest]
  split
  · exact unchanged
  split
  · rename_i shut elapsed
    refine ⟨unchanged.counted, ?_, ?_, ?_⟩
    · refine iff_of_false (by simp) fun few => shut (unchanged.closed.mpr few)
    · intro impossible
      cases impossible
    · intro _ last latest
      rw [failuresSinceSuccess_request] at latest
      refine ⟨.request now, List.mem_append_right _ List.mem_cons_self, ?_⟩
      have due := elapsed.2
      rw [agrees.probe elapsed.1, latest] at due
      exact of_decide_eq_true due
  · exact unchanged

theorem Agrees.success (positive : 1 ≤ failureThreshold) (errorCategory : Option String) :
    Agrees failureThreshold cooldownSeconds (events ++ [.result true now errorCategory])
      (recordProviderResult true now errorCategory failureThreshold cooldownSeconds breaker) := by
  refine ⟨?_, ?_, ?_, ?_⟩
  · rw [failuresSinceSuccess_success]
    rfl
  · rw [failuresSinceSuccess_success]
    exact iff_of_true (List.mem_cons_of_mem _ List.mem_cons_self) positive
  · intro impossible
    cases impossible
  · intro impossible
    cases impossible

theorem Agrees.failure (agrees : Agrees failureThreshold cooldownSeconds events breaker)
    (errorCategory : Option String) :
    Agrees failureThreshold cooldownSeconds (events ++ [.result false now errorCategory])
      (recordProviderResult false now errorCategory failureThreshold cooldownSeconds breaker) := by
  have counted : breaker.consecutiveFailures.getD 0 + 1 =
      (now :: failuresSinceSuccess events).length := by
    rw [agrees.counted, List.length_cons]
  rw [recordProviderResult, if_neg Bool.false_ne_true]
  simp only
  split
  · rename_i enough
    rw [counted] at enough
    refine ⟨?_, ?_, ?_, ?_⟩
    · rw [failuresSinceSuccess_failure]
      exact counted
    · rw [failuresSinceSuccess_failure]
      exact iff_of_false (by simp) (not_lt.mpr enough)
    · rw [failuresSinceSuccess_failure]
      intro _
      rfl
    · intro impossible
      cases impossible
  · rename_i few
    rw [counted] at few
    -- With too few failures the breaker was closed, and it stays so.
    have open_ : breaker.state ∈ [none, some .closed] := by
      apply agrees.closed.mpr
      rw [List.length_cons] at few
      omega
    refine ⟨?_, ?_, ?_, ?_⟩
    · rw [failuresSinceSuccess_failure]
      exact counted
    · rw [failuresSinceSuccess_failure]
      exact iff_of_true open_ (not_le.mp few)
    · intro opened
      have impossible : breaker.state = some .opened := opened
      rw [impossible] at open_
      exact absurd open_ (by decide)
    · intro half
      have impossible : breaker.state = some .halfOpen := half
      rw [impossible] at open_
      exact absurd open_ (by decide)

theorem Agrees.apply (agrees : Agrees failureThreshold cooldownSeconds events breaker)
    (positive : 1 ≤ failureThreshold) (event : CircuitEvent) :
    Agrees failureThreshold cooldownSeconds (events ++ [event])
      (event.apply failureThreshold cooldownSeconds breaker) := by
  cases event with
  | request now => exact agrees.request
  | result succeeded now errorCategory =>
      cases succeeded with
      | true => exact Agrees.success positive errorCategory
      | false => exact agrees.failure errorCategory

theorem foldl_agrees (positive : 1 ≤ failureThreshold) (fresh : breaker.Fresh)
    (events : List CircuitEvent) :
    Agrees failureThreshold cooldownSeconds events
      (events.foldl (CircuitEvent.apply failureThreshold cooldownSeconds) breaker) := by
  induction events using List.reverseRecOn with
  | nil => exact fresh.agrees positive
  | append_singleton before event ih =>
      rw [List.foldl_append]
      exact ih.apply positive event

/-- A breaker that agrees with what has happened answers by it. -/
theorem Agrees.refused_iff (agrees : Agrees failureThreshold cooldownSeconds events breaker)
    (positive : 1 ≤ failureThreshold) (later : forall event, event ∈ events -> event.now ≤ now) :
    (circuitAllowsRequest now breaker).1 = false <->
      Tripped failureThreshold cooldownSeconds events now := by
  by_cases closed : breaker.state ∈ [none, some .closed]
  · rw [circuitAllowsRequest, if_pos closed]
    refine iff_of_false Bool.noConfusion fun tripped => ?_
    exact absurd (agrees.closed.mp closed) (not_lt.mpr tripped.1)
  have enough : failureThreshold ≤ (failuresSinceSuccess events).length :=
    not_lt.mp fun few => closed (agrees.closed.mpr few)
  cases latest : (failuresSinceSuccess events).head? with
  | none =>
      rw [List.head?_eq_none_iff.mp latest] at enough
      exact absurd (le_trans positive enough) (by decide)
  | some last =>
      have tripped : Tripped failureThreshold cooldownSeconds events now <->
          now < last + cooldownSeconds * second := by
        constructor
        · rintro ⟨_, other, same, before⟩
          rw [latest] at same
          exact Option.some.inj same ▸ before
        · exact fun before => ⟨enough, last, latest, before⟩
      rw [tripped, circuitAllowsRequest, if_neg closed]
      by_cases half : breaker.state = some .halfOpen
      · -- A probe was let through, and the cooldown has been over since then.
        rcases agrees.probed half last latest with ⟨event, member, elapsed⟩
        have now_ := le_trans elapsed (later event member)
        rw [if_neg (by rw [half]; simp), half]
        exact iff_of_false (by simp) (not_lt.mpr now_)
      · have opened : breaker.state = some .opened := by
          cases state : breaker.state with
          | none => exact absurd (state ▸ List.mem_cons_self) closed
          | some value =>
              cases value with
              | closed => exact absurd (by rw [state]; decide) closed
              | opened => rfl
              | halfOpen => exact absurd state half
        have probe := agrees.probe opened
        rw [latest] at probe
        by_cases elapsed : last + cooldownSeconds * second ≤ now
        · rw [if_pos ⟨opened, by rw [probe]; exact decide_eq_true elapsed⟩]
          exact iff_of_false Bool.noConfusion (not_lt.mpr elapsed)
        · rw [if_neg]
          · refine iff_of_true ?_ (not_le.mp elapsed)
            exact decide_eq_false half
          · rintro ⟨_, due⟩
            rw [probe] at due
            exact elapsed (of_decide_eq_true due)

/-- Whatever calls have been made, in order, a request is refused exactly while there are enough
failures and the cooldown after the last one is not over. -/
theorem circuitAllowsRequest_refused_iff (positive : 1 ≤ failureThreshold) (cooldownSeconds : Int)
    (fresh : breaker.Fresh) (events : List CircuitEvent) (now : Instant)
    (ordered : Chronological (events.map CircuitEvent.now ++ [now])) :
    (circuitAllowsRequest now
        (events.foldl (CircuitEvent.apply failureThreshold cooldownSeconds) breaker)).1 = false <->
      Tripped failureThreshold cooldownSeconds events now := by
  apply (foldl_agrees positive fresh events).refused_iff positive
  intro event member
  exact (List.pairwise_append.mp ordered).2.2 event.now (List.mem_map_of_mem member) now
    (List.mem_singleton.mpr rfl)

end Breaker

/-! ## A provider that stays down -/

def newBreaker : ProviderCircuitBreaker := ⟨none, none, none, none, none⟩

/-- Three failures open the breaker.  The probe after the cooldown fails as well, and so does a
call that was under way. -/
def outage : List CircuitEvent :=
  [.result false 0 (some "TIMEOUT"), .result false 0 (some "TIMEOUT"), .result false 0 none,
    .request (300 * second), .result false (300 * second) none, .result false (310 * second) none]

/-- The cooldown runs from the last of them. -/
theorem outage_refused :
    (circuitAllowsRequest (601 * second) (outage.foldl (CircuitEvent.apply 3 300) newBreaker)).1 =
        false ∧
      ((circuitAllowsRequest (601 * second)
          (outage.foldl (CircuitEvent.apply 3 300) newBreaker)).1 = false <->
        Tripped 3 300 outage (601 * second)) := by
  have ordered : Chronological (outage.map CircuitEvent.now ++ [601 * second]) := by
    unfold Chronological
    decide
  exact ⟨by decide, circuitAllowsRequest_refused_iff (by decide) 300 ⟨by decide, rfl⟩ outage _
    ordered⟩

end Operations
end MarketIntelligence
