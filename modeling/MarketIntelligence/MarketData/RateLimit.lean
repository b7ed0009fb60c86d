import MarketIntelligence.Core.Values
import Mathlib.Data.List.Pairwise
import Mathlib.Tactic.Linarith

namespace MarketIntelligence
namespace MarketData
namespace RateLimit

open Foundations

/-!
# The in-process rate limiter

For each key the limiter keeps the times of the calls that it has admitted and that are
still inside the window.  A call is refused while there are as many as the limit.

The queue of a key is what has been admitted for it since some instant at or before the
start of the window, so both directions follow from counting what has been admitted.
-/

/-- The attributes of `InProcessRateLimiter`.  The events of a key that was not asked for
yet are empty. -/
structure RateLimiter where
  limit : Nat
  window : Int
  events : String -> List Instant

/-- `InProcessRateLimiter(limit, window_seconds)`. -/
def RateLimiter.create (limit : Nat) (windowSeconds : Nat) : RateLimiter where
  limit := limit
  window := windowSeconds * 1000000
  events := fun _ => []

structure Call where
  key : String
  time : Instant
  deriving DecidableEq, Repr

/-- `while events and events[0] <= cutoff: events.popleft()` -/
def evict (cutoff : Instant) (events : List Instant) : List Instant :=
  events.dropWhile fun time => time ≤ cutoff

def RateLimiter.write (limiter : RateLimiter) (key : String) (events : List Instant) :
    RateLimiter :=
  { limiter with events := fun other => if other = key then events else limiter.events other }

/-- Whether the call is admitted, and the limiter after it. -/
def allow (limiter : RateLimiter) (call : Call) : Bool × RateLimiter :=
  let events := evict (call.time - limiter.window) (limiter.events call.key)
  if limiter.limit ≤ events.length then (false, limiter.write call.key events)
  else (true, limiter.write call.key (events ++ [call.time]))

/-- One call, with the calls that have been admitted. -/
def record (state : List Call × RateLimiter) (call : Call) : List Call × RateLimiter :=
  let (admitted, next) := allow state.2 call
  (if admitted then state.1 ++ [call] else state.1, next)

/-- The calls that a new limiter admits of a sequence, and the limiter after it. -/
def serve (limiter : RateLimiter) (calls : List Call) : List Call × RateLimiter :=
  calls.foldl record ([], limiter)

/-- The times that are admitted for a key. -/
def timesOf (key : String) (calls : List Call) : List Instant :=
  (calls.filter fun call => call.key = key).map Call.time

section Queues

variable {limiter : RateLimiter} {admitted : List Call} {latest : Instant} {call : Call}

theorem evict_eq_filter {events : List Instant} (sorted : events.Pairwise (· ≤ ·))
    (cutoff : Instant) : evict cutoff events = events.filter fun time => cutoff < time := by
  unfold evict
  induction events with
  | nil => rfl
  | cons head tail ih =>
      rcases List.pairwise_cons.mp sorted with ⟨first, rest⟩
      by_cases old : head ≤ cutoff
      · rw [List.dropWhile_cons_of_pos (by simpa using old),
          List.filter_cons_of_neg (by simpa using old), ih rest]
      · rw [List.dropWhile_cons_of_neg (by simpa using old)]
        refine (List.filter_eq_self.mpr fun time member => ?_).symm
        rcases List.mem_cons.mp member with same | later
        · exact decide_eq_true (same ▸ not_le.mp old)
        · exact decide_eq_true ((not_le.mp old).trans_le (first time later))

theorem timesOf_append (key : String) (calls more : List Call) :
    timesOf key (calls ++ more) = timesOf key calls ++ timesOf key more := by
  unfold timesOf
  rw [List.filter_append, List.map_append]

theorem timesOf_single (key : String) (call : Call) :
    timesOf key [call] = if call.key = key then [call.time] else [] := by
  unfold timesOf
  by_cases same : call.key = key <;> simp [same]

/-- The queues hold what has been admitted since an instant outside the window. -/
structure Tracks (limiter : RateLimiter) (admitted : List Call) (latest : Instant) : Prop where
  sorted : forall key, (timesOf key admitted).Pairwise (· ≤ ·)
  past : forall key time, time ∈ timesOf key admitted -> time ≤ latest
  events : forall key, exists cutoff, cutoff ≤ latest - limiter.window ∧
    limiter.events key = (timesOf key admitted).filter fun time => cutoff < time

theorem tracks_create (limit windowSeconds : Nat) (latest : Instant) :
    Tracks (.create limit windowSeconds) [] latest where
  sorted := fun _ => List.Pairwise.nil
  past := fun _ _ member => by cases member
  events := fun _ => ⟨_, le_refl _, rfl⟩

theorem Tracks.mono {later : Instant} (tracks : Tracks limiter admitted latest)
    (order : latest ≤ later) : Tracks limiter admitted later where
  sorted := tracks.sorted
  past := fun key time member => (tracks.past key time member).trans order
  events := by
    intro key
    rcases tracks.events key with ⟨cutoff, below, same⟩
    exact ⟨cutoff, by linarith, same⟩

/-- After the eviction the queue holds what has been admitted in the window. -/
theorem Tracks.evicted (tracks : Tracks limiter admitted latest) (order : latest ≤ call.time) :
    evict (call.time - limiter.window) (limiter.events call.key) =
      (timesOf call.key admitted).filter fun time => call.time - limiter.window < time := by
  rcases tracks.events call.key with ⟨cutoff, below, same⟩
  rw [evict_eq_filter (same ▸ (tracks.sorted call.key).filter _), same, List.filter_filter]
  refine List.filter_congr fun time _ => ?_
  have implied : call.time - limiter.window < time -> cutoff < time := by
    intro inside
    linarith
  by_cases inside : call.time - limiter.window < time
  · simp [inside, implied inside]
  · simp [inside]

/-- What is admitted with one more call. -/
theorem record_fst (state : List Call × RateLimiter) (call : Call) :
    (record state call).1 = state.1 ++ if (allow state.2 call).1 then [call] else [] := by
  unfold record
  dsimp only
  split
  · rfl
  · exact (List.append_nil _).symm

/-- The queue of the key that is asked for, after the call. -/
theorem record_events (state : List Call × RateLimiter) (call : Call) (key : String) :
    (record state call).2.events key =
      if key = call.key then
        evict (call.time - state.2.window) (state.2.events call.key) ++
          if (allow state.2 call).1 then [call.time] else []
      else state.2.events key := by
  unfold record allow
  dsimp only
  split
  · simp only [Bool.false_eq_true, if_false, List.append_nil]
    rfl
  · simp only [if_true]
    rfl

theorem record_window (state : List Call × RateLimiter) (call : Call) :
    (record state call).2.window = state.2.window ∧ (record state call).2.limit = state.2.limit := by
  unfold record allow
  dsimp only
  split <;> exact ⟨rfl, rfl⟩

/-- The times of a key after the call. -/
theorem timesOf_record (state : List Call × RateLimiter) (call : Call) (key : String) :
    timesOf key (record state call).1 =
      timesOf key state.1 ++
        if call.key = key ∧ (allow state.2 call).1 = true then [call.time] else [] := by
  rw [record_fst, timesOf_append]
  cases (allow state.2 call).1 with
  | true =>
      rw [if_pos rfl, timesOf_single]
      simp
  | false =>
      rw [if_neg (by decide), if_neg (fun both => absurd both.2 (by decide))]
      rfl

theorem record_tracks {state : List Call × RateLimiter} (tracks : Tracks state.2 state.1 latest)
    (positive : 0 < state.2.window) (order : latest ≤ call.time) :
    Tracks (record state call).2 (record state call).1 call.time where
  sorted := by
    intro key
    rw [timesOf_record]
    split
    · refine List.pairwise_append.mpr ⟨tracks.sorted key, List.pairwise_singleton _ _, ?_⟩
      intro time member new same
      rw [List.mem_singleton.mp same]
      exact (tracks.past key time member).trans order
    · rw [List.append_nil]
      exact tracks.sorted key
  past := by
    intro key time member
    rw [timesOf_record] at member
    rcases List.mem_append.mp member with old | new
    · exact (tracks.past key time old).trans order
    · split at new
      · exact le_of_eq (List.mem_singleton.mp new)
      · cases new
  events := by
    intro key
    rw [(record_window state call).1, record_events, timesOf_record]
    by_cases same : key = call.key
    · subst same
      refine ⟨call.time - state.2.window, le_refl _, ?_⟩
      rw [if_pos rfl, tracks.evicted order, List.filter_append]
      cases (allow state.2 call).1 with
      | true => simp [positive]
      | false => simp
    · rcases tracks.events key with ⟨cutoff, below, held⟩
      refine ⟨cutoff, by linarith, ?_⟩
      rw [if_neg same, if_neg (fun both => same both.1.symm), List.append_nil]
      exact held

/-- A refused call finds the window full, and an admitted one does not. -/
theorem allow_iff {state : List Call × RateLimiter} (tracks : Tracks state.2 state.1 latest)
    (order : latest ≤ call.time) :
    (allow state.2 call).1 = true <->
      (timesOf call.key state.1).countP (fun time => call.time - state.2.window < time) <
        state.2.limit := by
  unfold allow
  dsimp only
  rw [tracks.evicted order, ← List.countP_eq_length_filter]
  split
  · rename_i full
    exact iff_of_false Bool.false_ne_true (not_lt.mpr full)
  · rename_i free
    exact iff_of_true rfl (not_le.mp free)

/-- The instants lie less than a window apart. -/
def Narrow (window : Int) (inside : Instant -> Bool) : Prop :=
  forall first second, inside first = true -> inside second = true -> second - window < first

/-- Of instants that lie less than a window apart no more than the limit are admitted. -/
def Limited (limit : Nat) (window : Int) (admitted : List Call) : Prop :=
  forall key inside, Narrow window inside -> (timesOf key admitted).countP inside ≤ limit

theorem record_limited {state : List Call × RateLimiter} (tracks : Tracks state.2 state.1 latest)
    (order : latest ≤ call.time) (limited : Limited state.2.limit state.2.window state.1) :
    Limited state.2.limit state.2.window (record state call).1 := by
  intro key inside narrow
  rw [timesOf_record, List.countP_append]
  split
  · rename_i both
    rcases both with ⟨same, admits⟩
    subst same
    by_cases counted : inside call.time = true
    · have fewer : (timesOf call.key state.1).countP inside ≤
          (timesOf call.key state.1).countP
            (fun time => decide (call.time - state.2.window < time)) := by
        refine List.countP_mono_left fun time _ held => ?_
        exact decide_eq_true (narrow time call.time held counted)
      have room := (allow_iff tracks order).mp admits
      rw [List.countP_singleton, if_pos counted]
      omega
    · rw [List.countP_singleton, if_neg counted]
      exact limited call.key inside narrow
  · exact limited key inside narrow

end Queues

/-! ## Sequences of calls -/

section Sequences

variable {limit windowSeconds : Nat} {calls : List Call}

/-- What holds after the calls of a sequence up to an instant. -/
structure Served (limit windowSeconds : Nat) (state : List Call × RateLimiter)
    (latest : Instant) : Prop where
  tracks : Tracks state.2 state.1 latest
  sameLimit : state.2.limit = limit
  sameWindow : state.2.window = windowSeconds * 1000000
  limited : Limited limit (windowSeconds * 1000000) state.1

theorem served_foldl {state : List Call × RateLimiter} {latest bound : Instant}
    (positive : 0 < windowSeconds) (served : Served limit windowSeconds state latest)
    (ordered : calls.Pairwise fun first second => first.time ≤ second.time)
    (after : forall call, call ∈ calls -> latest ≤ call.time)
    (before : forall call, call ∈ calls -> call.time ≤ bound) (order : latest ≤ bound) :
    Served limit windowSeconds (calls.foldl record state) bound := by
  induction calls generalizing state latest with
  | nil =>
      exact ⟨served.tracks.mono order, served.sameLimit, served.sameWindow, served.limited⟩
  | cons call rest ih =>
      rcases List.pairwise_cons.mp ordered with ⟨first, further⟩
      have now := after call List.mem_cons_self
      have wide : 0 < state.2.window := by
        rw [served.sameWindow]
        omega
      have limited := served.limited
      rw [← served.sameLimit, ← served.sameWindow] at limited
      have next := record_limited served.tracks now limited
      rw [served.sameLimit, served.sameWindow] at next
      have kept := record_window state call
      have step : Served limit windowSeconds (record state call) call.time :=
        ⟨record_tracks served.tracks wide now, kept.2.trans served.sameLimit,
          kept.1.trans served.sameWindow, next⟩
      exact ih step further first
        (fun other member => before other (List.mem_cons_of_mem _ member))
        (before call List.mem_cons_self)

theorem served_create (limit windowSeconds : Nat) (latest : Instant) :
    Served limit windowSeconds ([], .create limit windowSeconds) latest where
  tracks := tracks_create limit windowSeconds latest
  sameLimit := rfl
  sameWindow := rfl
  limited := fun _ _ _ => Nat.zero_le limit

/-- An instant no earlier than any call of a list, and than a given one. -/
theorem exists_bound (calls : List Call) (latest : Instant) :
    exists bound, latest ≤ bound ∧ forall call, call ∈ calls -> call.time ≤ bound := by
  induction calls with
  | nil => exact ⟨latest, le_refl _, fun call member => by cases member⟩
  | cons head tail ih =>
      rcases ih with ⟨bound, order, below⟩
      refine ⟨max bound head.time, order.trans (le_max_left _ _), fun call member => ?_⟩
      rcases List.mem_cons.mp member with same | later
      · exact same ▸ le_max_right _ _
      · exact (below call later).trans (le_max_left _ _)

/-- An instant no later than any call of a list, and than a given one. -/
theorem exists_start (calls : List Call) (first : Instant) :
    exists start, start ≤ first ∧ forall call, call ∈ calls -> start ≤ call.time := by
  induction calls with
  | nil => exact ⟨first, le_refl _, fun call member => by cases member⟩
  | cons head tail ih =>
      rcases ih with ⟨start, order, above⟩
      refine ⟨min start head.time, (min_le_left _ _).trans order, fun call member => ?_⟩
      rcases List.mem_cons.mp member with same | later
      · exact same ▸ min_le_right _ _
      · exact (min_le_left _ _).trans (above call later)

/-- What holds after all the calls, at any instant that is no earlier than they are. -/
theorem served_serve {bound : Instant} (positive : 0 < windowSeconds)
    (ordered : calls.Pairwise fun first second => first.time ≤ second.time)
    (before : forall call, call ∈ calls -> call.time ≤ bound) :
    Served limit windowSeconds (serve (.create limit windowSeconds) calls) bound := by
  rcases exists_start calls bound with ⟨start, order, after⟩
  exact served_foldl positive (served_create limit windowSeconds start) ordered after before order

theorem narrow_from (start : Instant) (window : Int) :
    Narrow window fun time => decide (start ≤ time ∧ time < start + window) := by
  intro first second low high
  have lower := (of_decide_eq_true low).1
  have upper := (of_decide_eq_true high).2
  linarith

theorem narrow_until (start : Instant) (window : Int) :
    Narrow window fun time => decide (start < time ∧ time ≤ start + window) := by
  intro first second low high
  have lower := (of_decide_eq_true low).1
  have upper := (of_decide_eq_true high).2
  linarith

/-- A refused call finds as many calls of its key admitted in the window that ends at it. -/
theorem Served.refused {state : List Call × RateLimiter} {call : Call}
    (served : Served limit windowSeconds state call.time)
    (refuses : (allow state.2 call).1 = false) :
    (timesOf call.key state.1).countP (fun time : Instant =>
      call.time - (windowSeconds : Int) * 1000000 < time ∧ time ≤ call.time) = limit := by
  refine Nat.le_antisymm ?_ ?_
  · refine served.limited call.key _ fun first second low high => ?_
    have lower := (of_decide_eq_true low).1
    have upper := (of_decide_eq_true high).2
    linarith
  · have full : limit ≤ (timesOf call.key state.1).countP
        (fun time => call.time - state.2.window < time) := by
      rw [← served.sameLimit]
      refine not_lt.mp fun room => ?_
      rw [(allow_iff served.tracks (le_refl _)).mpr room] at refuses
      cases refuses
    refine full.trans (List.countP_mono_left fun time member inside => ?_)
    rw [served.sameWindow] at inside
    exact decide_eq_true ⟨of_decide_eq_true inside, served.tracks.past call.key time member⟩

/-- No half-open interval of the length of the window has more admitted calls of a key than
the limit, and a call is refused only when the window that ends at it has as many. -/
theorem rateLimit_exact (limit windowSeconds : Nat) (positive : 0 < windowSeconds)
    (calls : List Call)
    (ordered : calls.Pairwise fun first second => first.time ≤ second.time) :
    (forall (key : String) (start : Instant),
      (timesOf key (serve (.create limit windowSeconds) calls).1).countP (fun time : Instant =>
        start ≤ time ∧ time < start + (windowSeconds : Int) * 1000000) ≤ limit ∧
      (timesOf key (serve (.create limit windowSeconds) calls).1).countP (fun time : Instant =>
        start < time ∧ time ≤ start + (windowSeconds : Int) * 1000000) ≤ limit) ∧
    (forall before call after, calls = before ++ call :: after ->
      (allow (serve (.create limit windowSeconds) before).2 call).1 = false ->
        (timesOf call.key (serve (.create limit windowSeconds) before).1).countP
          (fun time : Instant => call.time - (windowSeconds : Int) * 1000000 < time ∧
            time ≤ call.time) = limit) := by
  constructor
  · intro key start
    rcases exists_bound calls start with ⟨bound, -, before⟩
    have served : Served limit windowSeconds _ bound := served_serve positive ordered before
    have limited := served.limited
    exact ⟨limited key _ (narrow_from start _), limited key _ (narrow_until start _)⟩
  · intro before call after split refuses
    rw [split] at ordered
    rcases List.pairwise_append.mp ordered with ⟨first, -, across⟩
    exact (served_serve positive first fun other member =>
      across other member call List.mem_cons_self).refused refuses

/-- Two calls a minute: the third one is refused, and the one a minute after the first is
admitted. -/
def minuteCalls : List Call :=
  [⟨"a", 0⟩, ⟨"a", 10000000⟩, ⟨"b", 10000000⟩, ⟨"a", 59999999⟩, ⟨"a", 60000000⟩]

theorem minuteCalls_exact :
    (forall start : Instant,
      (timesOf "a" (serve (.create 2 60) minuteCalls).1).countP (fun time : Instant =>
        start ≤ time ∧ time < start + 60000000) ≤ 2) ∧
    (timesOf "a" (serve (.create 2 60) (minuteCalls.take 3)).1).countP (fun time : Instant =>
      -1 < time ∧ time ≤ 59999999) = 2 ∧
    timesOf "a" (serve (.create 2 60) minuteCalls).1 = [0, 10000000, 60000000] := by
  have both := rateLimit_exact 2 60 (by decide) minuteCalls (by decide)
  exact ⟨fun start => (both.1 "a" start).1,
    both.2 (minuteCalls.take 3) ⟨"a", 59999999⟩ [⟨"a", 60000000⟩] rfl (by decide), by decide⟩

end Sequences

end RateLimit
end MarketData
end MarketIntelligence
