import MarketIntelligence.Core.Values
import MarketIntelligence.Foundations.FixedWindows
import MarketIntelligence.Foundations.Tables

namespace MarketIntelligence
namespace Auth
namespace Throttle

open Foundations
open FixedWindows (Inside Tracks Window current live tracks_empty)

/-!
# The login throttle

An attempt is counted in three buckets: the global one, one of the slots for logins and one
of the slots for sources.  It is admitted if none of them is full, and then counted in all
three.  A bucket lasts for a minute from the attempt that makes it.  Any attempt deletes the
buckets that have run out, except for the global one, which is begun anew in its row.

The upsert takes the write lock first, so an attempt is one step.  What has been admitted is
recorded beside the rows.
-/

/-! ## The rows -/

structure AuthRateBucket where
  key : String
  attempts : Nat
  expiresAt : Instant
  deriving DecidableEq, Repr

/-- `AuthBusy`, with its text. -/
structure AuthBusy where
  message : String
  deriving DecidableEq, Repr

structure ThrottleSettings where
  authGlobalLimit : Nat
  authAccountLimit : Nat
  authSourceLimit : Nat

/-- `timedelta(seconds=60)`. -/
def lifetime : Int := 60 * 1000000

/-- `int.from_bytes(data, "big")`. -/
def fromBytes (data : List UInt8) : Nat :=
  data.foldl (fun value byte => value * 256 + byte.toNat) 0

section Source

variable (sha256 : String -> List UInt8) (settings : ThrottleSettings)

/-- The key of the slot of a value.  Different values may share it. -/
def bucket (scope value : String) : String :=
  scope ++ ":" ++ toString (fromBytes ((sha256 value).take 4) % 4096)

def limits (login source : String) : List (String × Nat) :=
  [("global", settings.authGlobalLimit),
    (bucket sha256 "account" login, settings.authAccountLimit),
    (bucket sha256 "source" source, settings.authSourceLimit)]

/-- `session.get(AuthRateBucket, key)` -/
def get (table : List AuthRateBucket) (key : String) : Option AuthRateBucket :=
  Tables.lookup AuthRateBucket.key key table

/-- The rows are written at the end of the transaction. -/
def flush (table rows : List AuthRateBucket) : List AuthRateBucket :=
  rows.foldl (fun table row => Tables.put AuthRateBucket.key row table) table

/-- The upsert leaves a global row that is there as it is. -/
def upsertGlobal (now : Instant) (table : List AuthRateBucket) : List AuthRateBucket :=
  match get table "global" with
  | none =>
      Tables.put AuthRateBucket.key
        { key := "global", attempts := 0, expiresAt := now + lifetime } table
  | some _ => table

def deleteExpired (now : Instant) (table : List AuthRateBucket) : List AuthRateBucket :=
  table.filter fun row => row.key = "global" ∨ now < row.expiresAt

/-- The row that is added for a key, or the one that is there, begun anew if it has run out. -/
def renewed (now : Instant) (key : String) : Option AuthRateBucket -> AuthRateBucket
  | none => { key := key, attempts := 0, expiresAt := now + lifetime }
  | some row =>
      if row.expiresAt ≤ now then { row with attempts := 0, expiresAt := now + lifetime }
      else row

/-- `row.attempts += 1` -/
def AuthRateBucket.count (row : AuthRateBucket) : AuthRateBucket :=
  { row with attempts := row.attempts + 1 }

/-- The answer, and the rows that are committed with it. -/
def throttle (login source : String) (now : Instant) (table : List AuthRateBucket) :
    Except AuthBusy Unit × List AuthRateBucket :=
  let opened := deleteExpired now (upsertGlobal now table)
  let rows := (limits sha256 settings login source).map fun entry =>
    (renewed now entry.1 (get opened entry.1), entry.2)
  if rows.any fun entry => entry.2 ≤ entry.1.attempts then
    (.error { message := "Authentication temporarily limited" },
      flush opened (rows.map fun entry => entry.1))
  else (.ok (), flush opened (rows.map fun entry => entry.1.count))

/-! ## Sequences of attempts -/

structure Attempt where
  login : String
  source : String
  time : Instant
  deriving DecidableEq, Repr

def Attempt.throttle (attempt : Attempt) (table : List AuthRateBucket) :
    Except AuthBusy Unit × List AuthRateBucket :=
  Throttle.throttle sha256 settings attempt.login attempt.source attempt.time table

/-- One attempt, with the attempts that have been admitted. -/
def attemptStep (state : List Attempt × List AuthRateBucket) (attempt : Attempt) :
    List Attempt × List AuthRateBucket :=
  match attempt.throttle sha256 settings state.2 with
  | (.ok _, table) => (state.1 ++ [attempt], table)
  | (.error _, table) => (state.1, table)

/-- What is admitted of a sequence from no rows at all, and the rows after it. -/
def serve (attempts : List Attempt) : List Attempt × List AuthRateBucket :=
  attempts.foldl (attemptStep sha256 settings) ([], [])

def Attempt.keys (attempt : Attempt) : List String :=
  (limits sha256 settings attempt.login attempt.source).map Prod.fst

/-- The times that are counted under a key. -/
def timesOf (key : String) (attempts : List Attempt) : List Instant :=
  (attempts.filter fun attempt => key ∈ attempt.keys sha256 settings).map Attempt.time

end Source

/-! ## Keys -/

section Keys

variable (sha256 : String -> List UInt8) (settings : ThrottleSettings)

/-- The limit of a key, told from its first letter. -/
def limitOf (key : String) : Nat :=
  match key.toList.head? with
  | some 'g' => settings.authGlobalLimit
  | some 'a' => settings.authAccountLimit
  | _ => settings.authSourceLimit

variable {sha256 settings} {login source key : String} {limit : Nat}

/-- A key has one limit, whoever is counted under it. -/
theorem limit_of_mem (member : (key, limit) ∈ limits sha256 settings login source) :
    limit = limitOf settings key := by
  simp only [limits, List.mem_cons, List.not_mem_nil, or_false, Prod.mk.injEq] at member
  rcases member with ⟨same, bound⟩ | ⟨same, bound⟩ | ⟨same, bound⟩
  · rw [bound, same]
    rfl
  · rw [bound, same]
    simp [limitOf, bucket]
  · rw [bound, same]
    simp [limitOf, bucket]

theorem limits_nodup (sha256 : String -> List UInt8) (settings : ThrottleSettings)
    (login source : String) : ((limits sha256 settings login source).map Prod.fst).Nodup := by
  refine List.Nodup.of_map (fun key : String => key.toList.head?) ?_
  have heads : ((limits sha256 settings login source).map Prod.fst).map
      (fun key : String => key.toList.head?) = [some 'g', some 'a', some 's'] := by
    simp [limits, bucket]
  rw [heads]
  decide

theorem global_mem (sha256 : String -> List UInt8) (settings : ThrottleSettings)
    (login source : String) :
    "global" ∈ (limits sha256 settings login source).map Prod.fst := List.mem_cons_self

end Keys

/-! ## One attempt -/

section Rows

/-- The bucket of a key at an instant: its row, or the one that would be begun. -/
def standing (now : Instant) (table : List AuthRateBucket) (key : String) : AuthRateBucket :=
  renewed now key (get table key)

/-- A row under each key. -/
def Distinct (table : List AuthRateBucket) : Prop := (table.map AuthRateBucket.key).Nodup

variable {now : Instant} {table : List AuthRateBucket} {key : String}

theorem standing_key (now : Instant) (table : List AuthRateBucket) (key : String) :
    (standing now table key).key = key := by
  unfold standing
  cases found : get table key with
  | none => rfl
  | some row =>
      have same := (Tables.lookup_some found).2
      unfold renewed
      dsimp only
      split <;> exact same

theorem upsertGlobal_distinct (now : Instant) (distinct : Distinct table) :
    Distinct (upsertGlobal now table) := by
  unfold upsertGlobal
  split
  · exact Tables.nodup_put distinct
  · exact distinct

theorem deleteExpired_distinct (now : Instant) (distinct : Distinct table) :
    Distinct (deleteExpired now table) :=
  List.Nodup.sublist (List.Sublist.map _ List.filter_sublist) distinct

theorem get_upsertGlobal (now : Instant) (table : List AuthRateBucket) (key : String) :
    get (upsertGlobal now table) key =
      if key = "global" then
        some ((get table key).getD
          { key := "global", attempts := 0, expiresAt := now + lifetime })
      else get table key := by
  unfold upsertGlobal
  split
  · rename_i missing
    rw [get, Tables.lookup_put]
    by_cases same : key = "global"
    · rw [if_pos same.symm, if_pos same, same, missing]
      rfl
    · rw [if_neg fun other => same other.symm, if_neg same]
      rfl
  · rename_i row found
    by_cases same : key = "global"
    · rw [if_pos same, same, found]
      rfl
    · rw [if_neg same]

theorem get_deleteExpired (now : Instant) (distinct : Distinct table) (key : String) :
    get (deleteExpired now table) key =
      (get table key).filter fun row => key = "global" ∨ now < row.expiresAt := by
  have filtered := Tables.lookup_filter distinct
    (fun row : AuthRateBucket => decide (row.key = "global" ∨ now < row.expiresAt)) key
  rw [get, deleteExpired, filtered]
  cases found : get table key with
  | none =>
      rw [get] at found
      rw [found]
      rfl
  | some row =>
      have same := (Tables.lookup_some found).2
      rw [get] at found
      rw [found, Option.filter_some, Option.filter_some, same]

/-- The global row is there, and the others are there until they run out. -/
theorem get_opened (now : Instant) (distinct : Distinct table) (key : String) :
    get (deleteExpired now (upsertGlobal now table)) key =
      if key = "global" then
        some ((get table key).getD
          { key := "global", attempts := 0, expiresAt := now + lifetime })
      else (get table key).filter fun row => now < row.expiresAt := by
  rw [get_deleteExpired now (upsertGlobal_distinct now distinct), get_upsertGlobal]
  by_cases same : key = "global"
  · rw [if_pos same, if_pos same, Option.filter_some_pos]
    exact decide_eq_true (Or.inl same)
  · rw [if_neg same, if_neg same]
    simp only [same, false_or]

/-- A row that has run out is begun anew like one that is missing. -/
theorem renewed_live (now : Instant) (table : List AuthRateBucket) (key : String) :
    renewed now key ((get table key).filter fun row => now < row.expiresAt) =
      standing now table key := by
  unfold standing
  cases found : get table key with
  | none => rfl
  | some row =>
      rw [Option.filter_some]
      by_cases still : now < row.expiresAt
      · rw [if_pos (decide_eq_true still)]
      · have same := (Tables.lookup_some found).2
        rw [if_neg (by simpa using still)]
        simp only [renewed, if_pos (not_lt.mp still), same]

theorem renewed_getD (now : Instant) (key : String) (found : Option AuthRateBucket) :
    renewed now key (some (found.getD
      { key := key, attempts := 0, expiresAt := now + lifetime })) = renewed now key found := by
  cases found with
  | none =>
      simp only [renewed, Option.getD_none]
      split <;> rfl
  | some row => rfl

/-- The upsert and the deletion change nothing for a bucket that is begun anew anyway. -/
theorem standing_opened (now : Instant) (distinct : Distinct table) (key : String) :
    renewed now key (get (deleteExpired now (upsertGlobal now table)) key) =
      standing now table key := by
  rw [get_opened now distinct]
  by_cases same : key = "global"
  · rw [if_pos same, ← same]
    exact renewed_getD now key (get table key)
  · rw [if_neg same]
    exact renewed_live now table key

end Rows

/-! ## The rows after an attempt -/

section Attempts

variable {sha256 : String -> List UInt8} {settings : ThrottleSettings} {attempt : Attempt}
  {table : List AuthRateBucket}

/-- What is written under the keys of an attempt, and the open rows under the others. -/
theorem get_flush (change : AuthRateBucket -> AuthRateBucket)
    (keeps : forall row, (change row).key = row.key) (distinct : Distinct table) (key : String) :
    get (flush (deleteExpired attempt.time (upsertGlobal attempt.time table))
        ((limits sha256 settings attempt.login attempt.source).map fun entry =>
          change (standing attempt.time table entry.1))) key =
      if key ∈ attempt.keys sha256 settings then some (change (standing attempt.time table key))
      else (get table key).filter fun row => attempt.time < row.expiresAt := by
  let entries := limits sha256 settings attempt.login attempt.source
  let written := fun entry : String × Nat => change (standing attempt.time table entry.1)
  have named : forall entry : String × Nat, (written entry).key = entry.1 := fun entry =>
    (keeps _).trans (standing_key attempt.time table entry.1)
  have keys : (entries.map written).map AuthRateBucket.key = entries.map Prod.fst := by
    rw [List.map_map]
    exact List.map_congr_left fun entry _ => named entry
  have apart : ((entries.map written).map AuthRateBucket.key).Nodup :=
    keys ▸ limits_nodup sha256 settings attempt.login attempt.source
  have after := Tables.lookup_foldl_put apart
    (deleteExpired attempt.time (upsertGlobal attempt.time table)) key
  refine after.trans ?_
  by_cases member : key ∈ attempt.keys sha256 settings
  · rcases List.mem_map.mp member with ⟨entry, listed, same⟩
    have found := Tables.lookup_of_mem apart (List.mem_map_of_mem listed)
    rw [named, same] at found
    rw [if_pos member, found, ← same]
    rfl
  · have missing : Tables.lookup AuthRateBucket.key key (entries.map written) = none := by
      rw [← Option.isNone_iff_eq_none, Tables.lookup_isNone_iff, keys]
      exact member
    have other : key ≠ "global" := fun same =>
      member (same ▸ global_mem sha256 settings attempt.login attempt.source)
    rw [if_neg member, missing, Option.none_or]
    exact (get_opened attempt.time distinct key).trans (if_neg other)

/-- One of the buckets of the attempt is at its limit. -/
def Full (sha256 : String -> List UInt8) (settings : ThrottleSettings) (attempt : Attempt)
    (table : List AuthRateBucket) : Prop :=
  exists key limit, (key, limit) ∈ limits sha256 settings attempt.login attempt.source ∧
    limit ≤ (standing attempt.time table key).attempts

/-- The answer, and the rows after the attempt under every key. -/
structure Refused (sha256 : String -> List UInt8) (settings : ThrottleSettings)
    (attempt : Attempt) (table : List AuthRateBucket) : Prop where
  full : Full sha256 settings attempt table
  answer : (attempt.throttle sha256 settings table).1 =
    .error { message := "Authentication temporarily limited" }
  rows : forall key, get (attempt.throttle sha256 settings table).2 key =
    if key ∈ attempt.keys sha256 settings then some (standing attempt.time table key)
    else (get table key).filter fun row => attempt.time < row.expiresAt

structure Admitted (sha256 : String -> List UInt8) (settings : ThrottleSettings)
    (attempt : Attempt) (table : List AuthRateBucket) : Prop where
  room : ¬ Full sha256 settings attempt table
  answer : (attempt.throttle sha256 settings table).1 = .ok ()
  rows : forall key, get (attempt.throttle sha256 settings table).2 key =
    if key ∈ attempt.keys sha256 settings then some (standing attempt.time table key).count
    else (get table key).filter fun row => attempt.time < row.expiresAt

/-- An attempt is refused or admitted, and this is all that it does. -/
theorem throttle_cases (sha256 : String -> List UInt8) (settings : ThrottleSettings)
    (attempt : Attempt) (distinct : Distinct table) :
    Refused sha256 settings attempt table ∨ Admitted sha256 settings attempt table := by
  let entries := limits sha256 settings attempt.login attempt.source
  let opened := deleteExpired attempt.time (upsertGlobal attempt.time table)
  have rows : (entries.map fun entry =>
        (renewed attempt.time entry.1 (get opened entry.1), entry.2)) =
      entries.map fun entry => (standing attempt.time table entry.1, entry.2) :=
    List.map_congr_left fun entry _ =>
      congrArg (fun row => (row, entry.2)) (standing_opened attempt.time distinct entry.1)
  have full : ((entries.map fun entry =>
        (standing attempt.time table entry.1, entry.2)).any fun entry =>
          entry.2 ≤ entry.1.attempts) = true <-> Full sha256 settings attempt table := by
    simp only [List.any_map, List.any_eq_true, Function.comp, decide_eq_true_eq, Prod.exists,
      Full, entries]
  by_cases limited : Full sha256 settings attempt table
  · have result : attempt.throttle sha256 settings table =
        (.error { message := "Authentication temporarily limited" },
          flush opened (entries.map fun entry => standing attempt.time table entry.1)) := by
      unfold Attempt.throttle throttle
      dsimp only
      rw [rows, if_pos (full.mpr limited), List.map_map]
      rfl
    refine Or.inl ⟨limited, by rw [result], fun key => ?_⟩
    rw [result]
    exact get_flush id (fun _ => rfl) distinct key
  · have result : attempt.throttle sha256 settings table =
        (.ok (), flush opened (entries.map fun entry =>
          (standing attempt.time table entry.1).count)) := by
      unfold Attempt.throttle throttle
      dsimp only
      rw [rows, if_neg (fun any => limited (full.mp any)), List.map_map]
      rfl
    refine Or.inr ⟨limited, by rw [result], fun key => ?_⟩
    rw [result]
    exact get_flush AuthRateBucket.count (fun _ => rfl) distinct key

theorem throttle_distinct (distinct : Distinct table) :
    Distinct (attempt.throttle sha256 settings table).2 := by
  have opened := deleteExpired_distinct attempt.time
    (upsertGlobal_distinct attempt.time distinct)
  unfold Attempt.throttle throttle
  dsimp only
  split
  · exact Tables.nodup_foldl_put _ opened
  · exact Tables.nodup_foldl_put _ opened

end Attempts

/-! ## The windows of a bucket -/

section Windows

variable {sha256 : String -> List UInt8} {settings : ThrottleSettings}
  {state : List Attempt × List AuthRateBucket} {attempt : Attempt} {latest : Instant}
  {key : String} {limit : Nat} {closings : List Instant}

def AuthRateBucket.window (row : AuthRateBucket) : Window where
  used := row.attempts
  closes := row.expiresAt

theorem live_window (now : Instant) (found : Option AuthRateBucket) :
    (found.filter fun row => now < row.expiresAt).map AuthRateBucket.window =
      live now (found.map AuthRateBucket.window) := by
  cases found with
  | none => rfl
  | some row =>
      simp only [live, Option.map_some, Option.filter_some, AuthRateBucket.window]
      split <;> rfl

theorem standing_window (now : Instant) (table : List AuthRateBucket) (key : String) :
    (standing now table key).window =
      current lifetime now ((get table key).map AuthRateBucket.window) := by
  rw [current, ← live_window]
  unfold standing
  cases get table key with
  | none => rfl
  | some row =>
      by_cases still : now < row.expiresAt
      · simp only [renewed, if_neg (not_le.mpr still), Option.filter_some, still,
          decide_true, if_true, Option.map_some, Option.getD_some]
      · simp only [renewed, if_pos (not_lt.mp still), Option.filter_some, still,
          decide_false, Bool.false_eq_true, if_false, Option.map_none, Option.getD_none]
        rfl

theorem standing_open (now : Instant) (table : List AuthRateBucket) (key : String) :
    now < (standing now table key).expiresAt := by
  have still := FixedWindows.current_open lifetime (by decide) now
    ((get table key).map AuthRateBucket.window)
  rw [← standing_window] at still
  exact still

theorem timesOf_concat (attempts : List Attempt) :
    timesOf sha256 settings key (attempts ++ [attempt]) =
      timesOf sha256 settings key attempts ++
        if key ∈ attempt.keys sha256 settings then [attempt.time] else [] := by
  unfold timesOf
  rw [List.filter_append, List.map_append]
  by_cases member : key ∈ attempt.keys sha256 settings <;> simp [member]

theorem Refused.step (refused : Refused sha256 settings attempt state.2) :
    attemptStep sha256 settings state attempt =
      (state.1, (attempt.throttle sha256 settings state.2).2) := by
  have answer := refused.answer
  unfold attemptStep
  split
  · rename_i same
    rw [same] at answer
    cases answer
  · rename_i same
    rw [same]

theorem Admitted.step (admitted : Admitted sha256 settings attempt state.2) :
    attemptStep sha256 settings state attempt =
      (state.1 ++ [attempt], (attempt.throttle sha256 settings state.2).2) := by
  have answer := admitted.answer
  unfold attemptStep
  split
  · rename_i same
    rw [same]
  · rename_i same
    rw [same] at answer
    cases answer

theorem attemptStep_distinct (distinct : Distinct state.2) :
    Distinct (attemptStep sha256 settings state attempt).2 := by
  have after : Distinct (attempt.throttle sha256 settings state.2).2 := throttle_distinct distinct
  rcases throttle_cases sha256 settings attempt distinct with refused | admitted
  · rw [refused.step]
    exact after
  · rw [admitted.step]
    exact after

/-- One attempt counts nothing, or counts itself in the open window of each of its buckets. -/
theorem attemptStep_tracks (distinct : Distinct state.2)
    (tracks : Tracks lifetime (limitOf settings key) closings
      (timesOf sha256 settings key state.1) latest
      ((get state.2 key).map AuthRateBucket.window))
    (order : latest ≤ attempt.time) :
    exists more, Tracks lifetime (limitOf settings key) (closings ++ more)
      (timesOf sha256 settings key (attemptStep sha256 settings state attempt).1) attempt.time
      ((get (attemptStep sha256 settings state attempt).2 key).map AuthRateBucket.window) := by
  rcases throttle_cases sha256 settings attempt distinct with refused | admitted
  · rw [refused.step]
    dsimp only
    rw [refused.rows]
    by_cases member : key ∈ attempt.keys sha256 settings
    · rw [if_pos member, Option.map_some, standing_window]
      exact tracks.renew order
    · rw [if_neg member, live_window]
      refine ⟨[], ?_⟩
      rw [List.append_nil]
      exact tracks.expire order
  · rw [admitted.step]
    dsimp only
    rw [admitted.rows, timesOf_concat]
    by_cases member : key ∈ attempt.keys sha256 settings
    · rw [if_pos member, if_pos member, Option.map_some]
      rcases tracks.renew order with ⟨more, renews⟩
      rw [← standing_window] at renews
      refine ⟨more, renews.count (standing_open attempt.time state.2 key) ?_⟩
      rcases List.mem_map.mp member with ⟨⟨name, limit⟩, listed, same⟩
      cases same
      rw [← limit_of_mem listed]
      exact not_le.mp fun full => admitted.room ⟨name, limit, listed, full⟩
    · rw [if_neg member, if_neg member, live_window]
      refine ⟨[], ?_⟩
      rw [List.append_nil, List.append_nil]
      exact tracks.expire order

theorem foldl_distinct (attempts : List Attempt) (distinct : Distinct state.2) :
    Distinct (attempts.foldl (attemptStep sha256 settings) state).2 := by
  induction attempts generalizing state with
  | nil => exact distinct
  | cons attempt rest ih =>
      exact ih (attemptStep_distinct distinct)

theorem foldl_tracks {attempts : List Attempt} (last : Instant) (distinct : Distinct state.2)
    (tracks : Tracks lifetime (limitOf settings key) closings
      (timesOf sha256 settings key state.1) latest
      ((get state.2 key).map AuthRateBucket.window))
    (later : forall attempt, attempt ∈ attempts -> latest ≤ attempt.time)
    (ordered : attempts.Pairwise fun first second => first.time ≤ second.time)
    (ends : forall attempt, attempt ∈ attempts -> attempt.time ≤ last) (reaches : latest ≤ last) :
    exists more, Tracks lifetime (limitOf settings key) (closings ++ more)
      (timesOf sha256 settings key (attempts.foldl (attemptStep sha256 settings) state).1) last
      ((get (attempts.foldl (attemptStep sha256 settings) state).2 key).map
        AuthRateBucket.window) := by
  induction attempts generalizing state closings latest with
  | nil => exact ⟨[], (List.append_nil closings).symm ▸ tracks.mono reaches⟩
  | cons attempt rest ih =>
      rcases List.pairwise_cons.mp ordered with ⟨first, others⟩
      rcases attemptStep_tracks distinct tracks (later attempt List.mem_cons_self) with
        ⟨opened, stepped⟩
      rcases ih (attemptStep_distinct distinct) stepped first others
          (fun next member => ends next (List.mem_cons_of_mem _ member))
          (ends attempt List.mem_cons_self) with ⟨more, done⟩
      exact ⟨opened ++ more, (List.append_assoc closings opened more) ▸ done⟩

end Windows

/-! ## Runs -/

section Runs

variable {sha256 : String -> List UInt8} {settings : ThrottleSettings}
  {before after : List Attempt}

theorem exists_bound (attempts : List Attempt) :
    exists last, forall attempt, attempt ∈ attempts -> attempt.time ≤ last := by
  induction attempts with
  | nil => exact ⟨0, fun _ member => by cases member⟩
  | cons attempt rest ih =>
      rcases ih with ⟨last, bounds⟩
      refine ⟨max attempt.time last, fun next member => ?_⟩
      rcases List.mem_cons.mp member with same | later
      · exact same ▸ le_max_left _ _
      · exact (bounds next later).trans (le_max_right _ _)

/-- There is an instant between what comes before and what comes after. -/
theorem exists_between
    (ordered : (before ++ after).Pairwise fun first second => first.time ≤ second.time) :
    exists last, (forall attempt, attempt ∈ before -> attempt.time ≤ last) ∧
      forall attempt, attempt ∈ after -> last ≤ attempt.time := by
  rcases List.pairwise_append.mp ordered with ⟨_, second, across⟩
  cases after with
  | nil =>
      rcases exists_bound before with ⟨last, bounds⟩
      exact ⟨last, bounds, fun _ member => by cases member⟩
  | cons attempt rest =>
      refine ⟨attempt.time, fun earlier member => across earlier member attempt
        List.mem_cons_self, fun next member => ?_⟩
      rcases List.mem_cons.mp member with same | later
      · exact same ▸ le_refl _
      · exact (List.pairwise_cons.mp second).1 next later

theorem serve_append (before after : List Attempt) :
    serve sha256 settings (before ++ after) =
      after.foldl (attemptStep sha256 settings) (serve sha256 settings before) :=
  List.foldl_append

theorem serve_distinct (attempts : List Attempt) : Distinct (serve sha256 settings attempts).2 :=
  foldl_distinct attempts List.nodup_nil

theorem serve_tracks (sha256 : String -> List UInt8) (settings : ThrottleSettings)
    (ordered : (before ++ after).Pairwise fun first second => first.time ≤ second.time)
    (key : String) :
    exists closings last, (forall attempt, attempt ∈ after -> last ≤ attempt.time) ∧
      Tracks lifetime (limitOf settings key) closings
        (timesOf sha256 settings key (serve sha256 settings before).1) last
        ((get (serve sha256 settings before).2 key).map AuthRateBucket.window) := by
  rcases exists_between ordered with ⟨last, bounds, later⟩
  have first := (List.pairwise_append.mp ordered).1
  rcases exists_between ((List.nil_append before).symm ▸ first) with ⟨start, _, starts⟩
  have empty := tracks_empty lifetime (limitOf settings key) (min start last)
  have begins : forall attempt, attempt ∈ before -> min start last ≤ attempt.time :=
    fun attempt member => (min_le_left _ _).trans (starts attempt member)
  have none : Distinct (serve sha256 settings []).2 := List.nodup_nil
  rcases foldl_tracks last none empty begins first bounds (min_le_right _ _) with
    ⟨closings, tracks⟩
  exact ⟨[] ++ closings, last, later, tracks⟩

/-- An attempt uses nothing up: the open buckets stay as they are, and no other is used. -/
structure Unspent (now : Instant) (table next : List AuthRateBucket) : Prop where
  kept : forall row, row ∈ table -> now < row.expiresAt -> row ∈ next
  unused : forall row, row ∈ next -> row ∈ table ∧ now < row.expiresAt ∨ row.attempts = 0

theorem mem_iff_get {table : List AuthRateBucket} (distinct : Distinct table)
    (row : AuthRateBucket) : row ∈ table <-> get table row.key = some row :=
  ⟨Tables.lookup_of_mem distinct, fun found => (Tables.lookup_some found).1⟩

/-- A bucket that stands is an open row or is not used. -/
theorem standing_cases (now : Instant) (table : List AuthRateBucket) (key : String) :
    get table key = some (standing now table key) ∨ (standing now table key).attempts = 0 := by
  unfold standing
  cases get table key with
  | none => exact Or.inr rfl
  | some row =>
      unfold renewed
      dsimp only
      split
      · exact Or.inr rfl
      · exact Or.inl rfl

theorem standing_of_open {now : Instant} {table : List AuthRateBucket} {row : AuthRateBucket}
    (found : get table row.key = some row) (still : now < row.expiresAt) :
    standing now table row.key = row := by
  rw [standing, found, renewed, if_neg (not_le.mpr still)]

theorem Refused.unspent {attempt : Attempt} {table : List AuthRateBucket}
    (refused : Refused sha256 settings attempt table) (distinct : Distinct table) :
    Unspent attempt.time table (attempt.throttle sha256 settings table).2 where
  kept := by
    intro row member still
    have found := (mem_iff_get distinct row).mp member
    refine (mem_iff_get (throttle_distinct distinct) row).mpr ?_
    rw [refused.rows]
    split
    · rw [standing_of_open found still]
    · rw [found]
      exact Option.filter_some_pos (decide_eq_true still)
  unused := by
    intro row member
    have found := (mem_iff_get (throttle_distinct distinct) row).mp member
    rw [refused.rows] at found
    split at found
    · have same := Option.some.inj found
      rcases standing_cases attempt.time table row.key with there | empty
      · have still := standing_open attempt.time table row.key
        rw [same] at there still
        exact Or.inl ⟨(mem_iff_get distinct row).mpr there, still⟩
      · exact Or.inr (same ▸ empty)
    · rcases Option.filter_eq_some_iff.mp found with ⟨there, still⟩
      exact Or.inl ⟨(mem_iff_get distinct row).mpr there, of_decide_eq_true still⟩

theorem get_window {row : AuthRateBucket} (member : row ∈ (serve sha256 settings before).2) :
    (get (serve sha256 settings before).2 row.key).map AuthRateBucket.window =
      some row.window := by
  rw [(mem_iff_get (serve_distinct before) row).mp member, Option.map_some]

/-- A bucket shows how many are counted in its window. -/
theorem row_attempts {row : AuthRateBucket}
    (ordered : (before ++ after).Pairwise fun first second => first.time ≤ second.time)
    (member : row ∈ (serve sha256 settings before).2) :
    row.attempts = (timesOf sha256 settings row.key (serve sha256 settings before).1).countP
      fun time => Inside lifetime row.expiresAt time := by
  rcases serve_tracks sha256 settings ordered row.key with
    ⟨_, _, _, tracks⟩
  exact (tracks.counted row.window (get_window member)).2

/-- In the window of a bucket no more than the limit are ever counted. -/
theorem row_window {row : AuthRateBucket}
    (ordered : (before ++ after).Pairwise fun first second => first.time ≤ second.time)
    (member : row ∈ (serve sha256 settings before).2) :
    (timesOf sha256 settings row.key (serve sha256 settings (before ++ after)).1).countP
      (fun time => Inside lifetime row.expiresAt time) ≤ limitOf settings row.key := by
  rcases serve_tracks sha256 settings ordered row.key with
    ⟨closings, last, later, tracks⟩
  have known := (tracks.counted row.window (get_window member)).1
  rcases exists_bound after with ⟨bound, bounds⟩
  rcases foldl_tracks (max last bound) (serve_distinct before) tracks later
      (List.pairwise_append.mp ordered).2.1
      (fun attempt listed => (bounds attempt listed).trans (le_max_right _ _))
      (le_max_left _ _) with ⟨more, whole⟩
  rw [← serve_append] at whole
  exact whole.bounded row.window.closes (List.mem_append_left _ known)

/-- In a minute at most twice the limit are counted. -/
theorem times_minute {attempts : List Attempt}
    (ordered : attempts.Pairwise fun first second => first.time ≤ second.time) (key : String)
    (start : Instant) :
    (timesOf sha256 settings key (serve sha256 settings attempts).1).countP
      (fun time => start ≤ time ∧ time ≤ start + lifetime) ≤ 2 * limitOf settings key := by
  rw [← List.append_nil attempts] at ordered
  rcases serve_tracks sha256 settings ordered key with
    ⟨_, _, _, tracks⟩
  exact tracks.twice start

/-- The bucket that stands at an attempt, against all that was counted before. -/
theorem standing_tracks (sha256 : String -> List UInt8) (settings : ThrottleSettings)
    {attempt : Attempt}
    (ordered : (before ++ attempt :: after).Pairwise fun first second =>
      first.time ≤ second.time) (key : String) :
    exists closings, Tracks lifetime (limitOf settings key) closings
      (timesOf sha256 settings key (serve sha256 settings before).1) attempt.time
      (some (standing attempt.time (serve sha256 settings before).2 key).window) := by
  rcases serve_tracks sha256 settings ordered key with
    ⟨closings, _, later, tracks⟩
  rcases tracks.renew (later attempt List.mem_cons_self) with ⟨more, renews⟩
  rw [← standing_window] at renews
  exact ⟨closings ++ more, renews⟩

theorem standing_inside {attempt : Attempt}
    (ordered : (before ++ attempt :: after).Pairwise fun first second =>
      first.time ≤ second.time) (key : String) :
    Inside lifetime (standing attempt.time (serve sha256 settings before).2 key).expiresAt
      attempt.time := by
  rcases standing_tracks sha256 settings ordered key with ⟨_, tracks⟩
  exact ⟨tracks.opened _ (tracks.counted _ rfl).1, standing_open attempt.time _ key⟩

/-- A bucket that is full holds as many as its limit. -/
theorem Full.attempts_eq {attempt : Attempt}
    (ordered : (before ++ attempt :: after).Pairwise fun first second =>
      first.time ≤ second.time)
    (full : Full sha256 settings attempt (serve sha256 settings before).2) :
    exists key limit, (key, limit) ∈ limits sha256 settings attempt.login attempt.source ∧
      (standing attempt.time (serve sha256 settings before).2 key).attempts = limit := by
  rcases full with ⟨key, limit, listed, reaches⟩
  rcases standing_tracks sha256 settings ordered key with ⟨_, tracks⟩
  rcases tracks.counted _ rfl with ⟨known, used⟩
  have most := tracks.bounded _ known
  rw [← used, ← limit_of_mem listed] at most
  exact ⟨key, limit, listed, le_antisymm most reaches⟩

theorem Refused.of_answer {attempt : Attempt} {table : List AuthRateBucket}
    (distinct : Distinct table)
    (failed : (attempt.throttle sha256 settings table).1 ≠ .ok ()) :
    Refused sha256 settings attempt table := by
  rcases throttle_cases sha256 settings attempt distinct with refused | admitted
  · exact refused
  · exact absurd admitted.answer failed

theorem Admitted.of_answer {attempt : Attempt} {table : List AuthRateBucket}
    (distinct : Distinct table)
    (done : (attempt.throttle sha256 settings table).1 = .ok ()) :
    Admitted sha256 settings attempt table := by
  rcases throttle_cases sha256 settings attempt distinct with refused | admitted
  · rw [refused.answer] at done
    cases done
  · exact admitted

end Runs

section Promise

variable (sha256 : String -> List UInt8) (settings : ThrottleSettings)

/-- The answer to an attempt that comes after others, and the rows then. -/
def reply (before : List Attempt) (attempt : Attempt) :
    Except AuthBusy Unit × List AuthRateBucket :=
  attempt.throttle sha256 settings (serve sha256 settings before).2

/-- What the throttle promises of a sequence of attempts.  A row that stands at some point
shows a window of its bucket: the minute that ends when the row expires. -/
structure Throttled (attempts : List Attempt) : Prop where
  placed : forall before attempt after, before ++ attempt :: after = attempts ->
    (reply sha256 settings before attempt).1 = .ok () ->
      forall key, key ∈ attempt.keys sha256 settings ->
        exists row, row ∈ (reply sha256 settings before attempt).2 ∧ row.key = key ∧
          Inside lifetime row.expiresAt attempt.time
  counted : forall before after, before ++ after = attempts ->
    forall row, row ∈ (serve sha256 settings before).2 ->
      row.attempts = (timesOf sha256 settings row.key (serve sha256 settings before).1).countP
        fun time => Inside lifetime row.expiresAt time
  window : forall before after, before ++ after = attempts ->
    forall row, row ∈ (serve sha256 settings before).2 ->
      forall login source limit, (row.key, limit) ∈ limits sha256 settings login source ->
        (timesOf sha256 settings row.key (serve sha256 settings attempts).1).countP
          (fun time => Inside lifetime row.expiresAt time) ≤ limit
  minute : forall login source key limit, (key, limit) ∈ limits sha256 settings login source ->
    forall start, (timesOf sha256 settings key (serve sha256 settings attempts).1).countP
      (fun time => start ≤ time ∧ time ≤ start + lifetime) ≤ 2 * limit
  atLimit : forall before attempt after, before ++ attempt :: after = attempts ->
    (reply sha256 settings before attempt).1 ≠ .ok () ->
      exists row limit, row ∈ (reply sha256 settings before attempt).2 ∧
        (row.key, limit) ∈ limits sha256 settings attempt.login attempt.source ∧
        attempt.time < row.expiresAt ∧ row.attempts = limit
  unspent : forall before attempt after, before ++ attempt :: after = attempts ->
    (reply sha256 settings before attempt).1 ≠ .ok () ->
      Unspent attempt.time (serve sha256 settings before).2
        (reply sha256 settings before attempt).2

/-- Attempts that come in order are throttled: no window of a bucket admits more attempts than
its limit, an attempt is refused only where a bucket that counts it is full, and a refused
attempt uses nothing up. -/
theorem serve_throttled {attempts : List Attempt}
    (ordered : attempts.Pairwise fun first second => first.time ≤ second.time) :
    Throttled sha256 settings attempts where
  placed := by
    intro before attempt after split done key member
    subst split
    have admitted := Admitted.of_answer (serve_distinct before) done
    have found := admitted.rows key
    rw [if_pos member] at found
    refine ⟨_, (Tables.lookup_some found).1, (Tables.lookup_some found).2, ?_⟩
    exact standing_inside ordered key
  counted := by
    intro before after split row member
    subst split
    exact row_attempts ordered member
  window := by
    intro before after split row member login source limit listed
    subst split
    rw [limit_of_mem listed]
    exact row_window ordered member
  minute := by
    intro login source key limit listed start
    rw [limit_of_mem listed]
    exact times_minute ordered key start
  atLimit := by
    intro before attempt after split failed
    subst split
    have refused := Refused.of_answer (serve_distinct before) failed
    rcases refused.full.attempts_eq ordered with ⟨key, limit, listed, reached⟩
    have held : key ∈ attempt.keys sha256 settings := List.mem_map.mpr ⟨(key, limit), listed, rfl⟩
    have found := refused.rows key
    rw [if_pos held] at found
    rcases Tables.lookup_some found with ⟨member, same⟩
    refine ⟨_, limit, member, same.symm ▸ listed, ?_, reached⟩
    exact standing_open attempt.time _ key
  unspent := by
    intro before attempt after split failed
    exact (Refused.of_answer (serve_distinct before) failed).unspent (serve_distinct before)

/-- The first bytes of the digests of some values. -/
def knownDigest (value : String) : List UInt8 :=
  if value = "alice" then [43, 216, 6, 201]
  else if value = "10.0.0.1" then [245, 4, 115, 68]
  else [203, 95, 55, 180]

/-- Two attempts at one login, from two addresses, where one is allowed in a minute. -/
def twoSources : List Attempt :=
  [{ login := "alice", source := "10.0.0.1", time := 0 },
    { login := "alice", source := "10.0.0.2", time := 1000000 }]

theorem twoSources_throttled :
    Throttled knownDigest
      { authGlobalLimit := 60, authAccountLimit := 1, authSourceLimit := 30 } twoSources :=
  serve_throttled _ _ (List.pairwise_pair.mpr (by decide))

example : (serve knownDigest
    { authGlobalLimit := 60, authAccountLimit := 1, authSourceLimit := 30 } twoSources).1.length =
      1 := by
  decide

end Promise

end Throttle
end Auth
end MarketIntelligence
