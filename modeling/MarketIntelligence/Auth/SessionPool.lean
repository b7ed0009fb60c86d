import MarketIntelligence.Auth.Revocation
import MarketIntelligence.Foundations.Loops
import MarketIntelligence.Foundations.SortedLists
import MarketIntelligence.Foundations.Tables

namespace MarketIntelligence
namespace Auth

open Foundations

/-!
# The pool of sessions

Only a login adds a session.  It first deletes what has expired and then all but the nine
sessions that were issued last, so there are never more than ten, and what it deletes to make
room is the oldest.  Every other step leaves each row where it is, with its identifier and its
absolute expiry.

A request refreshes the row that it has read.  The row is found again by its identifier, so
what was read of its absolute expiry still holds as long as no identifier is drawn twice.
-/

/-! ## Making room -/

/-- Sessions that were issued later come first. -/
def Newer (first second : NativeSession) : Prop := second.issuedAt ≤ first.issuedAt

instance : DecidableRel Newer := fun first second =>
  inferInstanceAs (Decidable (second.issuedAt ≤ first.issuedAt))

instance : Std.Total Newer where
  total first second := le_total second.issuedAt first.issuedAt

instance : IsTrans NativeSession Newer where
  trans _ _ _ before after := le_trans after before

section Room

variable {now : Instant} {sessions : List NativeSession}

/-- The sessions that have not expired. -/
def unexpired (now : Instant) (sessions : List NativeSession) : List NativeSession :=
  sessions.filter fun session => now < session.absoluteExpiresAt

theorem keptSessions_eq (now : Instant) (sessions : List NativeSession) :
    keptSessions now sessions =
      SortedLists.keepFirst NativeSession.id Newer 9 (unexpired now sessions) := rfl

theorem unexpired_distinct (distinct : (sessions.map NativeSession.id).Nodup) :
    ((unexpired now sessions).map NativeSession.id).Nodup :=
  List.Nodup.sublist (List.filter_sublist.map _) distinct

theorem length_keptSessions (now : Instant) (distinct : (sessions.map NativeSession.id).Nodup) :
    (keptSessions now sessions).length = min 9 (unexpired now sessions).length := by
  rw [keptSessions_eq]
  exact SortedLists.length_keepFirst Newer (unexpired_distinct distinct) 9

/-- What is deleted to make room was issued before what is kept. -/
theorem keptSessions_newer (distinct : (sessions.map NativeSession.id).Nodup)
    {kept removed : NativeSession} (keeps : kept ∈ keptSessions now sessions)
    (member : removed ∈ unexpired now sessions) (left : removed ∉ keptSessions now sessions) :
    removed.issuedAt ≤ kept.issuedAt := by
  rw [keptSessions_eq] at keeps left
  exact SortedLists.keepFirst_related Newer (unexpired_distinct distinct) keeps member left

/-- Nothing is deleted before there are ten. -/
theorem keptSessions_full (distinct : (sessions.map NativeSession.id).Nodup)
    {removed : NativeSession} (member : removed ∈ unexpired now sessions)
    (left : removed ∉ keptSessions now sessions) : (keptSessions now sessions).length = 9 := by
  have length := length_keptSessions now distinct
  by_contra fewer
  have all : (unexpired now sessions).length ≤ (keptSessions now sessions).length := by omega
  have same : keptSessions now sessions = unexpired now sessions :=
    List.filter_sublist.eq_of_length_le all
  exact left (same ▸ member)

end Room

/-! ## What holds of the pool -/

section Invariant

variable {environment : Environment} {state next : State environment}

/-- The identifiers of the sessions issued so far. -/
def State.drawn (state : State environment) : List Identifier :=
  state.issues.map Issue.sessionId

structure Pooled (state : State environment) : Prop where
  distinct : (state.sessions.map NativeSession.id).Nodup
  room : state.sessions.length ≤ 10
  drawn : forall session, session ∈ state.sessions -> session.id ∈ state.drawn
  read : forall process refresh, state.refreshes process = some refresh ->
    refresh.active.id ∈ state.drawn
  /-- What a request has read of a row that is still there. -/
  snapshots : state.drawn.Nodup -> forall process refresh,
    state.refreshes process = some refresh ->
      forall session, session ∈ state.sessions -> session.id = refresh.active.id ->
        session.absoluteExpiresAt = refresh.active.absoluteExpiresAt

theorem Pooled.initial (environment : Environment) (profile : Option UserProfile) :
    Pooled (State.initial environment profile) where
  distinct := List.nodup_nil
  room := Nat.zero_le 10
  drawn := fun _ member => absurd member List.not_mem_nil
  read := fun _ _ found => by cases found
  snapshots := fun _ _ _ found => by cases found

/-- A refresh that is started has read a row as it is. -/
theorem Pooled.quiet (pooled : Pooled state) (quiet : Quiet state next) : Pooled next := by
  have ids : state.sessions.map NativeSession.id = next.sessions.map NativeSession.id :=
    List.forall₂_eq_eq_eq ▸ List.forall₂_map_left_iff.mpr
      (List.forall₂_map_right_iff.mpr (quiet.sessions.imp fun _ _ same => same.id.symm))
  have drawn : next.drawn = state.drawn := congrArg (List.map Issue.sessionId) quiet.issues
  refine ⟨ids ▸ pooled.distinct, quiet.sessions.length_eq ▸ pooled.room, ?_, ?_, ?_⟩
  · intro session member
    rcases Loops.exists_of_forall₂ quiet.sessions member with ⟨origin, known, same⟩
    rw [drawn, same.id]
    exact pooled.drawn origin known
  · intro process refresh found
    rw [drawn]
    rcases quiet.refreshes process refresh found with before | active
    · exact pooled.read process refresh before
    · exact pooled.drawn refresh.active active
  · intro different process refresh found session member matching
    rcases Loops.exists_of_forall₂ quiet.sessions member with ⟨origin, known, same⟩
    have named := same.id.symm.trans matching
    rw [same.absoluteExpiresAt]
    rcases quiet.refreshes process refresh found with before | active
    · exact pooled.snapshots (drawn ▸ different) process refresh before origin known named
    · rw [List.inj_on_of_nodup_map pooled.distinct known active named]

/-! ## One step -/

/-- A login makes room before it adds its session, whose identifier is new among the others. -/
theorem loginIssue_pooled (pooled : Pooled state) (process : Nat) (sessionId : Identifier)
    (token : String) (now issuedAt : Instant) :
    Pooled (loginIssue process sessionId token now issuedAt state) := by
  rcases loginIssue_cases state process sessionId token now issuedAt with
    same | finished | ⟨attempt, current, _, _, _, _, _, free, issued⟩
  · rw [same]
    exact pooled
  · rw [finished]
    exact pooled.quiet (Quiet.of_rows rfl rfl rfl rfl)
  · have kept : forall session, session ∈ keptSessions now state.sessions ->
        session ∈ state.sessions ∧ session.id ≠ sessionId := by
      intro session member
      rcases List.mem_filter.mp (List.mem_of_mem_filter member) with ⟨known, alive⟩
      exact ⟨known, free session known (of_decide_eq_true alive)⟩
    rw [issued]
    refine ⟨?_, ?_, ?_, ?_, ?_⟩
    · refine Tables.nodup_append_row.mpr ⟨fun taken => ?_, ?_⟩
      · rcases List.mem_map.mp taken with ⟨session, member, same⟩
        exact (kept session member).2 same
      · exact List.Nodup.sublist (List.filter_sublist.map _) (unexpired_distinct pooled.distinct)
    · rw [List.length_append, length_keptSessions now pooled.distinct, List.length_singleton]
      omega
    · intro session member
      change session.id ∈ (state.issues ++ [_]).map Issue.sessionId
      rw [List.map_append]
      rcases List.mem_append.mp member with old | new
      · exact List.mem_append_left _ (pooled.drawn session (kept session old).1)
      · rw [List.mem_singleton.mp new]
        exact List.mem_append_right _ List.mem_cons_self
    · intro other refresh found
      change refresh.active.id ∈ (state.issues ++ [_]).map Issue.sessionId
      rw [List.map_append]
      exact List.mem_append_left _ (pooled.read other refresh found)
    · intro different other refresh found session member matching
      rcases Tables.nodup_append_row.mp different with ⟨fresh, before⟩
      rcases List.mem_append.mp member with old | new
      · exact pooled.snapshots before other refresh found session (kept session old).1 matching
      · -- The row of a refresh was drawn before, so it is not the session added now.
        rw [List.mem_singleton.mp new] at matching
        have known := pooled.read other refresh found
        rw [← matching] at known
        exact absurd known fresh

theorem step_pooled (pooled : Pooled state) (event : Event) : Pooled (step state event) := by
  rcases step_quiet state event with ⟨process, sessionId, token, now, issuedAt, login⟩ | quiet
  · rw [login]
    exact loginIssue_pooled pooled process sessionId token now issuedAt
  · exact pooled.quiet quiet

/-! ## Runs -/

/-- What a login deletes of the sessions that have not expired, if it has to make room. -/
structure MakesRoom (now : Instant) (sessionId : Identifier)
    (sessions next : List NativeSession) : Prop where
  known : forall kept, kept ∈ next -> kept.id ≠ sessionId -> kept ∈ sessions
  oldest : forall removed, removed ∈ unexpired now sessions -> removed ∉ next ->
    forall kept, kept ∈ next -> kept.id ≠ sessionId -> removed.issuedAt ≤ kept.issuedAt
  full : forall removed, removed ∈ unexpired now sessions -> removed ∉ next -> next.length = 10

theorem makesRoom_refl (now : Instant) (sessionId : Identifier) (sessions : List NativeSession) :
    MakesRoom now sessionId sessions sessions where
  known := fun _ member _ => member
  oldest := fun _ member gone => absurd (List.mem_of_mem_filter member) gone
  full := fun _ member gone => absurd (List.mem_of_mem_filter member) gone

theorem Pooled.makesRoom (pooled : Pooled state) (process : Nat) (sessionId : Identifier)
    (token : String) (now issuedAt : Instant) :
    MakesRoom now sessionId state.sessions
      (loginIssue process sessionId token now issuedAt state).sessions := by
  rcases loginIssue_cases state process sessionId token now issuedAt with
    same | finished | ⟨attempt, current, _, _, _, _, _, _, issued⟩
  · rw [same]
    exact makesRoom_refl now sessionId state.sessions
  · rw [finished]
    exact makesRoom_refl now sessionId state.sessions
  · rw [issued]
    have old : forall kept, kept ∈ keptSessions now state.sessions ++
          [newSession environment sessionId token attempt.version now issuedAt] ->
        kept.id ≠ sessionId -> kept ∈ keptSessions now state.sessions := by
      intro kept member different
      rcases List.mem_append.mp member with before | new
      · exact before
      · exact absurd (congrArg NativeSession.id (List.mem_singleton.mp new)) different
    refine ⟨?_, ?_, ?_⟩
    · intro kept member different
      exact keptSessions_subset now state.sessions (old kept member different)
    · intro removed member gone kept keeps different
      refine keptSessions_newer pooled.distinct (old kept keeps different) member fun left => ?_
      exact gone (List.mem_append_left _ left)
    · intro removed member gone
      rw [List.length_append, keptSessions_full pooled.distinct member fun left =>
        gone (List.mem_append_left _ left)]
      rfl

/-- The idle expiry stays as it is, or is moved to an instant before the absolute expiry. -/
def Within (old new : NativeSession) : Prop :=
  new.idleExpiresAt = old.idleExpiresAt ∨ new.idleExpiresAt ≤ old.absoluteExpiresAt

theorem within_touch {refresh : Refresh} {session : NativeSession}
    (snapshot : session.id = refresh.active.id ->
      session.absoluteExpiresAt = refresh.active.absoluteExpiresAt) :
    Within session (touch environment refresh session) := by
  unfold touch
  split
  · rename_i found
    refine Or.inr ?_
    rw [snapshot found.1]
    exact min_le_right _ _
  · exact Or.inl rfl

theorem Pooled.within (pooled : Pooled state) (different : state.drawn.Nodup) (process : Nat) :
    List.Forall₂ Within state.sessions (authenticateTouch process state).sessions := by
  unfold authenticateTouch
  split
  · exact List.forall₂_same.mpr fun _ _ => Or.inl rfl
  · rename_i refresh found
    refine List.forall₂_map_right_iff.mpr (List.forall₂_same.mpr fun session member => ?_)
    exact within_touch (pooled.snapshots different process refresh found session member)

theorem authenticateRead_sessions (state : State environment) (process : Nat)
    (authorization : Option String) (now : Instant) :
    (authenticateRead process authorization now state).sessions = state.sessions := by
  unfold authenticateRead
  split
  · rfl
  · split <;> rfl

/-- What holds of the pool in a run, whatever the interleaving.  Identifiers are drawn by
`uuid4`, so those of the sessions issued so far are different. -/
structure SessionPool (environment : Environment) (profile : Option UserProfile)
    (events : List Event) : Prop where
  bounded : forall state,
    state ∈ Runs.states step (State.initial environment profile) events ->
      state.sessions.length ≤ 10
  room : forall state, state ∈ Runs.states step (State.initial environment profile) events ->
    forall process sessionId token now issuedAt, MakesRoom now sessionId state.sessions
      (step state (.loginIssue process sessionId token now issuedAt)).sessions
  read : forall state, state ∈ Runs.states step (State.initial environment profile) events ->
    forall process authorization now,
      (step state (.authenticateRead process authorization now)).sessions = state.sessions
  absolute : forall state, state ∈ Runs.states step (State.initial environment profile) events ->
    forall process, List.Forall₂ Keeps state.sessions
      (step state (.authenticateTouch process)).sessions
  idle : forall state, state ∈ Runs.states step (State.initial environment profile) events ->
    state.drawn.Nodup -> forall process, List.Forall₂ Within state.sessions
      (step state (.authenticateTouch process)).sessions

/-- Whatever is called, and in whatever order, there are at most ten sessions, and a login drops
expired and oldest ones to make room before it issues its own.  A read leaves the sessions alone;
a touch keeps the absolute expiry and moves the idle expiry only up to it. -/
theorem sessions_pooled (environment : Environment) (profile : Option UserProfile)
    (events : List Event) : SessionPool environment profile events := by
  have pooled : forall state,
      state ∈ Runs.states step (State.initial environment profile) events -> Pooled state :=
    Runs.invariant_states (motive := Pooled) (fun _ event holds => step_pooled holds event)
      (Pooled.initial environment profile)
  constructor
  · exact fun state visited => (pooled state visited).room
  · exact fun state visited => (pooled state visited).makesRoom
  · exact fun state _ => authenticateRead_sessions state
  · exact fun state _ process => (authenticateTouch_quiet state process).sessions
  · exact fun state visited => (pooled state visited).within

end Invariant

def loginsInTurn (count : Nat) : List Event :=
  (List.range count).flatMap fun turn =>
    [.loginRead 1 "alice" "correct horse battery", .loginVerify 1,
      .loginIssue 1 (20 + turn) (toString turn) (20 + turn) (20 + turn)]

example :
    let state := (enrolAndLogIn ++ loginsInTurn 11).foldl step
      (State.initial plainEnvironment (some { isDisabled := false }))
    state.drawn.Nodup ∧
      state.sessions.map NativeSession.issuedAt = [21, 22, 23, 24, 25, 26, 27, 28, 29, 30] := by
  decide +kernel

end Auth
end MarketIntelligence
