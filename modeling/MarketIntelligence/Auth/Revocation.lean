import MarketIntelligence.Auth.Native
import MarketIntelligence.Foundations.Runs

namespace MarketIntelligence
namespace Auth

open Foundations

/-!
# Sessions do not survive their password

The version of the credential counts the passwords enrolled so far.  A login
carries the version it read, and the session it issues records it, so a session
of the current version was issued against the current password however the
steps of other calls fell between.  Every rotation also revokes what was issued
before, so an unrevoked session is always of the current version.
-/

section Invariant

variable {environment : Environment}

/-- The password enrolled under a version. -/
def passwordAt (enrolled : List String) : Nat -> Option String
  | 0 => none
  | version + 1 => enrolled[version]?

theorem passwordAt_append {enrolled more : List String} {version : Nat} {password : String}
    (found : passwordAt enrolled version = some password) :
    passwordAt (enrolled ++ more) version = some password := by
  cases version with
  | zero => cases found
  | succ position =>
      change (enrolled ++ more)[position]? = some password
      rw [List.getElem?_append_left (List.getElem?_eq_some_iff.mp found).1]
      exact found

theorem passwordAt_le {enrolled : List String} {version : Nat} {password : String}
    (found : passwordAt enrolled version = some password) : version ≤ enrolled.length := by
  cases version with
  | zero => exact Nat.zero_le _
  | succ position => exact (List.getElem?_eq_some_iff.mp found).1

theorem passwordAt_length_succ (enrolled : List String) (password : String) :
    passwordAt (enrolled ++ [password]) (enrolled.length + 1) = some password :=
  List.getElem?_concat_length

theorem passwordAt_length (enrolled : List String) :
    passwordAt enrolled enrolled.length = enrolled.getLast? := by
  rw [List.getLast?_eq_getElem?]
  cases enrolled with
  | nil => rfl
  | cons first rest => rfl

/-- The encoded value is a hash of the password enrolled under the version. -/
def Proven (hasher : PasswordHasher) (enrolled : List String) (encoded : hasher.Encoded)
    (version : Nat) : Prop :=
  exists salt password,
    passwordAt enrolled version = some password ∧ encoded = hasher.hash salt password

theorem Proven.append {hasher : PasswordHasher} {enrolled more : List String}
    {encoded : hasher.Encoded} {version : Nat} (proven : Proven hasher enrolled encoded version) :
    Proven hasher (enrolled ++ more) encoded version := by
  rcases proven with ⟨salt, password, found, hashed⟩
  exact ⟨salt, password, passwordAt_append found, hashed⟩

structure LoginAttempt.Honest {hasher : PasswordHasher} (enrolled : List String)
    (attempt : LoginAttempt hasher) : Prop where
  proven : attempt.userKnown = true -> Proven hasher enrolled attempt.encoded attempt.version
  verified : forall valid, attempt.valid = some valid ->
    valid = hasher.verifies attempt.encoded attempt.password

/-- What holds of the rows and the open calls at every point of a run. -/
structure Consistent (state : State environment) : Prop where
  current : forall credential, state.credential = some credential ->
    credential.version = state.enrolled.length ∧
      Proven environment.hasher state.enrolled credential.passwordHash credential.version
  absent : state.credential = none -> state.enrolled = []
  logins : forall process attempt, state.logins process = some attempt ->
    attempt.Honest state.enrolled
  changes : forall process attempt, state.changes process = some attempt ->
    forall replacement, attempt.replacement = some replacement ->
      exists salt, replacement = environment.hasher.hash salt attempt.newPassword
  issues : forall issue, issue ∈ state.issues ->
    passwordAt state.enrolled issue.version = some issue.password
  sessions : forall session, session ∈ state.sessions ->
    exists issue, issue ∈ state.issues ∧ issue.sessionId = session.id ∧
      issue.version = session.credentialVersion
  unrevoked : forall session, session ∈ state.sessions -> session.revokedAt = none ->
    session.credentialVersion = state.enrolled.length

theorem Consistent.initial (environment : Environment) (profile : Option UserProfile) :
    Consistent (State.initial environment profile) where
  current := fun _ found => by cases found
  absent := fun _ => rfl
  logins := fun _ _ found => by cases found
  changes := fun _ _ found => by cases found
  issues := fun _ member => absurd member List.not_mem_nil
  sessions := fun _ member => absurd member List.not_mem_nil
  unrevoked := fun _ member => absurd member List.not_mem_nil

/-! ## Rows that are only narrowed -/

/-- Every session of the first list is one of the second that at most lost its
validity. -/
def Narrows (next sessions : List NativeSession) : Prop :=
  forall session, session ∈ next -> exists origin, origin ∈ sessions ∧ origin.id = session.id ∧
    origin.credentialVersion = session.credentialVersion ∧
    (session.revokedAt = none -> origin.revokedAt = none)

theorem Narrows.of_subset {next sessions : List NativeSession} (subset : next ⊆ sessions) :
    Narrows next sessions :=
  fun session member => ⟨session, subset member, rfl, rfl, fun unrevoked => unrevoked⟩

theorem Narrows.of_map {change : NativeSession -> NativeSession} (sessions : List NativeSession)
    (id : forall session, (change session).id = session.id)
    (version : forall session, (change session).credentialVersion = session.credentialVersion)
    (unrevoked : forall session, (change session).revokedAt = none -> session.revokedAt = none) :
    Narrows (sessions.map change) sessions := by
  intro session member
  rcases List.mem_map.mp member with ⟨origin, known, rfl⟩
  exact ⟨origin, known, (id origin).symm, (version origin).symm, unrevoked origin⟩

theorem narrows_touch (refresh : Refresh) (sessions : List NativeSession) :
    Narrows (sessions.map (touch environment refresh)) sessions := by
  apply Narrows.of_map <;> intro session <;> unfold touch <;> split
  · rfl
  · rfl
  · rfl
  · rfl
  · exact fun unrevoked => unrevoked
  · exact fun unrevoked => unrevoked

theorem narrows_revokeAll (now : Instant) (sessions : List NativeSession) :
    Narrows (revokeAll now sessions) sessions := by
  apply Narrows.of_map <;> intro session <;> split
  · rfl
  · rfl
  · rfl
  · rfl
  · exact fun unrevoked => by cases unrevoked
  · exact fun unrevoked => unrevoked

theorem revokeAll_revoked {now : Instant} {sessions : List NativeSession} {session : NativeSession}
    (member : session ∈ revokeAll now sessions) : session.revokedAt ≠ none := by
  rcases List.mem_map.mp member with ⟨origin, _, rfl⟩
  split
  · exact fun revoked => by cases revoked
  · assumption

theorem keptSessions_subset (now : Instant) (sessions : List NativeSession) :
    keptSessions now sessions ⊆ sessions := fun _ member =>
  List.mem_of_mem_filter (List.mem_of_mem_filter member)

/-- A step that writes no credential and only narrows the sessions. -/
theorem Consistent.narrow {state next : State environment} (consistent : Consistent state)
    (credential : next.credential = state.credential) (enrolled : next.enrolled = state.enrolled)
    (issues : next.issues = state.issues) (sessions : Narrows next.sessions state.sessions)
    (logins : forall process attempt, next.logins process = some attempt ->
      attempt.Honest state.enrolled)
    (changes : forall process attempt, next.changes process = some attempt ->
      forall replacement, attempt.replacement = some replacement ->
        exists salt, replacement = environment.hasher.hash salt attempt.newPassword) :
    Consistent next where
  current := by
    rw [credential, enrolled]
    exact consistent.current
  absent := by
    rw [credential, enrolled]
    exact consistent.absent
  logins := enrolled ▸ logins
  changes := changes
  issues := by
    rw [issues, enrolled]
    exact consistent.issues
  sessions := by
    intro session member
    rcases sessions session member with ⟨origin, known, id, version, _⟩
    rcases consistent.sessions origin known with ⟨issue, issued, issueId, issueVersion⟩
    exact ⟨issue, issues ▸ issued, issueId.trans id, issueVersion.trans version⟩
  unrevoked := by
    intro session member live
    rcases sessions session member with ⟨origin, known, _, version, unrevoked⟩
    rw [← version, enrolled]
    exact consistent.unrevoked origin known (unrevoked live)

/-- A new password, with what was issued before revoked. -/
theorem Consistent.rotate {state next : State environment} (consistent : Consistent state)
    (salt : Nat) (password : String) {credential : NativeCredential environment.hasher}
    (stored : next.credential = some credential)
    (version : credential.version = state.enrolled.length + 1)
    (hashed : credential.passwordHash = environment.hasher.hash salt password)
    (enrolled : next.enrolled = state.enrolled ++ [password]) (issues : next.issues = state.issues)
    (sessions : Narrows next.sessions state.sessions)
    (revoked : forall session, session ∈ next.sessions -> session.revokedAt ≠ none)
    (logins : next.logins = state.logins)
    (changes : forall process attempt, next.changes process = some attempt ->
      forall replacement, attempt.replacement = some replacement ->
        exists salt, replacement = environment.hasher.hash salt attempt.newPassword) :
    Consistent next where
  current := by
    intro other found
    rw [stored] at found
    cases found
    rw [enrolled, version]
    refine ⟨?_, salt, password, passwordAt_length_succ _ _, hashed⟩
    rw [List.length_append, List.length_singleton]
  absent := by
    rw [stored]
    intro missing
    cases missing
  logins := by
    intro process attempt found
    rw [logins] at found
    have honest := consistent.logins process attempt found
    rw [enrolled]
    exact
      { proven := fun known => (honest.proven known).append
        verified := honest.verified }
  changes := changes
  issues := by
    intro issue member
    rw [issues] at member
    rw [enrolled]
    exact passwordAt_append (consistent.issues issue member)
  sessions := by
    intro session member
    rcases sessions session member with ⟨origin, known, id, same, _⟩
    rcases consistent.sessions origin known with ⟨issue, issued, issueId, issueVersion⟩
    exact ⟨issue, issues ▸ issued, issueId.trans id, issueVersion.trans same⟩
  unrevoked := fun session member live => absurd live (revoked session member)

/-- No session was issued before the first password. -/
theorem Consistent.sessions_nil {state : State environment} (consistent : Consistent state)
    (absent : state.credential = none) : state.sessions = [] := by
  apply List.eq_nil_iff_forall_not_mem.mpr
  intro session member
  rcases consistent.sessions session member with ⟨issue, issued, _, _⟩
  have found := consistent.issues issue issued
  rw [consistent.absent absent] at found
  cases version : issue.version with
  | zero =>
      rw [version] at found
      cases found
  | succ position =>
      rw [version] at found
      cases found

/-! ## One step -/

/-- Writing one entry of a table of open calls. -/
theorem update_cases {α : Type} {calls : Nat -> Option α} {process other : Nat}
    {written : Option α} {call : α}
    (found : Function.update calls process written other = some call) :
    calls other = some call ∨ written = some call := by
  by_cases same : other = process
  · rw [same, Function.update_self] at found
    exact Or.inr found
  · rw [Function.update_of_ne same] at found
    exact Or.inl found

theorem forall_update {α : Type} {calls : Nat -> Option α} {property : α -> Prop}
    (others : forall process call, calls process = some call -> property call) (process : Nat)
    {written : Option α} (own : forall call, written = some call -> property call) :
    forall other call, Function.update calls process written other = some call ->
      property call := by
  intro other call found
  rcases update_cases found with before | new
  · exact others other call before
  · exact own call new

theorem enroll_consistent {state : State environment} (consistent : Consistent state)
    (login password : String) (salt : Nat) (collision reset : Bool) (now : Instant) :
    Consistent (enroll login password salt collision reset now state) := by
  unfold enroll
  split
  · exact consistent
  · cases stored : state.credential with
    | none =>
        cases reset with
        | true => exact consistent
        | false =>
            have none := consistent.sessions_nil stored
            refine consistent.rotate salt password rfl ?_ rfl rfl rfl
              (Narrows.of_subset fun _ member => member) ?_ rfl consistent.changes
            · rw [consistent.absent stored]
              rfl
            · intro session member
              change session ∈ state.sessions at member
              rw [none] at member
              cases member
    | some credential =>
        cases reset with
        | false => exact consistent
        | true =>
            refine consistent.rotate salt password rfl ?_ rfl rfl rfl
              (narrows_revokeAll now _) (fun _ member => revokeAll_revoked member) rfl
              consistent.changes
            change credential.version + 1 = _
            rw [(consistent.current credential stored).1]

theorem loginRead_consistent {state : State environment} (consistent : Consistent state)
    (process : Nat) (identifier password : String) :
    Consistent (loginRead process identifier password state) := by
  refine consistent.narrow rfl rfl rfl (Narrows.of_subset fun _ member => member) ?_
    consistent.changes
  refine forall_update consistent.logins process ?_
  intro attempt written
  cases written
  split
  · exact { proven := fun known => (by cases known), verified := fun _ found => by cases found }
  · split
    · exact
        { proven := fun _ => (consistent.current _ ‹_›).2
          verified := fun _ found => by cases found }
    · exact { proven := fun known => (by cases known), verified := fun _ found => by cases found }

theorem loginVerify_consistent {state : State environment} (consistent : Consistent state)
    (process : Nat) : Consistent (loginVerify process state) := by
  unfold loginVerify
  split
  · exact consistent
  · rename_i attempt found
    refine consistent.narrow rfl rfl rfl (Narrows.of_subset fun _ member => member) ?_
      consistent.changes
    refine forall_update consistent.logins process ?_
    intro verified written
    cases written
    exact
      { proven := (consistent.logins process attempt found).proven
        verified := fun _ same => (Option.some.inj same).symm }

theorem finishLogin_consistent {state : State environment} (consistent : Consistent state)
    (process : Nat) :
    Consistent { state with logins := Function.update state.logins process none } :=
  consistent.narrow rfl rfl rfl (Narrows.of_subset fun _ member => member)
    (forall_update consistent.logins process fun _ written => by cases written) consistent.changes

theorem finishChange_consistent {state : State environment} (consistent : Consistent state)
    (process : Nat) :
    Consistent { state with changes := Function.update state.changes process none } :=
  consistent.narrow rfl rfl rfl (Narrows.of_subset fun _ member => member) consistent.logins
    (forall_update consistent.changes process fun _ written => by cases written)

theorem loginIssue_cases (state : State environment) (process : Nat) (sessionId : Identifier)
    (token : String) (now issuedAt : Instant) :
    loginIssue process sessionId token now issuedAt state = state ∨
    loginIssue process sessionId token now issuedAt state =
      { state with logins := Function.update state.logins process none } ∨
    exists attempt current,
      state.logins process = some attempt ∧ state.credential = some current ∧
      attempt.valid = some true ∧ attempt.userKnown = true ∧ current.version = attempt.version ∧
      (forall other, other ∈ state.sessions -> now < other.absoluteExpiresAt ->
        other.id ≠ sessionId) ∧
      loginIssue process sessionId token now issuedAt state =
        { state with
          logins := Function.update state.logins process none
          sessions := keptSessions now state.sessions ++
            [newSession environment sessionId token attempt.version now issuedAt]
          issues := state.issues ++
            [{ sessionId := sessionId, version := attempt.version,
               password := attempt.password }] } := by
  unfold loginIssue
  split
  · exact Or.inl rfl
  · rename_i attempt found
    split
    · rename_i current valid stored
      dsimp only
      split
      · exact Or.inr (Or.inl rfl)
      · rename_i permitted
        split
        · exact Or.inr (Or.inl rfl)
        · rename_i free
          simp only [not_or, Bool.not_eq_false, ne_eq, not_not] at permitted
          refine Or.inr (Or.inr
            ⟨attempt, current, found, stored, valid, permitted.1, permitted.2.2, ?_, rfl⟩)
          intro other member alive same
          refine free (List.any_eq_true.mpr ⟨other, ?_, ?_⟩)
          · exact List.mem_filter.mpr ⟨member, decide_eq_true alive⟩
          · rw [Bool.or_eq_true]
            exact Or.inl (decide_eq_true same)
    · exact Or.inl rfl
    · exact Or.inr (Or.inl rfl)

/-- The password a login has verified is the current one when the versions agree. -/
theorem Consistent.verified {state : State environment} (consistent : Consistent state)
    {process : Nat} {attempt : LoginAttempt environment.hasher}
    (found : state.logins process = some attempt) (valid : attempt.valid = some true)
    (known : attempt.userKnown = true) :
    passwordAt state.enrolled attempt.version = some attempt.password := by
  have honest := consistent.logins process attempt found
  rcases honest.proven known with ⟨salt, password, enrolled, hashed⟩
  have accepted := (honest.verified true valid).symm
  rw [hashed, environment.hasher.verifies_hash] at accepted
  rw [accepted]
  exact enrolled

theorem loginIssue_consistent {state : State environment} (consistent : Consistent state)
    (process : Nat) (sessionId : Identifier) (token : String) (now issuedAt : Instant) :
    Consistent (loginIssue process sessionId token now issuedAt state) := by
  rcases loginIssue_cases state process sessionId token now issuedAt with
    same | finished | ⟨attempt, current, found, stored, valid, known, version, _, issued⟩
  · rw [same]
    exact consistent
  · rw [finished]
    exact finishLogin_consistent consistent process
  · rw [issued]
    have kept : Consistent { state with
        logins := Function.update state.logins process none
        sessions := keptSessions now state.sessions } :=
      consistent.narrow rfl rfl rfl (Narrows.of_subset (keptSessions_subset now _))
        (forall_update consistent.logins process fun _ written => by cases written)
        consistent.changes
    refine
      { current := consistent.current, absent := consistent.absent, logins := kept.logins,
        changes := consistent.changes, issues := ?_, sessions := ?_, unrevoked := ?_ }
    · intro issue member
      rcases List.mem_append.mp member with earlier | latest
      · exact consistent.issues issue earlier
      · rw [List.mem_singleton.mp latest]
        exact consistent.verified found valid known
    · intro session member
      rcases List.mem_append.mp member with earlier | latest
      · rcases kept.sessions session earlier with ⟨issue, listed, matching⟩
        exact ⟨issue, List.mem_append_left _ listed, matching⟩
      · rw [List.mem_singleton.mp latest]
        exact ⟨_, List.mem_append_right _ (List.mem_singleton.mpr rfl), rfl, rfl⟩
    · intro session member live
      rcases List.mem_append.mp member with earlier | latest
      · exact kept.unrevoked session earlier live
      · rw [List.mem_singleton.mp latest]
        exact version.symm.trans (consistent.current current stored).1

theorem authenticateRead_consistent {state : State environment} (consistent : Consistent state)
    (process : Nat) (authorization : Option String) (now : Instant) :
    Consistent (authenticateRead process authorization now state) := by
  unfold authenticateRead
  split
  · exact consistent
  · split
    · exact consistent.narrow rfl rfl rfl (Narrows.of_subset fun _ member => member)
        consistent.logins consistent.changes
    · exact consistent

theorem authenticateTouch_consistent {state : State environment} (consistent : Consistent state)
    (process : Nat) : Consistent (authenticateTouch process state) := by
  unfold authenticateTouch
  split
  · exact consistent
  · exact consistent.narrow rfl rfl rfl (narrows_touch _ _) consistent.logins consistent.changes

theorem logout_consistent {state : State environment} (consistent : Consistent state)
    (sessionId : Identifier) (now : Instant) : Consistent (logout sessionId now state) := by
  refine consistent.narrow rfl rfl rfl ?_ consistent.logins consistent.changes
  apply Narrows.of_map <;> intro session <;> split
  · rfl
  · rfl
  · rfl
  · rfl
  · exact fun unrevoked => by cases unrevoked
  · exact fun unrevoked => unrevoked

theorem changeRead_consistent {state : State environment} (consistent : Consistent state)
    (process : Nat) (sessionId : Identifier) (currentPassword newPassword : String) :
    Consistent (changeRead process sessionId currentPassword newPassword state) := by
  unfold changeRead
  split
  · exact consistent
  · split
    · exact consistent
    · refine consistent.narrow rfl rfl rfl (Narrows.of_subset fun _ member => member)
        consistent.logins (forall_update consistent.changes process ?_)
      intro attempt written replacement replaced
      cases written
      cases replaced

theorem changeVerify_consistent {state : State environment} (consistent : Consistent state)
    (process : Nat) (salt : Nat) : Consistent (changeVerify process salt state) := by
  unfold changeVerify
  split
  · exact consistent
  · refine consistent.narrow rfl rfl rfl (Narrows.of_subset fun _ member => member)
      consistent.logins (forall_update consistent.changes process ?_)
    intro attempt written replacement replaced
    split at written
    · cases written
      cases replaced
      exact ⟨salt, rfl⟩
    · cases written

theorem changeCommit_consistent {state : State environment} (consistent : Consistent state)
    (process : Nat) (now : Instant) : Consistent (changeCommit process now state) := by
  unfold changeCommit
  split
  · exact consistent
  · rename_i attempt found
    dsimp only
    split
    · exact consistent
    · rename_i replacement credential session replaced stored active
      split
      · exact finishChange_consistent consistent process
      · rcases consistent.changes process attempt found replacement replaced with ⟨salt, hashed⟩
        refine consistent.rotate salt attempt.newPassword rfl ?_ hashed rfl
          rfl (narrows_revokeAll now _) (fun _ member => revokeAll_revoked member) rfl
          (finishChange_consistent consistent process).changes
        change credential.version + 1 = _
        rw [(consistent.current credential stored).1]
    · exact finishChange_consistent consistent process

theorem step_consistent {state : State environment} (consistent : Consistent state)
    (event : Event) : Consistent (step state event) := by
  cases event with
  | enroll login password salt collision reset now =>
      exact enroll_consistent consistent login password salt collision reset now
  | loginRead process identifier password =>
      exact loginRead_consistent consistent process identifier password
  | loginVerify process => exact loginVerify_consistent consistent process
  | loginIssue process sessionId token now issuedAt =>
      exact loginIssue_consistent consistent process sessionId token now issuedAt
  | loginDrop process => exact finishLogin_consistent consistent process
  | authenticateRead process authorization now =>
      exact authenticateRead_consistent consistent process authorization now
  | authenticateTouch process => exact authenticateTouch_consistent consistent process
  | logout sessionId now => exact logout_consistent consistent sessionId now
  | changeRead process sessionId currentPassword newPassword =>
      exact changeRead_consistent consistent process sessionId currentPassword newPassword
  | changeVerify process salt => exact changeVerify_consistent consistent process salt
  | changeCommit process now => exact changeCommit_consistent consistent process now
  | changeDrop process => exact finishChange_consistent consistent process
  | setDisabled flag =>
      exact consistent.narrow rfl rfl rfl (Narrows.of_subset fun _ member => member)
        consistent.logins consistent.changes

theorem run_consistent (environment : Environment) (profile : Option UserProfile)
    (events : List Event) :
    Consistent (events.foldl step (State.initial environment profile)) :=
  Runs.invariant_foldl (motive := Consistent)
    (fun _ event consistent => step_consistent consistent event)
    (Consistent.initial environment profile)

/-! ## Steps that issue no session -/

/-- A row that stays, with its identifier and its absolute expiry. -/
structure Keeps (old new : NativeSession) : Prop where
  id : new.id = old.id
  absoluteExpiresAt : new.absoluteExpiresAt = old.absoluteExpiresAt

theorem forall₂_keeps_refl (sessions : List NativeSession) :
    List.Forall₂ Keeps sessions sessions :=
  List.forall₂_same.mpr fun _ _ => ⟨rfl, rfl⟩

theorem forall₂_keeps_map {change : NativeSession -> NativeSession}
    (keeps : forall session, Keeps session (change session)) (sessions : List NativeSession) :
    List.Forall₂ Keeps sessions (sessions.map change) :=
  List.forall₂_map_right_iff.mpr (List.forall₂_same.mpr fun session _ => keeps session)

theorem keeps_touch (refresh : Refresh) (session : NativeSession) :
    Keeps session (touch environment refresh session) := by
  unfold touch
  split <;> exact ⟨rfl, rfl⟩

theorem forall₂_keeps_revokeAll (now : Instant) (sessions : List NativeSession) :
    List.Forall₂ Keeps sessions (revokeAll now sessions) := by
  refine forall₂_keeps_map (fun session => ?_) sessions
  split <;> exact ⟨rfl, rfl⟩

/-- All that a step does to the rows if it issues no session. -/
structure Quiet (state next : State environment) : Prop where
  sessions : List.Forall₂ Keeps state.sessions next.sessions
  issues : next.issues = state.issues
  enrolled : next.enrolled = state.enrolled ∨
    exists password, next.enrolled = state.enrolled ++ [password]
  refreshes : forall process refresh, next.refreshes process = some refresh ->
    state.refreshes process = some refresh ∨ refresh.active ∈ state.sessions

/-- Only the calls that are open may change. -/
theorem Quiet.of_rows {state next : State environment} (sessions : next.sessions = state.sessions)
    (issues : next.issues = state.issues) (enrolled : next.enrolled = state.enrolled)
    (refreshes : next.refreshes = state.refreshes) : Quiet state next where
  sessions := sessions ▸ forall₂_keeps_refl state.sessions
  issues := issues
  enrolled := Or.inl enrolled
  refreshes := fun _ _ found => Or.inl (refreshes ▸ found)

theorem Quiet.refl (state : State environment) : Quiet state state :=
  Quiet.of_rows rfl rfl rfl rfl

theorem enroll_quiet (state : State environment) (login password : String) (salt : Nat)
    (collision reset : Bool) (now : Instant) :
    Quiet state (enroll login password salt collision reset now state) := by
  unfold enroll
  dsimp only
  split
  · exact Quiet.refl state
  · split
    · exact Quiet.refl state
    · exact Quiet.refl state
    · exact ⟨forall₂_keeps_refl _, rfl, Or.inr ⟨password, rfl⟩, fun _ _ found => Or.inl found⟩
    · exact ⟨forall₂_keeps_revokeAll now _, rfl, Or.inr ⟨password, rfl⟩,
        fun _ _ found => Or.inl found⟩

theorem authenticate_some {state : State environment} {authorization : Option String}
    {now : Instant} {session : NativeSession}
    (accepted : authenticate state authorization now = some session) :
    session ∈ state.sessions ∧ session.revokedAt = none ∧ now < session.idleExpiresAt ∧
      now < session.absoluteExpiresAt ∧ state.enabled = true ∧
      exists credential, state.credential = some credential ∧
        credential.version = session.credentialVersion := by
  unfold authenticate at accepted
  split at accepted
  · rename_i token credential _ stored
    split at accepted
    · cases accepted
    · rename_i active found
      split at accepted
      · cases accepted
      · rename_i permitted
        cases accepted
        simp only [not_or, not_le, ne_eq, not_not, Bool.not_eq_false] at permitted
        rcases permitted with ⟨notRevoked, notIdle, notExpired, version, enabled⟩
        exact ⟨List.mem_of_find?_eq_some found, notRevoked, notIdle, notExpired, enabled,
          credential, stored, version⟩
  · cases accepted

theorem authenticateRead_quiet (state : State environment) (process : Nat)
    (authorization : Option String) (now : Instant) :
    Quiet state (authenticateRead process authorization now state) := by
  unfold authenticateRead
  split
  · exact Quiet.refl state
  · rename_i active accepted
    split
    · refine ⟨forall₂_keeps_refl _, rfl, Or.inl rfl, fun other refresh found => ?_⟩
      rcases update_cases found with before | new
      · exact Or.inl before
      · cases new
        exact Or.inr (authenticate_some accepted).1
    · exact Quiet.refl state

theorem authenticateTouch_quiet (state : State environment) (process : Nat) :
    Quiet state (authenticateTouch process state) := by
  unfold authenticateTouch
  split
  · exact Quiet.refl state
  · refine ⟨forall₂_keeps_map (keeps_touch _) _, rfl, Or.inl rfl, fun other refresh found => ?_⟩
    rcases update_cases found with before | new
    · exact Or.inl before
    · cases new

theorem changeCommit_quiet (state : State environment) (process : Nat) (now : Instant) :
    Quiet state (changeCommit process now state) := by
  unfold changeCommit
  dsimp only
  split
  · exact Quiet.refl state
  · split
    · exact Quiet.refl state
    · split
      · exact Quiet.of_rows rfl rfl rfl rfl
      · exact ⟨forall₂_keeps_revokeAll now _, rfl, Or.inr ⟨_, rfl⟩,
          fun _ _ found => Or.inl found⟩
    · exact Quiet.of_rows rfl rfl rfl rfl

theorem step_quiet (state : State environment) (event : Event) :
    (exists process sessionId token now issuedAt,
      event = .loginIssue process sessionId token now issuedAt) ∨
    Quiet state (step state event) := by
  cases event with
  | enroll login password salt collision reset now =>
      exact Or.inr (enroll_quiet state login password salt collision reset now)
  | loginRead process identifier password => exact Or.inr (Quiet.of_rows rfl rfl rfl rfl)
  | loginVerify process =>
      refine Or.inr ?_
      change Quiet state (loginVerify process state)
      unfold loginVerify
      split
      · exact Quiet.refl state
      · exact Quiet.of_rows rfl rfl rfl rfl
  | loginIssue process sessionId token now issuedAt =>
      exact Or.inl ⟨process, sessionId, token, now, issuedAt, rfl⟩
  | loginDrop process => exact Or.inr (Quiet.of_rows rfl rfl rfl rfl)
  | authenticateRead process authorization now =>
      exact Or.inr (authenticateRead_quiet state process authorization now)
  | authenticateTouch process => exact Or.inr (authenticateTouch_quiet state process)
  | logout sessionId now =>
      refine Or.inr ⟨forall₂_keeps_map (fun session => ?_) _, rfl, Or.inl rfl,
        fun _ _ found => Or.inl found⟩
      split <;> exact ⟨rfl, rfl⟩
  | changeRead process sessionId currentPassword newPassword =>
      refine Or.inr ?_
      change Quiet state (changeRead process sessionId currentPassword newPassword state)
      unfold changeRead
      split
      · exact Quiet.refl state
      · dsimp only
        split
        · exact Quiet.refl state
        · exact Quiet.of_rows rfl rfl rfl rfl
  | changeVerify process salt =>
      refine Or.inr ?_
      change Quiet state (changeVerify process salt state)
      unfold changeVerify
      split
      · exact Quiet.refl state
      · exact Quiet.of_rows rfl rfl rfl rfl
  | changeCommit process now => exact Or.inr (changeCommit_quiet state process now)
  | changeDrop process => exact Or.inr (Quiet.of_rows rfl rfl rfl rfl)
  | setDisabled flag => exact Or.inr (Quiet.of_rows rfl rfl rfl rfl)

/-! ## What a run adds -/

/-- Everything added since a state: more passwords, and sessions issued under
versions no older than the one current then. -/
structure Extends (start state : State environment) : Prop where
  enrolled : exists more, state.enrolled = start.enrolled ++ more
  issues : exists later, state.issues = start.issues ++ later ∧
    forall issue, issue ∈ later -> start.enrolled.length ≤ issue.version

theorem Extends.refl (state : State environment) : Extends state state where
  enrolled := ⟨[], (List.append_nil _).symm⟩
  issues := ⟨[], (List.append_nil _).symm, fun _ member => absurd member List.not_mem_nil⟩

theorem Extends.congr {start state next : State environment} (extended : Extends start state)
    (enrolled : next.enrolled = state.enrolled) (issues : next.issues = state.issues) :
    Extends start next where
  enrolled := enrolled ▸ extended.enrolled
  issues := issues ▸ extended.issues

theorem Extends.enrol {start state next : State environment} (extended : Extends start state)
    {password : String} (enrolled : next.enrolled = state.enrolled ++ [password])
    (issues : next.issues = state.issues) : Extends start next where
  enrolled := by
    rcases extended.enrolled with ⟨more, grown⟩
    exact ⟨more ++ [password], by rw [enrolled, grown, List.append_assoc]⟩
  issues := issues ▸ extended.issues

theorem Extends.issue {start state next : State environment} (extended : Extends start state)
    {issue : Issue} (version : issue.version = state.enrolled.length)
    (enrolled : next.enrolled = state.enrolled) (issues : next.issues = state.issues ++ [issue]) :
    Extends start next where
  enrolled := enrolled ▸ extended.enrolled
  issues := by
    rcases extended.enrolled with ⟨more, grown⟩
    rcases extended.issues with ⟨later, listed, versions⟩
    refine ⟨later ++ [issue], by rw [issues, listed, List.append_assoc], ?_⟩
    intro other member
    rcases List.mem_append.mp member with earlier | latest
    · exact versions other earlier
    · rw [List.mem_singleton.mp latest, version, grown, List.length_append]
      exact Nat.le_add_right _ _

theorem Extends.quiet {start state next : State environment} (extended : Extends start state)
    (quiet : Quiet state next) : Extends start next := by
  rcases quiet.enrolled with same | ⟨password, grown⟩
  · exact extended.congr same quiet.issues
  · exact extended.enrol grown quiet.issues

theorem step_extends {start state : State environment} (consistent : Consistent state)
    (extended : Extends start state) (event : Event) : Extends start (step state event) := by
  rcases step_quiet state event with ⟨process, sessionId, token, now, issuedAt, login⟩ | quiet
  · rw [login]
    change Extends start (loginIssue process sessionId token now issuedAt state)
    rcases loginIssue_cases state process sessionId token now issuedAt with
      same | finished | ⟨attempt, current, _, stored, _, _, version, _, issued⟩
    · exact extended.congr (by rw [same]) (by rw [same])
    · exact extended.congr (by rw [finished]) (by rw [finished])
    · rw [issued]
      exact extended.issue (version.symm.trans (consistent.current current stored).1) rfl rfl
  · exact extended.quiet quiet

theorem run_extends {start : State environment} (consistent : Consistent start)
    (events : List Event) : Extends start (events.foldl step start) :=
  (Runs.invariant_foldl (motive := fun state => Consistent state ∧ Extends start state)
    (fun _ event holds => ⟨step_consistent holds.1 event, step_extends holds.1 holds.2 event⟩)
    ⟨consistent, Extends.refl start⟩).2

/-! ## Authentication -/

/-- Why a session may be trusted at an instant: it is stored, unrevoked and unexpired, the login
is enabled, and it was issued against the version of the credential that is current. -/
structure Trusted (state : State environment) (now : Instant) (session : NativeSession) : Prop where
  stored : session ∈ state.sessions
  notRevoked : session.revokedAt = none
  notIdle : now < session.idleExpiresAt
  notExpired : now < session.absoluteExpiresAt
  enabled : state.enabled = true
  current : exists credential, state.credential = some credential ∧
    credential.version = session.credentialVersion
  /-- The session was issued against the password enrolled last. -/
  issued : exists issue, issue ∈ state.issues ∧ issue.sessionId = session.id ∧
    issue.version = session.credentialVersion ∧ state.enrolled.getLast? = some issue.password

theorem Consistent.trusted {state : State environment} (consistent : Consistent state)
    {authorization : Option String} {now : Instant} {session : NativeSession}
    (accepted : authenticate state authorization now = some session) :
    Trusted state now session := by
  rcases authenticate_some accepted with
    ⟨stored, notRevoked, notIdle, notExpired, enabled, credential, found, version⟩
  rcases consistent.sessions session stored with ⟨issue, listed, id, issueVersion⟩
  have password := consistent.issues issue listed
  rw [issueVersion, ← version, (consistent.current credential found).1, passwordAt_length] at password
  exact
    { stored := stored, notRevoked := notRevoked, notIdle := notIdle, notExpired := notExpired,
      enabled := enabled, current := ⟨credential, found, version⟩,
      issued := ⟨issue, listed, id, issueVersion, password⟩ }

/-- Whatever the interleaving, a token authenticates only for a trusted session.
Once a further password is enrolled, no session issued before it authenticates,
and what is issued from then on is issued against the later passwords. -/
theorem authenticate_trusted (environment : Environment) (profile : Option UserProfile)
    (before after : List Event) :
    (forall authorization now session,
      authenticate ((before ++ after).foldl step (State.initial environment profile))
          authorization now = some session ->
        Trusted ((before ++ after).foldl step (State.initial environment profile)) now session ∧
        ((before.foldl step (State.initial environment profile)).enrolled.length <
            ((before ++ after).foldl step (State.initial environment profile)).enrolled.length ->
          forall issue,
            issue ∈ (before.foldl step (State.initial environment profile)).issues ->
              issue.version ≠ session.credentialVersion)) ∧
    (exists later,
      ((before ++ after).foldl step (State.initial environment profile)).issues =
        (before.foldl step (State.initial environment profile)).issues ++ later ∧
      forall issue, issue ∈ later ->
        (before.foldl step (State.initial environment profile)).enrolled.length ≤ issue.version ∧
        passwordAt ((before ++ after).foldl step (State.initial environment profile)).enrolled
          issue.version = some issue.password) := by
  have middle := run_consistent environment profile before
  have final := run_consistent environment profile (before ++ after)
  rw [List.foldl_append] at final ⊢
  generalize before.foldl step (State.initial environment profile) = start at middle final ⊢
  constructor
  · intro authorization now session accepted
    have trusted := final.trusted accepted
    refine ⟨trusted, fun rotated issue listed same => ?_⟩
    rcases trusted.current with ⟨credential, found, version⟩
    have known := middle.issues issue listed
    rw [same, ← version, (final.current credential found).1] at known
    exact absurd (passwordAt_le known) (not_le.mpr rotated)
  · rcases (run_extends middle after).issues with ⟨later, listed, versions⟩
    refine ⟨later, listed, fun issue member => ⟨versions issue member, ?_⟩⟩
    exact final.issues issue (listed ▸ List.mem_append_right _ member)

end Invariant

/-! ## A run -/

def plainHasher : PasswordHasher where
  Encoded := String
  hash := fun _ password => password
  dummy := ""
  verifies := fun encoded candidate => encoded == candidate
  verifies_hash := fun _ password candidate => by
    rw [beq_iff_eq]
    exact eq_comm

def plainEnvironment : Environment where
  hasher := plainHasher
  settings := { authIdle := 1800, authAbsolute := 43200, authTouch := 60 }
  tokenDigest := fun token => token

def firstToken : String := "AAAAAAAAAAAAAAAAAAAAAAAAAAAAAAAAAAAAAAAAAAA"

/-- A profile is enrolled and logs in. -/
def enrolAndLogIn : List Event :=
  [.enroll "alice" "correct horse battery" 0 false false 0, .loginRead 0 "alice" "correct horse battery",
    .loginVerify 0, .loginIssue 0 7 firstToken 10 10]

theorem session_accepted :
    exists session, authenticate
      ((enrolAndLogIn ++ []).foldl step
        (State.initial plainEnvironment (some { isDisabled := false })))
      (some ("Bearer " ++ firstToken)) 11 = some session := by
  exact Option.isSome_iff_exists.mp (by decide +kernel)

theorem enrolAndLogIn_trusted :
    exists session, Trusted ((enrolAndLogIn ++ []).foldl step
      (State.initial plainEnvironment (some { isDisabled := false }))) 11 session := by
  rcases session_accepted with ⟨session, accepted⟩
  exact ⟨session, ((authenticate_trusted plainEnvironment (some { isDisabled := false })
    enrolAndLogIn []).1 _ 11 session accepted).1⟩

/-- A reset falls between the verification of a second login and its last step. -/
def resetDuringLogin : List Event :=
  [.loginRead 1 "alice" "correct horse battery", .loginVerify 1,
    .enroll "alice" "staple staple staple" 0 false true 20,
    .loginIssue 1 8 "BBBBBBBBBBBBBBBBBBBBBBBBBBBBBBBBBBBBBBBBBBB" 21 21]

example :
    ((enrolAndLogIn ++ resetDuringLogin).foldl step
      (State.initial plainEnvironment (some { isDisabled := false }))).issues.map Issue.version =
        [1] := by
  decide +kernel

end Auth
end MarketIntelligence
