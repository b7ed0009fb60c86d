import MarketIntelligence.Core.Values
import Mathlib.Data.List.Sort
import Mathlib.Logic.Function.Basic

namespace MarketIntelligence
namespace Auth

/-!
# Local credentials and opaque sessions

The rows are those of one profile.  A call that spans several transactions is a
process with one step for each of them, and the steps of any number of calls may
interleave.  The final transaction of a login, of an enrolment and of a password
change holds the lock of the profile row, so each of them is one step.

Hashing and verification touch no row.  The rate limiter has rows of its own and
can only end a call, which is the step that drops a process.  The instant a
transaction reads from the clock is part of its label.

The passwords enrolled so far and the sessions issued so far are recorded beside
the rows.  No transition reads them.
-/

/-! ## The environment -/

/-- The password hasher.  Verification accepts exactly the enrolled password. -/
structure PasswordHasher where
  Encoded : Type
  hash : Nat -> String -> Encoded
  dummy : Encoded
  verifies : Encoded -> String -> Bool
  verifies_hash : forall salt password candidate,
    verifies (hash salt password) candidate = true <-> candidate = password

/-- The session durations, in microseconds. -/
structure Settings where
  authIdle : Int
  authAbsolute : Int
  authTouch : Int

structure Environment where
  hasher : PasswordHasher
  settings : Settings
  tokenDigest : String -> String

/-! ## Rows -/

structure UserProfile where
  isDisabled : Bool
  deriving DecidableEq, Repr

structure NativeCredential (hasher : PasswordHasher) where
  login : String
  passwordHash : hasher.Encoded
  version : Nat

structure NativeSession where
  id : Identifier
  tokenDigest : String
  credentialVersion : Nat
  issuedAt : Instant
  lastSeenAt : Instant
  idleExpiresAt : Instant
  absoluteExpiresAt : Instant
  revokedAt : Option Instant
  deriving DecidableEq, Repr

/-- A login after its first transaction: the credential it has read, and the answer of the hasher
once it has been asked. -/
structure LoginAttempt (hasher : PasswordHasher) where
  password : String
  encoded : hasher.Encoded
  version : Nat
  userKnown : Bool
  valid : Option Bool

/-- A password change after its first transaction. -/
structure ChangeAttempt (hasher : PasswordHasher) where
  sessionId : Identifier
  currentPassword : String
  newPassword : String
  encoded : hasher.Encoded
  version : Nat
  replacement : Option hasher.Encoded

/-- An authenticated request that still has to refresh its session. -/
structure Refresh where
  active : NativeSession
  now : Instant
  deriving DecidableEq, Repr

/-- A session handed out, with the password its login had verified.  No table keeps the password;
it is here for the statements about what a change of password revokes. -/
structure Issue where
  sessionId : Identifier
  version : Nat
  password : String
  deriving DecidableEq, Repr

structure State (environment : Environment) where
  profile : Option UserProfile
  credential : Option (NativeCredential environment.hasher)
  sessions : List NativeSession
  logins : Nat -> Option (LoginAttempt environment.hasher)
  changes : Nat -> Option (ChangeAttempt environment.hasher)
  refreshes : Nat -> Option Refresh
  /-- The password of version `n + 1` stands at position `n`. -/
  enrolled : List String
  issues : List Issue

def State.initial (environment : Environment) (profile : Option UserProfile) :
    State environment where
  profile := profile
  credential := none
  sessions := []
  logins := fun _ => none
  changes := fun _ => none
  refreshes := fun _ => none
  enrolled := []
  issues := []

section Transitions

variable {environment : Environment}

def State.enabled (state : State environment) : Bool :=
  match state.profile with
  | none => false
  | some profile => !profile.isDisabled

/-- `revoked_at` of every session that is not revoked yet. -/
def revokeAll (now : Instant) (sessions : List NativeSession) : List NativeSession :=
  sessions.map fun session =>
    if session.revokedAt = none then { session with revokedAt := some now } else session

def validatePassword (password : String) : Bool :=
  15 ≤ password.length && password.length ≤ 128

/-! ## Enrolment -/

/-- The final transaction of `enroll`.  The identifier is normalized, and
`collision` says that another profile has it. -/
def enroll (login password : String) (salt : Nat) (collision reset : Bool) (now : Instant)
    (state : State environment) : State environment :=
  if validatePassword password = false ∨ state.enabled = false ∨ collision = true then state
  else
    let encoded := environment.hasher.hash salt password
    match state.credential, reset with
    | some _, false => state
    | none, true => state
    | none, false =>
        { state with
          credential := some { login := login, passwordHash := encoded, version := 1 }
          enrolled := state.enrolled ++ [password] }
    | some credential, true =>
        { state with
          credential := some
            { login := login, passwordHash := encoded, version := credential.version + 1 }
          sessions := revokeAll now state.sessions
          enrolled := state.enrolled ++ [password] }

/-! ## Login -/

def loginRead (process : Nat) (identifier password : String) (state : State environment) :
    State environment :=
  let absent : LoginAttempt environment.hasher :=
    { password := password, encoded := environment.hasher.dummy, version := 0,
      userKnown := false, valid := none }
  let attempt := match state.credential with
    | none => absent
    | some credential =>
        if credential.login = identifier then
          { password := password, encoded := credential.passwordHash,
            version := credential.version, userKnown := true, valid := none }
        else absent
  { state with logins := Function.update state.logins process (some attempt) }

def loginVerify (process : Nat) (state : State environment) : State environment :=
  match state.logins process with
  | none => state
  | some attempt =>
      let valid := environment.hasher.verifies attempt.encoded attempt.password
      { state with
        logins := Function.update state.logins process (some { attempt with valid := some valid }) }

/-- The sessions left after the expired ones and all but the nine latest are deleted. -/
def keptSessions (now : Instant) (sessions : List NativeSession) : List NativeSession :=
  let alive := sessions.filter fun session => now < session.absoluteExpiresAt
  let existing := alive.insertionSort fun first second => second.issuedAt ≤ first.issuedAt
  alive.filter fun session => session.id ∉ (existing.drop 9).map NativeSession.id

def newSession (environment : Environment) (sessionId : Identifier) (token : String)
    (version : Nat) (now issuedAt : Instant) : NativeSession where
  id := sessionId
  tokenDigest := environment.tokenDigest token
  credentialVersion := version
  issuedAt := issuedAt
  lastSeenAt := now
  idleExpiresAt := now + environment.settings.authIdle
  absoluteExpiresAt := now + environment.settings.authAbsolute
  revokedAt := none

/-- The final transaction of `login`.  It fails on a key that is taken.  `issuedAt` is the
default of its column, which is read from the clock when the row is written. -/
def loginIssue (process : Nat) (sessionId : Identifier) (token : String) (now issuedAt : Instant)
    (state : State environment) : State environment :=
  match state.logins process with
  | none => state
  | some attempt =>
      let finished := { state with logins := Function.update state.logins process none }
      match attempt.valid, state.credential with
      | some true, some current =>
          let session := newSession environment sessionId token attempt.version now issuedAt
          let alive := state.sessions.filter fun session => now < session.absoluteExpiresAt
          if attempt.userKnown = false ∨ state.enabled = false ∨
              current.version ≠ attempt.version then finished
          else if alive.any fun other =>
              other.id = session.id || other.tokenDigest = session.tokenDigest then finished
          else
            { finished with
              sessions := keptSessions now state.sessions ++ [session]
              issues := state.issues ++
                [{ sessionId := sessionId, version := attempt.version,
                   password := attempt.password }] }
      | none, _ => state
      | some _, _ => finished

/-! ## Requests with a token -/

/-- The pattern `[A-Za-z0-9_-]{43}`. -/
def tokenMatches (token : String) : Bool :=
  token.length = 43 && token.toList.all fun letter =>
    letter.isAlphanum || letter = '_' || letter = '-'

/-- The token of the header `Bearer token`. -/
def bearerToken (authorization : Option String) : Option String :=
  let letters := (authorization.getD "").toList
  let scheme := String.ofList (letters.takeWhile fun letter => letter ≠ ' ')
  let token := String.ofList ((letters.dropWhile fun letter => letter ≠ ' ').drop 1)
  if scheme.toLower = "bearer" && tokenMatches token then some token else none

/-- The decision of `authenticate`.  The failure is `Invalid or expired session`. -/
def authenticate (state : State environment) (authorization : Option String) (now : Instant) :
    Option NativeSession :=
  match bearerToken authorization, state.credential with
  | some token, some credential =>
      match state.sessions.find? fun session =>
          session.tokenDigest = environment.tokenDigest token with
      | none => none
      | some active =>
          if active.revokedAt ≠ none ∨ active.idleExpiresAt ≤ now ∨
              active.absoluteExpiresAt ≤ now ∨
              credential.version ≠ active.credentialVersion ∨ state.enabled = false then none
          else some active
  | _, _ => none

/-- The rows are read; the update of a session seen long ago comes later. -/
def authenticateRead (process : Nat) (authorization : Option String) (now : Instant)
    (state : State environment) : State environment :=
  match authenticate state authorization now with
  | none => state
  | some active =>
      if active.lastSeenAt ≤ now - environment.settings.authTouch then
        { state with
          refreshes := Function.update state.refreshes process
            (some { active := active, now := now }) }
      else state

/-- Only the row that was read, still unrevoked, is refreshed. -/
def touch (environment : Environment) (refresh : Refresh) (session : NativeSession) :
    NativeSession :=
  if session.id = refresh.active.id ∧ session.lastSeenAt = refresh.active.lastSeenAt ∧
      session.revokedAt = none ∧ refresh.now < session.idleExpiresAt then
    { session with
      lastSeenAt := refresh.now
      idleExpiresAt := min (refresh.now + environment.settings.authIdle)
        refresh.active.absoluteExpiresAt }
  else session

def authenticateTouch (process : Nat) (state : State environment) : State environment :=
  match state.refreshes process with
  | none => state
  | some refresh =>
      { state with
        sessions := state.sessions.map (touch environment refresh)
        refreshes := Function.update state.refreshes process none }

def logout (sessionId : Identifier) (now : Instant) (state : State environment) :
    State environment :=
  { state with
    sessions := state.sessions.map fun session =>
      if session.id = sessionId then { session with revokedAt := some now } else session }

/-! ## Changing the password -/

def changeRead (process : Nat) (sessionId : Identifier) (currentPassword newPassword : String)
    (state : State environment) : State environment :=
  match state.credential with
  | none => state
  | some credential =>
      if validatePassword newPassword = false then state
      else
        let attempt : ChangeAttempt environment.hasher :=
          { sessionId := sessionId, currentPassword := currentPassword,
            newPassword := newPassword, encoded := credential.passwordHash,
            version := credential.version, replacement := none }
        { state with changes := Function.update state.changes process (some attempt) }

/-- Verify the current password and hash the new one. -/
def changeVerify (process : Nat) (salt : Nat) (state : State environment) : State environment :=
  match state.changes process with
  | none => state
  | some attempt =>
      let next : Option (ChangeAttempt environment.hasher) :=
        if environment.hasher.verifies attempt.encoded attempt.currentPassword then
          some { attempt with
            replacement := some (environment.hasher.hash salt attempt.newPassword) }
        else none
      { state with changes := Function.update state.changes process next }

/-- The session a password change was asked for on is still good. -/
def NativeSession.current (version : Nat) (now : Instant) (session : NativeSession) : Bool :=
  decide (session.revokedAt = none) && decide (session.credentialVersion = version) &&
    decide (now < session.idleExpiresAt) && decide (now < session.absoluteExpiresAt)

/-- The final transaction of `change_password`. -/
def changeCommit (process : Nat) (now : Instant) (state : State environment) :
    State environment :=
  match state.changes process with
  | none => state
  | some attempt =>
      let finished := { state with changes := Function.update state.changes process none }
      let active := state.sessions.find? fun session => session.id = attempt.sessionId
      match attempt.replacement, state.credential, active with
      | none, _, _ => state
      | some replacement, some credential, some session =>
          if state.enabled = false ∨ credential.version ≠ attempt.version ∨
              session.current attempt.version now = false then finished
          else
            { finished with
              credential := some
                { credential with
                  passwordHash := replacement, version := credential.version + 1 }
              sessions := revokeAll now state.sessions
              enrolled := state.enrolled ++ [attempt.newPassword] }
      | some _, _, _ => finished

/-! ## The interleaved system -/

inductive Event where
  | enroll (login password : String) (salt : Nat) (collision reset : Bool) (now : Instant)
  | loginRead (process : Nat) (identifier password : String)
  | loginVerify (process : Nat)
  | loginIssue (process : Nat) (sessionId : Identifier) (token : String) (now issuedAt : Instant)
  | loginDrop (process : Nat)
  | authenticateRead (process : Nat) (authorization : Option String) (now : Instant)
  | authenticateTouch (process : Nat)
  | logout (sessionId : Identifier) (now : Instant)
  | changeRead (process : Nat) (sessionId : Identifier) (currentPassword newPassword : String)
  | changeVerify (process : Nat) (salt : Nat)
  | changeCommit (process : Nat) (now : Instant)
  | changeDrop (process : Nat)
  | setDisabled (flag : Bool)

def step (state : State environment) : Event -> State environment
  | .enroll login password salt collision reset now =>
      enroll login password salt collision reset now state
  | .loginRead process identifier password => loginRead process identifier password state
  | .loginVerify process => loginVerify process state
  | .loginIssue process sessionId token now issuedAt =>
      loginIssue process sessionId token now issuedAt state
  | .loginDrop process => { state with logins := Function.update state.logins process none }
  | .authenticateRead process authorization now =>
      authenticateRead process authorization now state
  | .authenticateTouch process => authenticateTouch process state
  | .logout sessionId now => logout sessionId now state
  | .changeRead process sessionId currentPassword newPassword =>
      changeRead process sessionId currentPassword newPassword state
  | .changeVerify process salt => changeVerify process salt state
  | .changeCommit process now => changeCommit process now state
  | .changeDrop process => { state with changes := Function.update state.changes process none }
  | .setDisabled flag =>
      { state with profile := state.profile.map fun profile => { profile with isDisabled := flag } }

end Transitions

end Auth
end MarketIntelligence
