import MarketIntelligence.Foundations.Statements
import MarketIntelligence.Identity.Privileges
import Mathlib.Data.List.Nodup

namespace MarketIntelligence
namespace Identity

open Foundations
open Statements

/-!
# A workspace keeps an owner

A request reads the membership of its principal, the membership that it names and the
number of owners in statements of their own, and then writes and commits.  Other requests
can commit between its statements.

The guard of a role change counts the owners that it reads.  The workspace loses its last
owner exactly when a write is committed that this guard would refuse by then.
-/

/-! ## Workspaces and their rows -/

structure Workspace where
  id : Identifier
  name : String
  slug : String
  createdByUserId : Identifier
  deriving DecidableEq, Repr

structure Platform where
  workspaces : List Workspace
  directory : Directory

/-- The identifiers that `create_workspace` draws. -/
structure NewWorkspace where
  principalId : Identifier
  workspaceId : Identifier
  membershipId : Identifier
  deriving DecidableEq, Repr

/-- The name is the stripped one. -/
structure WorkspaceCreate where
  name : String
  slug : String
  deriving DecidableEq, Repr

def Directory.note (directory : Directory) (event : AuditEvent) : Directory :=
  { directory with auditEvents := directory.auditEvents ++ [event] }

/-- A row is inserted when the primary key and the unique constraint permit it. -/
def Directory.insert (directory : Directory) (row : WorkspaceMembership) : Option Directory :=
  if free : row.id ∉ directory.memberships.map WorkspaceMembership.id ∧
      (row.workspaceId, row.userId) ∉
        directory.memberships.map fun other => (other.workspaceId, other.userId) then
    some
      { memberships := directory.memberships ++ [row]
        invitations := directory.invitations
        auditEvents := directory.auditEvents
        ids_nodup := by
          rw [List.map_append, List.map_singleton, ← List.concat_eq_append]
          exact directory.ids_nodup.concat free.1
        users_nodup := by
          rw [List.map_append, List.map_singleton, ← List.concat_eq_append]
          exact directory.users_nodup.concat free.2 }
  else none

/-- What a session writes and commits, with the rows that it has loaded. -/
inductive Write where
  | createWorkspace (new : NewWorkspace) (payload : WorkspaceCreate)
  | enrol (row : WorkspaceMembership)
  | invite (invitation : WorkspaceInvitation)
  | changeRole (loaded : WorkspaceMembership) (role : Role)
  | remove (loaded : WorkspaceMembership)

/-- The rows of `create_workspace`. -/
def Platform.createWorkspace (platform : Platform) (new : NewWorkspace)
    (payload : WorkspaceCreate) : Option Platform :=
  if platform.workspaces.any fun workspace =>
      workspace.id = new.workspaceId ∨ workspace.slug = payload.slug then none
  else
    (platform.directory.insert
      { id := new.membershipId, workspaceId := new.workspaceId, userId := new.principalId,
        role := .owner }).map fun directory =>
      { workspaces := platform.workspaces ++
          [{ id := new.workspaceId, name := payload.name, slug := payload.slug,
             createdByUserId := new.principalId }]
        directory := directory.note
          { action := "workspace.created", entityType := "workspace",
            entityId := new.workspaceId } }

/-- An assignment of the role that was loaded is no change, and writes the audit event
only.  A change of a row that is gone raises `StaleDataError`; a deletion of it does not. -/
def Directory.assignRole (directory : Directory) (loaded : WorkspaceMembership) (role : Role) :
    Option Directory :=
  if role = loaded.role then
    some (directory.note
      { action := "workspace.member_role_changed", entityType := "workspace_membership",
        entityId := loaded.id })
  else if directory.memberships.any (fun row => row.id = loaded.id) then
    some (directory.changeRole loaded.id role)
  else none

def Platform.apply (write : Write) (platform : Platform) : Option Platform :=
  match write with
  | .createWorkspace new payload => platform.createWorkspace new payload
  | .enrol row =>
      (platform.directory.insert row).map fun directory => { platform with directory := directory }
  | .invite invitation =>
      some { platform with directory := platform.directory.invite invitation }
  | .changeRole loaded role =>
      (platform.directory.assignRole loaded role).map fun directory =>
        { platform with directory := directory }
  | .remove loaded => some { platform with directory := platform.directory.remove loaded.id }

/-! ## The requests, statement by statement -/

abbrev Steps := Transaction Platform Write HTTPException

/-- `_require_workspace_permission`, before the rest of a request. -/
def permitting (scope : RequestScope) (next : Steps) : Steps :=
  .query fun platform =>
    match requireWorkspacePermission platform.directory scope.workspaceId scope.principalId
        "members.manage" with
    | .error refusal => .raise refusal
    | .ok _ => next

def createInvitationSteps (scope : RequestScope) (role : InvitedRole) : Steps :=
  permitting scope
    (.commit (.invite
      { id := scope.newId, workspaceId := scope.workspaceId, role := role,
        invitedByUserId := scope.principalId, expiresAt := scope.now + invitationLifetime }))

def updateMemberSteps (scope : RequestScope) (memberId : Identifier) (role : Role) : Steps :=
  permitting scope
    (.query fun platform =>
      match findMember platform.directory scope.workspaceId memberId with
      | none => .raise { statusCode := 404, detail := "Member was not found" }
      | some membership =>
          if membership.role = .owner ∧ role ≠ .owner then
            .query fun platform =>
              if ownerCount platform.directory scope.workspaceId = 1 then
                .raise { statusCode := 409, detail := "A workspace must retain an owner" }
              else .commit (.changeRole membership role)
          else .commit (.changeRole membership role))

def deleteMemberSteps (scope : RequestScope) (memberId : Identifier) : Steps :=
  permitting scope
    (.query fun platform =>
      match findMember platform.directory scope.workspaceId memberId with
      | none => .raise { statusCode := 404, detail := "Member was not found" }
      | some membership =>
          if membership.role = .owner then
            .raise { statusCode := 409, detail := "Owners must transfer ownership first" }
          else .commit (.remove membership))

/-- What is done to the members: the requests, and the insertion of a membership by the
scripts, which is the only way into a workspace besides creating it. -/
inductive Activity where
  | createWorkspace (new : NewWorkspace) (payload : WorkspaceCreate)
  | enrol (row : WorkspaceMembership)
  | request (scope : RequestScope) (body : Request)

def steps : Activity -> Steps
  | .createWorkspace new payload => .commit (.createWorkspace new payload)
  | .enrol row => .commit (.enrol row)
  | .request scope (.createInvitation role) => createInvitationSteps scope role
  | .request scope (.updateMember memberId role) => updateMemberSteps scope memberId role
  | .request scope (.deleteMember memberId) => deleteMemberSteps scope memberId

/-- Any number of sessions, whose statements are executed in any order. -/
def interleave : Server Platform Write HTTPException -> Action Activity ->
    Server Platform Write HTTPException :=
  step Platform.apply steps

/-! ## The last owner -/

/-- Some membership of the workspace has the role of an owner, as the committed rows have
it.  Whether its user may sign in does not matter. -/
def HasOwner (workspaceId : Identifier) (platform : Platform) : Prop :=
  exists row, row ∈ platform.directory.memberships ∧ row.workspaceId = workspaceId ∧
    row.role = .owner

instance (workspaceId : Identifier) (platform : Platform) :
    Decidable (HasOwner workspaceId platform) :=
  inferInstanceAs (Decidable (exists row, row ∈ platform.directory.memberships ∧
    row.workspaceId = workspaceId ∧ row.role = .owner))

/-- The row is an owner of a workspace that has exactly one. -/
def LastOwner (workspaceId memberId : Identifier) (platform : Platform) : Prop :=
  (exists row, row ∈ platform.directory.memberships ∧ row.id = memberId ∧
    row.workspaceId = workspaceId ∧ row.role = .owner) ∧
  ownerCount platform.directory workspaceId = 1

/-- The write takes the role from the last owner, or deletes it. -/
def TakesLastOwner (workspaceId : Identifier) (platform : Platform) : Write -> Prop
  | .changeRole loaded role =>
      role ≠ loaded.role ∧ role ≠ .owner ∧ LastOwner workspaceId loaded.id platform
  | .remove loaded => LastOwner workspaceId loaded.id platform
  | _ => False

/-- A session commits a write that its own guard would refuse by then, because of what other
sessions have committed since it looked. -/
def Overtaken (workspaceId : Identifier) (server : Server Platform Write HTTPException)
    (action : Action Activity) : Prop :=
  exists write, server.commits action = some write ∧
    TakesLastOwner workspaceId server.committed write

section LastOwner

variable {workspaceId memberId : Identifier} {platform : Platform}

theorem ownerCount_eq (directory : Directory) (workspaceId : Identifier) :
    ownerCount directory workspaceId =
      (directory.memberships.filter fun row =>
        row.workspaceId = workspaceId ∧ row.role = .owner).length :=
  rfl

theorem mem_ownersOf {directory : Directory} {row : WorkspaceMembership} :
    (row ∈ directory.memberships.filter fun row =>
        row.workspaceId = workspaceId ∧ row.role = .owner) <->
      row ∈ directory.memberships ∧ row.workspaceId = workspaceId ∧ row.role = .owner := by
  rw [List.mem_filter, decide_eq_true_eq]

/-- The workspace has an owner besides the row. -/
def OtherOwner (workspaceId memberId : Identifier) (platform : Platform) : Prop :=
  exists row, row ∈ platform.directory.memberships ∧ row.id ≠ memberId ∧
    row.workspaceId = workspaceId ∧ row.role = .owner

theorem LastOwner.only (last : LastOwner workspaceId memberId platform) :
    ¬ OtherOwner workspaceId memberId platform := by
  rintro ⟨other, known, different, here, owner⟩
  rcases last with ⟨⟨row, member, same, rowHere, rowOwner⟩, single⟩
  rw [ownerCount_eq] at single
  rcases List.length_eq_one_iff.mp single with ⟨only, listed⟩
  have otherOnly : other = only :=
    List.mem_singleton.mp (listed ▸ mem_ownersOf.mpr ⟨known, here, owner⟩)
  have rowOnly : row = only :=
    List.mem_singleton.mp (listed ▸ mem_ownersOf.mpr ⟨member, rowHere, rowOwner⟩)
  exact different (by rw [otherOnly, ← rowOnly, same])

/-- Where every owner is one row, the owners are counted once. -/
theorem ownerCount_eq_one {row : WorkspaceMembership}
    (member : row ∈ platform.directory.memberships) (here : row.workspaceId = workspaceId)
    (owner : row.role = .owner) (lonely : ¬ OtherOwner workspaceId row.id platform) :
    ownerCount platform.directory workspaceId = 1 := by
  have same : forall other, (other ∈ platform.directory.memberships.filter fun row =>
      row.workspaceId = workspaceId ∧ row.role = .owner) -> other = row := by
    intro other listed
    rcases mem_ownersOf.mp listed with ⟨known, otherHere, otherOwner⟩
    by_cases equal : other.id = row.id
    · exact eq_of_id_eq known member equal
    · exact absurd ⟨other, known, equal, otherHere, otherOwner⟩ lonely
  have distinct : (platform.directory.memberships.filter fun row =>
      row.workspaceId = workspaceId ∧ row.role = .owner).Nodup :=
    (List.Nodup.of_map _ platform.directory.ids_nodup).filter _
  have nonempty : row ∈ platform.directory.memberships.filter fun row =>
      row.workspaceId = workspaceId ∧ row.role = .owner :=
    mem_ownersOf.mpr ⟨member, here, owner⟩
  rw [ownerCount_eq]
  rw [List.eq_replicate_of_mem same, List.nodup_replicate] at distinct
  have positive := List.length_pos_of_mem nonempty
  omega

/-- A workspace with an owner has one besides the row exactly when the row is not its
last owner. -/
theorem otherOwner_iff (holds : HasOwner workspaceId platform) :
    OtherOwner workspaceId memberId platform <-> ¬ LastOwner workspaceId memberId platform := by
  constructor
  · intro other last
    exact last.only other
  · intro more
    by_contra lonely
    rcases holds with ⟨row, member, here, owner⟩
    by_cases same : row.id = memberId
    · subst same
      exact more ⟨⟨row, member, rfl, here, owner⟩, ownerCount_eq_one member here owner lonely⟩
    · exact lonely ⟨row, member, same, here, owner⟩

theorem hasOwner_remove :
    HasOwner workspaceId { platform with directory := platform.directory.remove memberId } <->
      OtherOwner workspaceId memberId platform := by
  constructor
  · rintro ⟨row, member, here, owner⟩
    rcases List.mem_filter.mp member with ⟨known, different⟩
    exact ⟨row, known, of_decide_eq_true different, here, owner⟩
  · rintro ⟨row, known, different, here, owner⟩
    exact ⟨row, List.mem_filter.mpr ⟨known, decide_eq_true different⟩, here, owner⟩

theorem hasOwner_demote {role : Role} (other : role ≠ .owner) :
    HasOwner workspaceId
        { platform with directory := platform.directory.changeRole memberId role } <->
      OtherOwner workspaceId memberId platform := by
  constructor
  · rintro ⟨row, member, here, owner⟩
    rcases List.mem_map.mp member with ⟨before, known, changed⟩
    subst changed
    by_cases same : before.id = memberId
    · simp only [setRole, if_pos same] at owner
      exact absurd owner other
    · simp only [setRole, if_neg same] at here owner
      exact ⟨before, known, same, here, owner⟩
  · rintro ⟨row, known, different, here, owner⟩
    refine ⟨row, List.mem_map.mpr ⟨row, known, ?_⟩, here, owner⟩
    simp only [setRole, if_neg different]

theorem hasOwner_promote (holds : HasOwner workspaceId platform) :
    HasOwner workspaceId
      { platform with directory := platform.directory.changeRole memberId .owner } := by
  rcases holds with ⟨row, known, here, owner⟩
  refine ⟨setRole memberId .owner row, List.mem_map_of_mem known, ?_, ?_⟩
  · simp only [setRole]
    split <;> exact here
  · simp only [setRole]
    split
    · rfl
    · exact owner

theorem hasOwner_insert {row : WorkspaceMembership} {directory : Directory}
    (inserted : platform.directory.insert row = some directory)
    (holds : HasOwner workspaceId platform) {workspaces : List Workspace} :
    HasOwner workspaceId ⟨workspaces, directory⟩ := by
  rcases holds with ⟨known, member, here, owner⟩
  simp only [Directory.insert] at inserted
  split at inserted
  · cases inserted
    exact ⟨known, List.mem_append_left _ member, here, owner⟩
  · cases inserted

end LastOwner

/-! ## One commit -/

section Commits

variable {workspaceId : Identifier} {platform next : Platform}

theorem createWorkspace_insert {new : NewWorkspace} {payload : WorkspaceCreate}
    (created : platform.createWorkspace new payload = some next) :
    exists directory, platform.directory.insert
        { id := new.membershipId, workspaceId := new.workspaceId, userId := new.principalId,
          role := .owner } = some directory ∧
      next.directory.memberships = directory.memberships := by
  simp only [Platform.createWorkspace] at created
  split at created
  · cases created
  · rcases Option.map_eq_some_iff.mp created with ⟨directory, inserted, same⟩
    exact ⟨directory, inserted, same ▸ rfl⟩

/-- A new workspace is owned by who makes it. -/
theorem createWorkspace_hasOwner {new : NewWorkspace} {payload : WorkspaceCreate}
    (created : platform.createWorkspace new payload = some next) :
    HasOwner new.workspaceId next := by
  rcases createWorkspace_insert created with ⟨directory, inserted, same⟩
  simp only [Directory.insert] at inserted
  split at inserted
  · cases inserted
    refine ⟨{ id := new.membershipId, workspaceId := new.workspaceId, userId := new.principalId,
              role := .owner }, ?_, rfl, rfl⟩
    rw [same]
    exact List.mem_append_right _ (List.mem_singleton_self _)
  · cases inserted

/-- A commit keeps an owner in the workspace exactly when it does not take the last. -/
theorem hasOwner_committing_iff (platform : Platform) (write : Write)
    (holds : HasOwner workspaceId platform) :
    HasOwner workspaceId (committing Platform.apply write platform) <->
      ¬ TakesLastOwner workspaceId platform write := by
  cases write with
  | createWorkspace new payload =>
      refine iff_of_true ?_ (fun takes => takes)
      simp only [committing, Platform.apply]
      cases created : platform.createWorkspace new payload with
      | none => exact holds
      | some next =>
          rcases createWorkspace_insert created with ⟨directory, inserted, same⟩
          have inserts : HasOwner workspaceId ⟨[], directory⟩ := hasOwner_insert inserted holds
          rcases inserts with ⟨row, member, owned⟩
          exact ⟨row, same ▸ member, owned⟩
  | enrol row =>
      refine iff_of_true ?_ (fun takes => takes)
      simp only [committing, Platform.apply]
      cases inserted : platform.directory.insert row with
      | none => exact holds
      | some directory => exact hasOwner_insert inserted holds
  | invite invitation => exact iff_of_true holds (fun takes => takes)
  | remove loaded =>
      have removed : committing Platform.apply (.remove loaded) platform =
          { platform with directory := platform.directory.remove loaded.id } :=
        rfl
      rw [removed, hasOwner_remove, otherOwner_iff holds]
      rfl
  | changeRole loaded role =>
      simp only [committing, Platform.apply, Directory.assignRole, TakesLastOwner]
      by_cases unchanged : role = loaded.role
      · rw [if_pos unchanged]
        exact iff_of_true holds (fun takes => takes.1 unchanged)
      · rw [if_neg unchanged]
        by_cases present : platform.directory.memberships.any (fun row => row.id = loaded.id)
        · rw [if_pos present]
          by_cases promoted : role = .owner
          · subst promoted
            exact iff_of_true (hasOwner_promote holds) (fun takes => takes.2.1 rfl)
          · simp only [Option.map_some, Option.getD_some]
            rw [hasOwner_demote promoted, otherOwner_iff holds]
            constructor
            · exact fun more takes => more takes.2.2
            · exact fun allowed last => allowed ⟨unchanged, promoted, last⟩
        · rw [if_neg present]
          refine iff_of_true holds (fun takes => present ?_)
          rcases takes.2.2.1 with ⟨row, member, same, _⟩
          exact List.any_eq_true.mpr ⟨row, member, decide_eq_true same⟩

end Commits

/-! ## Every interleaving -/

section Interleavings

variable {workspaceId : Identifier} {platform next : Platform}

/-- A workspace that has been created keeps an owner through the commits of any sessions
exactly when none of them is overtaken. -/
theorem hasOwner_states_iff {new : NewWorkspace} {payload : WorkspaceCreate}
    (created : platform.apply (.createWorkspace new payload) = some next)
    (opened : List (Opened Platform Write HTTPException)) (actions : List (Action Activity)) :
    (forall visited, visited ∈ Runs.states interleave ⟨next, opened⟩ actions ->
      HasOwner new.workspaceId visited.committed) <->
      Runs.Along interleave (fun server action => ¬ Overtaken new.workspaceId server action)
        ⟨next, opened⟩ actions := by
  have decided : (forall visited, visited ∈ Runs.states interleave ⟨next, opened⟩ actions ->
      HasOwner new.workspaceId visited.committed) <->
      Runs.Along interleave (fun server action => forall write,
        server.commits action = some write ->
          ¬ TakesLastOwner new.workspaceId server.committed write) ⟨next, opened⟩ actions :=
    committed_states_iff (fun state write holds => hasOwner_committing_iff state write holds)
      (createWorkspace_hasOwner created)
  refine decided.trans ?_
  have same : (fun (server : Server Platform Write HTTPException) (action : Action Activity) =>
      forall write, server.commits action = some write ->
        ¬ TakesLastOwner new.workspaceId server.committed write) =
      fun server action => ¬ Overtaken new.workspaceId server action := by
    funext server action
    exact propext ⟨fun spared ⟨write, commits, takes⟩ => spared write commits takes,
      fun spared write commits takes => spared ⟨write, commits, takes⟩⟩
  rw [same]

end Interleavings

/-! ## Two owners step down -/

def emptyPlatform : Platform where
  workspaces := []
  directory :=
    { memberships := [], invitations := [], auditEvents := [],
      ids_nodup := by decide, users_nodup := by decide }

def newWorkspace : NewWorkspace := { principalId := 10, workspaceId := 0, membershipId := 1 }

def newPayload : WorkspaceCreate := { name := "Research", slug := "research" }

/-- A second member is enrolled, and the owner makes it an owner as well. -/
def sharing : List (Action Activity) :=
  [.begins 0 (.enrol { id := 2, workspaceId := 0, userId := 20, role := .member }), .advance 0,
   .begins 0 (.request { workspaceId := 0, principalId := 10, newId := 0, now := 0 }
     (.updateMember 2 .owner)),
   .advance 0, .advance 0, .advance 0]

/-- Each owner gives up the role in a session of its own. -/
def steppingDown : List (Action Activity) :=
  [.begins 1 (.request { workspaceId := 0, principalId := 10, newId := 0, now := 0 }
     (.updateMember 1 .admin)),
   .begins 2 (.request { workspaceId := 0, principalId := 20, newId := 0, now := 0 }
     (.updateMember 2 .admin))]

def createdPlatform : Platform :=
  { workspaces := [{ id := 0, name := "Research", slug := "research", createdByUserId := 10 }]
    directory :=
      { memberships := [{ id := 1, workspaceId := 0, userId := 10, role := .owner }]
        invitations := []
        auditEvents := [{ action := "workspace.created", entityType := "workspace", entityId := 0 }]
        ids_nodup := by decide
        users_nodup := by decide } }

theorem emptyPlatform_creates :
    emptyPlatform.apply (.createWorkspace newWorkspace newPayload) = some createdPlatform :=
  rfl

def sequentially : List (Action Activity) :=
  sharing ++ steppingDown ++ [.advance 1, .advance 1, .advance 1, .advance 1,
    .advance 2, .advance 2, .advance 2]

/-- One session after the other, the second owner is refused, and no commit is overtaken. -/
theorem steppingDown_sequential :
    (sequentially.foldl interleave ⟨createdPlatform, []⟩).committed.directory.memberships.map
        (·.role) = [.admin, .owner] ∧
      Runs.Along interleave (fun server action => ¬ Overtaken 0 server action)
        ⟨createdPlatform, []⟩ sequentially := by
  have kept : forall visited, visited ∈ Runs.states interleave ⟨createdPlatform, []⟩
      sequentially -> HasOwner 0 visited.committed := by
    decide +kernel
  exact ⟨by decide +kernel, (hasOwner_states_iff emptyPlatform_creates [] sequentially).mp kept⟩

/-- Both count two owners before either commits, and the workspace is left without one. -/
theorem steppingDown_ownerless :
    emptyPlatform.apply (.createWorkspace newWorkspace newPayload) = some createdPlatform ∧
      ¬ forall visited, visited ∈ Runs.states interleave ⟨createdPlatform, []⟩
          (sharing ++ steppingDown ++ [.advance 1, .advance 2, .advance 1, .advance 2,
            .advance 1, .advance 2, .advance 1, .advance 2]) ->
        HasOwner 0 visited.committed := by
  refine ⟨rfl, fun kept => ?_⟩
  rcases kept _ (Runs.foldl_mem_states _ _) with ⟨row, member, _, owner⟩
  have roles : row.role ∈ [Role.admin, Role.admin] := List.mem_map_of_mem (f := (·.role)) member
  rw [owner] at roles
  exact absurd roles (by decide)

end Identity
end MarketIntelligence
