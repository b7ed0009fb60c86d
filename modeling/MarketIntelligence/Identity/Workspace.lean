import MarketIntelligence.Identity.Authorization
import Mathlib.Data.List.Nodup

namespace MarketIntelligence
namespace Identity

/-!
# Members, invitations and the requests that change them

The stored rows are one value whose keys are distinct, as the primary key and
the unique constraint of the memberships require.  A request either raises, and
then nothing is committed, or returns its response with the rows it committed.

Addresses and token digests are left out: nothing reads them back.
-/

/-! ## Rows -/

structure WorkspaceMembership where
  id : Identifier
  workspaceId : Identifier
  userId : Identifier
  role : Role
  deriving DecidableEq, Repr

/-- The roles an invitation can carry. -/
inductive InvitedRole where
  | admin
  | member
  | viewer
  deriving DecidableEq, Repr

structure WorkspaceInvitation where
  id : Identifier
  workspaceId : Identifier
  role : InvitedRole
  invitedByUserId : Identifier
  expiresAt : Instant
  deriving DecidableEq, Repr

structure AuditEvent where
  action : String
  entityType : String
  entityId : Identifier
  deriving DecidableEq, Repr

structure Directory where
  memberships : List WorkspaceMembership
  invitations : List WorkspaceInvitation
  auditEvents : List AuditEvent
  ids_nodup : (memberships.map WorkspaceMembership.id).Nodup
  users_nodup : (memberships.map fun row => (row.workspaceId, row.userId)).Nodup

structure HTTPException where
  statusCode : Nat
  detail : String
  deriving DecidableEq, Repr

/-! ## Writes -/

def setRole (memberId : Identifier) (role : Role) (row : WorkspaceMembership) :
    WorkspaceMembership :=
  if row.id = memberId then { row with role := role } else row

theorem setRole_id (memberId : Identifier) (role : Role) (row : WorkspaceMembership) :
    (setRole memberId role row).id = row.id := by
  unfold setRole
  split <;> rfl

theorem setRole_user (memberId : Identifier) (role : Role) (row : WorkspaceMembership) :
    ((setRole memberId role row).workspaceId, (setRole memberId role row).userId) =
      (row.workspaceId, row.userId) := by
  unfold setRole
  split <;> rfl

def Directory.changeRole (directory : Directory) (memberId : Identifier) (role : Role) :
    Directory where
  memberships := directory.memberships.map (setRole memberId role)
  invitations := directory.invitations
  auditEvents := directory.auditEvents ++
    [{ action := "workspace.member_role_changed", entityType := "workspace_membership",
       entityId := memberId }]
  ids_nodup := by
    rw [List.map_map]
    exact (List.map_congr_left fun row _ => setRole_id memberId role row) ▸ directory.ids_nodup
  users_nodup := by
    rw [List.map_map]
    exact (List.map_congr_left fun row _ => setRole_user memberId role row) ▸ directory.users_nodup

def Directory.remove (directory : Directory) (memberId : Identifier) : Directory where
  memberships := directory.memberships.filter fun row => row.id ≠ memberId
  invitations := directory.invitations
  auditEvents := directory.auditEvents ++
    [{ action := "workspace.member_removed", entityType := "workspace_membership",
       entityId := memberId }]
  ids_nodup := directory.ids_nodup.sublist (List.filter_sublist.map _)
  users_nodup := directory.users_nodup.sublist (List.filter_sublist.map _)

def Directory.invite (directory : Directory) (invitation : WorkspaceInvitation) : Directory where
  memberships := directory.memberships
  invitations := directory.invitations ++ [invitation]
  auditEvents := directory.auditEvents ++
    [{ action := "workspace.invitation_created", entityType := "workspace_invitation",
       entityId := invitation.id }]
  ids_nodup := directory.ids_nodup
  users_nodup := directory.users_nodup

/-! ## Requests -/

/-- `_membership`. -/
def findMembership (directory : Directory) (workspaceId userId : Identifier) :
    Except HTTPException WorkspaceMembership :=
  match directory.memberships.find? fun row =>
      row.workspaceId = workspaceId ∧ row.userId = userId with
  | none => .error { statusCode := 404, detail := "Workspace was not found" }
  | some membership => .ok membership

/-- `_require_workspace_permission`. -/
def requireWorkspacePermission (directory : Directory) (workspaceId userId : Identifier)
    (permission : String) : Except HTTPException WorkspaceContext := do
  let membership ← findMembership directory workspaceId userId
  let context : WorkspaceContext :=
    { workspaceId := workspaceId, userId := userId, role := membership.role }
  if context.allows permission then return context
  else throw { statusCode := 403, detail := "Permission denied" }

/-- The membership a request names, looked up inside the workspace. -/
def findMember (directory : Directory) (workspaceId memberId : Identifier) :
    Option WorkspaceMembership :=
  directory.memberships.find? fun row => row.id = memberId ∧ row.workspaceId = workspaceId

def ownerCount (directory : Directory) (workspaceId : Identifier) : Nat :=
  (directory.memberships.filter fun row =>
    row.workspaceId = workspaceId ∧ row.role = .owner).length

/-- A request with the values the server draws for it. -/
structure RequestScope where
  workspaceId : Identifier
  principalId : Identifier
  newId : Identifier
  now : Instant

/-- `timedelta(days=7)`. -/
def invitationLifetime : Int := 7 * 24 * 60 * 60 * 1000000

structure InvitationResponse where
  id : Identifier
  role : InvitedRole
  deriving DecidableEq, Repr

def createInvitation (directory : Directory) (scope : RequestScope) (role : InvitedRole) :
    Except HTTPException (InvitationResponse × Directory) := do
  let _ ← requireWorkspacePermission directory scope.workspaceId scope.principalId
    "members.manage"
  let invitation : WorkspaceInvitation :=
    { id := scope.newId, workspaceId := scope.workspaceId, role := role,
      invitedByUserId := scope.principalId, expiresAt := scope.now + invitationLifetime }
  return ({ id := invitation.id, role := invitation.role }, directory.invite invitation)

structure MemberResponse where
  id : Identifier
  userId : Identifier
  role : Role
  deriving DecidableEq, Repr

def updateMember (directory : Directory) (scope : RequestScope) (memberId : Identifier)
    (role : Role) : Except HTTPException (MemberResponse × Directory) := do
  let _ ← requireWorkspacePermission directory scope.workspaceId scope.principalId
    "members.manage"
  match findMember directory scope.workspaceId memberId with
  | none => throw { statusCode := 404, detail := "Member was not found" }
  | some membership =>
      if membership.role = .owner ∧ role ≠ .owner ∧
          ownerCount directory scope.workspaceId = 1 then
        throw { statusCode := 409, detail := "A workspace must retain an owner" }
      else
        return ({ id := membership.id, userId := membership.userId, role := role },
          directory.changeRole memberId role)

def deleteMember (directory : Directory) (scope : RequestScope) (memberId : Identifier) :
    Except HTTPException (Unit × Directory) := do
  let _ ← requireWorkspacePermission directory scope.workspaceId scope.principalId
    "members.manage"
  match findMember directory scope.workspaceId memberId with
  | none => throw { statusCode := 404, detail := "Member was not found" }
  | some membership =>
      if membership.role = .owner then
        throw { statusCode := 409, detail := "Owners must transfer ownership first" }
      else
        return ((), directory.remove memberId)

inductive Request where
  | createInvitation (role : InvitedRole)
  | updateMember (memberId : Identifier) (role : Role)
  | deleteMember (memberId : Identifier)

/-- The rows after one request.  A raised exception rolls the session back. -/
def handle (directory : Directory) (request : RequestScope × Request) : Directory :=
  let scope := request.1
  match request.2 with
  | .createInvitation role =>
      match createInvitation directory scope role with
      | .ok (_, next) => next
      | .error _ => directory
  | .updateMember memberId role =>
      match updateMember directory scope memberId role with
      | .ok (_, next) => next
      | .error _ => directory
  | .deleteMember memberId =>
      match deleteMember directory scope memberId with
      | .ok (_, next) => next
      | .error _ => directory

end Identity
end MarketIntelligence
