import MarketIntelligence.Identity.Workspace
import MarketIntelligence.Foundations.Runs
import Mathlib.Data.List.Basic

namespace MarketIntelligence
namespace Identity

open Foundations

/-!
# Who is an owner

An invitation cannot name the owner role and an owner cannot be removed, but a
role change only counts owners.  Whoever may manage members can turn any member
into an owner, and an owner of a workspace that has another one into anything.

The owners of every workspace stay the same rows through a run of requests
exactly when no request makes such a change.
-/

def owners (directory : Directory) : List WorkspaceMembership :=
  directory.memberships.filter fun row => row.role = .owner

/-- A permitted role change that moves a member into the owner role, or moves an
owner out of it while the workspace does not have exactly one. -/
def CrossesOwnership (directory : Directory) (request : RequestScope × Request) : Prop :=
  match request.2 with
  | .updateMember memberId role =>
      (exists context, requireWorkspacePermission directory request.1.workspaceId
        request.1.principalId "members.manage" = .ok context) ∧
      exists membership, findMember directory request.1.workspaceId memberId = some membership ∧
        ((membership.role ≠ .owner ∧ role = .owner) ∨
          (membership.role = .owner ∧ role ≠ .owner ∧
            ownerCount directory request.1.workspaceId ≠ 1))
  | .createInvitation _ => False
  | .deleteMember _ => False

/-! ## Rows found by their keys -/

theorem findMember_some {directory : Directory} {workspaceId memberId : Identifier}
    {membership : WorkspaceMembership}
    (found : findMember directory workspaceId memberId = some membership) :
    membership ∈ directory.memberships ∧ membership.id = memberId := by
  have matching := List.find?_some
    (p := fun row : WorkspaceMembership => decide (row.id = memberId ∧ row.workspaceId = workspaceId))
    found
  exact ⟨List.mem_of_find?_eq_some found, (of_decide_eq_true matching).1⟩

theorem eq_of_id_eq {directory : Directory} {first second : WorkspaceMembership}
    (firstMember : first ∈ directory.memberships) (secondMember : second ∈ directory.memberships)
    (same : first.id = second.id) : first = second :=
  List.inj_on_of_nodup_map directory.ids_nodup firstMember secondMember same

/-! ## What each write does to the owners -/

theorem mem_owners {directory : Directory} {row : WorkspaceMembership} :
    row ∈ owners directory <-> row ∈ directory.memberships ∧ row.role = .owner := by
  unfold owners
  rw [List.mem_filter, decide_eq_true_eq]

/-- A map that fixes the owners and makes no new ones keeps the list of owners. -/
theorem filter_owner_map {rows : List WorkspaceMembership}
    {change : WorkspaceMembership -> WorkspaceMembership}
    (fixed : forall row, row ∈ rows -> row.role = .owner -> change row = row)
    (others : forall row, row ∈ rows -> row.role ≠ .owner -> (change row).role ≠ .owner) :
    (rows.map change).filter (fun row => row.role = .owner) =
      rows.filter (fun row => row.role = .owner) := by
  induction rows with
  | nil => rfl
  | cons row rest ih =>
      have tail := ih
        (fun other member => fixed other (List.mem_cons_of_mem _ member))
        (fun other member => others other (List.mem_cons_of_mem _ member))
      rw [List.map_cons]
      by_cases owner : row.role = .owner
      · rw [fixed row List.mem_cons_self owner, List.filter_cons_of_pos (by simpa using owner),
          List.filter_cons_of_pos (by simpa using owner), tail]
      · have stays := others row List.mem_cons_self owner
        rw [List.filter_cons_of_neg (by simpa using stays),
          List.filter_cons_of_neg (by simpa using owner), tail]

section Writes

variable {directory : Directory} {membership : WorkspaceMembership} {role : Role}

theorem owners_changeRole (member : membership ∈ directory.memberships)
    (agree : membership.role = .owner <-> role = .owner) :
    owners (directory.changeRole membership.id role) = owners directory := by
  refine filter_owner_map (fun row known owner => ?_) (fun row known other => ?_)
  · unfold setRole
    split
    · rename_i same
      have equal := eq_of_id_eq known member same
      have granted : role = row.role := (agree.mp (equal ▸ owner)).trans owner.symm
      rw [granted]
    · rfl
  · unfold setRole
    split
    · rename_i same
      have equal := eq_of_id_eq known member same
      exact fun granted => other (equal ▸ agree.mpr granted)
    · exact other

theorem owners_changeRole_ne (member : membership ∈ directory.memberships)
    (differ : ¬ (membership.role = .owner <-> role = .owner)) :
    owners (directory.changeRole membership.id role) ≠ owners directory := by
  intro same
  by_cases owner : membership.role = .owner
  · have other : role ≠ .owner := fun granted => differ (iff_of_true owner granted)
    have kept : membership ∈ owners (directory.changeRole membership.id role) :=
      same ▸ mem_owners.mpr ⟨member, owner⟩
    rcases List.mem_map.mp (mem_owners.mp kept).1 with ⟨row, _, changed⟩
    have sameId : row.id = membership.id := by
      rw [← setRole_id membership.id role row, changed]
    have demoted : membership.role = role := by
      rw [← changed]
      simp only [setRole, if_pos sameId]
    exact other (demoted ▸ owner)
  · have granted : role = .owner := by
      by_contra other
      exact differ (iff_of_false owner other)
    have promoted : { membership with role := role } ∈
        owners (directory.changeRole membership.id role) := by
      refine mem_owners.mpr ⟨List.mem_map.mpr ⟨membership, member, ?_⟩, granted⟩
      simp only [setRole, if_true]
    rw [same] at promoted
    have before := mem_owners.mp promoted
    have equal := eq_of_id_eq before.1 member rfl
    exact owner (equal ▸ before.2)

theorem owners_remove (member : membership ∈ directory.memberships)
    (other : membership.role ≠ .owner) :
    owners (directory.remove membership.id) = owners directory := by
  unfold owners Directory.remove
  dsimp only
  rw [List.filter_filter]
  apply List.filter_congr
  intro row known
  by_cases owner : row.role = .owner
  · have different : row.id ≠ membership.id := fun same =>
      other (eq_of_id_eq known member same ▸ owner)
    simp [owner, different]
  · simp [owner]

end Writes

/-! ## One request and a run of requests -/

section Requests

variable {directory : Directory} {scope : RequestScope} {context : WorkspaceContext}
  {memberId : Identifier} {membership : WorkspaceMembership} {role : Role}

theorem handle_refused {refusal : HTTPException} (body : Request)
    (refused : requireWorkspacePermission directory scope.workspaceId scope.principalId
      "members.manage" = .error refusal) :
    handle directory (scope, body) = directory := by
  cases body with
  | createInvitation role =>
      unfold handle createInvitation
      simp only [refused]
      rfl
  | updateMember memberId role =>
      unfold handle updateMember
      simp only [refused]
      rfl
  | deleteMember memberId =>
      unfold handle deleteMember
      simp only [refused]
      rfl

theorem handle_updateMember_missing (role : Role)
    (permitted : requireWorkspacePermission directory scope.workspaceId scope.principalId
      "members.manage" = .ok context)
    (found : findMember directory scope.workspaceId memberId = none) :
    handle directory (scope, .updateMember memberId role) = directory := by
  unfold handle updateMember
  simp only [permitted, found]
  rfl

theorem handle_updateMember
    (permitted : requireWorkspacePermission directory scope.workspaceId scope.principalId
      "members.manage" = .ok context)
    (found : findMember directory scope.workspaceId memberId = some membership) :
    handle directory (scope, .updateMember memberId role) =
      if membership.role = .owner ∧ role ≠ .owner ∧ ownerCount directory scope.workspaceId = 1 then
        directory
      else directory.changeRole memberId role := by
  unfold handle updateMember
  simp only [permitted, found, bind, Except.bind]
  by_cases lastOwner : membership.role = .owner ∧ role ≠ .owner ∧
      ownerCount directory scope.workspaceId = 1
  · rw [if_pos lastOwner, if_pos lastOwner]
    rfl
  · rw [if_neg lastOwner, if_neg lastOwner]
    rfl

theorem handle_deleteMember_missing
    (permitted : requireWorkspacePermission directory scope.workspaceId scope.principalId
      "members.manage" = .ok context)
    (found : findMember directory scope.workspaceId memberId = none) :
    handle directory (scope, .deleteMember memberId) = directory := by
  unfold handle deleteMember
  simp only [permitted, found]
  rfl

theorem handle_deleteMember
    (permitted : requireWorkspacePermission directory scope.workspaceId scope.principalId
      "members.manage" = .ok context)
    (found : findMember directory scope.workspaceId memberId = some membership) :
    handle directory (scope, .deleteMember memberId) =
      if membership.role = .owner then directory else directory.remove memberId := by
  unfold handle deleteMember
  simp only [permitted, found, bind, Except.bind]
  by_cases owner : membership.role = .owner
  · rw [if_pos owner, if_pos owner]
    rfl
  · rw [if_neg owner, if_neg owner]
    rfl

end Requests

/-- One request keeps the owners exactly when it does not cross ownership. -/
theorem owners_handle_iff (directory : Directory) (request : RequestScope × Request) :
    owners (handle directory request) = owners directory <->
      ¬ CrossesOwnership directory request := by
  rcases request with ⟨scope, body⟩
  cases permitted : requireWorkspacePermission directory scope.workspaceId scope.principalId
      "members.manage" with
  | error refusal =>
      rw [handle_refused body permitted]
      refine iff_of_true rfl fun crosses => ?_
      cases body with
      | createInvitation role => exact crosses
      | deleteMember memberId => exact crosses
      | updateMember memberId role =>
          rcases crosses.1 with ⟨context, granted⟩
          rw [permitted] at granted
          cases granted
  | ok context =>
      cases body with
      | createInvitation role =>
          refine iff_of_true ?_ (fun crosses => crosses)
          unfold handle createInvitation
          simp only [permitted]
          rfl
      | updateMember memberId role =>
          have crosses_iff : CrossesOwnership directory (scope, .updateMember memberId role) <->
              exists membership,
                findMember directory scope.workspaceId memberId = some membership ∧
                  ((membership.role ≠ .owner ∧ role = .owner) ∨
                    (membership.role = .owner ∧ role ≠ .owner ∧
                      ownerCount directory scope.workspaceId ≠ 1)) :=
            and_iff_right ⟨context, permitted⟩
          rw [crosses_iff]
          cases found : findMember directory scope.workspaceId memberId with
          | none =>
              rw [handle_updateMember_missing role permitted found]
              refine iff_of_true rfl ?_
              rintro ⟨_, absent, _⟩
              cases absent
          | some membership =>
              rw [handle_updateMember permitted found]
              rcases findMember_some found with ⟨member, rfl⟩
              simp only [Option.some.injEq, exists_eq_left']
              by_cases lastOwner : membership.role = .owner ∧ role ≠ .owner ∧
                  ownerCount directory scope.workspaceId = 1
              · rw [if_pos lastOwner]
                exact iff_of_true rfl (by tauto)
              · rw [if_neg lastOwner]
                by_cases agree : membership.role = .owner <-> role = .owner
                · exact iff_of_true (owners_changeRole member agree) (by tauto)
                · exact iff_of_false (owners_changeRole_ne member agree) (by tauto)
      | deleteMember memberId =>
          refine iff_of_true ?_ (fun crosses => crosses)
          cases found : findMember directory scope.workspaceId memberId with
          | none => rw [handle_deleteMember_missing permitted found]
          | some membership =>
              rw [handle_deleteMember permitted found]
              rcases findMember_some found with ⟨member, rfl⟩
              split
              · rfl
              · exact owners_remove member ‹_›

/-- The owners stay the same at every state of a run exactly when no request of
it crosses ownership. -/
theorem owners_states_iff (directory : Directory) (requests : List (RequestScope × Request)) :
    (forall visited, visited ∈ Runs.states handle directory requests ->
      owners visited = owners directory) <->
      Runs.Along handle (fun state request => ¬ CrossesOwnership state request) directory
        requests :=
  Runs.invariant_states_iff_along (motive := fun state => owners state = owners directory)
    (fun state request same => by rw [← owners_handle_iff state request, same]) rfl

/-! ## An administrator promotes itself -/

/-- One workspace with an owner and an administrator. -/
def pairedDirectory : Directory where
  memberships :=
    [{ id := 1, workspaceId := 0, userId := 10, role := .owner },
     { id := 2, workspaceId := 0, userId := 20, role := .admin }]
  invitations := []
  auditEvents := []
  ids_nodup := by decide
  users_nodup := by decide

def selfPromotion : RequestScope × Request :=
  ({ workspaceId := 0, principalId := 20, newId := 0, now := 0 }, .updateMember 2 .owner)

/-- The requester is an administrator, and owns the workspace afterwards. -/
theorem selfPromotion_crosses :
    findMembership pairedDirectory 0 20 =
        .ok { id := 2, workspaceId := 0, userId := 20, role := .admin } ∧
      (owners pairedDirectory).map WorkspaceMembership.userId = [10] ∧
      (owners (handle pairedDirectory selfPromotion)).map WorkspaceMembership.userId =
        [10, 20] := by
  decide

end Identity
end MarketIntelligence
