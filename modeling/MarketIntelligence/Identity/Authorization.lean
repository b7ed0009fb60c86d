import MarketIntelligence.Core.Values

namespace MarketIntelligence
namespace Identity

/-!
# Roles and permissions
-/

inductive Role where
  | owner
  | admin
  | member
  | viewer
  deriving DecidableEq, Repr

/-- `PERMISSIONS`. -/
def permissions : Role -> List String
  | .owner => ["*"]
  | .admin =>
      ["workspace.read", "workspace.update", "members.manage", "audit.read", "research.write",
        "backtests.run", "paper.manage", "orders.submit", "schedules.manage", "providers.read",
        "providers.manage", "recovery.manage", "graph.manage"]
  | .member =>
      ["workspace.read", "research.write", "backtests.run", "paper.manage", "orders.submit",
        "schedules.manage", "providers.read"]
  | .viewer => ["workspace.read", "providers.read"]

structure WorkspaceContext where
  workspaceId : Identifier
  userId : Identifier
  role : Role
  deriving DecidableEq, Repr

def WorkspaceContext.allows (context : WorkspaceContext) (permission : String) : Bool :=
  let granted := permissions context.role
  decide ("*" ∈ granted) || decide (permission ∈ granted)

end Identity
end MarketIntelligence
