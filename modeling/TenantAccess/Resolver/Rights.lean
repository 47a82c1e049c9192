import TenantAccess.Resolver.Subject

/-!
# Roles, permissions and ranges

A member holds the enabled roles of the scope that are assigned to it, or all of them when the
settings bind roles to applications, and through them permissions and ranges of data. Administrators
hold no roles: the supervisor has every permission of the scope, an officer those that its range
permits. Whatever a store replies is checked for rows of other tenants first, then cut down to what
was asked for, then freed of repetitions and sorted.
-/

namespace TenantAccess

/-- Whether an application lies in a scope: one application, or all of them. -/
def inScope (scope : Option ApplicationId) (application : ApplicationId) : Bool :=
  scope.all (application = ·)

/-- The roles of a reply that an account holds: enabled, of the scope and, when roles are assigned,
among the assigned ones. Each id once, in the order of the listing. -/
def heldRoles (scope : Option ApplicationId) (assigned : Option (List RoleId)) (rows : List Role) :
    List Role :=
  let held := rows.filter fun r =>
    r.enabled && inScope scope r.applicationId && assigned.all (·.contains r.id)
  sortBy Role.listingOrder (distinctBy Role.id held)

/-- The permissions of a reply that lie in the scope. -/
def scopedPermissions (scope : Option ApplicationId) (rows : List Permission) : List Permission :=
  rows.filter fun p => inScope scope p.applicationId

/-- Permissions with each id once, in the order of the listing. -/
def listedPermissions (permissions : List Permission) : List Permission :=
  sortBy Permission.listingOrder (distinctBy Permission.id permissions)

/-- The ranges of a reply that belong to one of the roles, each once, in the order of the
listing. -/
def rangesOf (order : Arrangement RoleRange) (roles : List RoleId) (rows : List RoleRange) :
    List RoleRange :=
  let wanted := rows.filter fun r => roles.contains r.roleId
  sortBy RoleRange.listingOrder (order.arrange (distinctBy id wanted))

namespace Resolver

variable (R : Resolver)

/-- The roles that a subject holds. -/
def rolesOf (subject : Subject) (scope : Option ApplicationId) (tenant : TenantCode) :
    Query (List Role) := do
  match subject with
  | .member account =>
    let rows : List Role ← Query.read (.enabledRoles scope tenant)
    Query.ownRows "role" tenant rows
    match R.settings.roleBinding with
    | .application => return heldRoles scope none rows
    | .principal =>
      let assigned : List RoleId ← Query.read (.assignedRoles (.ofAccount account.id) tenant)
      return heldRoles scope (some assigned) rows
  | _ => return []

/-- The permissions of the scope that the reply to a read holds. -/
def scopedReply (scope : Option ApplicationId) (tenant : TenantCode)
    (reply : Query (List Permission)) : Query (List Permission) := do
  let rows ← reply
  Query.ownRows "permission" tenant rows
  return scopedPermissions scope rows

/-- The permissions that a subject with the given roles holds. -/
def permissionsOf (subject : Subject) (roles : List Role) (scope : Option ApplicationId)
    (tenant : TenantCode) : Query (List Permission) := do
  match subject with
  | .absent | .inactive .. | .officer _ none => return []
  | .supervisor _ =>
    return listedPermissions (← scopedReply scope tenant (Query.read (.permissions scope tenant)))
  | .officer _ (some entry) =>
    if entry.enabled then
      let all ← scopedReply scope tenant (Query.read (.permissions scope tenant))
      return listedPermissions (entry.permissions.restrict all)
    else return []
  | .member _ =>
    if roles.isEmpty then return []
    else
      let linked := Query.read (.linkedPermissions (roles.map Role.id) scope tenant)
      return listedPermissions (← scopedReply scope tenant linked)

/-- The roles that an account holds. -/
def roles (account : AccountId) (scope : Option ApplicationId) (tenant : TenantCode) :
    Query (List Role) := do
  let subject ← R.subject account tenant
  R.rolesOf subject scope tenant

/-- The permissions that an account holds. An account that does not exist or is not active holds
none; that is an answer and no refusal. -/
def permissions (account : AccountId) (scope : Option ApplicationId) (tenant : TenantCode) :
    Query (List Permission) := do
  let subject ← R.subject account tenant
  let roles ← R.rolesOf subject scope tenant
  permissionsOf subject roles scope tenant

/-- The ranges of data that the roles of an account carry. -/
def ranges (account : AccountId) (scope : Option ApplicationId) (tenant : TenantCode) :
    Query (List RoleRange) := do
  let roles ← R.roles account scope tenant
  if roles.isEmpty then return []
  else
    let ids := roles.map Role.id
    let rows : List RoleRange ← Query.read (.roleRanges ids tenant)
    Query.ownRows "role range" tenant rows
    return rangesOf R.rangeOrder ids rows

end Resolver

end TenantAccess
