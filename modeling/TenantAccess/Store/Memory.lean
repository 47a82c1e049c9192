import TenantAccess.Query
import TenantAccess.Resolver.Rights
import TenantAccess.Store.Write

/-!
# Reading the memory store

Every read of a query has an answer in the memory store, from one table of the tenant or from the
directory. The permissions linked to roles take two looks, one at the links and one at the
permissions; the table may be written between them.
-/

namespace TenantAccess.MemoryStore

/-- The ids of the permissions that any of the roles is linked to, each once. -/
def linkedIds (s : MemoryStore) (roles : List RoleId) (tenant : TenantCode) :
    Except StoreFault (List PermissionId) :=
  return distinctBy id
    ((← s.permissionLinks.filter tenant fun l => roles.contains l.roleId).map
      PermissionLink.permissionId)

/-- The permissions with the given ids that lie in the scope. -/
def permissionsById (s : MemoryStore) (ids : List PermissionId) (scope : Option ApplicationId)
    (tenant : TenantCode) : Except StoreFault (List Permission) :=
  return scopedPermissions scope (← s.permissions.getMany tenant ids)

/-- The rows that a read asks for. -/
def reply (s : MemoryStore) : Query.Backend
  | .account id tenant => s.accounts.get? tenant id
  | .enabledRoles scope tenant =>
    s.roles.filter tenant fun r => r.enabled && inScope scope r.applicationId
  | .assignedRoles holder tenant =>
    (s.roleAssignments.filter tenant (·.principal = holder)).map (·.map RoleAssignment.roleId)
  | .linkedPermissions roles scope tenant =>
    (s.linkedIds roles tenant).bind fun ids => s.permissionsById ids scope tenant
  | .roleRanges roles tenant => s.roleRanges.filter tenant fun r => roles.contains r.roleId
  | .permissions scope tenant => s.permissions.filter tenant fun p => inScope scope p.applicationId
  | .menus ids menuType tenant =>
    (s.menus.getMany tenant ids).map (·.filter fun m => menuType.all (m.menuType = ·))
  | .tenant code => .ok (s.tenants.get? code)
  | .application id => .ok (s.applications.get? id)
  | .applicationByCode code => .ok (s.applications.values.find? (·.code = code))

/-- A bound that no walk through the menus of the store exceeds: every level but the last sees a menu
that no level before it has seen. -/
def levels (s : MemoryStore) : Nat := s.menus.rows.size + 1

end TenantAccess.MemoryStore
