import TenantAccess.Dataset
import TenantAccess.Query
import TenantAccess.Resolver.Rights

/-!
# Reading a dataset as it stands

A dataset can be read without being brought into tables: each read goes through the lists in order,
and where one row is asked for the first that fits is it. Where no key occurs twice this gives the
same rows as the memory store.
-/

namespace TenantAccess.Dataset

/-- The ids of the permissions that any of the roles is linked to. -/
def linkedIds (d : Dataset) (roles : List RoleId) (tenant : TenantCode) : List PermissionId :=
  (d.permissionLinks.filter fun l => l.tenant = tenant && roles.contains l.roleId).map
    PermissionLink.permissionId

/-- The rows that a read asks for. -/
def reply (d : Dataset) : (r : Read) → r.Reply
  | .account id tenant => d.accounts.find? fun a => a.id = id && a.tenant = tenant
  | .enabledRoles scope tenant =>
    d.roles.filter fun r => r.enabled && r.tenant = tenant && inScope scope r.applicationId
  | .assignedRoles holder tenant =>
    (d.roleAssignments.filter fun a => a.tenant = tenant && a.principal = holder).map
      RoleAssignment.roleId
  | .linkedPermissions roles scope tenant =>
    d.permissions.filter fun p =>
      p.tenant = tenant && inScope scope p.applicationId && (d.linkedIds roles tenant).contains p.id
  | .roleRanges roles tenant =>
    d.roleRanges.filter fun r => r.tenant = tenant && roles.contains r.roleId
  | .permissions scope tenant =>
    d.permissions.filter fun p => p.tenant = tenant && inScope scope p.applicationId
  | .menus ids menuType tenant =>
    d.menus.filter fun m => m.tenant = tenant && ids.contains m.id && menuType.all (m.menuType = ·)
  | .tenant code => d.tenants.find? (·.code = code)
  | .application id => d.applications.find? (·.id = id)
  | .applicationByCode code => d.applications.find? (·.code = code)

/-- All rows that a read of this kind could ask for, whatever it does ask for; where one row is asked
for, the first of all. -/
def wholeReply (d : Dataset) : (r : Read) → r.Reply
  | .account .. => d.accounts.head?
  | .enabledRoles .. => d.roles
  | .assignedRoles .. => d.roleAssignments.map RoleAssignment.roleId
  | .linkedPermissions .. => d.permissions
  | .roleRanges .. => d.roleRanges
  | .permissions .. => d.permissions
  | .menus .. => d.menus
  | .tenant .. => d.tenants.head?
  | .application .. => d.applications.head?
  | .applicationByCode .. => d.applications.head?

/-- A backend over a dataset that ignores what is asked in the reads that pass a test. -/
def backend (d : Dataset) (ignores : Read → Bool) : Query.Backend := fun r =>
  .ok (if ignores r then d.wholeReply r else d.reply r)

/-- A bound that no walk through the menus of the dataset exceeds. -/
def levels (d : Dataset) : Nat := d.menus.length + 1

end TenantAccess.Dataset
