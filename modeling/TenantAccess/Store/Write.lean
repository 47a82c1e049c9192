import TenantAccess.Dataset
import TenantAccess.Store.Table

/-!
# The memory store and its writes

The store keeps the directory and seven tables of tenants' rows. A write either puts one row at its
place or clears a tenant. Clearing works table by table, and other writes and reads may come between,
so a `Write` is a list of `Step`s on one table each. A row that is written takes the place of the row
with the same key: the code of a tenant, the id of an application, the id within the tenant for
accounts, roles, menus and permissions, and the whole row for links, assignments and ranges.

A table may be poisoned, but the directory has no such state, and what would be said of it then is
left out: no write does anything in the directory that a writer could die of.
-/

namespace TenantAccess

/-- A row of any kind. -/
inductive Row where
  | tenant (row : Tenant)
  | application (row : Application)
  | account (row : Account)
  | role (row : Role)
  | permissionLink (row : PermissionLink)
  | roleAssignment (row : RoleAssignment)
  | roleRange (row : RoleRange)
  | menu (row : Menu)
  | permission (row : Permission)
  deriving DecidableEq, Repr

/-- The tables of tenants' rows. -/
inductive TableName where
  | accounts | roles | permissionLinks | roleAssignments | roleRanges | menus | permissions
  deriving DecidableEq, Repr

/-- The tables in the order in which a tenant is cleared from them. -/
def TableName.all : List TableName :=
  [.accounts, .roles, .permissionLinks, .roleAssignments, .roleRanges, .menus, .permissions]

/-- What is done to one table at once. -/
inductive Step where
  | put (row : Row)
  | clear (table : TableName) (tenant : TenantCode)
  deriving DecidableEq, Repr

/-- A change of the store. -/
inductive Write where
  | put (row : Row)
  /-- Removes every row of a tenant and leaves the directory as it is. -/
  | clearTenant (tenant : TenantCode)
  deriving DecidableEq, Repr

/-- The steps of a write, in their order. -/
def Write.steps : Write → List Step
  | .put row => [.put row]
  | .clearTenant tenant => TableName.all.map fun table => .clear table tenant

/-- The key of a range among those of its tenant. -/
abbrev RangeKey := RoleId × String × String × String

/-- The key of a range. -/
def RoleRange.key (r : RoleRange) : RangeKey := (r.roleId, r.category, r.rangeType, r.dataId)

/-- The directory and the tables of tenants' rows. -/
structure MemoryStore where
  tenants : Keyed TenantCode Tenant := ∅
  applications : Keyed ApplicationId Application := ∅
  accounts : TenantTable AccountId Account := { name := "account" }
  roles : TenantTable RoleId Role := { name := "role" }
  permissionLinks : TenantTable (RoleId × PermissionId) PermissionLink :=
    { name := "role_permission" }
  roleAssignments : TenantTable (RoleId × Principal) RoleAssignment := { name := "role_principal" }
  roleRanges : TenantTable RangeKey RoleRange := { name := "role_range" }
  menus : TenantTable MenuId Menu := { name := "menu" }
  permissions : TenantTable PermissionId Permission := { name := "permission" }

namespace MemoryStore

/-- The store without any rows. -/
instance : EmptyCollection MemoryStore := ⟨{}⟩

/-- The store with a row at its place. -/
def put (s : MemoryStore) : Row → Except StoreFault MemoryStore
  | .tenant row => .ok { s with tenants := s.tenants.insert row.code row }
  | .application row => .ok { s with applications := s.applications.insert row.id row }
  | .account row => return { s with accounts := ← s.accounts.put row }
  | .role row => return { s with roles := ← s.roles.put row }
  | .permissionLink row => return { s with
      permissionLinks := ← s.permissionLinks.upsert row.tenant (row.roleId, row.permissionId) row }
  | .roleAssignment row => return { s with
      roleAssignments := ← s.roleAssignments.upsert row.tenant (row.roleId, row.principal) row }
  | .roleRange row => return { s with
      roleRanges := ← s.roleRanges.upsert row.tenant row.key row }
  | .menu row => return { s with menus := ← s.menus.put row }
  | .permission row => return { s with permissions := ← s.permissions.put row }

/-- The store without the rows of a tenant in one table. -/
def clear (s : MemoryStore) (tenant : TenantCode) : TableName → Except StoreFault MemoryStore
  | .accounts => return { s with accounts := ← s.accounts.clearTenant tenant }
  | .roles => return { s with roles := ← s.roles.clearTenant tenant }
  | .permissionLinks => return { s with permissionLinks := ← s.permissionLinks.clearTenant tenant }
  | .roleAssignments => return { s with roleAssignments := ← s.roleAssignments.clearTenant tenant }
  | .roleRanges => return { s with roleRanges := ← s.roleRanges.clearTenant tenant }
  | .menus => return { s with menus := ← s.menus.clearTenant tenant }
  | .permissions => return { s with permissions := ← s.permissions.clearTenant tenant }

/-- The store after a step. -/
def step (s : MemoryStore) : Step → Except StoreFault MemoryStore
  | .put row => s.put row
  | .clear table tenant => s.clear tenant table

/-- The store after a write. -/
def write (s : MemoryStore) (w : Write) : Except StoreFault MemoryStore :=
  w.steps.foldlM step s

/-- The store after writes, one after the other. -/
def writeAll (s : MemoryStore) (ws : List Write) : Except StoreFault MemoryStore :=
  ws.foldlM write s

end MemoryStore

namespace Dataset

/-- The rows of a dataset in the order in which they are written. -/
def toRows (d : Dataset) : List Row :=
  d.tenants.map .tenant ++ d.applications.map .application ++ d.accounts.map .account
    ++ d.roles.map .role ++ d.permissionLinks.map .permissionLink
    ++ d.roleAssignments.map .roleAssignment ++ d.roleRanges.map .roleRange
    ++ d.menus.map .menu ++ d.permissions.map .permission

/-- Writes every row of a dataset into a store. -/
def applyTo (d : Dataset) (s : MemoryStore) : Except StoreFault MemoryStore :=
  s.writeAll (d.toRows.map .put)

/-- The store that holds the rows of a dataset. -/
def toStore (d : Dataset) : Except StoreFault MemoryStore := d.applyTo ∅

end Dataset

end TenantAccess
