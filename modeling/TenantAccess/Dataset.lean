import TenantAccess.Account
import TenantAccess.Directory
import TenantAccess.Menu
import TenantAccess.Role

/-!
# Datasets

A dataset is a snapshot of everything that rights depend on, as lists of rows.
-/

namespace TenantAccess

/-- Every row that rights depend on. -/
structure Dataset where
  tenants : List Tenant := []
  applications : List Application := []
  accounts : List Account := []
  roles : List Role := []
  permissionLinks : List PermissionLink := []
  roleAssignments : List RoleAssignment := []
  roleRanges : List RoleRange := []
  menus : List Menu := []
  permissions : List Permission := []
  deriving DecidableEq, Repr

end TenantAccess
