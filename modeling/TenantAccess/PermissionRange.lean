import TenantAccess.Menu

/-!
# Permission ranges

The range of an officer says which permission codes the officer may hold. Codes are compared as
texts, without patterns. A range that names codes to include is an allow-list and its exclusions are
not looked at; any other range is a deny-list.
-/

namespace TenantAccess

/-- A range of permission codes. -/
structure PermissionRange where
  includes : List String := []
  excludes : List String := []
  deriving DecidableEq, Repr

/-- Which list of a range is in effect. -/
inductive RangeMode where
  | allowList | denyList
  deriving DecidableEq, Repr

namespace PermissionRange

/-- The range of the listed codes. -/
def allow (codes : List String) : PermissionRange := { includes := codes }

/-- The range of all codes but the listed ones. -/
def deny (codes : List String) : PermissionRange := { excludes := codes }

/-- The list in effect: the inclusions when there are any. -/
def mode (r : PermissionRange) : RangeMode :=
  if r.includes.isEmpty then .denyList else .allowList

/-- Whether a code lies in the range. -/
def permits (r : PermissionRange) (code : String) : Bool :=
  match r.mode with
  | .allowList => r.includes.contains code
  | .denyList => !r.excludes.contains code

/-- The permissions whose codes lie in the range, in their order. -/
def restrict (r : PermissionRange) (permissions : List Permission) : List Permission :=
  permissions.filter fun p => r.permits p.code

end PermissionRange

end TenantAccess
