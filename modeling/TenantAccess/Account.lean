import TenantAccess.Tenancy

/-!
# Accounts

An account is a row of a tenant. Ordinary accounts draw their rights from roles; an account marked
`admin` draws them from the settings.
-/

namespace TenantAccess

/-- An account of a tenant. -/
structure Account where
  id : AccountId
  username : String
  email : Option String := none
  name : String
  admin : Bool := false
  enabled : Bool := true
  deleted : Bool := false
  tenant : TenantCode
  deriving DecidableEq, Repr

/-- Enabled and not deleted. -/
def Account.isActive (a : Account) : Bool :=
  a.enabled && !a.deleted

instance : TenantScoped Account := ⟨Account.tenant⟩
instance : Entity Account .account := ⟨Account.id⟩

/-- How an account comes by its rights. -/
inductive AccountKind where
  /-- The administrator from the settings, who holds every permission. -/
  | supervisor
  /-- An administrator within a configured range of permissions. -/
  | officer
  /-- An ordinary account, whose rights come from roles. -/
  | member
  deriving DecidableEq, Repr

end TenantAccess
