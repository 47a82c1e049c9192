import TenantAccess.Identifier

/-!
# Rows of a tenant

Most rows belong to one tenant, and many are known by an identifier within it. Two tenants may use
the same identifier for different rows, so a row's place is the pair of its tenant and its id.
-/

namespace TenantAccess

/-- Rows that belong to one tenant. -/
class TenantScoped (α : Type) where
  /-- The tenant that the row belongs to. -/
  tenantOf : α → TenantCode

/-- Rows that are known by an identifier. -/
class Entity (α : Type) (kind : outParam IdKind) where
  /-- The row's identifier. -/
  idOf : α → Identifier kind

/-- Whether a row belongs to the tenant. -/
def belongsTo {α : Type} [TenantScoped α] (row : α) (tenant : TenantCode) : Bool :=
  TenantScoped.tenantOf row = tenant

end TenantAccess
