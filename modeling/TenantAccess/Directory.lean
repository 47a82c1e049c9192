import TenantAccess.Identifier

/-!
# The directory

Tenants and applications stand outside the tenant-partitioned rows. A tenant may use an application
when it holds a lease on it; the first lease for an application is the one that counts.
-/

namespace TenantAccess

/-- A tenant's right to use an application. -/
structure Lease where
  applicationId : ApplicationId
  enabled : Bool := true
  /-- Whether this is the application that the tenant's users land on. -/
  primary : Bool := false
  deriving DecidableEq, Repr

/-- A tenant with its leases. -/
structure Tenant where
  code : TenantCode
  name : String
  enabled : Bool := true
  leases : List Lease := []
  deriving DecidableEq, Repr

/-- The tenant's lease on an application. -/
def Tenant.lease? (t : Tenant) (application : ApplicationId) : Option Lease :=
  t.leases.find? (·.applicationId = application)

/-- An application. Its secret is taken in with the row and never written out. -/
structure Application where
  id : ApplicationId
  code : String
  name : String
  secret : String := ""
  enabled : Bool := true
  url : Option String := none
  contextPath : Option String := none
  deriving DecidableEq, Repr

/-- Applications are listed by code, then by id. -/
def Application.listingOrder : Application → Application → Ordering :=
  compareLex (compareOn Application.code) (compareOn Application.id)

end TenantAccess
