/-!
# Store faults

What can go wrong while rows are read or written, or while an identifier is taken in. A fault is a
cause with the words that describe it; `StoreFault.message` is the one place that puts the cause
into words.
-/

namespace TenantAccess

/-- Why a store did not serve a read or a write. -/
inductive StoreFault where
  /-- The store cannot be reached. -/
  | unavailable (detail : String)
  /-- The store was reached and failed. -/
  | backend (detail : String)
  /-- An identifier is not one. -/
  | invalidId (detail : String)
  /-- A row of another tenant was about to be handed out. -/
  | tenantIsolation (detail : String)
  deriving DecidableEq, Repr

/-- The fault in words. -/
def StoreFault.message : StoreFault → String
  | .unavailable detail => s!"store unavailable: {detail}"
  | .backend detail => s!"store failure: {detail}"
  | .invalidId detail => s!"invalid identifier: {detail}"
  | .tenantIsolation detail => s!"tenant isolation violated: {detail}"

/-- Why a question about rights is not answered. Having no rights is an answer and not one of these;
only checks of the directory, of credentials and of a required permission refuse. -/
inductive AccessError where
  /-- A tenant, an application or a lease does not exist. -/
  | notFound (what : String)
  /-- A tenant, an application or a lease exists and is switched off. -/
  | disabled (what : String)
  /-- The secret is not the one of the application with this code. -/
  | badCredentials (code : String)
  /-- The directory cannot answer yet. -/
  | serviceUnavailable (what : String)
  /-- The account does not hold the permission with this code. -/
  | forbidden (code : String)
  /-- A read behind the question failed. -/
  | store (fault : StoreFault)
  deriving DecidableEq, Repr

namespace AccessError

/-- The error in words; a store's fault keeps its own. -/
def message : AccessError → String
  | .notFound what => s!"not found: {what}"
  | .disabled what => s!"disabled: {what}"
  | .badCredentials code => s!"bad credentials for application '{code}'"
  | .serviceUnavailable what => s!"service unavailable: {what}"
  | .forbidden code => s!"forbidden: missing permission '{code}'"
  | .store fault => fault.message

/-- The status class under which the error is reported to a remote caller. -/
def status : AccessError → Nat
  | .notFound _ | .disabled _ | .badCredentials _ => 400
  | .forbidden _ => 403
  | .serviceUnavailable _ => 503
  | .store _ => 500

/-- Whether the caller can mend the request: the statuses from 400 to 499. -/
def isClientError (e : AccessError) : Bool :=
  400 ≤ e.status && e.status < 500

end AccessError

end TenantAccess
