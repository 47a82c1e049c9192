import TenantAccess.Resolver.Menus

/-!
# Applications

Whether a tenant may use an application, which application a code and a secret stand for, and which
applications an account reaches through its menus.
-/

namespace TenantAccess

/-- Checks that the tenant holds an enabled lease on an enabled application. Of several faults the
first on the way from the tenant over the lease to the application is reported. -/
def validateApplication (application : ApplicationId) (tenant : TenantCode) : Query Unit := do
  match ← Query.read (.tenant tenant) with
  | none => Query.refuse (.notFound s!"tenant '{tenant.text}'")
  | some (t : Tenant) =>
    if !t.enabled then Query.refuse (.disabled s!"tenant '{tenant.text}'")
    else match t.lease? application with
      | none =>
        Query.refuse <| .notFound
          s!"application '{application.text}' is not leased by tenant '{tenant.text}'"
      | some lease =>
        if !lease.enabled then
          Query.refuse <| .disabled
            s!"lease of application '{application.text}' in tenant '{tenant.text}'"
        else match ← Query.read (.application lease.applicationId) with
          | none => Query.refuse (.notFound s!"application '{application.text}'")
          | some (a : Application) =>
            if !a.enabled then Query.refuse (.disabled s!"application '{a.code}'")
            else return ()

/-- The application with a code, if the secret is its secret. A code that the directory does not
know means that the directory is not filled yet. -/
def applicationByCredentials (code secret : String) : Query Application := do
  match ← Query.read (.applicationByCode code) with
  | none =>
    Query.refuse (.serviceUnavailable s!"application '{code}' is not known to the directory")
  | some (a : Application) =>
    if a.secret = secret then return a else Query.refuse (.badCredentials code)

/-- The applications with the given ids that the directory knows, read one after the other. -/
def knownApplications : List ApplicationId → Query (List Application)
  | [] => return []
  | id :: rest => do
    match ← Query.read (.application id) with
    | none => knownApplications rest
    | some (a : Application) => return a :: (← knownApplications rest)

/-- The applications that own a menu of a type which the account sees. Whether they are enabled does
not matter. -/
def Resolver.applications (R : Resolver) (account : AccountId) (menuType : String)
    (tenant : TenantCode) : Query (List Application) := do
  let menus ← R.menus account (some menuType) none tenant
  let applications ← knownApplications (ascending (menus.map Menu.applicationId))
  return sortBy Application.listingOrder applications

end TenantAccess
