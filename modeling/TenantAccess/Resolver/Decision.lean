import TenantAccess.Resolver.Applications

/-!
# Decisions and their reasons

`Resolver.authorize` demands a permission within an application and refuses when it is not held.
`Resolver.explain` reports the same decision, for any scope, with its reason: which rule decided,
what the account holds, and what would have to change.
-/

namespace TenantAccess

/-- Demands a permission within an application. The lease on the application is checked first. -/
def Resolver.authorize (R : Resolver) (account : AccountId) (application : ApplicationId)
    (tenant : TenantCode) (code : String) : Query Unit := do
  validateApplication application tenant
  let permissions ← R.permissions account (some application) tenant
  if permissions.any (·.code = code) then return ()
  else Query.refuse (.forbidden code)

/-- Which rule decided. -/
inductive Basis where
  | noAccount | inactiveAccount | supervisor | officer | unconfiguredOfficer | disabledOfficer | roles
  deriving DecidableEq, Repr

/-- The rule that decides about a subject. -/
def Subject.basis : Subject → Basis
  | .absent => .noAccount
  | .inactive .. => .inactiveAccount
  | .supervisor _ => .supervisor
  | .officer _ none => .unconfiguredOfficer
  | .officer _ (some entry) => if entry.enabled then .officer else .disabledOfficer
  | .member _ => .roles

/-- What an account holds at the time of a decision. -/
structure AccountState where
  accountId : AccountId
  username : String
  tenant : TenantCode
  kind : AccountKind
  /-- The codes of its roles. -/
  roles : List String
  /-- The codes of its permissions. -/
  permissions : List String
  /-- The mode of its range, when it is an officer known to the settings. -/
  rangeMode : Option RangeMode
  deriving DecidableEq, Repr

/-- A decision with its reason. -/
structure Explanation where
  code : String
  granted : Bool
  basis : Basis
  /-- The reason in words. -/
  reason : String
  /-- Absent when there is no such account. -/
  account : Option AccountState
  /-- What could be changed so that the permission is granted. -/
  suggestions : List String
  deriving DecidableEq, Repr

namespace Basis

/-- What could be changed so that a permission is granted. -/
def suggestions (code : String) : Basis → List String
  | .noAccount => ["Check the account id and the tenant code of the request"]
  | .inactiveAccount => ["Re-enable or restore the account"]
  | .unconfiguredOfficer =>
    ["Add an officer entry for this username to the admin settings",
      "Clear the admin flag so the account is resolved through roles"]
  | .disabledOfficer => ["Enable the officer entry in the admin settings"]
  | .officer => [s!"Add '{code}' to the officer includes, or remove it from excludes"]
  | .roles =>
    [s!"Assign a role that grants '{code}'", s!"Link '{code}' to one of the account's roles"]
  | .supervisor => [s!"Permission '{code}' does not exist in this tenant/application"]

/-- What is said of a permission that is not granted. -/
def notGranted (code : String) (held : List String) : String :=
  let shown := if held.isEmpty then "none" else String.intercalate ", " held
  s!"Permission '{code}' is not granted. Current permissions: {shown}"

/-- The reason for a decision, in words. `roles` and `held` are the codes of the roles and of the
permissions that the account holds. -/
def reason (basis : Basis) (granted : Bool) (account : AccountId) (tenant : TenantCode)
    (code : String) (roles held : List String) : String :=
  match basis, granted with
  | .noAccount, _ => s!"Account '{account.text}' does not exist in tenant '{tenant.text}'"
  | .inactiveAccount, _ => s!"Account '{account.text}' is disabled or deleted"
  | .unconfiguredOfficer, _ =>
    s!"Admin account '{account.text}' has no officer entry in the admin settings"
  | .disabledOfficer, _ => s!"Officer entry for '{account.text}' is disabled"
  | .supervisor, true => "Supervisor holds every permission of the tenant"
  | .supervisor, false => notGranted code held
  | .officer, true => s!"Officer range admits '{code}'"
  | .officer, false =>
    s!"Officer range does not admit '{code}' or it does not exist in scope"
  | .roles, true => "Granted through roles: " ++ String.intercalate ", " roles
  | .roles, false =>
    if roles.isEmpty then s!"Account '{account.text}' holds no roles in scope"
    else notGranted code held

end Basis

/-- The mode of the range of a subject, when it is an officer known to the settings. -/
def Subject.rangeMode? : Subject → Option RangeMode
  | .officer _ (some entry) => some entry.permissions.mode
  | _ => none

/-- The state of the account of a subject that holds the given roles and permissions. -/
def Subject.state? (subject : Subject) (tenant : TenantCode) (roles held : List String) :
    Option AccountState :=
  match subject.account?, subject.kind? with
  | some account, some kind =>
    some {
      accountId := account.id
      username := account.username
      tenant, kind, roles
      permissions := held
      rangeMode := subject.rangeMode? }
  | _, _ => none

/-- The decision about a permission with its reason. The lease on the application is not looked
at. -/
def Resolver.explain (R : Resolver) (account : AccountId) (scope : Option ApplicationId)
    (tenant : TenantCode) (code : String) : Query Explanation := do
  let subject ← R.subject account tenant
  let roles ← R.rolesOf subject scope tenant
  let permissions ← Resolver.permissionsOf subject roles scope tenant
  let roles := roles.map Role.code
  let held := permissions.map Permission.code
  let granted := held.contains code
  return {
    code, granted
    basis := subject.basis
    reason := subject.basis.reason granted account tenant code roles held
    account := subject.state? tenant roles held
    suggestions := if granted then [] else subject.basis.suggestions code }

end TenantAccess
