import TenantAccess.Listing
import TenantAccess.Query
import TenantAccess.Settings

/-!
# Whom a question is about

Before rights are worked out, the account is looked up and classified by how it comes by rights. The
supervisor exists in the settings only: its id never reaches a store, so no stored row can stand in
for it, and no other account becomes the supervisor by what its row says. An officer is found by the
username of the account's row.
-/

namespace TenantAccess

/-- Works out rights under given settings. -/
structure Resolver where
  settings : AdminSettings
  /-- How many levels of parents a walk through the menus takes before it gives up. -/
  levels : Nat
  /-- How ranges that were freed of repetitions come out of their collection. -/
  rangeOrder : Arrangement RoleRange := {}
  /-- How the menus that a walk has found come out of their collection. -/
  menuOrder : Arrangement Menu := {}

/-- An account, classified by how it comes by rights. -/
inductive Subject where
  /-- There is no such account. -/
  | absent
  /-- The account is disabled or deleted; `kind` is what it would be otherwise. -/
  | inactive (account : Account) (kind : AccountKind)
  | supervisor (account : Account)
  /-- An administrator, with the officer of that username in the settings. -/
  | officer (account : Account) (entry : Option OfficerSettings)
  | member (account : Account)
  deriving DecidableEq, Repr

namespace Subject

/-- The account, if there is one. -/
def account? : Subject → Option Account
  | .absent => none
  | .inactive a _ | .supervisor a | .officer a _ | .member a => some a

/-- The kind of the account, if there is one. -/
def kind? : Subject → Option AccountKind
  | .absent => none
  | .inactive _ kind => some kind
  | .supervisor _ => some .supervisor
  | .officer .. => some .officer
  | .member _ => some .member

end Subject

/-- The kind of an account: its row says whether it is an administrator, its id whether it is the
supervisor. -/
def AdminSettings.kindOf (s : AdminSettings) (a : Account) : AccountKind :=
  if !a.admin then .member
  else if s.supervisor.owns a.id then .supervisor
  else .officer

/-- The subject that an account is. -/
def AdminSettings.classify (s : AdminSettings) (a : Account) : Subject :=
  if !a.isActive then .inactive a (s.kindOf a)
  else
    match s.kindOf a with
    | .member => .member a
    | .supervisor => .supervisor a
    | .officer => .officer a (s.officer? a.username)

/-- Looks up an account. The supervisor is made from the settings for the tenant at hand, without a
read. -/
def SupervisorSettings.lookUp (s : SupervisorSettings) (id : AccountId) (tenant : TenantCode) :
    Query (Option Account) :=
  if s.owns id then .answer (some (s.toAccount tenant)) else .read (.account id tenant)

/-- Looks up an account and classifies it. -/
def Resolver.subject (R : Resolver) (id : AccountId) (tenant : TenantCode) : Query Subject := do
  match ← R.settings.supervisor.lookUp id tenant with
  | none => return .absent
  | some account =>
    Query.ownRows "account" tenant [account]
    return R.settings.classify account

end TenantAccess
