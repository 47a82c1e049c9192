import TenantAccess.Account
import TenantAccess.Directory
import TenantAccess.Menu
import TenantAccess.Role

/-!
# Queries

Rights are worked out from rows that others keep. A `Query` is the whole of what such a computation
does: it asks for rows, one `Read` at a time, and goes on with what it is told, until it answers or
refuses. Nothing is assumed of those who answer. They may be a table, a stranger that lies, or a
store that changes between two reads; `Query.serve` runs a query against any of them, and
`Query.run` against one that always gives the same reply to the same read. A read that fails ends
the query with its fault.
-/

namespace TenantAccess

/-- A request for rows. -/
inductive Read where
  /-- The account with an id. -/
  | account (id : AccountId) (tenant : TenantCode)
  /-- The enabled roles, of one application or of all. -/
  | enabledRoles (scope : Option ApplicationId) (tenant : TenantCode)
  /-- The ids of the roles that are assigned to a holder. -/
  | assignedRoles (holder : Principal) (tenant : TenantCode)
  /-- The permissions that any of the roles is linked to. -/
  | linkedPermissions (roles : List RoleId) (scope : Option ApplicationId) (tenant : TenantCode)
  /-- The ranges of any of the roles. -/
  | roleRanges (roles : List RoleId) (tenant : TenantCode)
  /-- The permissions of one application or of all. -/
  | permissions (scope : Option ApplicationId) (tenant : TenantCode)
  /-- The menus with any of the ids, of one type or of all. -/
  | menus (ids : List MenuId) (menuType : Option String) (tenant : TenantCode)
  /-- The tenant with a code. -/
  | tenant (code : TenantCode)
  /-- The application with an id. -/
  | application (id : ApplicationId)
  /-- The application with a code. -/
  | applicationByCode (code : String)
  deriving DecidableEq, Repr

/-- What a read is replied with. -/
abbrev Read.Reply : Read → Type
  | .account .. => Option Account
  | .enabledRoles .. => List Role
  | .assignedRoles .. => List RoleId
  | .linkedPermissions .. => List Permission
  | .roleRanges .. => List RoleRange
  | .permissions .. => List Permission
  | .menus .. => List Menu
  | .tenant .. => Option Tenant
  | .application .. => Option Application
  | .applicationByCode .. => Option Application

/-- A computation that reads rows. -/
inductive Query (α : Type) : Type where
  | answer (a : α)
  | refuse (e : AccessError)
  /-- The query gave up on a walk that did not end within its bound. -/
  | stall
  | ask (r : Read) (next : r.Reply → Query α)

/-- What comes of a query. -/
inductive Outcome (α : Type) where
  | answered (a : α)
  | refused (e : AccessError)
  | stalled
  deriving DecidableEq, Repr

/-- The outcome with its answer in another form. -/
def Outcome.map {α β : Type} (f : α → β) : Outcome α → Outcome β
  | .answered a => .answered (f a)
  | .refused e => .refused e
  | .stalled => .stalled

namespace Query

variable {α β γ σ : Type}

/-- Goes on with the answer of a query. -/
def bind : Query α → (α → Query β) → Query β
  | .answer a, f => f a
  | .refuse e, _ => .refuse e
  | .stall, _ => .stall
  | .ask r next, f => .ask r fun reply => (next reply).bind f

theorem bind_answer (q : Query α) : q.bind answer = q := by
  induction q with
  | answer | refuse | stall => rfl
  | ask r next ih => exact congrArg (ask r) (funext ih)

theorem bind_assoc (q : Query α) (f : α → Query β) (g : β → Query γ) :
    (q.bind f).bind g = q.bind fun a => (f a).bind g := by
  induction q with
  | answer | refuse | stall => rfl
  | ask r next ih => exact congrArg (ask r) (funext ih)

instance : Monad Query where
  pure := answer
  bind := bind

instance : LawfulMonad Query := .mk' Query bind_answer (fun _ _ => rfl) bind_assoc

/-- Asks for rows. -/
def read (r : Read) : Query r.Reply := .ask r .answer

/-- Asks for rows that belong to the tenant and refuses to go on when a row of another tenant is
among them, whether or not it would have been used. `noun` is what the rows are called. -/
def ownRows [TenantScoped α] (noun : String) (tenant : TenantCode) (rows : List α) :
    Query Unit :=
  match rows.find? fun row => !belongsTo row tenant with
  | some row =>
    .refuse <| .store <| .tenantIsolation
      s!"{noun} of tenant '{(TenantScoped.tenantOf row).text}' returned for tenant '{tenant.text}'"
  | none => .answer ()

/-! ## Running a query -/

/-- Those who reply to reads; a reply may depend on a state and change it. -/
abbrev Server (σ : Type) := (r : Read) → σ → Except StoreFault r.Reply × σ

/-- Runs a query against a server. -/
def serve (server : Server σ) : Query α → σ → Outcome α × σ
  | .answer a, s => (.answered a, s)
  | .refuse e, s => (.refused e, s)
  | .stall, s => (.stalled, s)
  | .ask r next, s =>
    match server r s with
    | (.ok reply, s') => (next reply).serve server s'
    | (.error fault, s') => (.refused (.store fault), s')

/-- Those who reply to reads and always give the same reply to the same read. -/
abbrev Backend := (r : Read) → Except StoreFault r.Reply

/-- Runs a query against a backend. -/
def run (backend : Backend) : Query α → Outcome α
  | .answer a => .answered a
  | .refuse e => .refused e
  | .stall => .stalled
  | .ask r next =>
    match backend r with
    | .ok reply => (next reply).run backend
    | .error fault => .refused (.store fault)

/-- A backend as a server whose state stays as it is. -/
def Backend.toServer (backend : Backend) : Server σ := fun r s => (backend r, s)

/-- A server that keeps a journal of the reads, the last first, before it replies to them. -/
def Server.journaled (server : Server σ) : Server (List Read × σ) := fun r (journal, s) =>
  let (reply, s') := server r s
  (reply, r :: journal, s')

end Query

end TenantAccess
