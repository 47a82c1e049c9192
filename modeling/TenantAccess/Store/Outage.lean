import TenantAccess.Query

/-!
# Outages

To try out what a query does when a store fails, a backend can be given outages: reads of a kind
fail from some call on. The calls are counted over the journal of all reads so far, and a read is
noted in the journal before it is replied to.
-/

namespace TenantAccess

/-- The kinds of reads. -/
inductive ReadKind where
  | account | enabledRoles | assignedRoles | linkedPermissions | roleRanges | permissions | menus
  | tenant | application | applicationByCode
  deriving DecidableEq, Repr

/-- The kind of a read. -/
def Read.kind : Read → ReadKind
  | .account .. => .account
  | .enabledRoles .. => .enabledRoles
  | .assignedRoles .. => .assignedRoles
  | .linkedPermissions .. => .linkedPermissions
  | .roleRanges .. => .roleRanges
  | .permissions .. => .permissions
  | .menus .. => .menus
  | .tenant .. => .tenant
  | .application .. => .application
  | .applicationByCode .. => .applicationByCode

/-- Reads of a kind fail from a call on. -/
structure Outage where
  kind : ReadKind
  /-- The first call that fails, counted from one. -/
  fromCall : Nat := 1
  fault : StoreFault
  deriving DecidableEq, Repr

/-- The fault of a read after the reads of a journal, if an outage covers it. -/
def Outage.faultOf? (outages : List Outage) (journal : List Read) (r : Read) : Option StoreFault :=
  (outages.find? fun o =>
    o.kind = r.kind && o.fromCall ≤ journal.countP (·.kind = r.kind) + 1).map Outage.fault

/-- A server over a backend that notes every read in a journal, the last first, and fails those that
an outage covers. -/
def Query.Backend.withOutages (backend : Query.Backend) (outages : List Outage) :
    Query.Server (List Read) := fun r journal =>
  let reply := match Outage.faultOf? outages journal r with
    | some fault => .error fault
    | none => backend r
  (reply, r :: journal)

end TenantAccess
