import TenantAccess.Store.Keyed
import TenantAccess.Tenancy

/-!
# Tables of tenants' rows

A table keeps rows under a tenant and a key, so the same key stands for different rows in different
tenants, and whatever is asked is asked of one tenant. When a writer dies in the middle of its work
the table is poisoned: nobody knows what state its rows are in, so from then on every step fails and
the rows stay as they are.
-/

namespace TenantAccess

/-- Rows under tenants and keys. -/
structure TenantTable (κ ν : Type) where
  /-- What the table is called in faults. -/
  name : String
  poisoned : Bool := false
  rows : Keyed (TenantCode × κ) ν := ∅

namespace TenantTable

variable {κ ν : Type}

/-- The outcome of a step: a poisoned table fails. -/
def guarded {α : Type} (t : TenantTable κ ν) (outcome : α) : Except StoreFault α :=
  if t.poisoned then .error (.backend s!"{t.name} table lock poisoned") else .ok outcome

/-- The rows stored under a tenant that pass a test. -/
def filter (t : TenantTable κ ν) (tenant : TenantCode) (p : ν → Bool) :
    Except StoreFault (List ν) :=
  t.guarded <| (t.rows.entries.filter fun e => e.1.1 = tenant && p e.2).map Prod.snd

/-- The table without the rows of a tenant. -/
def clearTenant (t : TenantTable κ ν) (tenant : TenantCode) :
    Except StoreFault (TenantTable κ ν) :=
  t.guarded { t with rows := t.rows.keep fun k => k.1 ≠ tenant }

/-- The table after a writer has died in it. -/
def poison (t : TenantTable κ ν) : Except StoreFault (TenantTable κ ν) :=
  t.guarded { t with poisoned := true }

variable [DecidableEq κ]

/-- The row stored under a tenant and a key. -/
def get? (t : TenantTable κ ν) (tenant : TenantCode) (key : κ) : Except StoreFault (Option ν) :=
  t.guarded (t.rows.get? (tenant, key))

/-- The rows stored under a tenant and each of the keys, in the order of the keys; keys without a
row are skipped. -/
def getMany (t : TenantTable κ ν) (tenant : TenantCode) (keys : List κ) :
    Except StoreFault (List ν) :=
  t.guarded (keys.filterMap fun key => t.rows.get? (tenant, key))

/-- The table with a row under a tenant and a key, whatever tenant the row itself names. -/
def upsert (t : TenantTable κ ν) (tenant : TenantCode) (key : κ) (row : ν) :
    Except StoreFault (TenantTable κ ν) :=
  t.guarded { t with rows := t.rows.insert (tenant, key) row }

/-- The table with a row under its own tenant and id. -/
def put {kind : IdKind} [TenantScoped ν] [Entity ν kind] (t : TenantTable (Identifier kind) ν)
    (row : ν) : Except StoreFault (TenantTable (Identifier kind) ν) :=
  t.upsert (TenantScoped.tenantOf row) (Entity.idOf row) row

end TenantTable

end TenantAccess
