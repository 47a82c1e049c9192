import TenantAccess.Proofs.Listing
import TenantAccess.Proofs.Query
import TenantAccess.Proofs.Store.Contents
import TenantAccess.Store.Memory

/-!
# What a store replies

`Read.Fits` says of every read which rows belong into its reply: those of a set that the read asks
for, in any order and as often as may be. A server `Honours` a set of rows for a tenant when it
replies so to every read that concerns the tenant, whatever has been read before. What the resolver
answers is worked out from this contract alone.

The memory store keeps it. Its tables are walked in an order that nobody knows, so a server `Serves`
a store when each of its replies is the reply of a rearrangement of the store, a new one for every
read if it likes. The ids of linked permissions are gathered on the way in the order of the links,
so their order is as free. `Serves.honours` is the bridge: a server of a store that represents rows
honours them.
-/

namespace TenantAccess

variable {σ : Type} {rows rows' : Set Row} {s s' : MemoryStore} {tenant : TenantCode}

namespace Read

/-- Whether a read is about a tenant; the applications of the directory are everybody's. -/
def concerns (tenant : TenantCode) : Read → Bool
  | .account _ t | .enabledRoles _ t | .assignedRoles _ t | .linkedPermissions _ _ t
  | .roleRanges _ t | .permissions _ t | .menus _ _ t | .tenant t => t = tenant
  | .application _ | .applicationByCode _ => true

/-- The reply to a read holds what the read asks for of a set of rows, and nothing else. -/
def Fits (rows : Set Row) : (r : Read) → r.Reply → Prop
  | .account id tenant => fun (reply : Option Account) =>
    ∀ a, reply = some a ↔ (.account a ∈ rows ∧ a.tenant = tenant) ∧ a.id = id
  | .enabledRoles scope tenant => fun (reply : List Role) =>
    ∀ r, r ∈ reply ↔
      (.role r ∈ rows ∧ r.tenant = tenant) ∧ r.enabled ∧ ∀ a ∈ scope, r.applicationId = a
  | .assignedRoles holder tenant => fun (reply : List RoleId) =>
    ∀ id, id ∈ reply ↔ .roleAssignment ⟨id, holder.id, holder.kind, tenant⟩ ∈ rows
  | .linkedPermissions roles scope tenant => fun (reply : List Permission) =>
    ∀ p, p ∈ reply ↔
      (.permission p ∈ rows ∧ p.tenant = tenant) ∧ (∀ a ∈ scope, p.applicationId = a) ∧
        ∃ role ∈ roles, .permissionLink ⟨role, p.id, tenant⟩ ∈ rows
  | .roleRanges roles tenant => fun (reply : List RoleRange) =>
    ∀ r, r ∈ reply ↔ (.roleRange r ∈ rows ∧ r.tenant = tenant) ∧ r.roleId ∈ roles
  | .permissions scope tenant => fun (reply : List Permission) =>
    ∀ p, p ∈ reply ↔
      (.permission p ∈ rows ∧ p.tenant = tenant) ∧ ∀ a ∈ scope, p.applicationId = a
  | .menus ids menuType tenant => fun (reply : List Menu) =>
    ∀ m, m ∈ reply ↔
      (.menu m ∈ rows ∧ m.tenant = tenant) ∧ m.id ∈ ids ∧ ∀ t ∈ menuType, m.menuType = t
  | .tenant code => fun (reply : Option Tenant) =>
    ∀ t, reply = some t ↔ .tenant t ∈ rows ∧ t.code = code
  | .application id => fun (reply : Option Application) =>
    ∀ a, reply = some a ↔ .application a ∈ rows ∧ a.id = id
  | .applicationByCode code => fun (reply : Option Application) =>
    (∀ a, reply = some a → .application a ∈ rows ∧ a.code = code) ∧
      (reply = none → ∀ a, .application a ∈ rows → a.code ≠ code)

end Read

/-- A server replies to every read that concerns a tenant with what the read asks for of a set of
rows. No two of the rows have the same place. -/
structure Query.Server.Honours (server : Query.Server σ) (tenant : TenantCode) (rows : Set Row) :
    Prop where
  place_inj : ∀ {row row'}, row ∈ rows → row' ∈ rows → row.place = row'.place → row = row'
  reply : ∀ r : Read, r.concerns tenant →
    ∀ st, ∃ reply, (server r st).1 = .ok reply ∧ r.Fits rows reply

/-- A read that concerns the tenant yields what it asks for. -/
theorem Query.Server.Honours.read {server : Query.Server σ} (h : server.Honours tenant rows)
    (r : Read) (hr : r.concerns tenant) : Query.Yields server (Query.read r) (r.Fits rows) :=
  Query.Yields.read (h.reply r hr)

/-! ## Rearrangements of a store -/

/-- Two tables hold the same entries, perhaps in another order. -/
structure TenantTable.Rearranges {κ ν : Type} (t' t : TenantTable κ ν) : Prop where
  name : t'.name = t.name
  poisoned : t'.poisoned = t.poisoned
  entries : t'.rows.entries.Perm t.rows.entries

/-- Two stores hold the same entries in every table, perhaps in another order. -/
structure MemoryStore.Rearranges (s' s : MemoryStore) : Prop where
  tenants : s'.tenants.entries.Perm s.tenants.entries
  applications : s'.applications.entries.Perm s.applications.entries
  accounts : s'.accounts.Rearranges s.accounts
  roles : s'.roles.Rearranges s.roles
  permissionLinks : s'.permissionLinks.Rearranges s.permissionLinks
  roleAssignments : s'.roleAssignments.Rearranges s.roleAssignments
  roleRanges : s'.roleRanges.Rearranges s.roleRanges
  menus : s'.menus.Rearranges s.menus
  permissions : s'.permissions.Rearranges s.permissions

/-- A server replies as a store does, which may be rearranged before every read. -/
def Query.Server.Serves (server : Query.Server σ) (s : MemoryStore) : Prop :=
  ∀ r st, ∃ s' : MemoryStore, s'.Rearranges s ∧ (server r st).1 = s'.reply r

/-- A table is a rearrangement of itself. -/
theorem TenantTable.Rearranges.refl {κ ν : Type} (t : TenantTable κ ν) : t.Rearranges t :=
  ⟨rfl, rfl, .refl _⟩

/-- A store is a rearrangement of itself. -/
theorem MemoryStore.Rearranges.refl (s : MemoryStore) : s.Rearranges s :=
  ⟨.refl _, .refl _, .refl _, .refl _, .refl _, .refl _, .refl _, .refl _, .refl _⟩

/-- A store is served by itself. -/
theorem MemoryStore.serves_reply (s : MemoryStore) :
    (s.reply.toServer : Query.Server σ).Serves s :=
  fun _ _ => ⟨s, .refl s, rfl⟩

/-- What stands under a key does not depend on the order of the entries. -/
theorem Keyed.get?_eq_of_perm {κ ν : Type} [DecidableEq κ] {m m' : Keyed κ ν}
    (h : m'.entries.Perm m.entries) (k : κ) : m'.get? k = m.get? k := by
  ext v
  rw [← Keyed.mem_entries_iff, ← Keyed.mem_entries_iff, h.mem_iff]

namespace MemoryStore

/-- A rearranged store represents the same rows. -/
theorem Represents.of_rearranges (h : s.Represents rows) (hs : s'.Rearranges s) :
    s'.Represents rows where
  intact :=
    { accounts := hs.accounts.poisoned.trans h.intact.accounts
      roles := hs.roles.poisoned.trans h.intact.roles
      permissionLinks := hs.permissionLinks.poisoned.trans h.intact.permissionLinks
      roleAssignments := hs.roleAssignments.poisoned.trans h.intact.roleAssignments
      roleRanges := hs.roleRanges.poisoned.trans h.intact.roleRanges
      menus := hs.menus.poisoned.trans h.intact.menus
      permissions := hs.permissions.poisoned.trans h.intact.permissions }
  rowAt?_eq_some p row := by
    have hrow : s'.rowAt? p = s.rowAt? p := by
      cases p with
      | tenant => rw [rowAt?, rowAt?, Keyed.get?_eq_of_perm hs.tenants]
      | application => rw [rowAt?, rowAt?, Keyed.get?_eq_of_perm hs.applications]
      | account => rw [rowAt?, rowAt?, Keyed.get?_eq_of_perm hs.accounts.entries]
      | role => rw [rowAt?, rowAt?, Keyed.get?_eq_of_perm hs.roles.entries]
      | permissionLink => rw [rowAt?, rowAt?, Keyed.get?_eq_of_perm hs.permissionLinks.entries]
      | roleAssignment => rw [rowAt?, rowAt?, Keyed.get?_eq_of_perm hs.roleAssignments.entries]
      | roleRange => rw [rowAt?, rowAt?, Keyed.get?_eq_of_perm hs.roleRanges.entries]
      | menu => rw [rowAt?, rowAt?, Keyed.get?_eq_of_perm hs.menus.entries]
      | permission => rw [rowAt?, rowAt?, Keyed.get?_eq_of_perm hs.permissions.entries]
    rw [hrow, h.rowAt?_eq_some]

/-- No two rows of a set that a store represents have the same place. -/
theorem Represents.place_inj (h : s.Represents rows) {row row' : Row} (hrow : row ∈ rows)
    (hrow' : row' ∈ rows) (hplace : row.place = row'.place) : row = row' := by
  have h₁ := (h.rowAt?_eq_some row.place row).2 ⟨hrow, rfl⟩
  have h₂ := (h.rowAt?_eq_some row.place row').2 ⟨hrow', hplace.symm⟩
  exact Option.some.inj (h₁.symm.trans h₂)

end MemoryStore

/-! ## Replies -/

section
variable {κ ν : Type} {t : TenantTable κ ν}

/-- A walk over a table that is not poisoned finds the rows of the tenant that pass the test. -/
theorem TenantTable.exists_filter [DecidableEq κ] (h : t.poisoned = false) (tenant : TenantCode)
    (p : ν → Bool) : ∃ found, t.filter tenant p = .ok found ∧
      ∀ v, v ∈ found ↔ (∃ key, t.rows.get? (tenant, key) = some v) ∧ p v := by
  refine ⟨_, by rw [filter, guarded, h]; rfl, fun v => ?_⟩
  simp only [List.mem_map, List.mem_filter, Bool.and_eq_true, decide_eq_true_eq]
  constructor
  · rintro ⟨⟨⟨t', key⟩, v⟩, ⟨he, rfl, hp⟩, rfl⟩
    exact ⟨⟨key, Keyed.mem_entries_iff.1 he⟩, hp⟩
  · rintro ⟨⟨key, hget⟩, hp⟩
    exact ⟨((tenant, key), v), ⟨Keyed.mem_entries_iff.2 hget, rfl, hp⟩, rfl⟩

/-- A look under keys in a table that is not poisoned finds the rows that stand under them. -/
theorem TenantTable.exists_getMany [DecidableEq κ] (h : t.poisoned = false) (tenant : TenantCode)
    (keys : List κ) : ∃ found, t.getMany tenant keys = .ok found ∧
      ∀ v, v ∈ found ↔ ∃ key ∈ keys, t.rows.get? (tenant, key) = some v := by
  refine ⟨_, by rw [getMany, guarded, h]; rfl, fun v => ?_⟩
  simp only [List.mem_filterMap]

end

/-- An application lies in a scope when it is the one that the scope names, if it names one. -/
theorem inScope_iff {scope : Option ApplicationId} {application : ApplicationId} :
    inScope scope application = true ↔ ∀ a ∈ scope, application = a := by
  cases scope <;> simp [inScope]

namespace MemoryStore

/-- The ids gathered from the links of some roles. -/
theorem Represents.exists_linkedIds (h : s.Represents rows) (roles : List RoleId)
    (tenant : TenantCode) : ∃ ids, s.linkedIds roles tenant = .ok ids ∧
      ∀ id, id ∈ ids ↔ ∃ role ∈ roles, .permissionLink ⟨role, id, tenant⟩ ∈ rows := by
  obtain ⟨links, hlinks, hmem⟩ := TenantTable.exists_filter h.intact.permissionLinks tenant
    fun l => roles.contains l.roleId
  refine ⟨distinctBy id (links.map PermissionLink.permissionId), by rw [linkedIds, hlinks]; rfl,
    fun permission => ?_⟩
  rw [mem_distinctBy id fun _ _ _ _ h => h, List.mem_map]
  constructor
  · rintro ⟨l, hl, rfl⟩
    obtain ⟨⟨key, hkey⟩, hrole⟩ := (hmem l).1 hl
    obtain ⟨⟨hrow, rfl⟩, -⟩ := h.get?_permissionLink.1 hkey
    exact ⟨l.roleId, List.contains_iff_mem.1 hrole, hrow⟩
  · rintro ⟨role, hrole, hrow⟩
    have hkey := h.get?_permissionLink.2 ⟨⟨hrow, rfl⟩, rfl⟩
    exact ⟨_, (hmem _).2 ⟨⟨_, hkey⟩, List.contains_iff_mem.2 hrole⟩, rfl⟩

/-- The ids gathered from the assignments to a holder. -/
theorem Represents.exists_assignedRoles (h : s.Represents rows) (holder : Principal)
    (tenant : TenantCode) : ∃ ids, s.reply (.assignedRoles holder tenant) = .ok ids ∧
      ∀ id, id ∈ ids ↔ .roleAssignment ⟨id, holder.id, holder.kind, tenant⟩ ∈ rows := by
  obtain ⟨found, hfound, hmem⟩ := TenantTable.exists_filter h.intact.roleAssignments tenant
    fun a => a.principal = holder
  refine ⟨found.map RoleAssignment.roleId, by rw [reply, hfound]; rfl, fun id => ?_⟩
  rw [List.mem_map]
  constructor
  · rintro ⟨a, ha, rfl⟩
    obtain ⟨⟨key, hkey⟩, hholder⟩ := (hmem a).1 ha
    obtain ⟨⟨hrow, rfl⟩, -⟩ := h.get?_roleAssignment.1 hkey
    obtain rfl := of_decide_eq_true hholder
    exact hrow
  · intro hrow
    have hkey := h.get?_roleAssignment.2 ⟨⟨hrow, rfl⟩, rfl⟩
    exact ⟨_, (hmem _).2 ⟨⟨_, hkey⟩, decide_eq_true rfl⟩, rfl⟩

/-- The permissions of the scope under some ids. -/
theorem Represents.exists_permissionsById (h : s.Represents rows) (ids : List PermissionId)
    (scope : Option ApplicationId) (tenant : TenantCode) :
    ∃ found, s.permissionsById ids scope tenant = .ok found ∧
      ∀ p, p ∈ found ↔ (.permission p ∈ rows ∧ p.tenant = tenant) ∧
        (∀ a ∈ scope, p.applicationId = a) ∧ p.id ∈ ids := by
  obtain ⟨found, hfound, hmem⟩ := TenantTable.exists_getMany h.intact.permissions tenant ids
  refine ⟨scopedPermissions scope found, by rw [permissionsById, hfound]; rfl, fun p => ?_⟩
  rw [scopedPermissions, List.mem_filter, hmem, inScope_iff]
  constructor
  · rintro ⟨⟨id, hid, hget⟩, hscope⟩
    obtain ⟨hrow, rfl⟩ := h.get?_permission.1 hget
    exact ⟨hrow, hscope, hid⟩
  · rintro ⟨hrow, hscope, hid⟩
    exact ⟨⟨p.id, hid, h.get?_permission.2 ⟨hrow, rfl⟩⟩, hscope⟩

/-- An intact store that holds the rows of a set replies to a read with what it asks for of them. -/
theorem Represents.exists_reply (h : s.Represents rows) (r : Read) :
    ∃ reply, s.reply r = .ok reply ∧ r.Fits rows reply := by
  cases r with
  | account id tenant =>
    refine ⟨s.accounts.rows.get? (tenant, id), ?_, fun a => h.get?_account⟩
    rw [reply, TenantTable.get?, TenantTable.guarded, h.intact.accounts]
    rfl
  | enabledRoles scope tenant =>
    obtain ⟨found, hfound, hmem⟩ := TenantTable.exists_filter h.intact.roles tenant
      fun r => r.enabled && inScope scope r.applicationId
    refine ⟨found, hfound, fun r => ?_⟩
    simp [hmem, h.get?_role, inScope_iff]
  | assignedRoles holder tenant => exact h.exists_assignedRoles holder tenant
  | linkedPermissions roles scope tenant =>
    obtain ⟨ids, hids, hid⟩ := h.exists_linkedIds roles tenant
    obtain ⟨found, hfound, hmem⟩ := h.exists_permissionsById ids scope tenant
    refine ⟨found, by rw [reply, hids]; exact hfound, fun p => ?_⟩
    rw [hmem, hid]
  | roleRanges roles tenant =>
    obtain ⟨found, hfound, hmem⟩ := TenantTable.exists_filter h.intact.roleRanges tenant
      fun r => roles.contains r.roleId
    refine ⟨found, hfound, fun r => ?_⟩
    simp [hmem, h.get?_roleRange]
  | permissions scope tenant =>
    obtain ⟨found, hfound, hmem⟩ := TenantTable.exists_filter h.intact.permissions tenant
      fun p => inScope scope p.applicationId
    refine ⟨found, hfound, fun p => ?_⟩
    simp [hmem, h.get?_permission, inScope_iff]
  | menus ids menuType tenant =>
    obtain ⟨found, hfound, hmem⟩ := TenantTable.exists_getMany h.intact.menus tenant ids
    refine ⟨found.filter fun m => menuType.all (m.menuType = ·), by rw [reply, hfound]; rfl,
      fun m => ?_⟩
    have hfound : m ∈ found ↔ (.menu m ∈ rows ∧ m.tenant = tenant) ∧ m.id ∈ ids := by
      simp only [hmem, h.get?_menu]
      grind
    rw [List.mem_filter, hfound, and_assoc]
    cases menuType <;> simp
  | tenant code => exact ⟨_, rfl, fun t => h.get?_tenant⟩
  | application id => exact ⟨_, rfl, fun a => h.get?_application⟩
  | applicationByCode code =>
    have hmem : ∀ a, a ∈ s.applications.values ↔ .application a ∈ rows := fun a => by
      simp [Keyed.values, Keyed.mem_entries_iff, h.get?_application]
    refine ⟨_, rfl, fun a ha => ?_, fun hnone a ha => ?_⟩
    · exact ⟨(hmem a).1 (List.mem_of_find?_eq_some ha), by simpa using List.find?_some ha⟩
    · simpa using List.find?_eq_none.1 hnone a ((hmem a).2 ha)

end MemoryStore

/-- A server of a store that represents rows replies to every read with what it asks for of them. -/
theorem Query.Server.Serves.exists_reply {server : Query.Server σ} (hserver : server.Serves s)
    (h : s.Represents rows) (r : Read) (st : σ) :
    ∃ reply, (server r st).1 = .ok reply ∧ r.Fits rows reply := by
  obtain ⟨s', hs', hreply⟩ := hserver r st
  rw [hreply]
  exact (h.of_rearranges hs').exists_reply r

/-- A server of a store that represents rows honours them, for every tenant. -/
theorem Query.Server.Serves.honours {server : Query.Server σ} (hserver : server.Serves s)
    (h : s.Represents rows) (tenant : TenantCode) : server.Honours tenant rows where
  place_inj := h.place_inj
  reply r _ st := hserver.exists_reply h r st

/-! ## Rows that a read regards -/

namespace Read

/-- The rows on which it depends what a read asks for. -/
def Regards : Read → Row → Prop
  | .account id tenant, .account a => a.tenant = tenant ∧ a.id = id
  | .enabledRoles _ tenant, .role r => r.tenant = tenant
  | .assignedRoles holder tenant, .roleAssignment a => a.tenant = tenant ∧ a.principal = holder
  | .linkedPermissions _ _ tenant, .permission p => p.tenant = tenant
  | .linkedPermissions roles _ tenant, .permissionLink l => l.tenant = tenant ∧ l.roleId ∈ roles
  | .roleRanges _ tenant, .roleRange r => r.tenant = tenant
  | .permissions _ tenant, .permission p => p.tenant = tenant
  | .menus _ _ tenant, .menu m => m.tenant = tenant
  | .tenant code, .tenant t => t.code = code
  | .application id, .application a => a.id = id
  | .applicationByCode _, .application _ => True
  | _, _ => False

/-- Rows that agree on what a read regards are not told apart by the replies to it. -/
theorem Fits.congr_of_regards {r : Read} {reply : r.Reply} (h : r.Fits rows reply)
    (hagree : ∀ row, r.Regards row → (row ∈ rows ↔ row ∈ rows')) : r.Fits rows' reply := by
  have hown : ∀ (row : Row) {t tenant : TenantCode}, (t = tenant → r.Regards row) →
      (row ∈ rows ∧ t = tenant ↔ row ∈ rows' ∧ t = tenant) :=
    fun row _ _ hrow => and_congr_left fun ht => hagree row (hrow ht)
  cases r with
  | account id tenant =>
    intro a
    rw [h a, and_assoc, and_assoc]
    exact and_congr_left fun ha => hagree (.account a) ha
  | enabledRoles scope tenant => exact fun r => (h r).trans (and_congr_left' (hown (.role r) id))
  | assignedRoles holder tenant =>
    exact fun id => (h id).trans (hagree (.roleAssignment _) ⟨rfl, rfl⟩)
  | linkedPermissions roles scope tenant =>
    intro p
    rw [h p, hown (.permission p) id]
    have hlink : ∀ role ∈ roles, (.permissionLink ⟨role, p.id, tenant⟩ ∈ rows ↔
        .permissionLink ⟨role, p.id, tenant⟩ ∈ rows') := fun role hrole =>
      hagree (.permissionLink _) ⟨rfl, hrole⟩
    exact and_congr_right' (and_congr_right' (exists_congr fun role => and_congr_right (hlink role)))
  | roleRanges roles tenant => exact fun r => (h r).trans (and_congr_left' (hown (.roleRange r) id))
  | permissions scope tenant => exact fun p => (h p).trans (and_congr_left' (hown (.permission p) id))
  | menus ids menuType tenant => exact fun m => (h m).trans (and_congr_left' (hown (.menu m) id))
  | tenant code => exact fun t => (h t).trans (and_congr_left fun ht => hagree (.tenant t) ht)
  | application id =>
    exact fun a => (h a).trans (and_congr_left fun ha => hagree (.application a) ha)
  | applicationByCode code =>
    have happ : ∀ a, .application a ∈ rows ↔ .application a ∈ rows' := fun a =>
      hagree (.application a) trivial
    simpa only [Fits, happ] using h

/-- What a read that concerns a tenant regards concerns the tenant. -/
theorem Regards.concerns {r : Read} {row : Row} (h : r.Regards row) (hr : r.concerns tenant) :
    row.place.concerns tenant := by
  cases r <;> cases row <;>
    simp_all [Regards, Read.concerns, Row.place, Place.concerns, Place.isOf, Place.isApplication,
      Place.owner?, Place.partition?]

/-- Rows that agree on everything that concerns a tenant are not told apart by the replies to reads
that concern it. -/
theorem Fits.congr {r : Read} {reply : r.Reply} (hr : r.concerns tenant)
    (hagree : ∀ row : Row, row.place.concerns tenant → (row ∈ rows ↔ row ∈ rows'))
    (h : r.Fits rows reply) : r.Fits rows' reply :=
  h.congr_of_regards fun row hrow => hagree row (hrow.concerns hr)

end Read

/-- A server that honours rows honours, for a tenant, all rows that agree with them on everything
that concerns the tenant. -/
theorem Query.Server.Honours.congr {server : Query.Server σ} (h : server.Honours tenant rows)
    (hagree : ∀ row : Row, row.place.concerns tenant → (row ∈ rows ↔ row ∈ rows'))
    (hinj : ∀ {row row'}, row ∈ rows' → row' ∈ rows' → row.place = row'.place → row = row') :
    server.Honours tenant rows' where
  place_inj := hinj
  reply r hr st := by
    obtain ⟨reply, hreply, hfits⟩ := h.reply r hr st
    exact ⟨reply, hreply, hfits.congr hr hagree⟩

end TenantAccess
