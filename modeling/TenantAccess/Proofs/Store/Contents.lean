import TenantAccess.Proofs.Store.History

/-!
# The memory store holds the rows of its history

`MemoryStore.rowAt?` looks a place up in the table that it belongs to. A store `Represents` a set of
rows when no table is poisoned and what stands at a place is the row of the set with that place. A
write never fails on such a store, and the store it leaves represents the rows that the write leaves
(`Represents.write`); so every history can be written, and the store then represents `Current` of it
(`exists_writeAll`). Each step is on one table: `exists_put` and `exists_clear` say what it does to
every place, and nothing later looks into a table again. What a store represents leaves open in
which order it keeps its rows; for the applications `applications_writeAll` says on which writes the
order depends.
-/

namespace TenantAccess

variable {κ ν : Type} {s : MemoryStore} {rows : Set Row}

/-- What succeeds in two steps succeeds in the first, and then in the second. -/
theorem bind_eq_ok_iff {ε α β : Type} {x : Except ε α} {f : α → Except ε β} {b : β} :
    x >>= f = .ok b ↔ ∃ a, x = .ok a ∧ f a = .ok b := by
  cases x <;> simp [bind, Except.bind]

/-! ## Tables -/

section
variable [DecidableEq κ] {m : Keyed κ ν}

/-- The entries of a map are its keys with the values under them. -/
theorem Keyed.mem_entries_iff {k : κ} {v : ν} : (k, v) ∈ m.entries ↔ m.get? k = some v := by
  obtain ⟨entries, hnodup⟩ := m
  simp only [Keyed.get?]
  induction entries with
  | nil => simp [lookupEntry]
  | cons e rest ih =>
    obtain ⟨k', v'⟩ := e
    obtain ⟨hk', hrest⟩ := List.nodup_cons.1 hnodup
    by_cases hkk : k' = k
    · subst hkk
      have hnot : (k', v) ∉ rest := fun h => hk' (List.mem_map.2 ⟨_, h, rfl⟩)
      simp [lookupEntry, hnot, eq_comm]
    · simp [lookupEntry, hkk, Ne.symm hkk, ih hrest]

end

namespace TenantTable

variable {t : TenantTable κ ν}

/-- The table with a row under a tenant and a key. -/
def inserted [DecidableEq κ] (t : TenantTable κ ν) (tenant : TenantCode) (key : κ) (row : ν) :
    TenantTable κ ν :=
  { t with rows := t.rows.insert (tenant, key) row }

/-- The table without the rows of a tenant. -/
def cleared (t : TenantTable κ ν) (tenant : TenantCode) : TenantTable κ ν :=
  { t with rows := t.rows.keep fun k => k.1 ≠ tenant }

/-- An insertion into a table that is not poisoned does not fail. -/
theorem upsert_of_intact [DecidableEq κ] (h : t.poisoned = false) (tenant : TenantCode) (key : κ)
    (row : ν) : t.upsert tenant key row = .ok (t.inserted tenant key row) := by
  simp [upsert, guarded, h, inserted]

/-- Clearing a tenant from a table that is not poisoned does not fail. -/
theorem clearTenant_of_intact (h : t.poisoned = false) (tenant : TenantCode) :
    t.clearTenant tenant = .ok (t.cleared tenant) := by
  simp [clearTenant, guarded, h, cleared]

@[simp] theorem get?_inserted [DecidableEq κ] (tenant : TenantCode) (key : κ) (row : ν)
    (k : TenantCode × κ) : (t.inserted tenant key row).rows.get? k =
      if (tenant, key) = k then some row else t.rows.get? k :=
  Keyed.get?_insert ..

@[simp] theorem get?_cleared [DecidableEq κ] (tenant : TenantCode) (k : TenantCode × κ) :
    (t.cleared tenant).rows.get? k = if k.1 ≠ tenant then t.rows.get? k else none := by
  simp [cleared, Keyed.get?_keep]

end TenantTable

/-! ## Places -/

namespace MemoryStore

/-- The row at a place. -/
def rowAt? (s : MemoryStore) : Place → Option Row
  | .tenant code => (s.tenants.get? code).map .tenant
  | .application id => (s.applications.get? id).map .application
  | .account t id => (s.accounts.rows.get? (t, id)).map .account
  | .role t id => (s.roles.rows.get? (t, id)).map .role
  | .permissionLink t key => (s.permissionLinks.rows.get? (t, key)).map .permissionLink
  | .roleAssignment t key => (s.roleAssignments.rows.get? (t, key)).map .roleAssignment
  | .roleRange t key => (s.roleRanges.rows.get? (t, key)).map .roleRange
  | .menu t id => (s.menus.rows.get? (t, id)).map .menu
  | .permission t id => (s.permissions.rows.get? (t, id)).map .permission

/-- No table is poisoned. -/
structure Intact (s : MemoryStore) : Prop where
  accounts : s.accounts.poisoned = false := by rfl
  roles : s.roles.poisoned = false := by rfl
  permissionLinks : s.permissionLinks.poisoned = false := by rfl
  roleAssignments : s.roleAssignments.poisoned = false := by rfl
  roleRanges : s.roleRanges.poisoned = false := by rfl
  menus : s.menus.poisoned = false := by rfl
  permissions : s.permissions.poisoned = false := by rfl

/-- An intact store holds the rows of a set, each at its place, and nothing else. -/
structure Represents (s : MemoryStore) (rows : Set Row) : Prop where
  intact : s.Intact
  rowAt?_eq_some : ∀ p row, s.rowAt? p = some row ↔ row ∈ rows ∧ row.place = p

/-! What stands under a key of each table of a store that represents rows. -/

namespace Represents

variable (h : s.Represents rows) {t : TenantCode}
include h

theorem get?_tenant {x : Tenant} : s.tenants.get? t = some x ↔ .tenant x ∈ rows ∧ x.code = t := by
  simpa [rowAt?, Row.place] using h.rowAt?_eq_some (.tenant t) (.tenant x)

theorem get?_application {id : ApplicationId} {a : Application} :
    s.applications.get? id = some a ↔ .application a ∈ rows ∧ a.id = id := by
  simpa [rowAt?, Row.place] using h.rowAt?_eq_some (.application id) (.application a)

theorem get?_account {id : AccountId} {a : Account} :
    s.accounts.rows.get? (t, id) = some a ↔ (.account a ∈ rows ∧ a.tenant = t) ∧ a.id = id := by
  simpa [rowAt?, Row.place, and_assoc] using h.rowAt?_eq_some (.account t id) (.account a)

theorem get?_role {id : RoleId} {r : Role} :
    s.roles.rows.get? (t, id) = some r ↔ (.role r ∈ rows ∧ r.tenant = t) ∧ r.id = id := by
  simpa [rowAt?, Row.place, and_assoc] using h.rowAt?_eq_some (.role t id) (.role r)

theorem get?_permissionLink {key : RoleId × PermissionId} {l : PermissionLink} :
    s.permissionLinks.rows.get? (t, key) = some l ↔
      (.permissionLink l ∈ rows ∧ l.tenant = t) ∧ (l.roleId, l.permissionId) = key := by
  simpa [rowAt?, Row.place, and_assoc] using
    h.rowAt?_eq_some (.permissionLink t key) (.permissionLink l)

theorem get?_roleAssignment {key : RoleId × Principal} {a : RoleAssignment} :
    s.roleAssignments.rows.get? (t, key) = some a ↔
      (.roleAssignment a ∈ rows ∧ a.tenant = t) ∧ (a.roleId, a.principal) = key := by
  simpa [rowAt?, Row.place, and_assoc] using
    h.rowAt?_eq_some (.roleAssignment t key) (.roleAssignment a)

theorem get?_roleRange {key : RangeKey} {r : RoleRange} :
    s.roleRanges.rows.get? (t, key) = some r ↔
      (.roleRange r ∈ rows ∧ r.tenant = t) ∧ r.key = key := by
  simpa [rowAt?, Row.place, and_assoc] using h.rowAt?_eq_some (.roleRange t key) (.roleRange r)

theorem get?_menu {id : MenuId} {m : Menu} :
    s.menus.rows.get? (t, id) = some m ↔ (.menu m ∈ rows ∧ m.tenant = t) ∧ m.id = id := by
  simpa [rowAt?, Row.place, and_assoc] using h.rowAt?_eq_some (.menu t id) (.menu m)

theorem get?_permission {id : PermissionId} {p : Permission} :
    s.permissions.rows.get? (t, id) = some p ↔
      (.permission p ∈ rows ∧ p.tenant = t) ∧ p.id = id := by
  simpa [rowAt?, Row.place, and_assoc] using h.rowAt?_eq_some (.permission t id) (.permission p)

end Represents

/-- What a put does to every place: the row stands at its own, all else is as before. -/
theorem exists_put (h : s.Intact) (row : Row) : ∃ s', s.put row = .ok s' ∧ s'.Intact ∧
    ∀ p, s'.rowAt? p = if row.place = p then some row else s.rowAt? p := by
  cases row with
  | tenant row =>
    refine ⟨_, rfl, { h with }, fun p => ?_⟩
    cases p <;> simp [rowAt?, Row.place, Keyed.get?_insert, apply_ite (Option.map _)]
  | application row =>
    refine ⟨_, rfl, { h with }, fun p => ?_⟩
    cases p <;> simp [rowAt?, Row.place, Keyed.get?_insert, apply_ite (Option.map _)]
  | account row =>
    refine ⟨{ s with accounts := s.accounts.inserted row.tenant row.id row }, ?_, { h with },
      fun p => ?_⟩
    · rw [put, TenantTable.put, TenantTable.upsert_of_intact h.accounts]; rfl
    · cases p <;> simp [rowAt?, Row.place, apply_ite (Option.map _)]
  | role row =>
    refine ⟨{ s with roles := s.roles.inserted row.tenant row.id row }, ?_, { h with },
      fun p => ?_⟩
    · rw [put, TenantTable.put, TenantTable.upsert_of_intact h.roles]; rfl
    · cases p <;> simp [rowAt?, Row.place, apply_ite (Option.map _)]
  | permissionLink row =>
    refine ⟨{ s with permissionLinks :=
      s.permissionLinks.inserted row.tenant (row.roleId, row.permissionId) row }, ?_, { h with },
      fun p => ?_⟩
    · rw [put, TenantTable.upsert_of_intact h.permissionLinks]; rfl
    · cases p <;> simp [rowAt?, Row.place, apply_ite (Option.map _)]
  | roleAssignment row =>
    refine ⟨{ s with roleAssignments :=
      s.roleAssignments.inserted row.tenant (row.roleId, row.principal) row }, ?_, { h with },
      fun p => ?_⟩
    · rw [put, TenantTable.upsert_of_intact h.roleAssignments]; rfl
    · cases p <;> simp [rowAt?, Row.place, apply_ite (Option.map _)]
  | roleRange row =>
    refine ⟨{ s with roleRanges := s.roleRanges.inserted row.tenant row.key row }, ?_, { h with },
      fun p => ?_⟩
    · rw [put, TenantTable.upsert_of_intact h.roleRanges]; rfl
    · cases p <;> simp [rowAt?, Row.place, apply_ite (Option.map _)]
  | menu row =>
    refine ⟨{ s with menus := s.menus.inserted row.tenant row.id row }, ?_, { h with },
      fun p => ?_⟩
    · rw [put, TenantTable.put, TenantTable.upsert_of_intact h.menus]; rfl
    · cases p <;> simp [rowAt?, Row.place, apply_ite (Option.map _)]
  | permission row =>
    refine ⟨{ s with permissions := s.permissions.inserted row.tenant row.id row }, ?_, { h with },
      fun p => ?_⟩
    · rw [put, TenantTable.put, TenantTable.upsert_of_intact h.permissions]; rfl
    · cases p <;> simp [rowAt?, Row.place, apply_ite (Option.map _)]

/-- What clearing a tenant from a table does to every place: nothing stands any more in the tenant's
part of the table, all else is as before. -/
theorem exists_clear (h : s.Intact) (tenant : TenantCode) (table : TableName) :
    ∃ s', s.clear tenant table = .ok s' ∧ s'.Intact ∧
      ∀ p, s'.rowAt? p = if p.partition? = some (table, tenant) then none else s.rowAt? p := by
  cases table with
  | accounts =>
    refine ⟨{ s with accounts := s.accounts.cleared tenant }, ?_, { h with }, fun p => ?_⟩
    · rw [clear, TenantTable.clearTenant_of_intact h.accounts]; rfl
    · cases p <;> simp [rowAt?, Place.partition?, apply_ite (Option.map _)]
  | roles =>
    refine ⟨{ s with roles := s.roles.cleared tenant }, ?_, { h with }, fun p => ?_⟩
    · rw [clear, TenantTable.clearTenant_of_intact h.roles]; rfl
    · cases p <;> simp [rowAt?, Place.partition?, apply_ite (Option.map _)]
  | permissionLinks =>
    refine ⟨{ s with permissionLinks := s.permissionLinks.cleared tenant }, ?_, { h with },
      fun p => ?_⟩
    · rw [clear, TenantTable.clearTenant_of_intact h.permissionLinks]; rfl
    · cases p <;> simp [rowAt?, Place.partition?, apply_ite (Option.map _)]
  | roleAssignments =>
    refine ⟨{ s with roleAssignments := s.roleAssignments.cleared tenant }, ?_, { h with },
      fun p => ?_⟩
    · rw [clear, TenantTable.clearTenant_of_intact h.roleAssignments]; rfl
    · cases p <;> simp [rowAt?, Place.partition?, apply_ite (Option.map _)]
  | roleRanges =>
    refine ⟨{ s with roleRanges := s.roleRanges.cleared tenant }, ?_, { h with }, fun p => ?_⟩
    · rw [clear, TenantTable.clearTenant_of_intact h.roleRanges]; rfl
    · cases p <;> simp [rowAt?, Place.partition?, apply_ite (Option.map _)]
  | menus =>
    refine ⟨{ s with menus := s.menus.cleared tenant }, ?_, { h with }, fun p => ?_⟩
    · rw [clear, TenantTable.clearTenant_of_intact h.menus]; rfl
    · cases p <;> simp [rowAt?, Place.partition?, apply_ite (Option.map _)]
  | permissions =>
    refine ⟨{ s with permissions := s.permissions.cleared tenant }, ?_, { h with }, fun p => ?_⟩
    · rw [clear, TenantTable.clearTenant_of_intact h.permissions]; rfl
    · cases p <;> simp [rowAt?, Place.partition?, apply_ite (Option.map _)]

/-- A step never fails on a store that represents rows, and the store it leaves represents the rows
that the step leaves. -/
theorem Represents.step (h : s.Represents rows) (st : Step) :
    ∃ s', s.step st = .ok s' ∧ s'.Represents (st.after rows) := by
  cases st with
  | put row =>
    obtain ⟨s', hs', hintact, hrow⟩ := exists_put h.intact row
    refine ⟨s', hs', hintact, fun p other => ?_⟩
    have hold := h.rowAt?_eq_some p other
    simp only [hrow, Step.after, Step.Displaces, Set.mem_ofPred_eq, Step.put.injEq]
    grind
  | clear table tenant =>
    obtain ⟨s', hs', hintact, hrow⟩ := exists_clear h.intact tenant table
    refine ⟨s', hs', hintact, fun p other => ?_⟩
    have hold := h.rowAt?_eq_some p other
    simp only [hrow, Step.after, Step.Displaces, Set.mem_ofPred_eq, reduceCtorEq, false_or]
    grind

/-- Steps one after the other. -/
theorem Represents.steps (h : s.Represents rows) (steps : List Step) :
    ∃ s', steps.foldlM MemoryStore.step s = .ok s' ∧
      s'.Represents (steps.foldl (fun rows step => step.after rows) rows) := by
  induction steps generalizing s rows with
  | nil => exact ⟨s, rfl, h⟩
  | cons st rest ih =>
    obtain ⟨s₁, hs₁, h₁⟩ := h.step st
    obtain ⟨s₂, hs₂, h₂⟩ := ih h₁
    exact ⟨s₂, by rw [List.foldlM_cons, hs₁]; exact hs₂, h₂⟩

/-- A write never fails on a store that represents rows, and the store it leaves represents the rows
that the write leaves. -/
theorem Represents.write (h : s.Represents rows) (w : Write) :
    ∃ s', s.write w = .ok s' ∧ s'.Represents (w.after rows) := by
  rw [← foldl_after_steps]
  exact h.steps w.steps

/-- Writes one after the other. -/
theorem Represents.writeAll (h : s.Represents rows) (ws : List Write) :
    ∃ s', s.writeAll ws = .ok s' ∧
      s'.Represents (ws.foldl (fun rows w => w.after rows) rows) := by
  induction ws generalizing s rows with
  | nil => exact ⟨s, rfl, h⟩
  | cons w rest ih =>
    obtain ⟨s₁, hs₁, h₁⟩ := h.write w
    obtain ⟨s₂, hs₂, h₂⟩ := ih h₁
    exact ⟨s₂, by rw [MemoryStore.writeAll, List.foldlM_cons, hs₁]; exact hs₂, h₂⟩

/-- The store without any rows represents no rows. -/
theorem represents_empty : (∅ : MemoryStore).Represents ∅ where
  intact := {}
  rowAt?_eq_some p row := by
    cases p <;> exact iff_of_false nofun (fun h => h.1)

/-- Every history can be written into the store without any rows, and leaves a store that represents
its current rows. -/
theorem exists_writeAll (ws : List Write) :
    ∃ s, (∅ : MemoryStore).writeAll ws = .ok s ∧ s.Represents (Current ws) := by
  have hcurrent := current_append [] ws
  rw [List.nil_append, current_nil] at hcurrent
  rw [hcurrent]
  exact represents_empty.writeAll ws

end MemoryStore

/-! ## The order of the applications -/

/-- The applications after a write, in the order in which a store keeps them. -/
def Write.register (w : Write) (applications : Keyed ApplicationId Application) :
    Keyed ApplicationId Application :=
  match w with
  | .put (.application a) => applications.insert a.id a
  | _ => applications

namespace MemoryStore

variable {s' : MemoryStore}

theorem applications_put {row : Row} (h : s.put row = .ok s') :
    s'.applications = (Write.put row).register s.applications := by
  cases row with
  | tenant | application =>
    cases h
    rfl
  | account | role | permissionLink | roleAssignment | roleRange | menu | permission =>
    obtain ⟨t, -, ⟨⟩⟩ := bind_eq_ok_iff.1 h
    rfl

theorem applications_clear {tenant : TenantCode} {tables : List TableName}
    (h : (tables.map (Step.clear · tenant)).foldlM step s = .ok s') :
    s'.applications = s.applications := by
  induction tables generalizing s with
  | nil =>
    cases h
    rfl
  | cons table rest ih =>
    rw [List.map_cons, List.foldlM_cons] at h
    obtain ⟨s₁, hs₁, hrest⟩ := bind_eq_ok_iff.1 h
    have hclear : s₁.applications = s.applications := by
      cases table <;> obtain ⟨t, -, ⟨⟩⟩ := bind_eq_ok_iff.1 hs₁ <;> rfl
    rw [ih hrest, hclear]

theorem applications_write {w : Write} (h : s.write w = .ok s') :
    s'.applications = w.register s.applications := by
  cases w with
  | put row =>
    rw [write, Write.steps, List.foldlM_cons] at h
    obtain ⟨s₁, hs₁, ⟨⟩⟩ := bind_eq_ok_iff.1 h
    exact applications_put hs₁
  | clearTenant tenant => exact applications_clear h

/-- The order of the applications depends on the writes of applications only. -/
theorem applications_writeAll {ws : List Write} (h : s.writeAll ws = .ok s') :
    s'.applications = ws.foldl (fun applications w => w.register applications) s.applications := by
  induction ws generalizing s with
  | nil =>
    cases h
    rfl
  | cons w rest ih =>
    rw [writeAll, List.foldlM_cons] at h
    obtain ⟨s₁, hs₁, hrest⟩ := bind_eq_ok_iff.1 h
    rw [ih hrest, applications_write hs₁, List.foldl_cons]

end MemoryStore

end TenantAccess
