import Mathlib.Data.List.Nodup
import TenantAccess.Proofs.Rights

/-!
# Filling a store from a dataset

A dataset is written into a store row by row, list by list, and a row displaces the one with the
same key. So of the rows of a dataset the last with each key is stored afterwards, and under all
other keys there stands what stood there before (`Dataset.Fills`). Which row is the last with its
key is said of the lists alone (`Dataset.last?`, `Dataset.lastWith_toRows`), since rows of different
lists never have the same key.

Stores with the same rows at all places are rearrangements of each other
(`MemoryStore.Rearranges.of_rowAt?_eq`), so every law of filling a store is a law of the last row.
The main statement is `Dataset.applyTo_stores_last`.
-/

namespace TenantAccess

variable {α κ ν : Type} {s s' : MemoryStore}

/-! ## The last row with a key -/

/-- The last entry of a list with a key. -/
def lastWith [DecidableEq κ] (key : α → κ) (k : κ) (xs : List α) : Option α :=
  xs.reverse.find? (key · = k)

/-- The lists have the same entries with each key, and in the same order: one comes from the other
when entries with different keys change places. -/
def KeepsOrder [DecidableEq κ] (key : α → κ) (xs ys : List α) : Prop :=
  ∀ k, xs.filter (key · = k) = ys.filter (key · = k)

section
variable [DecidableEq κ] {key : α → κ} {k : κ} {xs ys : List α}

theorem lastWith_append : lastWith key k (xs ++ ys) =
    (lastWith key k ys).or (lastWith key k xs) := by
  rw [lastWith, List.reverse_append, List.find?_append]
  rfl

theorem lastWith_map {β : Type} {key : β → κ} {f : α → β} :
    lastWith key k (xs.map f) = (lastWith (fun x => key (f x)) k xs).map f := by
  rw [lastWith, ← List.map_reverse, List.find?_map]
  rfl

/-- In which words the key is looked for makes no difference. -/
theorem lastWith_congr {κ' : Type} [DecidableEq κ'] {key' : α → κ'} {k' : κ'}
    (h : ∀ x, key x = k ↔ key' x = k') : lastWith key k xs = lastWith key' k' xs := by
  simp only [lastWith, h]

theorem lastWith_eq_none (h : ∀ x, key x ≠ k) : lastWith key k xs = none := by
  simp [lastWith, h]

theorem KeepsOrder.lastWith_eq (h : KeepsOrder key xs ys) (k : κ) :
    lastWith key k xs = lastWith key k ys := by
  rw [lastWith, lastWith, ← List.head?_filter, ← List.head?_filter, List.filter_reverse,
    List.filter_reverse, h k]

theorem key_of_lastWith {x : α} (h : lastWith key k xs = some x) : key x = k :=
  of_decide_eq_true (List.find?_some (p := (key · = k)) h)

/-- An entry that no other shares its key with is the last with the key if the list has it. -/
theorem lastWith_eq_some_iff {x : α} (hinj : ∀ y, key y = key x → y = x) :
    lastWith key (key x) xs = some x ↔ x ∈ xs := by
  refine ⟨fun h => List.mem_reverse.1 (List.mem_of_find?_eq_some h), fun hx => ?_⟩
  have hsome : (lastWith key (key x) xs).isSome :=
    List.find?_isSome.2 ⟨x, List.mem_reverse.2 hx, decide_eq_true rfl⟩
  obtain ⟨y, hy⟩ := Option.isSome_iff_exists.1 hsome
  rw [hy, hinj y (key_of_lastWith hy)]

/-- Neighbours with different keys may change places. -/
theorem KeepsOrder.swap (xs ys : List α) {x y : α} (h : key x ≠ key y) :
    KeepsOrder key (xs ++ x :: y :: ys) (xs ++ y :: x :: ys) := by
  intro k
  simp only [List.filter_append, List.filter_cons]
  by_cases hx : key x = k
  · have hy : key y ≠ k := fun hy => h (hx.trans hy.symm)
    simp [hx, hy]
  · simp [hx]

/-- A list whose entries with the same key are equal may be rearranged at will. -/
theorem KeepsOrder.of_perm (h : xs.Perm ys)
    (hinj : ∀ x ∈ xs, ∀ y ∈ xs, key x = key y → x = y) : KeepsOrder key xs ys := by
  intro k
  have hperm := h.filter (key · = k)
  -- the entries with one key are copies of one entry
  cases hxs : xs.filter (key · = k) with
  | nil => rw [hxs] at hperm; exact hperm.nil_eq
  | cons a rest =>
    have hsame : ∀ x ∈ xs.filter (key · = k), x = a := by
      have ha : a ∈ xs.filter (key · = k) := hxs ▸ List.mem_cons_self
      intro x hx
      simp only [List.mem_filter, decide_eq_true_eq] at ha hx
      exact hinj x hx.1 a ha.1 (hx.2.trans ha.2.symm)
    have hcopies := List.eq_replicate_of_mem hsame
    rw [← hxs]
    rw [hcopies] at hperm ⊢
    exact (List.perm_replicate.1 hperm.symm).symm

end

/-! ## Stores with the same rows -/

/-- Maps with the same values under all keys hold the same entries. -/
theorem Keyed.perm_of_get?_eq [DecidableEq κ] {m m' : Keyed κ ν}
    (h : ∀ k, m'.get? k = m.get? k) : m'.entries.Perm m.entries := by
  have hnodup : ∀ m : Keyed κ ν, m.entries.Nodup := fun m => m.nodup_keys.of_map
  refine (List.perm_ext_iff_of_nodup (hnodup m') (hnodup m)).2 fun ⟨k, v⟩ => ?_
  rw [Keyed.mem_entries_iff, Keyed.mem_entries_iff, h]

namespace MemoryStore

/-- The names of the tables of a store. -/
def tableName (s : MemoryStore) : TableName → String
  | .accounts => s.accounts.name
  | .roles => s.roles.name
  | .permissionLinks => s.permissionLinks.name
  | .roleAssignments => s.roleAssignments.name
  | .roleRanges => s.roleRanges.name
  | .menus => s.menus.name
  | .permissions => s.permissions.name

/-- Stores that have the same rows at all places hold the same entries. -/
theorem Rearranges.of_rowAt?_eq (hs : s.Intact) (hs' : s'.Intact)
    (hname : s'.tableName = s.tableName) (h : ∀ p, s'.rowAt? p = s.rowAt? p) :
    s'.Rearranges s := by
  have hentries : ∀ {κ ν : Type} [DecidableEq κ] {m m' : Keyed κ ν} {row : ν → Row},
      (∀ {v w}, row v = row w → v = w) → (∀ k, (m'.get? k).map row = (m.get? k).map row) →
      m'.entries.Perm m.entries := fun hrow hrows =>
    Keyed.perm_of_get?_eq fun k => Option.map_injective (fun _ _ => hrow) (hrows k)
  exact
    { tenants := hentries Row.tenant.inj fun code => h (.tenant code)
      applications := hentries Row.application.inj fun id => h (.application id)
      accounts := ⟨congrFun hname .accounts, hs'.accounts.trans hs.accounts.symm,
        hentries Row.account.inj fun k => h (.account k.1 k.2)⟩
      roles := ⟨congrFun hname .roles, hs'.roles.trans hs.roles.symm,
        hentries Row.role.inj fun k => h (.role k.1 k.2)⟩
      permissionLinks := ⟨congrFun hname .permissionLinks,
        hs'.permissionLinks.trans hs.permissionLinks.symm,
        hentries Row.permissionLink.inj fun k => h (.permissionLink k.1 k.2)⟩
      roleAssignments := ⟨congrFun hname .roleAssignments,
        hs'.roleAssignments.trans hs.roleAssignments.symm,
        hentries Row.roleAssignment.inj fun k => h (.roleAssignment k.1 k.2)⟩
      roleRanges := ⟨congrFun hname .roleRanges, hs'.roleRanges.trans hs.roleRanges.symm,
        hentries Row.roleRange.inj fun k => h (.roleRange k.1 k.2)⟩
      menus := ⟨congrFun hname .menus, hs'.menus.trans hs.menus.symm,
        hentries Row.menu.inj fun k => h (.menu k.1 k.2)⟩
      permissions := ⟨congrFun hname .permissions, hs'.permissions.trans hs.permissions.symm,
        hentries Row.permission.inj fun k => h (.permission k.1 k.2)⟩ }

/-- A put gives no table another name. -/
theorem tableName_put {row : Row} (h : s.put row = .ok s') : s'.tableName = s.tableName := by
  have hupsert : ∀ {κ ν : Type} [DecidableEq κ] {t t' : TenantTable κ ν} {tenant : TenantCode}
      {key : κ} {row : ν}, t.upsert tenant key row = .ok t' → t'.name = t.name := by
    intro κ ν _ t t' tenant key row h
    rw [TenantTable.upsert, TenantTable.guarded] at h
    split at h
    · cases h
    · cases h; rfl
  cases row with
  | tenant | application => cases h; rfl
  | account | role | permissionLink | roleAssignment | roleRange | menu | permission =>
    obtain ⟨t, ht, ⟨⟩⟩ := bind_eq_ok_iff.1 h
    funext table
    cases table <;> first | rfl | exact hupsert ht

/-- Rows that are put one after the other: the last with each key stands at its place, all else is
as before. -/
theorem exists_writeAll_put (h : s.Intact) (rows : List Row) :
    ∃ s', s.writeAll (rows.map .put) = .ok s' ∧ s'.Intact ∧ s'.tableName = s.tableName ∧
      ∀ p, s'.rowAt? p = (lastWith Row.place p rows).or (s.rowAt? p) := by
  induction rows generalizing s with
  | nil => exact ⟨s, rfl, h, rfl, fun _ => rfl⟩
  | cons row rest ih =>
    obtain ⟨s₁, hs₁, hintact, hrow⟩ := exists_put h row
    obtain ⟨s₂, hs₂, hintact₂, hname, hrest⟩ := ih hintact
    have hwrite : s.write (.put row) = .ok s₁ := by
      rw [write, Write.steps, List.foldlM_cons, step, hs₁]
      rfl
    refine ⟨s₂, ?_, hintact₂, hname.trans (tableName_put hs₁), fun p => ?_⟩
    · rw [writeAll, List.map_cons, List.foldlM_cons, hwrite]
      exact hs₂
    · rw [hrest, hrow, ← List.singleton_append, lastWith_append, Option.or_assoc]
      congr 1
      by_cases hp : row.place = p <;> simp [lastWith, hp]

end MemoryStore

/-! ## Datasets -/

namespace Dataset

/-- The dataset whose lists are those of the one followed by those of the other. -/
instance : Append Dataset where
  append d d' :=
    { tenants := d.tenants ++ d'.tenants
      applications := d.applications ++ d'.applications
      accounts := d.accounts ++ d'.accounts
      roles := d.roles ++ d'.roles
      permissionLinks := d.permissionLinks ++ d'.permissionLinks
      roleAssignments := d.roleAssignments ++ d'.roleAssignments
      roleRanges := d.roleRanges ++ d'.roleRanges
      menus := d.menus ++ d'.menus
      permissions := d.permissions ++ d'.permissions }

/-- The last row of a dataset with the key of a place: the code of a tenant, the id of an
application, the tenant and the id of an account, a role, a menu or a permission, and all fields of
a link, an assignment or a range. -/
def last? (d : Dataset) : Place → Option Row
  | .tenant code => (lastWith Tenant.code code d.tenants).map .tenant
  | .application id => (lastWith Application.id id d.applications).map .application
  | .account t id => (lastWith (fun a => (a.tenant, a.id)) (t, id) d.accounts).map .account
  | .role t id => (lastWith (fun r => (r.tenant, r.id)) (t, id) d.roles).map .role
  | .permissionLink t (role, permission) =>
    (lastWith id ⟨role, permission, t⟩ d.permissionLinks).map .permissionLink
  | .roleAssignment t (role, holder) =>
    (lastWith id ⟨role, holder.id, holder.kind, t⟩ d.roleAssignments).map .roleAssignment
  | .roleRange t (role, category, rangeType, dataId) =>
    (lastWith id ⟨role, category, rangeType, dataId, t⟩ d.roleRanges).map .roleRange
  | .menu t id => (lastWith (fun m => (m.tenant, m.id)) (t, id) d.menus).map .menu
  | .permission t id => (lastWith (fun p => (p.tenant, p.id)) (t, id) d.permissions).map .permission

/-- The lists of a dataset were rearranged without changing the order of rows with the same key. -/
structure Reorders (d' d : Dataset) : Prop where
  tenants : KeepsOrder Tenant.code d'.tenants d.tenants
  applications : KeepsOrder Application.id d'.applications d.applications
  accounts : KeepsOrder (fun a => (a.tenant, a.id)) d'.accounts d.accounts
  roles : KeepsOrder (fun r => (r.tenant, r.id)) d'.roles d.roles
  permissionLinks : d'.permissionLinks.Perm d.permissionLinks
  roleAssignments : d'.roleAssignments.Perm d.roleAssignments
  roleRanges : d'.roleRanges.Perm d.roleRanges
  menus : KeepsOrder (fun m => (m.tenant, m.id)) d'.menus d.menus
  permissions : KeepsOrder (fun p => (p.tenant, p.id)) d'.permissions d.permissions

variable {d d' : Dataset}

/-- Of all the rows of a dataset, the last at a place is the last of its list with the key. -/
theorem lastWith_toRows (d : Dataset) (p : Place) : lastWith Row.place p d.toRows = d.last? p := by
  simp only [toRows, lastWith_append, lastWith_map]
  rcases p with code | id | ⟨t, id⟩ | ⟨t, id⟩ | ⟨t, role, permission⟩ | ⟨t, role, holder⟩ |
    ⟨t, role, category, rangeType, dataId⟩ | ⟨t, id⟩ | ⟨t, id⟩ <;>
  -- the rows of all other lists have other places
  simp only [Row.place, ne_eq, reduceCtorEq, not_false_eq_true, implies_true, lastWith_eq_none,
    Option.map_none, Option.none_or, Option.or_none] <;>
  refine congrArg _ (lastWith_congr fun x => ?_)
  case tenant => rw [Place.tenant.injEq]
  case application => rw [Place.application.injEq]
  case account => rw [Place.account.injEq, Prod.mk.injEq]
  case role => rw [Place.role.injEq, Prod.mk.injEq]
  case menu => rw [Place.menu.injEq, Prod.mk.injEq]
  case permission => rw [Place.permission.injEq, Prod.mk.injEq]
  case permissionLink =>
    cases x
    simp only [Place.permissionLink.injEq, Prod.mk.injEq, id_eq, PermissionLink.mk.injEq]
    tauto
  case roleAssignment =>
    cases x; cases holder
    simp only [Place.roleAssignment.injEq, Prod.mk.injEq, id_eq, RoleAssignment.mk.injEq,
      RoleAssignment.principal, Principal.mk.injEq]
    tauto
  case roleRange =>
    cases x
    simp only [Place.roleRange.injEq, RoleRange.key, Prod.mk.injEq, id_eq, RoleRange.mk.injEq]
    tauto

theorem last?_append (d d' : Dataset) (p : Place) :
    (d ++ d').last? p = (d'.last? p).or (d.last? p) := by
  cases p <;> simp only [last?, ← Option.map_or, ← lastWith_append] <;> rfl

theorem Reorders.last?_eq (h : d'.Reorders d) (p : Place) : d'.last? p = d.last? p := by
  have hwhole : ∀ {α : Type} [DecidableEq α] {xs ys : List α}, xs.Perm ys → KeepsOrder id xs ys :=
    fun hperm => .of_perm hperm fun _ _ _ _ => id
  cases p with
  | tenant => rw [last?, last?, h.tenants.lastWith_eq]
  | application => rw [last?, last?, h.applications.lastWith_eq]
  | account => rw [last?, last?, h.accounts.lastWith_eq]
  | role => rw [last?, last?, h.roles.lastWith_eq]
  | permissionLink => rw [last?, last?, (hwhole h.permissionLinks).lastWith_eq]
  | roleAssignment => rw [last?, last?, (hwhole h.roleAssignments).lastWith_eq]
  | roleRange => rw [last?, last?, (hwhole h.roleRanges).lastWith_eq]
  | menu => rw [last?, last?, h.menus.lastWith_eq]
  | permission => rw [last?, last?, h.permissions.lastWith_eq]

/-! ## Filling a store -/

variable {s filled filled' : MemoryStore}

/-- What a dataset makes of a store: at every place there stands the last row that the dataset has
for it, or what stood there before. -/
structure Fills (d : Dataset) (s filled : MemoryStore) : Prop where
  applyTo : d.applyTo s = .ok filled
  intact : filled.Intact
  tableName : filled.tableName = s.tableName
  rowAt? : ∀ p, filled.rowAt? p = (d.last? p).or (s.rowAt? p)

/-- Filling an intact store never fails. -/
theorem exists_fills (h : s.Intact) (d : Dataset) : ∃ filled, d.Fills s filled := by
  obtain ⟨filled, hwrite, hintact, hname, hrow⟩ := MemoryStore.exists_writeAll_put h d.toRows
  exact ⟨filled, hwrite, hintact, hname, fun p => by rw [hrow, lastWith_toRows]⟩

/-- Stores that were filled alike hold the same entries. -/
theorem Fills.rearranges {s' : MemoryStore} (h : d.Fills s filled) (h' : d'.Fills s' filled')
    (hname : s'.tableName = s.tableName)
    (hrow : ∀ p, (d'.last? p).or (s'.rowAt? p) = (d.last? p).or (s.rowAt? p)) :
    filled'.Rearranges filled :=
  .of_rowAt?_eq h.intact h'.intact (h'.tableName.trans (hname.trans h.tableName.symm)) fun p => by
    rw [h'.rowAt?, h.rowAt?, hrow]

/-- A row that is its own key is stored when the dataset has it or when it was stored before. -/
theorem Fills.rowAt?_of_isOwnKey (h : d.Fills s filled) {row : Row} (hrow : row.isOwnKey) :
    filled.rowAt? row.place = some row ↔ row ∈ d.toRows ∨ s.rowAt? row.place = some row := by
  have hinj : ∀ row' : Row, row'.place = row.place → row' = row := fun _ => row.eq_of_place_eq hrow
  rw [h.rowAt?, ← lastWith_toRows, ← lastWith_eq_some_iff hinj]
  cases hlast : lastWith Row.place row.place d.toRows with
  | none => simp
  | some row' =>
    obtain rfl := hinj row' (key_of_lastWith hlast)
    simp

/-- Steps never poison a table of a store, and while none is poisoned writing a dataset does not
fail. Afterwards

* at every place there stands the last row that the dataset has for it, or, if it has none, what
  stood there before;
* of links, assignments and ranges none has displaced another: one is stored if the dataset has it
  or it was stored before;
* writing the dataset once more changes nothing;
* writing another dataset comes to the same as writing both together, list by list;
* any order of the dataset's rows that keeps rows with the same key in order comes to the same.
-/
theorem applyTo_stores_last :
    (∀ (steps : List Step) s, steps.foldlM MemoryStore.step ∅ = .ok s → s.Intact) ∧
    ∀ s : MemoryStore, s.Intact → ∀ d : Dataset, ∃ filled, d.applyTo s = .ok filled ∧
      (∀ p, filled.rowAt? p = (d.last? p).or (s.rowAt? p)) ∧
      (∀ row : Row, row.isOwnKey →
        (filled.rowAt? row.place = some row ↔
          row ∈ d.toRows ∨ s.rowAt? row.place = some row)) ∧
      (∃ again, d.applyTo filled = .ok again ∧ again.Rearranges filled) ∧
      (∀ d' : Dataset, ∃ both together, d'.applyTo filled = .ok both ∧
        (d ++ d').applyTo s = .ok together ∧ together.Rearranges both) ∧
      ∀ d' : Dataset, d'.Reorders d →
        ∃ filled', d'.applyTo s = .ok filled' ∧ filled'.Rearranges filled := by
  refine ⟨fun steps s hs => ?_, fun s hs d => ?_⟩
  · obtain ⟨s', hs', hrep⟩ := MemoryStore.represents_empty.steps steps
    cases hs.symm.trans hs'
    exact hrep.intact
  obtain ⟨filled, hfilled⟩ := exists_fills hs d
  refine ⟨filled, hfilled.applyTo, hfilled.rowAt?, fun row => hfilled.rowAt?_of_isOwnKey, ?_,
    fun d' => ?_, fun d' hd' => ?_⟩
  · obtain ⟨again, hagain⟩ := exists_fills hfilled.intact d
    refine ⟨again, hagain.applyTo, hfilled.rearranges hagain hfilled.tableName fun p => ?_⟩
    rw [hfilled.rowAt?, ← Option.or_assoc, Option.or_self]
  · obtain ⟨both, hboth⟩ := exists_fills hfilled.intact d'
    obtain ⟨together, htogether⟩ := exists_fills hs (d ++ d')
    refine ⟨both, together, hboth.applyTo, htogether.applyTo,
      hboth.rearranges htogether hfilled.tableName.symm fun p => ?_⟩
    rw [last?_append, hfilled.rowAt?, Option.or_assoc]
  · obtain ⟨filled', hfilled'⟩ := exists_fills hs d'
    refine ⟨filled', hfilled'.applyTo, hfilled.rearranges hfilled' rfl fun p => ?_⟩
    rw [hd'.last?_eq]

end Dataset

namespace Wiki

/-- The assignment of the readers' role to the holder of a kind that is called "sales". -/
def sales (kind : PrincipalKind) : RoleAssignment := ⟨⟨"reader"⟩, "sales", kind, ⟨"acme"⟩⟩

/-- A dataset that renames Ann behind another account's row, and assigns a role to an account and to
a unit of the same id. -/
def renamed : Dataset where
  accounts :=
    [ann ⟨"acme"⟩, { ann ⟨"acme"⟩ with id := ⟨"bob"⟩ }, { ann ⟨"acme"⟩ with name := "Anna" }]
  roleAssignments := [sales .account, sales .unit]

/-- The same rows, where Bob comes last and the unit first. -/
def reordered : Dataset where
  accounts :=
    [ann ⟨"acme"⟩, { ann ⟨"acme"⟩ with name := "Anna" }, { ann ⟨"acme"⟩ with id := ⟨"bob"⟩ }]
  roleAssignments := [sales .unit, sales .account]

theorem reordered_reorders : reordered.Reorders renamed where
  tenants _ := rfl
  applications _ := rfl
  accounts := .swap [ann ⟨"acme"⟩] [] (by decide)
  roles _ := rfl
  permissionLinks := .refl _
  roleAssignments := .swap _ _ _
  roleRanges := .refl _
  menus _ := rfl
  permissions _ := rfl

end Wiki

/-- Ann is stored under her new name and both assignments are stored, in whichever order the rows
come. -/
theorem applyTo_stores_last_renamed :
    (∅ : MemoryStore).Intact ∧ Wiki.reordered.Reorders Wiki.renamed ∧
      ∃ filled filled', Wiki.renamed.applyTo ∅ = .ok filled ∧
        Wiki.reordered.applyTo ∅ = .ok filled' ∧ filled'.Rearranges filled ∧
        filled.rowAt? (.account ⟨"acme"⟩ ⟨"ann"⟩) =
          some (.account { Wiki.ann ⟨"acme"⟩ with name := "Anna" }) ∧
        ∀ kind ∈ [PrincipalKind.account, .unit],
          filled.rowAt? (Row.roleAssignment (Wiki.sales kind)).place =
            some (.roleAssignment (Wiki.sales kind)) := by
  obtain ⟨filled, hfilled, hrow, hown, -, -, hreorders⟩ :=
    Dataset.applyTo_stores_last.2 ∅ {} Wiki.renamed
  obtain ⟨filled', hfilled', hsame⟩ := hreorders Wiki.reordered Wiki.reordered_reorders
  refine ⟨{}, Wiki.reordered_reorders, filled, filled', hfilled, hfilled', hsame, ?_,
    fun kind hkind => ?_⟩
  · rw [hrow]
    rfl
  · refine (hown _ rfl).2 (.inl ?_)
    revert kind
    decide

end TenantAccess
