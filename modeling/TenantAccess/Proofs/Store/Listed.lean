import TenantAccess.Proofs.Reliance
import TenantAccess.Proofs.Secrecy
import TenantAccess.Store.Listed

/-!
# Tables and lists

A dataset can be brought into tables, or read as it stands by going through its lists. In a dataset
that is `Unambiguous` no two rows stand at one place unless they are equal, so writing its rows one
after the other displaces none of them (`Dataset.current_of_unambiguous`), and going through a list
for the first row with a key finds the only one (`find?_eq_some_iff_of_inj`). Both ways therefore
honour the rows of the dataset (`Dataset.honours_backend`). The main statement is
`ask_toStore_eq_backend`: every question comes to the same either way.
-/

namespace TenantAccess

variable {σ : Type} {tenant : TenantCode}

/-- Where no two entries pass a test, the first that passes it is the one that does. -/
theorem find?_eq_some_iff_of_inj {α : Type} {xs : List α} {p : α → Bool}
    (h : ∀ x ∈ xs, ∀ y ∈ xs, p x → p y → x = y) {a : α} :
    xs.find? p = some a ↔ a ∈ xs ∧ p a := by
  constructor
  · exact fun ha => ⟨List.mem_of_find?_eq_some ha, List.find?_some ha⟩
  · rintro ⟨ha, hp⟩
    cases hfind : xs.find? p with
    | none => exact absurd hp (List.find?_eq_none.1 hfind a ha)
    | some b =>
      rw [h b (List.mem_of_find?_eq_some hfind) a ha (List.find?_some hfind) hp]

/-- Where a key tells the entries of a list apart, every entry is the last with its key. -/
theorem lastBy_iff_mem_of_inj {α κ : Type} {key : α → κ} {xs : List α}
    (h : ∀ x ∈ xs, ∀ y ∈ xs, key x = key y → x = y) {a : α} : LastBy key xs a ↔ a ∈ xs := by
  constructor
  · rintro ⟨before, later, rfl, -⟩
    exact List.mem_append_right _ List.mem_cons_self
  · intro ha
    -- the last occurrence is the first one in the list read backwards
    obtain ⟨later, before, heq, hnot⟩ := List.eq_append_cons_of_mem (List.mem_reverse.2 ha)
    have hxs : xs = before.reverse ++ a :: later.reverse := by
      rw [← List.reverse_reverse xs, heq]
      simp
    refine ⟨before.reverse, later.reverse, hxs, fun y hy hkey => ?_⟩
    have hmem : y ∈ xs := hxs ▸ List.mem_append_right _ (List.mem_cons_of_mem _ hy)
    rw [h y hmem a ha hkey, List.mem_reverse] at hy
    exact hnot hy

namespace Dataset

/-- No two rows of a dataset share a key, but for links, assignments and ranges, which may be
repeated. -/
structure Unambiguous (d : Dataset) : Prop where
  tenants : (d.tenants.map Tenant.code).Nodup
  applications : (d.applications.map Application.id).Nodup
  applicationCodes : (d.applications.map Application.code).Nodup
  accounts : (d.accounts.map fun a => (a.tenant, a.id)).Nodup
  roles : (d.roles.map fun r => (r.tenant, r.id)).Nodup
  menus : (d.menus.map fun m => (m.tenant, m.id)).Nodup
  permissions : (d.permissions.map fun p => (p.tenant, p.id)).Nodup

/-- The rows of a dataset. -/
def rowSet (d : Dataset) : Set Row := {row | row ∈ d.toRows}

variable {d : Dataset}

/-! A row is among the rows of a dataset when it is in the list for rows of its kind. -/

theorem tenant_mem_rowSet {t : Tenant} : .tenant t ∈ d.rowSet ↔ t ∈ d.tenants := by
  simp [rowSet, toRows]

theorem application_mem_rowSet {a : Application} :
    .application a ∈ d.rowSet ↔ a ∈ d.applications := by
  simp [rowSet, toRows]

theorem account_mem_rowSet {a : Account} : .account a ∈ d.rowSet ↔ a ∈ d.accounts := by
  simp [rowSet, toRows]

theorem role_mem_rowSet {r : Role} : .role r ∈ d.rowSet ↔ r ∈ d.roles := by
  simp [rowSet, toRows]

theorem permissionLink_mem_rowSet {l : PermissionLink} :
    .permissionLink l ∈ d.rowSet ↔ l ∈ d.permissionLinks := by
  simp [rowSet, toRows]

theorem roleAssignment_mem_rowSet {a : RoleAssignment} :
    .roleAssignment a ∈ d.rowSet ↔ a ∈ d.roleAssignments := by
  simp [rowSet, toRows]

theorem roleRange_mem_rowSet {r : RoleRange} : .roleRange r ∈ d.rowSet ↔ r ∈ d.roleRanges := by
  simp [rowSet, toRows]

theorem menu_mem_rowSet {m : Menu} : .menu m ∈ d.rowSet ↔ m ∈ d.menus := by
  simp [rowSet, toRows]

theorem permission_mem_rowSet {p : Permission} : .permission p ∈ d.rowSet ↔ p ∈ d.permissions := by
  simp [rowSet, toRows]

/-! ## Places -/

/-- In an unambiguous dataset no two different rows stand at one place. -/
theorem Unambiguous.place_inj (h : d.Unambiguous) {row row' : Row} (hrow : row ∈ d.rowSet)
    (hrow' : row' ∈ d.rowSet) (hplace : row.place = row'.place) : row = row' := by
  have hkey : ∀ {α κ : Type} {xs : List α} {key : α → κ} {x y : α}, (xs.map key).Nodup →
      x ∈ xs → y ∈ xs → key x = key y → x = y :=
    fun hnodup hx hy heq => List.inj_on_of_nodup_map hnodup hx hy heq
  by_cases hown : row'.isOwnKey
  · exact Row.eq_of_place_eq hown hplace
  cases row <;> cases row' <;>
    simp only [Row.place, reduceCtorEq, Place.tenant.injEq, Place.application.injEq,
      Place.account.injEq, Place.role.injEq, Place.permissionLink.injEq,
      Place.roleAssignment.injEq, Place.roleRange.injEq, Place.menu.injEq,
      Place.permission.injEq] at hplace
  case tenant.tenant =>
    rw [hkey h.tenants (tenant_mem_rowSet.1 hrow) (tenant_mem_rowSet.1 hrow') hplace]
  case application.application =>
    rw [hkey h.applications (application_mem_rowSet.1 hrow) (application_mem_rowSet.1 hrow') hplace]
  case account.account =>
    rw [hkey h.accounts (account_mem_rowSet.1 hrow) (account_mem_rowSet.1 hrow')
      (Prod.ext hplace.1 hplace.2)]
  case role.role =>
    rw [hkey h.roles (role_mem_rowSet.1 hrow) (role_mem_rowSet.1 hrow')
      (Prod.ext hplace.1 hplace.2)]
  case permissionLink.permissionLink => exact absurd rfl hown
  case roleAssignment.roleAssignment => exact absurd rfl hown
  case roleRange.roleRange => exact absurd rfl hown
  case menu.menu =>
    rw [hkey h.menus (menu_mem_rowSet.1 hrow) (menu_mem_rowSet.1 hrow')
      (Prod.ext hplace.1 hplace.2)]
  case permission.permission =>
    rw [hkey h.permissions (permission_mem_rowSet.1 hrow) (permission_mem_rowSet.1 hrow')
      (Prod.ext hplace.1 hplace.2)]

/-- Writing the rows of an unambiguous dataset displaces none of them. -/
theorem current_of_unambiguous (h : d.Unambiguous) : d.current = d.rowSet := by
  ext row
  rw [current, mem_current_map_put]
  exact lastBy_iff_mem_of_inj fun x hx y hy => h.place_inj hx hy

/-! ## Replies -/

/-- The ids of linked permissions are those of the links of the roles. -/
theorem mem_linkedIds {roles : List RoleId} {id : PermissionId} :
    id ∈ d.linkedIds roles tenant ↔
      ∃ role ∈ roles, .permissionLink ⟨role, id, tenant⟩ ∈ d.rowSet := by
  simp only [linkedIds, List.mem_map, List.mem_filter, Bool.and_eq_true, decide_eq_true_eq,
    List.contains_iff_mem, permissionLink_mem_rowSet]
  constructor
  · rintro ⟨l, ⟨hl, rfl, hrole⟩, rfl⟩
    exact ⟨l.roleId, hrole, hl⟩
  · rintro ⟨role, hrole, hl⟩
    exact ⟨_, ⟨hl, rfl, hrole⟩, rfl⟩

/-- Going through the lists of an unambiguous dataset finds what a read asks for of its rows. -/
theorem Unambiguous.fits (h : d.Unambiguous) (r : Read) : r.Fits d.rowSet (d.reply r) := by
  have hone : ∀ {α : Type} {xs : List α} {p : α → Bool} {row : α → Row},
      (∀ {a b}, row a = row b → a = b) → (∀ a ∈ xs, row a ∈ d.rowSet) →
      (∀ a b, p a → p b → (row a).place = (row b).place) → ∀ {a : α},
        xs.find? p = some a ↔ a ∈ xs ∧ p a := by
    intro α xs p row hrow hmem hplace a
    exact find?_eq_some_iff_of_inj fun x hx y hy hpx hpy =>
      hrow (h.place_inj (hmem x hx) (hmem y hy) (hplace x y hpx hpy))
  cases r with
  | account id t =>
    intro a
    rw [reply, hone Row.account.inj (fun a => account_mem_rowSet.2) ?_, account_mem_rowSet]
    · simp only [Bool.and_eq_true, decide_eq_true_eq]
      tauto
    · simp +contextual [Row.place]
  | enabledRoles scope t =>
    intro r
    rw [reply, List.mem_filter, role_mem_rowSet]
    simp only [Bool.and_eq_true, decide_eq_true_eq, inScope_iff]
    tauto
  | assignedRoles holder t =>
    intro id
    rw [reply, List.mem_map, roleAssignment_mem_rowSet]
    constructor
    · rintro ⟨a, ha, rfl⟩
      simp only [List.mem_filter, Bool.and_eq_true, decide_eq_true_eq] at ha
      obtain ⟨ha, rfl, rfl⟩ := ha
      exact ha
    · intro ha
      exact ⟨_, List.mem_filter.2 ⟨ha, by simp [RoleAssignment.principal]⟩, rfl⟩
  | linkedPermissions roles scope t =>
    intro p
    rw [reply, List.mem_filter, permission_mem_rowSet, ← mem_linkedIds]
    simp only [Bool.and_eq_true, decide_eq_true_eq, inScope_iff, List.contains_iff_mem]
    tauto
  | roleRanges roles t =>
    intro r
    rw [reply, List.mem_filter, roleRange_mem_rowSet]
    simp [and_assoc]
  | permissions scope t =>
    intro p
    rw [reply, List.mem_filter, permission_mem_rowSet]
    simp [inScope_iff, and_assoc]
  | menus ids menuType t =>
    intro m
    rw [reply, List.mem_filter, menu_mem_rowSet]
    cases menuType <;> simp [and_assoc]
  | tenant code =>
    intro t
    rw [reply, hone Row.tenant.inj (fun t => tenant_mem_rowSet.2) ?_, tenant_mem_rowSet]
    · simp
    · simp +contextual [Row.place]
  | application id =>
    intro a
    rw [reply, hone Row.application.inj (fun a => application_mem_rowSet.2) ?_,
      application_mem_rowSet]
    · simp
    · simp +contextual [Row.place]
  | applicationByCode code =>
    refine ⟨fun a ha => ?_, fun hnone a ha => ?_⟩
    · exact ⟨application_mem_rowSet.2 (List.mem_of_find?_eq_some ha),
        by simpa using List.find?_some ha⟩
    · simpa using List.find?_eq_none.1 hnone a (application_mem_rowSet.1 ha)

/-- A backend that goes through the lists of an unambiguous dataset honours its rows. -/
theorem Unambiguous.honours_backend (h : d.Unambiguous) :
    ((d.backend fun _ => false).toServer : Query.Server σ).Honours tenant d.rowSet where
  place_inj := h.place_inj
  reply r _ _ := ⟨d.reply r, rfl, h.fits r⟩

/-- Every question is definite about the rows of an unambiguous dataset. -/
theorem Unambiguous.isDefinite (h : d.Unambiguous) (q : Question) : q.IsDefinite d.rowSet := by
  rintro code - - a b ha hb rfl hcode
  exact List.inj_on_of_nodup_map h.applicationCodes (application_mem_rowSet.1 ha)
    (application_mem_rowSet.1 hb) hcode.symm

/-- A tenant has no more menus than the dataset lists. -/
theorem menusWithin_rowSet (d : Dataset) (tenant : TenantCode) :
    MenusWithin d.rowSet tenant d.menus.length := by
  intro menus hmenus
  have hsub : menus ⊆ d.menus.toFinset := fun m hm =>
    List.mem_toFinset.2 (menu_mem_rowSet.1 (hmenus m hm).1)
  exact (Finset.card_le_card hsub).trans (List.toFinset_card_le _)

end Dataset

/-- The rows of an unambiguous dataset can be written into a store, and every question comes to the
same against the store, in whatever order it is walked, as against the lists of the dataset: to the
same answer, or to a refusal with the same words. -/
theorem ask_toStore_eq_backend {d : Dataset} (hd : d.Unambiguous) :
    ∃ store, d.toStore = .ok store ∧
      ∀ {σ : Type} (server : Query.Server σ), server.Serves store →
      ∀ R R' : Resolver, R.settings = R'.settings →
        store.levels ≤ R.levels → d.levels ≤ R'.levels →
      ∀ (tenant : TenantCode) (q : Question) (s : σ),
        ((R.ask tenant q).serve server s).1 =
          (R'.ask tenant q).run (d.backend fun _ => false) ∧
        (R'.ask tenant q).run (d.backend fun _ => false) ≠ .stalled := by
  obtain ⟨store, hstore, hrep⟩ := d.exists_toStore
  rw [Dataset.current_of_unambiguous hd] at hrep
  refine ⟨store, hstore, fun server hserver R R' hsettings hlevels hlevels' tenant q s => ?_⟩
  have heq : ((R.ask tenant q).serve server s).1 =
      (R'.ask tenant q).run (d.backend fun _ => false) := by
    rw [Query.run_eq_serve _ _ ()]
    exact (hserver.honours hrep tenant).ask_eq hd.honours_backend hsettings
      (hrep.menusWithin tenant) (d.menusWithin_rowSet tenant) hlevels hlevels' (hd.isDefinite q) s
      ()
  exact ⟨heq, heq ▸ (hserver.ask_settles hrep R tenant q s).2 hlevels⟩

/-- The wiki with everything that may be repeated listed twice. -/
def Wiki.repeated : Dataset :=
  let once := Wiki.locked "pw"
  { once with
    permissionLinks := once.permissionLinks ++ once.permissionLinks
    roleAssignments := once.roleAssignments ++ once.roleAssignments
    roleRanges := List.replicate 2 ⟨⟨"reader"⟩, "space", "id", "1", ⟨"acme"⟩⟩ }

/-- Ann is told of the same menus from the store as from the lists with repetitions. -/
theorem ask_toStore_eq_backend_repeated :
    Wiki.repeated.Unambiguous ∧ ∃ store, Wiki.repeated.toStore = .ok store ∧
      ((Resolver.ask { settings := {}, levels := store.levels } ⟨"acme"⟩
        (.menus ⟨"ann"⟩ none none)).serve (store.reply.toServer : Query.Server Unit) ()).1 =
      (Resolver.ask { settings := {}, levels := Wiki.repeated.levels } ⟨"acme"⟩
        (.menus ⟨"ann"⟩ none none)).run (Wiki.repeated.backend fun _ => false) := by
  have hd : Wiki.repeated.Unambiguous := by constructor <;> decide
  obtain ⟨store, hstore, hask⟩ := ask_toStore_eq_backend hd
  obtain ⟨heq, -⟩ := hask (store.reply.toServer : Query.Server Unit) store.serves_reply
    { settings := {}, levels := store.levels } { settings := {}, levels := Wiki.repeated.levels }
    rfl le_rfl le_rfl ⟨"acme"⟩ (.menus ⟨"ann"⟩ none none) ()
  exact ⟨hd, store, hstore, heq⟩

end TenantAccess
