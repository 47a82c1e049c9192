import TenantAccess.Proofs.Store.Service
import TenantAccess.Proofs.Vetting

/-!
# The rows of a reply

A reply is a list of rows, one row or none, and two replies to the same read may differ and still be
as good as each other. `Read.rows` takes the rows out of a reply and `Read.wants` says which of them
a resolver can tell to be asked for. A reply `Read.Widens` another when it holds the same rows, in
any order and as often as may be, and among them rows of the tenant that were not asked for. What a
resolver makes of the two is the same as long as the rows that were asked for are known by their
places (`Read.Regular`) and none is another tenant's; `Read.Alike` puts this together.

Applications stand in the directory and carry a secret, so how far two of them have to agree is left
open: `view` is what is compared of them. Replies that fit sets of rows which agree so far may stand
in each other's place (`Read.Fits.widens`).
-/

namespace TenantAccess

variable {tenant : TenantCode} {view : Application → Application}

namespace Read

/-- The rows in a reply. Ids of roles are no rows. -/
def rows : (r : Read) → r.Reply → List Row
  | .account .. => fun (reply : Option Account) => reply.toList.map .account
  | .enabledRoles .. => fun (reply : List Role) => reply.map .role
  | .assignedRoles .. => fun _ => []
  | .linkedPermissions .. | .permissions .. => fun (reply : List Permission) =>
    reply.map .permission
  | .roleRanges .. => fun (reply : List RoleRange) => reply.map .roleRange
  | .menus .. => fun (reply : List Menu) => reply.map .menu
  | .tenant .. => fun (reply : Option Tenant) => reply.toList.map .tenant
  | .application .. | .applicationByCode .. => fun (reply : Option Application) =>
    reply.toList.map .application

/-- Whether a row of a reply is one that was asked for, as far as the row shows it. Which roles a
permission is linked to it does not show. -/
def wants : Read → Row → Bool
  | .enabledRoles scope _, .role r => r.enabled && inScope scope r.applicationId
  | .linkedPermissions _ scope _, .permission p => inScope scope p.applicationId
  | .permissions scope _, .permission p => inScope scope p.applicationId
  | .roleRanges roles _, .roleRange r => roles.contains r.roleId
  | .menus ids menuType _, .menu m => ids.contains m.id && menuType.all (m.menuType = ·)
  | _, _ => true

/-- The owners of a reply are those in whose parts of the tables its rows stand. -/
theorem owners_eq_filterMap (r : Read) (reply : r.Reply) :
    r.owners reply = (r.rows reply).filterMap fun row => row.place.owner? := by
  cases r with
  | account id t => cases reply <;> rfl
  | tenant code => cases reply <;> rfl
  | application id => cases reply <;> rfl
  | applicationByCode code => cases reply <;> rfl
  | assignedRoles holder t => rfl
  | enabledRoles | linkedPermissions | permissions | roleRanges | menus =>
    simp only [owners, rows, List.filterMap_map, Function.comp_def]
    exact congrFun List.filterMap_eq_map'.symm reply

/-- Nothing is wrong with a reply when every row that has an owner is the tenant's. -/
theorem leak?_eq_none_iff {r : Read} {reply : r.Reply} :
    r.leak? tenant reply = none ↔
      ∀ row ∈ r.rows reply, ∀ t, row.place.owner? = some t → t = tenant := by
  rw [leak?, owners_eq_filterMap, Option.map_eq_none_iff, List.find?_eq_none]
  simp only [List.mem_filterMap, decide_eq_true_eq, Decidable.not_not]
  constructor
  · intro h row hrow t ht
    exact h t ⟨row, hrow, ht⟩
  · rintro h t ⟨row, hrow, ht⟩
    exact h row hrow t ht

/-- What is wrong with a reply is a breach of isolation. -/
theorem eq_tenantIsolation_of_leak? {r : Read} {reply : r.Reply} {fault : StoreFault}
    (h : r.leak? tenant reply = some fault) : ∃ detail, fault = .tenantIsolation detail := by
  obtain ⟨owner, -, rfl⟩ := Option.map_eq_some_iff.1 h
  exact ⟨_, rfl⟩

/-! ## Replies that are as good as each other -/

/-- Whether a read stays within a tenant: it is about its rows or its directory entry, or looks an
application up by its id, which tells applications apart. -/
def isWithin (tenant : TenantCode) : Read → Bool
  | .account _ t | .enabledRoles _ t | .assignedRoles _ t | .linkedPermissions _ _ t
  | .roleRanges _ t | .permissions _ t | .menus _ _ t | .tenant t => t = tenant
  | .application _ => true
  | .applicationByCode _ => false

/-- A read within a tenant concerns it. -/
theorem concerns_of_isWithin {r : Read} (h : r.isWithin tenant) : r.concerns tenant := by
  cases r with
  | applicationByCode => cases h
  | _ => exact h

/-- A reply holds the rows of another and among them only rows of the tenant that were not asked
for. -/
structure Enlarges (tenant : TenantCode) (r : Read) (x y : r.Reply) : Prop where
  kept : ∀ row ∈ r.rows x, row ∈ r.rows y
  added : ∀ row ∈ r.rows y, row ∈ r.rows x ∨ row.place.owner? = some tenant ∧ ¬ r.wants row

/-- The second reply may stand in place of the first: a single row is the same, ids are the same in
any order, and to rows others of the tenant may be added that were not asked for. -/
def Widens (view : Application → Application) (tenant : TenantCode) :
    (r : Read) → r.Reply → r.Reply → Prop
  | .account .. => fun (x y : Option Account) => x = y
  | .tenant .. => fun (x y : Option Tenant) => x = y
  | .application .. | .applicationByCode .. =>
    fun (x y : Option Application) => x.map view = y.map view
  | .assignedRoles .. => fun (x y : List RoleId) => ∀ id, id ∈ x ↔ id ∈ y
  | .enabledRoles scope t => Enlarges tenant (.enabledRoles scope t)
  | .linkedPermissions roles scope t => Enlarges tenant (.linkedPermissions roles scope t)
  | .roleRanges roles t => Enlarges tenant (.roleRanges roles t)
  | .permissions scope t => Enlarges tenant (.permissions scope t)
  | .menus ids menuType t => Enlarges tenant (.menus ids menuType t)

/-- Rows of a reply that were asked for and stand at one place are one row. -/
def Regular (r : Read) (x : r.Reply) : Prop :=
  ∀ row ∈ r.rows x, ∀ row' ∈ r.rows x, r.wants row → r.wants row' → row.place = row'.place →
    row = row'

/-- A reply widens a reply that is regular and in which nothing is another tenant's. -/
structure Alike (view : Application → Application) (tenant : TenantCode) (r : Read)
    (x y : r.Reply) : Prop where
  widens : r.Widens view tenant x y
  regular : r.Regular x
  clean : r.leak? tenant x = none

variable {r : Read} {x y : r.Reply}

/-- A reply may stand in its own place. -/
theorem Widens.refl (r : Read) (x : r.Reply) : r.Widens view tenant x x := by
  have hself : Enlarges tenant r x x := ⟨fun _ h => h, fun _ h => .inl h⟩
  cases r with
  | account | tenant | application | applicationByCode => rfl
  | assignedRoles => exact fun _ => Iff.rfl
  | enabledRoles | linkedPermissions | roleRanges | permissions | menus => exact hself

/-- The same owners are wrong in a reply and in one that may stand in its place. -/
theorem Widens.leak?_eq_none_iff (h : r.Widens view tenant x y) :
    r.leak? tenant x = none ↔ r.leak? tenant y = none := by
  have hlist : ∀ {r : Read} {x y : r.Reply}, Enlarges tenant r x y →
      (r.leak? tenant x = none ↔ r.leak? tenant y = none) := by
    intro r x y h
    rw [Read.leak?_eq_none_iff, Read.leak?_eq_none_iff]
    constructor
    · intro hx row hrow t ht
      rcases h.added row hrow with hrow | ⟨hown, -⟩
      · exact hx row hrow t ht
      · exact Option.some.inj (ht.symm.trans hown)
    · exact fun hy row hrow => hy row (h.kept row hrow)
  cases r with
  | account | tenant =>
    obtain rfl : x = y := h
    rfl
  | application | applicationByCode | assignedRoles => exact iff_of_true rfl rfl
  | enabledRoles | linkedPermissions | roleRanges | permissions | menus => exact hlist h

/-- In a reply with which nothing is wrong every row is the tenant's, and so it is in one that may
stand in its place. -/
theorem Alike.clean' (h : r.Alike view tenant x y) : r.leak? tenant y = none :=
  h.widens.leak?_eq_none_iff.1 h.clean

/-- Of the rows that were asked for the two replies hold the same. -/
theorem Enlarges.mem_iff (h : Enlarges tenant r x y) {row : Row} (hrow : r.wants row) :
    row ∈ r.rows x ↔ row ∈ r.rows y :=
  ⟨h.kept row, fun hy => (h.added row hy).resolve_right fun hadded => hadded.2 hrow⟩

/-- Replies that hold the same rows. -/
theorem Enlarges.of_mem_iff (h : ∀ row, row ∈ r.rows x ↔ row ∈ r.rows y) :
    Enlarges tenant r x y where
  kept row := (h row).1
  added row hrow := .inl ((h row).2 hrow)

end Read

/-! ## Replies that fit -/

/-- What is looked at of applications: no more may be left out than what only their holder needs to
know. -/
structure Overview (view : Application → Application) : Prop where
  id_eq : ∀ a, (view a).id = a.id
  code_eq : ∀ a, (view a).code = a.code
  enabled_eq : ∀ a, (view a).enabled = a.enabled

namespace Read.Fits

variable {rows rows' : Set Row} {r : Read} {x y : r.Reply}

/-- The rows of a reply are among those that it fits, and they are the tenant's that the read is
about. -/
theorem mem_and_own (h : r.Fits rows x) {row : Row} (hrow : row ∈ r.rows x) :
    row ∈ rows ∧
      ∀ tenant, r.concerns tenant → ∀ t, row.place.owner? = some t → t = tenant := by
  have hown : ∀ {owner t : TenantCode}, owner = t → ∀ u, decide (t = u) →
      ∀ v, some owner = some v → v = u := by
    rintro owner t rfl u ht v hv
    exact (Option.some.inj hv).symm.trans (of_decide_eq_true ht)
  cases r with
  | account id t =>
    obtain ⟨a, ha, rfl⟩ := List.mem_map.1 hrow
    obtain ⟨⟨hmem, ht⟩, -⟩ := (h a).1 (Option.mem_toList.1 ha)
    exact ⟨hmem, hown ht⟩
  | enabledRoles scope t =>
    obtain ⟨a, ha, rfl⟩ := List.mem_map.1 hrow
    obtain ⟨⟨hmem, ht⟩, -⟩ := (h a).1 ha
    exact ⟨hmem, hown ht⟩
  | assignedRoles => cases hrow
  | linkedPermissions roles scope t =>
    obtain ⟨a, ha, rfl⟩ := List.mem_map.1 hrow
    obtain ⟨⟨hmem, ht⟩, -⟩ := (h a).1 ha
    exact ⟨hmem, hown ht⟩
  | roleRanges roles t =>
    obtain ⟨a, ha, rfl⟩ := List.mem_map.1 hrow
    obtain ⟨⟨hmem, ht⟩, -⟩ := (h a).1 ha
    exact ⟨hmem, hown ht⟩
  | permissions scope t =>
    obtain ⟨a, ha, rfl⟩ := List.mem_map.1 hrow
    obtain ⟨⟨hmem, ht⟩, -⟩ := (h a).1 ha
    exact ⟨hmem, hown ht⟩
  | menus ids menuType t =>
    obtain ⟨a, ha, rfl⟩ := List.mem_map.1 hrow
    obtain ⟨⟨hmem, ht⟩, -⟩ := (h a).1 ha
    exact ⟨hmem, hown ht⟩
  | tenant code =>
    obtain ⟨a, ha, rfl⟩ := List.mem_map.1 hrow
    exact ⟨((h a).1 (Option.mem_toList.1 ha)).1, fun _ _ => nofun⟩
  | application id =>
    obtain ⟨a, ha, rfl⟩ := List.mem_map.1 hrow
    exact ⟨((h a).1 (Option.mem_toList.1 ha)).1, fun _ _ => nofun⟩
  | applicationByCode code =>
    obtain ⟨a, ha, rfl⟩ := List.mem_map.1 hrow
    exact ⟨(h.1 a (Option.mem_toList.1 ha)).1, fun _ _ => nofun⟩

/-- Nothing is wrong with a reply that fits. -/
theorem clean (h : r.Fits rows x) (hr : r.concerns tenant) : r.leak? tenant x = none :=
  leak?_eq_none_iff.2 fun _ hrow => (h.mem_and_own hrow).2 _ hr

/-- A reply is regular when it fits rows of which no two stand at one place. -/
theorem regular (h : r.Fits rows x) (hinj : ∀ {row row'}, row ∈ rows → row' ∈ rows →
    row.place = row'.place → row = row') : r.Regular x :=
  fun _ hrow _ hrow' _ _ => hinj (h.mem_and_own hrow).1 (h.mem_and_own hrow').1

/-- Replies may stand in each other's place when they fit sets of rows that have the tenant's rows
in common and look the same as to their applications. -/
theorem widens (hview : Overview view) (hr : r.isWithin tenant)
    (hown : ∀ row : Row, row.place.isOf tenant → (row ∈ rows ↔ row ∈ rows'))
    (happ : ∀ b, (∃ a, .application a ∈ rows ∧ view a = b) ↔
      ∃ a, .application a ∈ rows' ∧ view a = b)
    (h : r.Fits rows x) (h' : r.Fits rows' y) : r.Widens view tenant x y := by
  have hrow : ∀ (row : Row) {t : TenantCode}, row.place.owner? = some t →
      (row ∈ rows ∧ t = tenant ↔ row ∈ rows' ∧ t = tenant) := by
    rintro row t hplace
    refine and_congr_left ?_
    rintro rfl
    exact hown row (Place.isOf_of_owner? hplace)
  have hmap : ∀ {α : Type} {xs ys : List α} (row : α → Row), (∀ a, a ∈ xs ↔ a ∈ ys) →
      ∀ b, b ∈ xs.map row ↔ b ∈ ys.map row := fun row hxs b => by
    simp only [List.mem_map, hxs]
  cases r with
  | account id t =>
    refine Option.ext fun a => ?_
    obtain rfl : t = tenant := of_decide_eq_true hr
    exact ((h a).trans (and_congr_left' (hrow (.account a) rfl))).trans (h' a).symm
  | enabledRoles scope t =>
    obtain rfl : t = tenant := of_decide_eq_true hr
    refine Enlarges.of_mem_iff (hmap .role fun a => ?_)
    exact ((h a).trans (and_congr_left' (hrow (.role a) rfl))).trans (h' a).symm
  | assignedRoles holder t =>
    obtain rfl : t = tenant := of_decide_eq_true hr
    exact fun id => ((h id).trans (hown _ (Place.isOf_of_owner? rfl))).trans (h' id).symm
  | linkedPermissions roles scope t =>
    obtain rfl : t = tenant := of_decide_eq_true hr
    refine Enlarges.of_mem_iff (hmap .permission fun a => ?_)
    rw [h a, h' a, hrow (.permission a) rfl]
    have hlink : ∀ role, .permissionLink ⟨role, a.id, t⟩ ∈ rows ↔
        .permissionLink ⟨role, a.id, t⟩ ∈ rows' := fun role => hown _ (Place.isOf_of_owner? rfl)
    simp only [hlink]
  | roleRanges roles t =>
    obtain rfl : t = tenant := of_decide_eq_true hr
    refine Enlarges.of_mem_iff (hmap .roleRange fun a => ?_)
    exact ((h a).trans (and_congr_left' (hrow (.roleRange a) rfl))).trans (h' a).symm
  | permissions scope t =>
    obtain rfl : t = tenant := of_decide_eq_true hr
    refine Enlarges.of_mem_iff (hmap .permission fun a => ?_)
    exact ((h a).trans (and_congr_left' (hrow (.permission a) rfl))).trans (h' a).symm
  | menus ids menuType t =>
    obtain rfl : t = tenant := of_decide_eq_true hr
    refine Enlarges.of_mem_iff (hmap .menu fun a => ?_)
    exact ((h a).trans (and_congr_left' (hrow (.menu a) rfl))).trans (h' a).symm
  | tenant code =>
    refine Option.ext fun a => ?_
    obtain rfl : code = _ := of_decide_eq_true hr
    refine ((h a).trans (and_congr_left fun ha => hown (.tenant a) ?_)).trans (h' a).symm
    exact decide_eq_true ha
  | application id =>
    refine Option.ext fun b => ?_
    have hlook : ∀ {rows : Set Row} {x : Option Application},
        (∀ a, x = some a ↔ .application a ∈ rows ∧ a.id = id) →
          (x.map view = some b ↔ (∃ a, .application a ∈ rows ∧ view a = b) ∧ b.id = id) := by
      intro rows x hx
      rw [Option.map_eq_some_iff]
      constructor
      · rintro ⟨a, ha, rfl⟩
        obtain ⟨hmem, hid⟩ := (hx a).1 ha
        exact ⟨⟨a, hmem, rfl⟩, (hview.id_eq a).trans hid⟩
      · rintro ⟨⟨a, hmem, rfl⟩, hid⟩
        exact ⟨a, (hx a).2 ⟨hmem, (hview.id_eq a).symm.trans hid⟩, rfl⟩
    exact ((hlook h).trans (and_congr_left' (happ b))).trans (hlook h').symm
  | applicationByCode => cases hr

/-- An application is found by its code alike when no two share the code. -/
theorem applicationByCode_eq {code : String} {x y : Option Application}
    (hone : ∀ a b, .application a ∈ rows → .application b ∈ rows → a.code = code → b.code = code →
      a = b)
    (h : (Read.applicationByCode code).Fits rows x)
    (h' : (Read.applicationByCode code).Fits rows y) : x = y := by
  cases x with
  | none =>
    cases y with
    | none => rfl
    | some b =>
      obtain ⟨hb, hcode⟩ := h'.1 b rfl
      exact absurd hcode (h.2 rfl b hb)
  | some a =>
    obtain ⟨ha, hacode⟩ := h.1 a rfl
    cases y with
    | none => exact absurd hacode (h'.2 rfl a ha)
    | some b =>
      obtain ⟨hb, hbcode⟩ := h'.1 b rfl
      rw [hone a b ha hb hacode hbcode]

end Read.Fits

/-! ## Calls -/

/-- Rows of the reply to a call that were asked for and stand at one place are one row. -/
def Call.Regular (c : Call) : Prop :=
  ∀ x, c.reply = .ok x → c.read.Regular x

/-- A row of another tenant is in the reply to a call. -/
def Call.Leaks (tenant : TenantCode) (c : Call) : Prop :=
  ∃ x, c.reply = .ok x ∧ c.read.leak? tenant x ≠ none

/-- The rows in the reply to a call. -/
def Call.rows (c : Call) : List Row :=
  match c.reply with
  | .ok x => c.read.rows x
  | .error _ => []

end TenantAccess
