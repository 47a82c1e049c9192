import Mathlib.Data.List.Induction
import Mathlib.Data.Set.Basic
import TenantAccess.Store.Write

/-!
# What a history of writes leaves

Every row has a `Place`: the directory entry, or the tenant, the table and the key under which it
stands. A write displaces the rows that stand where it puts its own, and clearing a tenant displaces
all rows in the tenant's part of the tables. `Current ws` are the rows that some write of a history
put and no later one displaced (`current_append_singleton`); it speaks of the writes alone, so it
says what "currently stored" means without a table. For events of any kind, `Stands` says that one
of them made something and none behind it undid it. At most one row is current at a place
(`current_place_inj`), and what is current where a tenant may look depends on the writes of the
tenant and of applications only (`mem_current_iff_of_filter_eq`). In the directory nothing is ever
cleared, so what is current there is what was put last (`lastPut?_eq_some_iff`).
-/

namespace TenantAccess

/-- Something stands after a list of events when one of them made it and none behind that one undid
it. -/
def Stands {α : Type*} (makes undoes : α → Prop) (xs : List α) : Prop :=
  ∃ before x later, xs = before ++ x :: later ∧ makes x ∧ ∀ y ∈ later, ¬ undoes y

section
variable {α : Type*} {makes undoes : α → Prop} {xs : List α}

@[simp] theorem not_stands_nil : ¬ Stands makes undoes [] := by
  rintro ⟨before, x, later, heq, -⟩
  cases before <;> cases heq

/-- One more event makes it stand, or leaves it standing. -/
theorem stands_append_singleton (xs : List α) (x : α) :
    Stands makes undoes (xs ++ [x]) ↔ makes x ∨ Stands makes undoes xs ∧ ¬ undoes x := by
  constructor
  · rintro ⟨before, y, later, heq, hy, hlater⟩
    rcases List.eq_nil_or_concat later with rfl | ⟨later, last, rfl⟩
    · obtain rfl := List.singleton_inj.1 (List.append_inj' heq rfl).2
      exact .inl hy
    · rw [List.concat_eq_append, ← List.cons_append, ← List.append_assoc] at heq
      obtain ⟨rfl, hx⟩ := List.append_inj' heq rfl
      obtain rfl : x = last := List.singleton_inj.1 hx
      exact .inr ⟨⟨before, y, later, rfl, hy, fun z hz => hlater z (by simp [hz])⟩,
        hlater x (by simp)⟩
  · rintro (hx | ⟨⟨before, y, later, rfl, hy, hlater⟩, hx⟩)
    · exact ⟨xs, x, [], rfl, hx, by simp⟩
    · refine ⟨before, y, later ++ [x], by simp, hy, fun z hz => ?_⟩
      rcases List.mem_append.1 hz with hz | hz
      · exact hlater z hz
      · exact List.mem_singleton.1 hz ▸ hx

/-- Events that neither make it nor undo it may be left out. -/
theorem stands_filter {p : α → Bool} (hmakes : ∀ x, makes x → p x) (hundoes : ∀ x, undoes x → p x) :
    Stands makes undoes (xs.filter p) ↔ Stands makes undoes xs := by
  induction xs using List.reverseRecOn with
  | nil => rfl
  | append_singleton xs x ih =>
    rw [List.filter_append, stands_append_singleton]
    by_cases hx : p x
    · rw [List.filter_cons_of_pos hx, List.filter_nil, stands_append_singleton, ih]
    · rw [List.filter_cons_of_neg hx, List.filter_nil, List.append_nil, ih]
      have hnot : ¬ makes x := fun h => hx (hmakes x h)
      have hkept : ¬ undoes x := fun h => hx (hundoes x h)
      exact ⟨fun h => .inr ⟨h, hkept⟩, fun h => (h.resolve_left hnot).1⟩

end

/-- Where a row stands. -/
inductive Place where
  | tenant (code : TenantCode)
  | application (id : ApplicationId)
  | account (tenant : TenantCode) (id : AccountId)
  | role (tenant : TenantCode) (id : RoleId)
  | permissionLink (tenant : TenantCode) (key : RoleId × PermissionId)
  | roleAssignment (tenant : TenantCode) (key : RoleId × Principal)
  | roleRange (tenant : TenantCode) (key : RangeKey)
  | menu (tenant : TenantCode) (id : MenuId)
  | permission (tenant : TenantCode) (id : PermissionId)
  deriving DecidableEq

/-- The place of a row. -/
def Row.place : Row → Place
  | .tenant t => .tenant t.code
  | .application a => .application a.id
  | .account a => .account a.tenant a.id
  | .role r => .role r.tenant r.id
  | .permissionLink l => .permissionLink l.tenant (l.roleId, l.permissionId)
  | .roleAssignment a => .roleAssignment a.tenant (a.roleId, a.principal)
  | .roleRange r => .roleRange r.tenant r.key
  | .menu m => .menu m.tenant m.id
  | .permission p => .permission p.tenant p.id

/-- Whether a row is its own key: links, assignments and ranges are. -/
def Row.isOwnKey : Row → Bool
  | .permissionLink _ | .roleAssignment _ | .roleRange _ => true
  | _ => false

/-- A row that is its own key has its place for itself. -/
theorem Row.eq_of_place_eq {row row' : Row} (hrow : row.isOwnKey) (h : row'.place = row.place) :
    row' = row := by
  cases row with
  | tenant | application | account | role | menu | permission => cases hrow
  | permissionLink l =>
    cases row' <;> simp only [place, reduceCtorEq, Place.permissionLink.injEq, Prod.mk.injEq] at h
    case permissionLink l' =>
      cases l; cases l'
      simp_all
  | roleAssignment a =>
    cases row' <;> simp only [place, reduceCtorEq, Place.roleAssignment.injEq, Prod.mk.injEq] at h
    case roleAssignment a' =>
      cases a; cases a'
      simp_all [RoleAssignment.principal]
  | roleRange r =>
    cases row' <;> simp only [place, reduceCtorEq, Place.roleRange.injEq] at h
    case roleRange r' =>
      cases r; cases r'
      simp_all [RoleRange.key]

namespace Place

/-- The table and the tenant that a place belongs to; the directory belongs to no tenant. -/
def partition? : Place → Option (TableName × TenantCode)
  | .tenant _ | .application _ => none
  | .account t _ => some (.accounts, t)
  | .role t _ => some (.roles, t)
  | .permissionLink t _ => some (.permissionLinks, t)
  | .roleAssignment t _ => some (.roleAssignments, t)
  | .roleRange t _ => some (.roleRanges, t)
  | .menu t _ => some (.menus, t)
  | .permission t _ => some (.permissions, t)

/-- The tenant in whose part of the tables a place lies. -/
def owner? (p : Place) : Option TenantCode := p.partition?.map Prod.snd

/-- Whether a place lies in a tenant's part of the tables or is the tenant's directory entry. -/
def isOf (tenant : TenantCode) : Place → Bool
  | .tenant code => code = tenant
  | p => p.owner? = some tenant

/-- Whether a place is an application's, which every tenant may look at. -/
def isApplication : Place → Bool
  | .application _ => true
  | _ => false

/-- Whether a tenant's questions may look at a place. -/
def concerns (tenant : TenantCode) (p : Place) : Bool := p.isOf tenant || p.isApplication

/-- What lies in a tenant's part of the tables is the tenant's. -/
theorem isOf_of_owner? {p : Place} {tenant : TenantCode} (h : p.owner? = some tenant) :
    p.isOf tenant := by
  cases p <;> simp_all [isOf, owner?, partition?]

/-- A tenant's questions may look at the tenant's part of the tables. -/
theorem concerns_of_owner? {p : Place} {tenant : TenantCode} (h : p.owner? = some tenant) :
    p.concerns tenant := by
  simp [concerns, isOf_of_owner? h]

end Place

/-- A step displaces the row that stands where it puts its own; clearing a tenant from a table
displaces every row of that table and tenant. -/
def Step.Displaces (row : Row) : Step → Prop
  | .put other => other.place = row.place
  | .clear table tenant => row.place.partition? = some (table, tenant)

/-- The rows there are after a step: the one that it puts and those that it does not displace. -/
def Step.after (step : Step) (rows : Set Row) : Set Row :=
  {row | step = .put row ∨ row ∈ rows ∧ ¬ step.Displaces row}

namespace Write

/-- A write displaces the row that stands where it puts its own; clearing a tenant displaces every
row in the tenant's part of the tables. -/
def Displaces (row : Row) : Write → Prop
  | .put other => other.place = row.place
  | .clearTenant tenant => row.place.owner? = some tenant

/-- The rows there are after a write: the one that it puts and those that it does not displace. -/
def after (w : Write) (rows : Set Row) : Set Row :=
  {row | w = .put row ∨ row ∈ rows ∧ ¬ w.Displaces row}

/-- Whether a write puts a row of a tenant or its directory entry, or clears the tenant. -/
def isOf (tenant : TenantCode) : Write → Bool
  | .put row => row.place.isOf tenant
  | .clearTenant t => t = tenant

/-- Whether a write puts an application. -/
def putsApplication : Write → Bool
  | .put row => row.place.isApplication
  | .clearTenant _ => false

end Write

/-- The rows that are stored after a history of writes: those that a write put and no later write
displaced. -/
def Current (ws : List Write) : Set Row :=
  {row | ∃ before later, ws = before ++ .put row :: later ∧ ∀ w ∈ later, ¬ w.Displaces row}

section
variable {ws : List Write} {w : Write} {row row' : Row} {tenant : TenantCode}

@[simp] theorem current_nil : Current [] = ∅ := by
  ext row
  simp [Current]

/-- A row is stored when it stands after the history, where its put makes it and what displaces it
undoes it. -/
theorem mem_current_iff : row ∈ Current ws ↔ Stands (· = .put row) (·.Displaces row) ws := by
  constructor
  · rintro ⟨before, later, heq, hlater⟩
    exact ⟨before, .put row, later, heq, rfl, hlater⟩
  · rintro ⟨before, _, later, heq, rfl, hlater⟩
    exact ⟨before, later, heq, hlater⟩

/-- One more write acts on the rows that were stored before it. -/
theorem current_append_singleton (ws : List Write) (w : Write) :
    Current (ws ++ [w]) = w.after (Current ws) := by
  ext row
  rw [mem_current_iff, stands_append_singleton, ← mem_current_iff]
  rfl

/-- More writes act, one after the other, on the rows that were stored before them. -/
theorem current_append (ws later : List Write) :
    Current (ws ++ later) = later.foldl (fun rows w => w.after rows) (Current ws) := by
  induction later generalizing ws with
  | nil => rw [List.append_nil, List.foldl_nil]
  | cons w rest ih =>
    rw [List.foldl_cons, ← current_append_singleton, ← ih, List.append_assoc, List.singleton_append]

/-- Whether a row is stored after writes depends on whether it was stored before them, and on no
other row. -/
theorem mem_foldl_after_congr (later : List Write) {rows rows' : Set Row}
    (h : row ∈ rows ↔ row ∈ rows') :
    row ∈ later.foldl (fun rows w => w.after rows) rows ↔
      row ∈ later.foldl (fun rows w => w.after rows) rows' := by
  induction later generalizing rows rows' with
  | nil => exact h
  | cons w rest ih => exact ih (or_congr_right (and_congr_left' h))

instance (w : Write) (row : Row) : Decidable (w.Displaces row) :=
  match w with
  | .put other => inferInstanceAs (Decidable (other.place = row.place))
  | .clearTenant tenant => inferInstanceAs (Decidable (row.place.owner? = some tenant))

/-- A row is stored when a later write put it, or when the first did and no later one displaced it.
-/
theorem mem_current_cons : row ∈ Current (w :: ws) ↔
    row ∈ Current ws ∨ w = .put row ∧ ∀ v ∈ ws, ¬ v.Displaces row := by
  constructor
  · rintro ⟨before, later, heq, hlater⟩
    cases before with
    | nil =>
      obtain ⟨rfl, rfl⟩ := List.cons.inj heq
      exact .inr ⟨rfl, hlater⟩
    | cons first before =>
      obtain ⟨rfl, rfl⟩ := List.cons.inj heq
      exact .inl ⟨before, later, rfl, hlater⟩
  · rintro (⟨before, later, rfl, hlater⟩ | ⟨rfl, hlater⟩)
    · exact ⟨w :: before, later, rfl, hlater⟩
    · exact ⟨[], ws, rfl, hlater⟩

instance decidableMemCurrent (row : Row) : (ws : List Write) → Decidable (row ∈ Current ws)
  | [] => isFalse (by simp)
  | _ :: ws =>
    have := decidableMemCurrent row ws
    decidable_of_iff' _ mem_current_cons

/-- No two rows are stored at one place. -/
theorem current_place_inj (h : row ∈ Current ws) (h' : row' ∈ Current ws)
    (hplace : row.place = row'.place) : row = row' := by
  induction ws using List.reverseRecOn with
  | nil => simp at h
  | append_singleton ws w ih =>
    rw [current_append_singleton] at h h'
    rcases h with rfl | ⟨h, hw⟩ <;> rcases h' with h' | ⟨h', hw'⟩
    · cases h'; rfl
    · exact absurd hplace hw'
    · subst h'; exact absurd hplace.symm hw
    · exact ih h h'

/-- A row of a tenant is displaced by writes of the tenant only. -/
theorem Write.isOf_of_displaces (hrow : row.place.isOf tenant) (h : w.Displaces row) :
    w.isOf tenant := by
  cases w with
  | put other =>
    have hplace : other.place = row.place := h
    rw [isOf, hplace]
    exact hrow
  | clearTenant t =>
    rw [Displaces] at h
    cases hp : row.place <;> simp_all [isOf, Place.isOf, Place.owner?, Place.partition?]

/-- An application is displaced by writes of applications only. -/
theorem Write.putsApplication_of_displaces (hrow : row.place.isApplication) (h : w.Displaces row) :
    w.putsApplication := by
  cases w with
  | put other =>
    have hplace : other.place = row.place := h
    rw [putsApplication, hplace]
    exact hrow
  | clearTenant t =>
    rw [Displaces] at h
    cases hp : row.place <;> simp_all [Place.isApplication, Place.owner?, Place.partition?]

/-- The steps of a write together do what the write does. -/
theorem foldl_after_steps (w : Write) (rows : Set Row) :
    w.steps.foldl (fun rows step => step.after rows) rows = w.after rows := by
  have hclear : ∀ (tenant : TenantCode) (tables : List TableName) (rows : Set Row),
      (tables.map fun table => Step.clear table tenant).foldl
        (fun rows step => step.after rows) rows =
        {row ∈ rows | ∀ table ∈ tables, row.place.partition? ≠ some (table, tenant)} := by
    intro tenant tables
    induction tables with
    | nil => simp
    | cons table rest ih =>
      intro rows
      rw [List.map_cons, List.foldl_cons, ih]
      ext row
      simp [Step.after, Step.Displaces, and_assoc]
  cases w with
  | put other =>
    ext row
    simp [Write.steps, Step.after, Write.after, Step.Displaces, Write.Displaces]
  | clearTenant tenant =>
    rw [Write.steps, hclear]
    ext row
    simp only [Write.after, Write.Displaces, Place.owner?, Set.mem_ofPred_eq, reduceCtorEq,
      false_or]
    refine and_congr_right fun _ => ⟨fun h hp => ?_, fun h table _ hp => h (by rw [hp]; rfl)⟩
    obtain ⟨⟨table, t⟩, hpart, rfl⟩ := Option.map_eq_some_iff.1 hp
    exact h table (by cases table <;> decide) hpart

/-- Writes that do not displace a row, its own put among those that do, may be left out of a history
without a difference to the row. -/
theorem mem_current_filter {p : Write → Bool} (hp : ∀ w : Write, w.Displaces row → p w) :
    row ∈ Current (ws.filter p) ↔ row ∈ Current ws := by
  rw [mem_current_iff, mem_current_iff]
  refine stands_filter (fun w hw => hp w ?_) hp
  rw [hw]
  rfl

/-- Two histories with the same writes of a tenant and the same writes of applications leave the
same rows for the tenant to look at. -/
theorem mem_current_iff_of_filter_eq {ws' : List Write}
    (hown : ws.filter (Write.isOf tenant) = ws'.filter (Write.isOf tenant))
    (happ : ws.filter Write.putsApplication = ws'.filter Write.putsApplication)
    (hrow : row.place.concerns tenant) : row ∈ Current ws ↔ row ∈ Current ws' := by
  rcases Bool.or_eq_true_iff.1 hrow with hrow | hrow
  · have hdis : ∀ w : Write, w.Displaces row → w.isOf tenant :=
      fun _ => Write.isOf_of_displaces hrow
    rw [← mem_current_filter hdis, hown, mem_current_filter hdis]
  · have hdis : ∀ w : Write, w.Displaces row → w.putsApplication :=
      fun _ => Write.putsApplication_of_displaces hrow
    rw [← mem_current_filter hdis, happ, mem_current_filter hdis]

end

/-! ## The last row that was put at a place -/

/-- The row that a write puts at a place. -/
def Write.rowAt? (p : Place) : Write → Option Row
  | .put row => if row.place = p then some row else none
  | .clearTenant _ => none

/-- The last row that a history puts at a place. -/
def lastPut? (ws : List Write) (p : Place) : Option Row := ws.reverse.findSome? (Write.rowAt? p)

section
variable {ws ws' : List Write} {row : Row} {p : Place}

theorem lastPut?_append_singleton (ws : List Write) (w : Write) (p : Place) :
    lastPut? (ws ++ [w]) p = (w.rowAt? p).or (lastPut? ws p) := by
  rw [lastPut?, List.reverse_append, List.reverse_singleton, List.singleton_append,
    List.findSome?_cons]
  cases w.rowAt? p <;> rfl

/-- Where nothing is cleared, the last row that was put is the one that is stored. -/
theorem lastPut?_eq_some_iff (hp : p.owner? = none) :
    lastPut? ws p = some row ↔ row ∈ Current ws ∧ row.place = p := by
  induction ws using List.reverseRecOn with
  | nil => simp [lastPut?]
  | append_singleton ws w ih =>
    rw [lastPut?_append_singleton, current_append_singleton]
    cases w with
    | clearTenant t =>
      have hkept : row.place = p → row.place.owner? ≠ some t := by
        rintro rfl heq
        rw [hp] at heq
        cases heq
      simp only [Write.rowAt?, Option.none_or, ih, Write.after, Write.Displaces, Set.mem_ofPred_eq,
        reduceCtorEq, false_or, and_assoc]
      exact and_congr_right fun _ => ⟨fun h => ⟨hkept h, h⟩, And.right⟩
    | put other =>
      simp only [Write.rowAt?, Write.after, Write.Displaces, Set.mem_ofPred_eq, Write.put.injEq]
      split_ifs with hother
      · grind
      · rw [Option.none_or, ih]
        grind

/-- Only the writes that put a row at a place matter for the last of them. -/
theorem lastPut?_filter {q : Write → Bool} (hq : ∀ w : Write, (w.rowAt? p).isSome → q w) :
    lastPut? (ws.filter q) p = lastPut? ws p := by
  induction ws using List.reverseRecOn with
  | nil => rfl
  | append_singleton ws w ih =>
    rw [List.filter_append, lastPut?_append_singleton]
    by_cases hw : q w
    · rw [List.filter_cons_of_pos hw, List.filter_nil, lastPut?_append_singleton, ih]
    · have hnone : w.rowAt? p = none := by
        simpa using fun hsome => hw (hq w hsome)
      rw [List.filter_cons_of_neg hw, List.filter_nil, List.append_nil, hnone, ih, Option.none_or]

end

end TenantAccess
