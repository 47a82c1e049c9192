import TenantAccess.Proofs.Store.Service
import TenantAccess.Proofs.Subject
import TenantAccess.Resolver.Rights

/-!
# Who holds which rights

The rules by which rights are granted, said of the rows that are stored and of the settings, without
a query: which account an id stands for (`AdminSettings.Identifies`), which roles a subject holds
(`AdminSettings.Confers`), which permissions (`Subject.MayUse`), and, put together,
`AdminSettings.Grants`. Against any server that honours rows the resolver finds what the rules say:
`Resolver.subject_yields`, `Resolver.rolesOf_yields`, `Resolver.permissionsOf_yields`,
`Resolver.ranges_yields`. The main statement is `permissions_isListing_grants`: after every history
of writes, the permissions of an account are the listing of those that the rules grant.
-/

namespace TenantAccess

variable {σ : Type} {rows : Set Row} {tenant : TenantCode} {scope : Option ApplicationId}

/-! ## The rules -/

namespace AdminSettings

variable (s : AdminSettings)

/-- The account that an id stands for in a tenant: the supervisor of the settings, or the row stored
under the id. -/
def Identifies (rows : Set Row) (tenant : TenantCode) (id : AccountId) (a : Account) : Prop :=
  if s.supervisor.username = id.text then a = s.supervisor.toAccount tenant
  else (.account a ∈ rows ∧ a.tenant = tenant) ∧ a.id = id

/-- A member holds the enabled roles of the scope, when roles are assigned those that are assigned
to the account. Nobody else holds a role. -/
def Confers (rows : Set Row) (scope : Option ApplicationId) (tenant : TenantCode) :
    Subject → Role → Prop
  | .member a, r =>
    (.role r ∈ rows ∧ r.tenant = tenant) ∧ r.enabled ∧ (∀ app ∈ scope, r.applicationId = app) ∧
      (s.roleBinding = .principal → .roleAssignment ⟨r.id, a.id.text, .account, tenant⟩ ∈ rows)
  | _, _ => False

/-- The rule by which a permission is granted to an account: the supervisor has every permission, an
officer those that the range of its entry permits, a member those that one of its roles is linked
to. An account that is switched off, deleted or missing has none. -/
inductive Grants (rows : Set Row) (account : AccountId) (scope : Option ApplicationId)
    (tenant : TenantCode) (p : Permission) : Prop
  | supervisor (hid : s.supervisor.username = account.text) (henabled : s.supervisor.enabled)
  | officer {a : Account} {entry : OfficerSettings} (hid : s.supervisor.username ≠ account.text)
      (hrow : .account a ∈ rows) (hplace : a.tenant = tenant ∧ a.id = account)
      (hactive : a.enabled ∧ ¬ a.deleted) (hadmin : a.admin) (hentry : s.Appoints a.username entry)
      (henabled : entry.enabled) (hpermits : entry.permissions.permits p.code)
  | member {a : Account} {r : Role} (hid : s.supervisor.username ≠ account.text)
      (hrow : .account a ∈ rows) (hplace : a.tenant = tenant ∧ a.id = account)
      (hactive : a.enabled ∧ ¬ a.deleted) (hadmin : ¬ a.admin)
      (hrole : .role r ∈ rows) (howner : r.tenant = tenant) (henabled : r.enabled)
      (hscope : ∀ app ∈ scope, r.applicationId = app)
      (hassigned : s.roleBinding = .principal →
        .roleAssignment ⟨r.id, account.text, .account, tenant⟩ ∈ rows)
      (hlink : .permissionLink ⟨r.id, p.id, tenant⟩ ∈ rows)

end AdminSettings

/-- A permission is among the rows of a tenant and lies in the scope. -/
def Permission.IsOf (rows : Set Row) (scope : Option ApplicationId) (tenant : TenantCode)
    (p : Permission) : Prop :=
  (.permission p ∈ rows ∧ p.tenant = tenant) ∧ ∀ app ∈ scope, p.applicationId = app

/-- The permissions of the tenant and the scope that a subject with the given roles may use. -/
def Subject.MayUse (rows : Set Row) (scope : Option ApplicationId) (tenant : TenantCode)
    (roles : List Role) (subject : Subject) (p : Permission) : Prop :=
  p.IsOf rows scope tenant ∧
    match subject with
    | .absent | .inactive .. | .officer _ none => False
    | .supervisor _ => True
    | .officer _ (some entry) => entry.enabled ∧ entry.permissions.permits p.code
    | .member _ => ∃ r ∈ roles, .permissionLink ⟨r.id, p.id, tenant⟩ ∈ rows

/-! ## Subjects -/

section
variable {server : Query.Server σ} {R : Resolver}

/-- An id other than the supervisor's stands for the account stored under it. -/
theorem AdminSettings.identifies_iff_of_ne {s : AdminSettings} {id : AccountId} {a : Account}
    (hid : s.supervisor.username ≠ id.text) : s.Identifies rows tenant id a ↔
      (.account a ∈ rows ∧ a.tenant = tenant) ∧ a.id = id := by
  rw [Identifies, if_neg hid]

/-- At most one account is identified by an id. -/
theorem AdminSettings.Identifies.unique (h : server.Honours tenant rows) {s : AdminSettings}
    {id : AccountId} {a b : Account} (ha : s.Identifies rows tenant id a)
    (hb : s.Identifies rows tenant id b) : a = b := by
  unfold Identifies at ha hb
  split at ha
  · rename_i hid
    rw [if_pos hid] at hb
    rw [ha, hb]
  · rename_i hid
    rw [if_neg hid] at hb
    obtain ⟨⟨ha, ht⟩, hi⟩ := ha
    obtain ⟨⟨hb, ht'⟩, hi'⟩ := hb
    refine Row.account.inj (h.place_inj ha hb ?_)
    simp [Row.place, ht, ht', hi, hi']

/-- The subject of an id is the account that the id stands for, classified, and absent when it
stands for none. -/
def AdminSettings.IsSubject (s : AdminSettings) (rows : Set Row) (tenant : TenantCode)
    (id : AccountId) (subject : Subject) : Prop :=
  (∃ a, s.Identifies rows tenant id a ∧ subject = s.classify a) ∨
    (∀ a, ¬ s.Identifies rows tenant id a) ∧ subject = .absent

theorem AdminSettings.IsSubject.unique (h : server.Honours tenant rows) {s : AdminSettings}
    {id : AccountId} {x y : Subject} (hx : s.IsSubject rows tenant id x)
    (hy : s.IsSubject rows tenant id y) : x = y := by
  rcases hx with ⟨a, ha, rfl⟩ | ⟨ha, rfl⟩ <;> rcases hy with ⟨b, hb, rfl⟩ | ⟨hb, rfl⟩
  · rw [ha.unique h hb]
  · exact absurd ha (hb a)
  · exact absurd hb (ha b)
  · rfl

/-- The resolver finds the subject of an id. -/
theorem Resolver.subject_yields (h : server.Honours tenant rows) (id : AccountId) :
    Query.Yields server (R.subject id tenant) (R.settings.IsSubject rows tenant id) := by
  by_cases howns : R.settings.supervisor.owns id
  · have hid : R.settings.supervisor.username = id.text := of_decide_eq_true howns
    rw [R.subject_of_owns howns]
    exact .answer (.inl ⟨_, by rw [AdminSettings.Identifies, if_pos hid], rfl⟩)
  · have hid : R.settings.supervisor.username ≠ id.text := fun h => howns (decide_eq_true h)
    rw [R.subject_of_not_owns howns]
    refine (h.read (.account id tenant) (decide_eq_true rfl)).bind fun reply hreply => ?_
    have hown : ∀ a ∈ reply.toList, TenantScoped.tenantOf a = tenant :=
      fun a ha => ((hreply a).1 (Option.mem_toList.1 ha)).1.2
    rw [Query.ownRows_of_own hown]
    have hsome : ∀ a, reply = some a ↔ R.settings.Identifies rows tenant id a :=
      fun a => (hreply a).trans (AdminSettings.identifies_iff_of_ne hid).symm
    cases reply with
    | none =>
      exact .answer (.inr ⟨fun a ha => Option.some_ne_none a ((hsome a).2 ha).symm, rfl⟩)
    | some a => exact .answer (.inl ⟨a, (hsome a).1 rfl, rfl⟩)

/-! ## Roles -/

/-- The roles that a member holds, made from a reply that holds the enabled roles of the scope and
from the roles that are assigned. -/
theorem isListing_heldRoles (h : server.Honours tenant rows) {a : Account} {found : List Role}
    {assigned : Option (List RoleId)} (hfound : (Read.enabledRoles scope tenant).Fits rows found)
    (hassigned : ∀ id, assigned.all (·.contains id) ↔ (R.settings.roleBinding = .principal →
      .roleAssignment ⟨id, a.id.text, .account, tenant⟩ ∈ rows)) :
    IsListing Role.listingOrder (R.settings.Confers rows scope tenant (.member a))
      (heldRoles scope assigned found) := by
  refine isListing_sortBy (fun r => ?_) (fun r r' hr hr' hid => ?_)
    (fun _ _ _ _ => Role.id_eq_of_listingOrder) (.refl _)
  · have hr := hfound r
    have ha := hassigned r.id
    rw [List.mem_filter, Bool.and_eq_true, Bool.and_eq_true, inScope_iff, ha, hr]
    simp only [AdminSettings.Confers]
    tauto
  · refine Row.role.inj (h.place_inj hr.1.1 hr'.1.1 ?_)
    simp [Row.place, hr.1.2, hr'.1.2, hid]

/-- The resolver finds the roles that the rules confer on a subject. -/
theorem Resolver.rolesOf_yields (h : server.Honours tenant rows) (subject : Subject)
    (scope : Option ApplicationId) :
    Query.Yields server (R.rolesOf subject scope tenant)
      (IsListing Role.listingOrder (R.settings.Confers rows scope tenant subject)) := by
  have hnone : IsListing Role.listingOrder (fun _ => False) [] := ⟨.nil, by simp⟩
  cases subject with
  | absent | inactive | supervisor | officer => exact .answer hnone
  | member a =>
    refine (h.read (.enabledRoles scope tenant) (decide_eq_true rfl)).bind fun found hfound => ?_
    rw [Query.bind_eq_bind, Query.ownRows_of_own fun r hr => ((hfound r).1 hr).1.2]
    cases hbinding : R.settings.roleBinding with
    | application =>
      exact .answer (isListing_heldRoles h hfound fun id => by simp [hbinding])
    | principal =>
      refine (h.read (.assignedRoles (.ofAccount a.id) tenant) (decide_eq_true rfl)).bind
        fun assigned hassigned => .answer (isListing_heldRoles h hfound fun id => ?_)
      simpa [hbinding, Principal.ofAccount] using hassigned id

/-! ## Permissions -/

/-- A reply that holds permissions of the tenant and the scope passes the check of its owner and
loses none of them. -/
theorem Resolver.scopedReply_yields {reply : Query (List Permission)} {P : Permission → Prop}
    (hreply : Query.Yields server reply fun found => ∀ p, p ∈ found ↔ P p)
    (hP : ∀ p, P p → p.IsOf rows scope tenant) :
    Query.Yields server (Resolver.scopedReply scope tenant reply)
      fun found => ∀ p, p ∈ found ↔ P p := by
  refine hreply.bind fun found hfound => ?_
  rw [Query.bind_eq_bind, Query.ownRows_of_own fun p hp => (hP p ((hfound p).1 hp)).1.2]
  refine .answer fun p => ?_
  rw [scopedPermissions, List.mem_filter, inScope_iff, hfound p]
  exact and_iff_left_of_imp fun hp => (hP p hp).2

/-- A permission of a tenant is known by its id. -/
theorem Permission.IsOf.id_inj (h : server.Honours tenant rows) {p q : Permission}
    (hp : p.IsOf rows scope tenant) (hq : q.IsOf rows scope tenant) (hid : p.id = q.id) : p = q := by
  refine Row.permission.inj (h.place_inj hp.1.1 hq.1.1 ?_)
  simp [Row.place, hp.1.2, hq.1.2, hid]

/-- The listing of permissions of the tenant and the scope. -/
theorem isListing_listedPermissions (h : server.Honours tenant rows) {found : List Permission}
    {P : Permission → Prop} (hfound : ∀ p, p ∈ found ↔ P p)
    (hP : ∀ p, P p → p.IsOf rows scope tenant) :
    IsListing Permission.listingOrder P (listedPermissions found) :=
  isListing_sortBy hfound (fun p q hp hq => (hP p hp).id_inj h (hP q hq))
    (fun _ _ _ _ => Permission.id_eq_of_listingOrder) (.refl _)

/-- The resolver finds the permissions that a subject with the given roles may use. -/
theorem Resolver.permissionsOf_yields (h : server.Honours tenant rows) (subject : Subject)
    (roles : List Role) (scope : Option ApplicationId) :
    Query.Yields server (Resolver.permissionsOf subject roles scope tenant)
      (IsListing Permission.listingOrder (subject.MayUse rows scope tenant roles)) := by
  have hlist : ∀ {found}, (∀ p, p ∈ found ↔ subject.MayUse rows scope tenant roles p) →
      IsListing Permission.listingOrder (subject.MayUse rows scope tenant roles)
        (listedPermissions found) :=
    fun hfound => isListing_listedPermissions h hfound fun p hp => hp.1
  have hall : Query.Yields server
      (Resolver.scopedReply scope tenant (Query.read (.permissions scope tenant)))
      fun found => ∀ p, p ∈ found ↔ p.IsOf rows scope tenant :=
    Resolver.scopedReply_yields (h.read (.permissions scope tenant) (decide_eq_true rfl))
      fun p hp => hp
  cases subject with
  | absent | inactive => exact .answer ⟨.nil, by simp [Subject.MayUse]⟩
  | supervisor a =>
    refine hall.bind fun found hfound => .answer (hlist fun p => ?_)
    rw [hfound p, Subject.MayUse, and_true]
  | officer a entry =>
    cases entry with
    | none => exact .answer ⟨.nil, by simp [Subject.MayUse]⟩
    | some entry =>
      simp only [Resolver.permissionsOf]
      by_cases henabled : entry.enabled
      · rw [if_pos henabled]
        refine hall.bind fun found hfound => .answer (hlist fun p => ?_)
        simp only [PermissionRange.restrict, List.mem_filter, hfound p, Subject.MayUse, henabled,
          true_and]
      · rw [if_neg henabled]
        exact .answer ⟨.nil, by simp [Subject.MayUse, henabled]⟩
  | member a =>
    simp only [Resolver.permissionsOf]
    by_cases hroles : roles.isEmpty
    · obtain rfl := List.isEmpty_iff.1 hroles
      exact .answer ⟨.nil, by simp [Subject.MayUse]⟩
    · rw [if_neg hroles]
      have hlinked := h.read (.linkedPermissions (roles.map Role.id) scope tenant)
        (decide_eq_true rfl)
      refine (Resolver.scopedReply_yields (hlinked.mono fun found hfound p => ?_)
        fun p hp => hp.1).bind fun found hfound => .answer (hlist hfound)
      rw [hfound p, ← and_assoc]
      simp [Subject.MayUse, Permission.IsOf]

/-! ## Roles and ranges of an account -/

/-- An account holds the roles that are conferred on the subject that its id stands for. -/
def AdminSettings.Holds (s : AdminSettings) (rows : Set Row) (account : AccountId)
    (scope : Option ApplicationId) (tenant : TenantCode) (r : Role) : Prop :=
  ∃ subject, s.IsSubject rows tenant account subject ∧ s.Confers rows scope tenant subject r

/-- The resolver finds the roles that an account holds. -/
theorem Resolver.roles_yields (h : server.Honours tenant rows) (account : AccountId)
    (scope : Option ApplicationId) :
    Query.Yields server (R.roles account scope tenant)
      (IsListing Role.listingOrder (R.settings.Holds rows account scope tenant)) := by
  refine (R.subject_yields h account).bind fun subject hsubject => ?_
  refine (R.rolesOf_yields h subject scope).mono fun found hfound => ⟨hfound.sorted, fun r => ?_⟩
  rw [hfound.mem_iff]
  refine ⟨fun hr => ⟨subject, hsubject, hr⟩, ?_⟩
  rintro ⟨other, hother, hr⟩
  exact hother.unique h hsubject ▸ hr

/-- The resolver finds the ranges of the roles that an account holds. -/
theorem Resolver.ranges_yields (h : server.Honours tenant rows) (account : AccountId)
    (scope : Option ApplicationId) :
    Query.Yields server (R.ranges account scope tenant)
      (IsListing RoleRange.listingOrder fun r => (.roleRange r ∈ rows ∧ r.tenant = tenant) ∧
        ∃ role, R.settings.Holds rows account scope tenant role ∧ role.id = r.roleId) := by
  refine (R.roles_yields h account scope).bind fun roles hroles => ?_
  have hids : ∀ id, id ∈ roles.map Role.id ↔
      ∃ role, R.settings.Holds rows account scope tenant role ∧ role.id = id := by
    intro id
    simp only [List.mem_map, hroles.mem_iff]
  by_cases hempty : roles.isEmpty
  · rw [if_pos hempty]
    obtain rfl := List.isEmpty_iff.1 hempty
    exact .answer ⟨.nil, fun r => by simp [← hids]⟩
  · rw [if_neg hempty]
    refine (h.read (.roleRanges (roles.map Role.id) tenant) (decide_eq_true rfl)).bind
      fun reply hreply => ?_
    rw [Query.bind_eq_bind, Query.ownRows_of_own fun r hr => ((hreply r).1 hr).1.2]
    refine .answer (isListing_sortBy (fun r => ?_) (fun _ _ _ _ h => h) (fun r r' hr hr' heq => ?_)
      (R.rangeOrder.perm _))
    · rw [List.mem_filter, hreply r, ← hids, List.contains_iff_mem]
      tauto
    · exact RoleRange.eq_of_listingOrder heq (hr.1.2.trans hr'.1.2.symm)

/-! ## What the rules grant -/

namespace AdminSettings

variable {s : AdminSettings} {a : Account}

/-- The supervisor is granted everything, unless it is switched off. -/
theorem grants_iff_of_supervisor {id : AccountId} {p : Permission}
    (hid : s.supervisor.username = id.text) :
    s.Grants rows id scope tenant p ↔ s.supervisor.enabled := by
  refine ⟨fun h => ?_, fun h => .supervisor hid h⟩
  cases h with
  | supervisor _ henabled => exact henabled
  | officer hne | member hne => exact absurd hid hne

/-- What another account is granted depends on the row that its id stands for. -/
theorem grants_iff_of_row (h : server.Honours tenant rows) {id : AccountId} {p : Permission}
    (hid : s.supervisor.username ≠ id.text) (ha : s.Identifies rows tenant id a) :
    s.Grants rows id scope tenant p ↔ (a.enabled ∧ ¬ a.deleted) ∧
      ((a.admin ∧ ∃ entry, s.Appoints a.username entry ∧ entry.enabled ∧
          entry.permissions.permits p.code) ∨
        (¬ a.admin ∧ ∃ r, s.Confers rows scope tenant (.member a) r ∧
          .permissionLink ⟨r.id, p.id, tenant⟩ ∈ rows)) := by
  have hrow : ∀ {b : Account}, .account b ∈ rows → b.tenant = tenant ∧ b.id = id → b = a :=
    fun hb hplace => Identifies.unique h
      ((identifies_iff_of_ne hid).2 ⟨⟨hb, hplace.1⟩, hplace.2⟩) ha
  obtain ⟨⟨hmem, htenant⟩, rfl⟩ := (identifies_iff_of_ne hid).1 ha
  constructor
  · intro hgrant
    cases hgrant with
    | supervisor heq => exact absurd heq hid
    | officer _ hb hplace hactive hadmin hentry henabled hpermits =>
      obtain rfl := hrow hb hplace
      exact ⟨hactive, .inl ⟨hadmin, _, hentry, henabled, hpermits⟩⟩
    | member _ hb hplace hactive hadmin hrole howner henabled hscope hassigned hlink =>
      obtain rfl := hrow hb hplace
      exact ⟨hactive, .inr ⟨hadmin, _, ⟨⟨hrole, howner⟩, henabled, hscope, hassigned⟩, hlink⟩⟩
  · rintro ⟨hactive, ⟨hadmin, entry, hentry, henabled, hpermits⟩ | ⟨hadmin, r, hr, hlink⟩⟩
    · exact .officer hid hmem ⟨htenant, rfl⟩ hactive hadmin hentry henabled hpermits
    · obtain ⟨⟨hrole, howner⟩, henabled, hscope, hassigned⟩ := hr
      exact .member hid hmem ⟨htenant, rfl⟩ hactive hadmin hrole howner henabled hscope hassigned
        hlink

/-- An account that does not exist is granted nothing. -/
theorem not_grants_of_absent {id : AccountId} {p : Permission}
    (hnone : ∀ a, ¬ s.Identifies rows tenant id a) : ¬ s.Grants rows id scope tenant p := by
  have hid : s.supervisor.username ≠ id.text := by
    intro hid
    refine hnone (s.supervisor.toAccount tenant) ?_
    rw [Identifies, if_pos hid]
  have hstored : ∀ {a : Account}, .account a ∈ rows → a.tenant = tenant ∧ a.id = id → False := by
    intro a ha hplace
    exact hnone a ((identifies_iff_of_ne hid).2 ⟨⟨ha, hplace.1⟩, hplace.2⟩)
  intro hgrant
  cases hgrant with
  | supervisor heq => exact hid heq
  | officer _ hrow hplace | member _ hrow hplace => exact hstored hrow hplace

end AdminSettings

/-- What the subject of an account may use through the roles that it holds is what the rules grant
to the account. -/
theorem Subject.mayUse_iff_grants (h : server.Honours tenant rows) {s : AdminSettings}
    {id : AccountId} {subject : Subject} {roles : List Role}
    (hsubject : s.IsSubject rows tenant id subject)
    (hroles : ∀ r, r ∈ roles ↔ s.Confers rows scope tenant subject r) (p : Permission) :
    subject.MayUse rows scope tenant roles p ↔
      p.IsOf rows scope tenant ∧ s.Grants rows id scope tenant p := by
  refine and_congr_right fun _ => ?_
  rcases hsubject with ⟨a, ha, rfl⟩ | ⟨hnone, rfl⟩
  · by_cases hid : s.supervisor.username = id.text
    · rw [AdminSettings.grants_iff_of_supervisor hid]
      rw [AdminSettings.Identifies, if_pos hid] at ha
      rw [ha, AdminSettings.classify_toAccount]
      cases s.supervisor.enabled <;> simp
    · rw [AdminSettings.grants_iff_of_row h hid ha]
      have hrow := (AdminSettings.identifies_iff_of_ne hid).1 ha
      by_cases hactive : a.enabled ∧ ¬ a.deleted
      · by_cases hadmin : a.admin
        · rw [AdminSettings.classify_of_admin hactive hadmin (hrow.2 ▸ hid)]
          have happ : ∀ entry, s.Appoints a.username entry ↔ s.officer? a.username = some entry :=
            fun _ => AdminSettings.officer?_eq_some_iff.symm
          cases hentry : s.officer? a.username <;> simp [happ, hentry, hactive, hadmin]
        · rw [AdminSettings.classify_of_not_admin hactive hadmin] at hroles ⊢
          simp [hroles, hactive, hadmin]
      · rw [AdminSettings.classify_of_not_active hactive]
        exact iff_of_false not_false fun hgrant => hactive hgrant.1
  · exact iff_of_false not_false (AdminSettings.not_grants_of_absent hnone)

/-- Against a server that honours rows, the permissions of an account are the listing of those that
the rules grant. -/
theorem Resolver.permissions_yields (h : server.Honours tenant rows) (account : AccountId)
    (scope : Option ApplicationId) :
    Query.Yields server (R.permissions account scope tenant)
      (IsListing Permission.listingOrder fun p =>
        p.IsOf rows scope tenant ∧ R.settings.Grants rows account scope tenant p) := by
  refine (R.subject_yields h account).bind fun subject hsubject => ?_
  refine (R.rolesOf_yields h subject scope).bind fun roles hroles => ?_
  refine (Resolver.permissionsOf_yields h subject roles scope).mono fun found hfound => ?_
  refine ⟨hfound.sorted, fun p => (hfound.mem_iff p).trans ?_⟩
  exact Subject.mayUse_iff_grants h hsubject hroles.mem_iff p

end

/-! ## A tenant with a wiki -/

namespace Wiki

variable (tenant : TenantCode)

def ann : Account where
  id := ⟨"ann"⟩
  username := "ann"
  name := "Ann"
  tenant := tenant

def reader : Role where
  id := ⟨"reader"⟩
  code := "reader"
  name := "Reader"
  applicationId := ⟨"wiki"⟩
  tenant := tenant

def readPage : Permission where
  id := ⟨"read"⟩
  code := "page:read"
  name := "Read pages"
  menuId := ⟨"pages"⟩
  applicationId := ⟨"wiki"⟩
  tenant := tenant

def pages : Menu where
  id := ⟨"pages"⟩
  parentId := some ⟨"root"⟩
  code := "pages"
  name := "Pages"
  menuType := "page"
  applicationId := ⟨"wiki"⟩
  tenant := tenant

/-- The menu above the pages, which names them as its own parent. -/
def root : Menu where
  id := ⟨"root"⟩
  parentId := some ⟨"pages"⟩
  code := "root"
  name := "Root"
  menuType := "page"
  applicationId := ⟨"wiki"⟩
  tenant := tenant

/-- A history in which Ann becomes a reader, and readers may read pages. -/
def history : List Write :=
  [.put (.account (ann tenant)), .put (.role (reader tenant)), .put (.permission (readPage tenant)),
    .put (.permissionLink ⟨⟨"reader"⟩, ⟨"read"⟩, tenant⟩),
    .put (.roleAssignment ⟨⟨"reader"⟩, "ann", .account, tenant⟩),
    .put (.menu (pages tenant)), .put (.menu (root tenant))]

/-- The same rows as a dataset of one tenant, with the wiki itself. -/
def stock : Dataset where
  applications := [{ id := ⟨"wiki"⟩, code := "wiki", name := "Wiki" }]
  accounts := [ann ⟨"acme"⟩]
  roles := [reader ⟨"acme"⟩]
  permissionLinks := [⟨⟨"reader"⟩, ⟨"read"⟩, ⟨"acme"⟩⟩]
  roleAssignments := [⟨⟨"reader"⟩, "ann", .account, ⟨"acme"⟩⟩]
  menus := [pages ⟨"acme"⟩, root ⟨"acme"⟩]
  permissions := [readPage ⟨"acme"⟩]

/-- The rules grant to Ann the permission that her role is linked to. -/
theorem grants_readPage : (readPage ⟨"acme"⟩).IsOf (Current (history ⟨"acme"⟩)) none ⟨"acme"⟩ ∧
    AdminSettings.Grants {} (Current (history ⟨"acme"⟩)) ⟨"ann"⟩ none ⟨"acme"⟩
      (readPage ⟨"acme"⟩) := by
  refine ⟨⟨⟨by decide, rfl⟩, nofun⟩, ?_⟩
  exact .member (a := ann ⟨"acme"⟩) (r := reader ⟨"acme"⟩) (by decide) (by decide) ⟨rfl, rfl⟩
    (by decide) (by decide) (by decide) rfl rfl nofun (fun _ => by decide) (by decide)

end Wiki

/-! ## After every history -/

/-- After every history of writes, whatever the settings, the query for the permissions of an
account answers, and the answer is strictly sorted by code and id and holds exactly the permissions
of the tenant and the scope that the rules grant to the account on the rows that are stored. -/
theorem permissions_isListing_grants (R : Resolver) (ws : List Write) (account : AccountId)
    (scope : Option ApplicationId) (tenant : TenantCode) :
    ∃ store, (∅ : MemoryStore).writeAll ws = .ok store ∧
      ∀ {σ : Type} (server : Query.Server σ), server.Serves store → ∀ st, ∃ ps,
        ((R.permissions account scope tenant).serve server st).1 = .answered ps ∧
          IsListing Permission.listingOrder (fun p => p.IsOf (Current ws) scope tenant ∧
            R.settings.Grants (Current ws) account scope tenant p) ps := by
  obtain ⟨store, hstore, hrep⟩ := MemoryStore.exists_writeAll ws
  refine ⟨store, hstore, fun server hserver st => ?_⟩
  obtain ⟨ps, st', hrun, hps⟩ := R.permissions_yields (hserver.honours hrep tenant) account scope st
  exact ⟨ps, by rw [hrun], hps⟩

/-- Ann holds the permission that her role is linked to. -/
theorem permissions_isListing_grants_wiki :
    ∃ store, (∅ : MemoryStore).writeAll (Wiki.history ⟨"acme"⟩) = .ok store ∧
      (store.reply.toServer : Query.Server Unit).Serves store ∧
      ∃ ps, ((Resolver.permissions { settings := {}, levels := 0 } ⟨"ann"⟩ none ⟨"acme"⟩).serve
        store.reply.toServer ()).1 = .answered ps ∧ Wiki.readPage ⟨"acme"⟩ ∈ ps := by
  obtain ⟨store, hstore, hlisting⟩ := permissions_isListing_grants { settings := {}, levels := 0 }
    (Wiki.history ⟨"acme"⟩) ⟨"ann"⟩ none ⟨"acme"⟩
  obtain ⟨ps, hps, hmem⟩ := hlisting store.reply.toServer store.serves_reply ()
  exact ⟨store, hstore, store.serves_reply, ps, hps, (hmem.mem_iff _).2 Wiki.grants_readPage⟩

end TenantAccess
