import TenantAccess.Proofs.Discipline
import TenantAccess.Proofs.Walk

/-!
# The form of answers

A store may reply with more than it was asked for: with rows that are switched off, of another
application or of roles that nobody holds, with a row twice, or with several rows under one id.
`InForm` says what an answer keeps to nevertheless: it is a list of rows of the tenant that have a
property, no two under one key, strictly sorted. Every answer is made by `distinctBy`, an
arrangement and `sortBy` from rows that were checked for their owner and filtered, and
`InForm.of_rows` is the one place where this is looked into. The form is shown of each step of a
query, whatever the replies to it, and put together for a run. The main statement is
`answers_inForm`.
-/

namespace TenantAccess

variable {α κ σ : Type} {tenant : TenantCode} {scope : Option ApplicationId}

/-! ## Rows in form -/

/-- The form of an answer: rows of the tenant that have a property, no two of them under one key,
strictly sorted. -/
structure InForm [TenantScoped α] (cmp : α → α → Ordering) (key : α → κ) (tenant : TenantCode)
    (P : α → Prop) (xs : List α) : Prop where
  own : ∀ a ∈ xs, TenantScoped.tenantOf a = tenant
  keeps : ∀ a ∈ xs, P a
  distinct : (xs.map key).Nodup
  sorted : StrictlySorted cmp xs

namespace InForm

variable [TenantScoped α] {cmp : α → α → Ordering} {key : α → κ} {P : α → Prop} {xs ys : List α}

theorem nil : InForm cmp key tenant P [] := ⟨nofun, nofun, .nil, .nil⟩

/-- Rows of the tenant are brought into form, in whatever order they come out of their collection,
when those that compare equal share their key. -/
theorem of_rows [DecidableEq κ] [Std.TransCmp cmp]
    (h : ∀ a ∈ xs, TenantScoped.tenantOf a = tenant ∧ P a)
    (hcmp : ∀ a ∈ xs, ∀ b ∈ xs, cmp a b = .eq → key a = key b)
    (hperm : ys.Perm (distinctBy key xs)) : InForm cmp key tenant P (sortBy cmp ys) := by
  have hmem : sortBy cmp ys ⊆ xs := sortBy_distinctBy_subset hperm
  have hkeys : (sortBy cmp ys).Perm (distinctBy key xs) := (List.mergeSort_perm _ _).trans hperm
  exact {
    own := fun a ha => (h a (hmem ha)).1
    keeps := fun a ha => (h a (hmem ha)).2
    distinct := (hkeys.map key).nodup_iff.2 (nodup_map_distinctBy key xs)
    sorted := strictlySorted_sortBy_distinctBy hcmp hperm }

/-- Of rows in form something else may be known. -/
theorem imp {Q : α → Prop} (h : InForm cmp key tenant P xs) (hQ : ∀ a ∈ xs, P a → Q a) :
    InForm cmp key tenant Q xs :=
  ⟨h.own, fun a ha => hQ a ha (h.keeps a ha), h.distinct, h.sorted⟩

end InForm

/-- When nothing is wrong with a reply, its rows are the tenant's. -/
theorem Read.own_of_clean [TenantScoped α] {r : Read} {reply : r.Reply} {rows : List α}
    {row : α → Row} (hclean : r.leak? tenant reply = none) (hrows : rows.map row ⊆ r.rows reply)
    (howner : ∀ a, (row a).place.owner? = some (TenantScoped.tenantOf a)) :
    ∀ a ∈ rows, TenantScoped.tenantOf a = tenant := fun a ha =>
  Read.leak?_eq_none_iff.1 hclean (row a) (hrows (List.mem_map_of_mem ha)) _ (howner a)

/-! ## The steps of a query -/

/-- The roles that are held according to a reply are in form. -/
theorem heldRoles_inForm (scope : Option ApplicationId) (assigned : Option (List RoleId))
    {rows : List Role} (hown : ∀ r ∈ rows, r.tenant = tenant) :
    InForm Role.listingOrder Role.id tenant (fun r =>
      (r.enabled ∧ ∀ app ∈ scope, r.applicationId = app) ∧ ∀ ids ∈ assigned, r.id ∈ ids)
      (heldRoles scope assigned rows) := by
  refine .of_rows (fun r hr => ?_) (fun _ _ _ _ => Role.id_eq_of_listingOrder) (.refl _)
  obtain ⟨hr, hheld⟩ := List.mem_filter.1 hr
  rw [Bool.and_eq_true, Bool.and_eq_true, inScope_iff] at hheld
  refine ⟨hown r hr, hheld.1, ?_⟩
  rintro ids rfl
  exact List.contains_iff_mem.1 hheld.2

/-- Permissions of the tenant and the scope are listed in form. -/
theorem listedPermissions_inForm {ps : List Permission}
    (h : ∀ p ∈ ps, p.tenant = tenant ∧ ∀ app ∈ scope, p.applicationId = app) :
    InForm Permission.listingOrder Permission.id tenant
      (fun p => ∀ app ∈ scope, p.applicationId = app) (listedPermissions ps) :=
  .of_rows h (fun _ _ _ _ => Permission.id_eq_of_listingOrder) (.refl _)

/-- The ranges of a reply that belong to the roles are in form. -/
theorem rangesOf_inForm (order : Arrangement RoleRange) (roles : List RoleId)
    {rows : List RoleRange} (hown : ∀ r ∈ rows, r.tenant = tenant) :
    InForm RoleRange.listingOrder id tenant (fun r => r.roleId ∈ roles)
      (rangesOf order roles rows) := by
  have hwanted : ∀ r ∈ rows.filter (fun r => roles.contains r.roleId),
      r.tenant = tenant ∧ r.roleId ∈ roles := fun r hr =>
    ⟨hown r (List.mem_filter.1 hr).1, List.contains_iff_mem.1 (List.mem_filter.1 hr).2⟩
  refine .of_rows hwanted (fun r hr r' hr' heq => ?_) (order.perm _)
  exact RoleRange.eq_of_listingOrder heq ((hwanted r hr).1.trans (hwanted r' hr').1.symm)

/-- Menus of the tenant are listed in form. -/
theorem listedMenus_inForm (order : Arrangement Menu) {P : Menu → Prop} {ms : List Menu}
    (h : ∀ m ∈ ms, m.tenant = tenant ∧ P m) :
    InForm Menu.listingOrder Menu.id tenant P (listedMenus order ms) :=
  .of_rows h (fun _ _ _ _ => Menu.id_eq_of_listingOrder) (order.perm _)

namespace Resolver

variable (R : Resolver)

/-- The roles of a subject are in form, whatever the replies. Where roles are assigned, they are
among those that the reply about the account names. -/
theorem rolesOf_inForm (subject : Subject) (scope : Option ApplicationId) (tenant : TenantCode) :
    (R.rolesOf subject scope tenant).Ensures {} fun cs roles =>
      InForm Role.listingOrder Role.id tenant
        (fun r => r.enabled ∧ ∀ app ∈ scope, r.applicationId = app) roles ∧
      (R.settings.roleBinding = .principal → roles ≠ [] → ∃ a ids, subject = .member a ∧
        ⟨.assignedRoles (.ofAccount a.id) tenant, .ok ids⟩ ∈ cs ∧ ∀ r ∈ roles, r.id ∈ ids) := by
  have hT := Query.Terms.Admit.default tenant
  cases subject with
  | absent | inactive | supervisor | officer => exact ⟨.nil, fun _ hne => absurd rfl hne⟩
  | member a =>
    refine .ask_own hT (decide_eq_true rfl) (fun _ => rfl) fun rows _ hclean => ?_
    have hown : ∀ r ∈ rows, r.tenant = tenant :=
      Read.own_of_clean hclean (List.Subset.refl _) fun _ => rfl
    cases R.settings.roleBinding with
    | application =>
      exact ⟨(heldRoles_inForm scope none hown).imp fun _ _ => And.left, nofun⟩
    | principal =>
      refine .ask_free hT (decide_eq_true rfl) (fun _ => rfl) fun ids _ => ?_
      have hform := heldRoles_inForm scope (some ids) hown
      refine ⟨hform.imp fun _ _ => And.left, fun _ _ => ⟨a, ids, rfl, ?_, fun r hr => ?_⟩⟩
      · exact List.mem_cons_of_mem _ List.mem_cons_self
      · exact (hform.keeps r hr).2 ids rfl

/-- The permissions that a subject with the given roles holds are in form, whatever the replies. -/
theorem permissionsOf_inForm (subject : Subject) (roles : List Role)
    (scope : Option ApplicationId) (tenant : TenantCode) :
    (permissionsOf subject roles scope tenant).Ensures {} fun _ ps =>
      InForm Permission.listingOrder Permission.id tenant
        (fun p => ∀ app ∈ scope, p.applicationId = app) ps := by
  have hT := Query.Terms.Admit.default tenant
  have hscoped : ∀ {rows : List Permission}, (∀ p ∈ rows, p.tenant = tenant) →
      ∀ p ∈ scopedPermissions scope rows,
        p.tenant = tenant ∧ ∀ app ∈ scope, p.applicationId = app := by
    intro rows hown p hp
    obtain ⟨hp, hscope⟩ := List.mem_filter.1 hp
    exact ⟨hown p hp, inScope_iff.1 hscope⟩
  let own (ps : List Permission) :=
    ∀ p ∈ ps, p.tenant = tenant ∧ ∀ app ∈ scope, p.applicationId = app
  refine permissionsOf_cases (P := fun q => q.Ensures {} _) .nil (fun _ keep hkeep => ?_)
    fun _ _ _ => ?_
  · refine Query.Ensures.bind (P := fun _ => own) ?_ fun _ ps hps =>
      listedPermissions_inForm fun p hp => hps p (hkeep ps hp)
    exact .ask_own hT (decide_eq_true rfl) (fun _ => rfl) fun rows _ hclean =>
      hscoped (Read.own_of_clean hclean (List.Subset.refl _) fun _ => rfl)
  · refine Query.Ensures.bind (P := fun _ => own) ?_ fun _ ps hps => listedPermissions_inForm hps
    exact .ask_own hT (decide_eq_true rfl) (fun _ => rfl) fun rows _ hclean =>
      hscoped (Read.own_of_clean hclean (List.Subset.refl _) fun _ => rfl)

/-- An officer holds what the range of its entry permits, whatever the replies. -/
theorem permissionsOf_officer (a : Account) (entry : Option OfficerSettings) (roles : List Role)
    (scope : Option ApplicationId) (tenant : TenantCode) :
    (permissionsOf (.officer a entry) roles scope tenant).Ensures {} fun _ ps =>
      ∀ p ∈ ps, ∃ e ∈ entry, e.enabled ∧ e.permissions.permits p.code := by
  cases entry with
  | none => exact nofun
  | some entry =>
    show Query.Ensures {} (ite ..) _
    split
    · rename_i henabled
      refine Query.Ensures.bind (P := fun _ _ => True) ?_ fun _ ps _ p hp => ?_
      · exact .ask_own (.default tenant) (decide_eq_true rfl) (fun _ => rfl) fun _ _ _ => trivial
      · have hrestrict := sortBy_distinctBy_subset (.refl _) hp
        exact ⟨entry, rfl, henabled, (List.mem_filter.1 hrestrict).2⟩
    · exact nofun

section
variable {server : Query.Server σ} {s s' : σ} {account : AccountId}

/-- The answer to the question for the roles of an account is in form. Where roles are assigned, they
are among those that the reply about the account names. -/
theorem roles_inForm {roles : List Role}
    (h : (R.roles account scope tenant).serve server s = (.answered roles, s')) :
    InForm Role.listingOrder Role.id tenant
      (fun r => r.enabled ∧ ∀ app ∈ scope, r.applicationId = app) roles ∧
    (R.settings.roleBinding = .principal → roles ≠ [] → ∃ a ids,
      R.FindsMember server s tenant account a ∧
      ⟨.assignedRoles (.ofAccount a.id) tenant, .ok ids⟩ ∈
        (R.roles account scope tenant).calls server s ∧
      ∀ r ∈ roles, r.id ∈ ids) := by
  obtain ⟨subject, s₁, hsubject, hroles⟩ := Query.exists_serve_of_bind h
  obtain ⟨hform, hassigned⟩ := (R.rolesOf_inForm subject scope tenant).of_answered hroles
  refine ⟨hform, fun hbinding hne => ?_⟩
  obtain ⟨a, ids, rfl, hcall, hids⟩ := hassigned hbinding hne
  exact ⟨a, ids, R.findsMember_of_subject hsubject,
    Query.calls_subset_bind_of_answered hsubject hcall, hids⟩

/-- The answer to the question for the permissions of an account is in form, and those of an officer
lie in the range of its entry. -/
theorem permissions_inForm {ps : List Permission}
    (h : (R.permissions account scope tenant).serve server s = (.answered ps, s')) :
    InForm Permission.listingOrder Permission.id tenant (fun p =>
      (∀ app ∈ scope, p.applicationId = app) ∧
      ∀ a, R.Finds server s tenant account a → R.settings.kindOf a = .officer →
        ∃ entry, R.settings.Appoints a.username entry ∧ entry.enabled ∧
          entry.permissions.permits p.code) ps := by
  obtain ⟨subject, s₁, hsubject, h⟩ := Query.exists_serve_of_bind h
  obtain ⟨roles, s₂, -, h⟩ := Query.exists_serve_of_bind h
  have hform := (permissionsOf_inForm subject roles scope tenant).of_answered h
  refine hform.imp fun p hp hscope => ⟨hscope, fun a ha hkind => ?_⟩
  obtain rfl := R.subject_of_finds ha hsubject
  rw [AdminSettings.classify, hkind] at h
  split at h
  · obtain rfl := Outcome.answered.inj (Prod.mk.inj h).1
    cases hp
  · obtain ⟨entry, hentry, henabled, hpermits⟩ :=
      (permissionsOf_officer _ _ _ _ _).of_answered h p hp
    exact ⟨entry, AdminSettings.officer?_eq_some_iff.1 hentry, henabled, hpermits⟩

/-- The answer to the question for the ranges of an account is in form, and the ranges belong to the
roles that the account is answered to hold. -/
theorem ranges_inForm {rs : List RoleRange}
    (h : (R.ranges account scope tenant).serve server s = (.answered rs, s')) :
    ∃ roles, ((R.roles account scope tenant).serve server s).1 = .answered roles ∧
      InForm RoleRange.listingOrder id tenant (fun r => r.roleId ∈ roles.map Role.id) rs := by
  obtain ⟨roles, s₁, hroles, h⟩ := Query.exists_serve_of_bind h
  refine ⟨roles, by rw [hroles], ?_⟩
  by_cases hne : roles.isEmpty
  · rw [if_pos hne] at h
    obtain rfl := Outcome.answered.inj (Prod.mk.inj h).1
    exact .nil
  · rw [if_neg hne] at h
    refine Query.Ensures.of_answered (P := fun _ => InForm RoleRange.listingOrder id tenant
      fun r => r.roleId ∈ roles.map Role.id) ?_ h
    exact .ask_own (.default tenant) (decide_eq_true rfl) (fun _ => rfl) fun rows _ hclean =>
      rangesOf_inForm _ _ (Read.own_of_clean hclean (List.Subset.refl _) fun _ => rfl)

/-- The answer to the question for the menus of an account is in form, and the menus are of the type
asked for. -/
theorem menus_inForm {menuType : Option String} {ms : List Menu}
    (h : (R.menus account menuType scope tenant).serve server s = (.answered ms, s')) :
    InForm Menu.listingOrder Menu.id tenant (fun m => OfType menuType m.menuType) ms := by
  obtain ⟨ps, s₁, -, h⟩ := Query.exists_serve_of_bind h
  obtain ⟨all, hclimb, rfl⟩ := climb_of_answered h
  refine listedMenus_inForm _ fun m hm => ?_
  obtain ⟨⟨asked, rows, -, hseen⟩, hown⟩ := (hclimb.fetched_of_mem m hm).resolve_left nofun
  exact ⟨hown, ofType_iff.2 (menuType_of_seen hseen)⟩

end

end Resolver

/-- Whoever replies, and whatever the replies are, an answer is a list of rows of the tenant without
two under one key, strictly sorted. The roles of an account are enabled and of the scope, and where
roles are assigned they are among those that the reply about the account names. Its permissions are
of the scope, and those of an officer lie in the range of its entry. Its ranges belong to the roles
that it is answered to hold, and its menus are of the type asked for, if any. -/
theorem answers_inForm (R : Resolver) (account : AccountId) (scope : Option ApplicationId)
    (tenant : TenantCode) (server : Query.Server σ) (s : σ) :
    (∀ roles, ((R.roles account scope tenant).serve server s).1 = .answered roles →
      InForm Role.listingOrder Role.id tenant
        (fun r => r.enabled ∧ ∀ app ∈ scope, r.applicationId = app) roles ∧
      (R.settings.roleBinding = .principal → roles ≠ [] → ∃ a ids,
        R.FindsMember server s tenant account a ∧
        ⟨.assignedRoles (.ofAccount a.id) tenant, .ok ids⟩ ∈
          (R.roles account scope tenant).calls server s ∧
        ∀ r ∈ roles, r.id ∈ ids)) ∧
    (∀ ps, ((R.permissions account scope tenant).serve server s).1 = .answered ps →
      InForm Permission.listingOrder Permission.id tenant (fun p =>
        (∀ app ∈ scope, p.applicationId = app) ∧
        ∀ a, R.Finds server s tenant account a → R.settings.kindOf a = .officer →
          ∃ entry, R.settings.Appoints a.username entry ∧ entry.enabled ∧
            entry.permissions.permits p.code) ps) ∧
    (∀ rs, ((R.ranges account scope tenant).serve server s).1 = .answered rs →
      ∃ roles, ((R.roles account scope tenant).serve server s).1 = .answered roles ∧
        InForm RoleRange.listingOrder id tenant (fun r => r.roleId ∈ roles.map Role.id) rs) ∧
    ∀ menuType ms, ((R.menus account menuType scope tenant).serve server s).1 = .answered ms →
      InForm Menu.listingOrder Menu.id tenant (fun m => OfType menuType m.menuType) ms := by
  refine ⟨fun roles h => ?_, fun ps h => ?_, fun rs h => ?_, fun menuType ms h => ?_⟩
  · exact R.roles_inForm (Prod.ext h rfl)
  · exact R.permissions_inForm (Prod.ext h rfl)
  · exact R.ranges_inForm (Prod.ext h rfl)
  · exact R.menus_inForm (Prod.ext h rfl)

namespace Wiki

/-- A second role. -/
def writer : Role := { reader ⟨"acme"⟩ with id := ⟨"writer"⟩, code := "writer" }

/-- Rows among which are a role that is switched off and one that is there twice, with different
names, a permission of another application and one that is there twice, and a menu that is there
twice. -/
def untidy : Dataset where
  accounts := [ann ⟨"acme"⟩]
  roles := [reader ⟨"acme"⟩, { writer with id := ⟨"editor"⟩, enabled := false }, writer,
    { writer with name := "Another writer" }]
  roleAssignments := [⟨⟨"editor"⟩, "ann", .account, ⟨"acme"⟩⟩,
    ⟨⟨"reader"⟩, "ann", .account, ⟨"acme"⟩⟩, ⟨⟨"writer"⟩, "ann", .account, ⟨"acme"⟩⟩]
  permissions := [{ readPage ⟨"acme"⟩ with id := ⟨"send"⟩, applicationId := ⟨"mail"⟩ },
    readPage ⟨"acme"⟩, readPage ⟨"acme"⟩]
  menus := [pages ⟨"acme"⟩, pages ⟨"acme"⟩, root ⟨"acme"⟩]

/-- Whatever is asked, the rows are handed out as they are. -/
def untidied : Query.Server Unit := (untidy.backend fun _ => true).toServer

theorem subject_runs_untidied :
    (Resolver.subject { settings := {}, levels := 3 } ⟨"ann"⟩ ⟨"acme"⟩).Runs untidied ()
      [.account ⟨"ann"⟩ ⟨"acme"⟩] (.member (ann ⟨"acme"⟩)) () := by
  have hid : ¬ SupervisorSettings.owns {} ⟨"ann"⟩ := by decide
  exact Resolver.subject_runs hid rfl rfl rfl

/-- Of the roles those count that are switched on, each once. -/
theorem rolesOf_runs_untidied :
    (Resolver.rolesOf { settings := {}, levels := 3 } (.member (ann ⟨"acme"⟩)) (some ⟨"wiki"⟩)
      ⟨"acme"⟩).Runs untidied ()
      [.enabledRoles (some ⟨"wiki"⟩) ⟨"acme"⟩, .assignedRoles ⟨.account, "ann"⟩ ⟨"acme"⟩]
      [reader ⟨"acme"⟩, writer] () := by
  have hheld : heldRoles (some ⟨"wiki"⟩) (some [⟨"editor"⟩, ⟨"reader"⟩, ⟨"writer"⟩])
      untidy.roles = [reader ⟨"acme"⟩, writer] := sortBy_of_pairwise (by decide)
  exact hheld ▸ Resolver.rolesOf_member_runs rfl rfl (by decide) rfl

theorem roles_runs_untidied :
    (Resolver.roles { settings := {}, levels := 3 } ⟨"ann"⟩ (some ⟨"wiki"⟩) ⟨"acme"⟩).Runs untidied ()
      [.account ⟨"ann"⟩ ⟨"acme"⟩, .enabledRoles (some ⟨"wiki"⟩) ⟨"acme"⟩,
        .assignedRoles ⟨.account, "ann"⟩ ⟨"acme"⟩] [reader ⟨"acme"⟩, writer] () :=
  subject_runs_untidied.bind rolesOf_runs_untidied

/-- Of the permissions those count that lie in the scope, each once. -/
theorem permissionsOf_runs_untidied :
    (Resolver.permissionsOf (.member (ann ⟨"acme"⟩)) [reader ⟨"acme"⟩, writer] (some ⟨"wiki"⟩)
      ⟨"acme"⟩).Runs untidied ()
      [.linkedPermissions [⟨"reader"⟩, ⟨"writer"⟩] (some ⟨"wiki"⟩) ⟨"acme"⟩]
      [readPage ⟨"acme"⟩] () := by
  have hlisted : listedPermissions (scopedPermissions (some ⟨"wiki"⟩) untidy.permissions) =
      [readPage ⟨"acme"⟩] := sortBy_of_pairwise (by decide)
  exact hlisted ▸ Resolver.permissionsOf_member_runs (List.cons_ne_nil _ _) rfl (by decide)

theorem permissions_runs_untidied :
    (Resolver.permissions { settings := {}, levels := 3 } ⟨"ann"⟩ (some ⟨"wiki"⟩) ⟨"acme"⟩).Runs
      untidied () [.account ⟨"ann"⟩ ⟨"acme"⟩, .enabledRoles (some ⟨"wiki"⟩) ⟨"acme"⟩,
        .assignedRoles ⟨.account, "ann"⟩ ⟨"acme"⟩,
        .linkedPermissions [⟨"reader"⟩, ⟨"writer"⟩] (some ⟨"wiki"⟩) ⟨"acme"⟩]
      [readPage ⟨"acme"⟩] () :=
  subject_runs_untidied.bind (rolesOf_runs_untidied.bind permissionsOf_runs_untidied)

/-- Of the menus those count that were asked for, each once. -/
theorem fromPages_runs_untidied :
    (fromPages { settings := {}, levels := 3 }).Runs untidied ()
      [.menus [⟨"pages"⟩] none ⟨"acme"⟩, .menus [⟨"root"⟩] none ⟨"acme"⟩]
      [pages ⟨"acme"⟩, root ⟨"acme"⟩] () := by
  have hnext : nextLevel [⟨"pages"⟩] [pages ⟨"acme"⟩, pages ⟨"acme"⟩] = [⟨"root"⟩] :=
    sortBy_of_pairwise (by decide)
  have hlast : nextLevel [⟨"pages"⟩, ⟨"root"⟩] [root ⟨"acme"⟩] = [] :=
    sortBy_of_pairwise (by decide)
  exact runs_fromPages rfl rfl (by decide) (by decide) hnext hlast (sortBy_of_pairwise (by decide))

theorem menus_runs_untidied :
    (Resolver.menus { settings := {}, levels := 3 } ⟨"ann"⟩ none (some ⟨"wiki"⟩) ⟨"acme"⟩).Runs
      untidied () [.account ⟨"ann"⟩ ⟨"acme"⟩, .enabledRoles (some ⟨"wiki"⟩) ⟨"acme"⟩,
        .assignedRoles ⟨.account, "ann"⟩ ⟨"acme"⟩,
        .linkedPermissions [⟨"reader"⟩, ⟨"writer"⟩] (some ⟨"wiki"⟩) ⟨"acme"⟩,
        .menus [⟨"pages"⟩] none ⟨"acme"⟩, .menus [⟨"root"⟩] none ⟨"acme"⟩]
      [pages ⟨"acme"⟩, root ⟨"acme"⟩] () :=
  permissions_runs_untidied.bind fromPages_runs_untidied

end Wiki

/-- Of rows that are handed out whatever is asked, Ann is answered with those that are hers. -/
theorem answers_inForm_untidy :
    ((Resolver.roles { settings := {}, levels := 3 } ⟨"ann"⟩ (some ⟨"wiki"⟩) ⟨"acme"⟩).serve
      Wiki.untidied ()).1 =
      .answered [Wiki.reader ⟨"acme"⟩, Wiki.writer] ∧
    StrictlySorted Role.listingOrder [Wiki.reader ⟨"acme"⟩, Wiki.writer] ∧
    ((Resolver.permissions { settings := {}, levels := 3 } ⟨"ann"⟩ (some ⟨"wiki"⟩) ⟨"acme"⟩).serve
      Wiki.untidied ()).1 = .answered [Wiki.readPage ⟨"acme"⟩] ∧
    (∀ p ∈ [Wiki.readPage ⟨"acme"⟩], ∀ app ∈ some ⟨"wiki"⟩, p.applicationId = app) ∧
    ((Resolver.menus { settings := {}, levels := 3 } ⟨"ann"⟩ none (some ⟨"wiki"⟩) ⟨"acme"⟩).serve
      Wiki.untidied ()).1 = .answered [Wiki.pages ⟨"acme"⟩, Wiki.root ⟨"acme"⟩] ∧
    StrictlySorted Menu.listingOrder [Wiki.pages ⟨"acme"⟩, Wiki.root ⟨"acme"⟩] := by
  obtain ⟨hroles, hps, -, hmenus⟩ := answers_inForm { settings := {}, levels := 3 }
    ⟨"ann"⟩ (some ⟨"wiki"⟩) ⟨"acme"⟩ Wiki.untidied ()
  have hheld := congrArg Prod.fst Wiki.roles_runs_untidied.serve
  have hread := congrArg Prod.fst Wiki.permissions_runs_untidied.serve
  have hseen := congrArg Prod.fst Wiki.menus_runs_untidied.serve
  exact ⟨hheld, (hroles _ hheld).1.sorted, hread, fun p hp => ((hps _ hread).keeps p hp).1, hseen,
    (hmenus _ _ hseen).sorted⟩

end TenantAccess
