import TenantAccess.Proofs.Stages
import TenantAccess.Proofs.Supervisor
import TenantAccess.Proofs.Walk

/-!
# The discipline of reads

Every read shows a store what is asked about, and every row that is read has to be kept from others.
So a lookup reads nothing that its question does not call for. `Resolver.MayRead` says which reads
these are, for a question about an account in a tenant: no table of roles is read for an account
that does not hold roles, and no table of permissions for one without a range; nothing is read of
another tenant or in another scope; a menu is asked for when a permission belongs to it or when a
menu that was seen names it as its parent. `Resolver.Disciplined` is the law about the reads of a
run: each may be made, the account comes first, the rest follow in their order, and nothing is asked
for twice. It holds whoever replies, with whatever rows, and also of a run that a fault ends.

What may be read depends on what was replied before, so it is shown of runs, step by step: a step
asks for nothing else (`Resolver.rolesOf_asks`, `Resolver.permissionsOf_asks`, `climb_leads`), and
the answer of the step before says whom it asks for (`Resolver.subject_answered`). The main
statement is `lookup_disciplined`.
-/

namespace TenantAccess

variable {σ : Type} {tenant : TenantCode} {server : Query.Server σ} {s : σ} {q : Question}
  {id : AccountId}

/-! ## What a question calls for -/

namespace Question

/-- The application that a question is restricted to, if it is. -/
def scope : Question → Option ApplicationId
  | .permissions _ scope | .roles _ scope | .ranges _ scope | .menus _ _ scope
  | .explain _ scope _ => scope
  | .authorize _ application _ => some application
  | .applications .. | .validate _ | .credentials .. => none

/-- Whether a question is answered by the permissions of an account, or by what they lead to. -/
def needsPermissions : Question → Bool
  | .permissions .. | .menus .. | .applications .. | .authorize .. | .explain .. => true
  | .roles .. | .ranges .. | .validate _ | .credentials .. => false

/-- The type in force of a walk through the menus, if the question calls for one. -/
def walk? : Question → Option (Option String)
  | .menus _ menuType _ => some (effectiveType menuType)
  | .applications _ menuType => some (effectiveType (some menuType))
  | _ => none

end Question

namespace Resolver

variable (R : Resolver)

/-- The account that an id stands for: the supervisor is made from the settings, any other is what
the server replies. -/
def Finds (server : Query.Server σ) (s : σ) (tenant : TenantCode) (id : AccountId) (a : Account) :
    Prop :=
  if R.settings.supervisor.owns id then a = R.settings.supervisor.toAccount tenant
  else (server (.account id tenant) s).1 = .ok (some a)

/-- The id stands for an active account that is no administrator. -/
structure FindsMember (server : Query.Server σ) (s : σ) (tenant : TenantCode) (id : AccountId)
    (a : Account) : Prop where
  finds : R.Finds server s tenant id a
  active : a.isActive
  member : ¬ a.admin

/-- The id stands for an active administrator with rights: the supervisor, or an officer with an
entry that is switched on. -/
structure FindsRanged (server : Query.Server σ) (s : σ) (tenant : TenantCode) (id : AccountId)
    (a : Account) : Prop where
  finds : R.Finds server s tenant id a
  active : a.isActive
  admin : a.admin
  ranged : R.settings.supervisor.owns a.id ∨
    ∃ entry, R.settings.Appoints a.username entry ∧ entry.enabled

/-- A run has shown that a menu may matter: a permission of the account belongs to it, or a menu
that was asked for, and is of the type in force, names it as its parent. -/
inductive Leads (server : Query.Server σ) (s : σ) (tenant : TenantCode) (q : Question)
    (id : AccountId) (menuType : Option String) : MenuId → Prop
  | permission {ps : List Permission} {s' : σ} {p : Permission}
      (hps : (R.permissions id q.scope tenant).serve server s = (.answered ps, s')) (hp : p ∈ ps) :
      Leads server s tenant q id menuType p.menuId
  | parent {asked : List MenuId} {rows : List Menu} {m : Menu} {parent : MenuId}
      (hcall : ⟨.menus asked menuType tenant, .ok rows⟩ ∈ (R.ask tenant q).calls server s)
      (hm : m ∈ seenMenus asked menuType rows) (hparent : m.parent? = some parent) :
      Leads server s tenant q id menuType parent

/-- The reads that a question about an account may come to, when it is put to a server in a
state. -/
inductive MayRead (server : Query.Server σ) (s : σ) (tenant : TenantCode) (q : Question)
    (id : AccountId) : Read → Prop
  /-- The account, unless its id is the supervisor's. -/
  | account (hid : ¬ R.settings.supervisor.owns id) :
      MayRead server s tenant q id (.account id tenant)
  /-- The roles of the scope, for a member. -/
  | enabledRoles {a : Account} (ha : R.FindsMember server s tenant id a) :
      MayRead server s tenant q id (.enabledRoles q.scope tenant)
  /-- The roles assigned to a member, where roles are assigned. -/
  | assignedRoles {a : Account} (ha : R.FindsMember server s tenant id a)
      (hbinding : R.settings.roleBinding = .principal) :
      MayRead server s tenant q id (.assignedRoles ⟨.account, a.id.text⟩ tenant)
  /-- The permissions of the roles that a member is answered to hold, if it holds any. -/
  | linkedPermissions {a : Account} {roles : List Role} {s' : σ}
      (ha : R.FindsMember server s tenant id a) (hq : q.needsPermissions)
      (hroles : (R.roles id q.scope tenant).serve server s = (.answered roles, s'))
      (hne : roles ≠ []) :
      MayRead server s tenant q id (.linkedPermissions (roles.map Role.id) q.scope tenant)
  /-- The ranges of the roles that a member is answered to hold, if it holds any. -/
  | roleRanges {a : Account} {roles : List Role} {scope : Option ApplicationId} {s' : σ}
      (ha : R.FindsMember server s tenant id a) (hq : q = .ranges id scope)
      (hroles : (R.roles id q.scope tenant).serve server s = (.answered roles, s'))
      (hne : roles ≠ []) :
      MayRead server s tenant q id (.roleRanges (roles.map Role.id) tenant)
  /-- The permissions of the scope, for an administrator with rights. -/
  | permissions {a : Account} (ha : R.FindsRanged server s tenant id a)
      (hq : q.needsPermissions) : MayRead server s tenant q id (.permissions q.scope tenant)
  /-- Menus of the type in force that the run has come upon. -/
  | menus {ids : List MenuId} {menuType : Option String} (hq : q.walk? = some menuType)
      (hne : ids ≠ []) (hnodup : ids.Nodup)
      (hleads : ∀ menu ∈ ids, R.Leads server s tenant q id menuType menu) :
      MayRead server s tenant q id (.menus ids menuType tenant)
  /-- An application that owns a menu which the account is answered to see. -/
  | application {menuType : String} {menus : List Menu} {s' : σ} {m : Menu}
      (hq : q = .applications id menuType)
      (hmenus : (R.menus id (some menuType) none tenant).serve server s = (.answered menus, s'))
      (hm : m ∈ menus) : MayRead server s tenant q id (.application m.applicationId)

/-- The law about the reads that a question about an account makes. -/
structure Disciplined (server : Query.Server σ) (s : σ) (tenant : TenantCode) (q : Question)
    (id : AccountId) : Prop where
  /-- Each read may be made. -/
  permitted : ∀ r ∈ (R.ask tenant q).reads server s, R.MayRead server s tenant q id r
  /-- The account is read first, unless its id is the supervisor's. -/
  first : ¬ R.settings.supervisor.owns id →
    ((R.ask tenant q).reads server s).head? = some (.account id tenant)
  /-- The reads follow in their order, and no menu and no application is asked for twice. -/
  order : ((R.ask tenant q).reads server s).Pairwise Read.Before
  /-- But for menus and applications, there is at most one read of a kind. -/
  once : ∀ kind : ReadKind, kind ≠ .menus → kind ≠ .application →
    ((R.ask tenant q).reads server s).countP (·.kind = kind) ≤ 1

end Resolver

/-! ## What is read -/

namespace Resolver

variable (R : Resolver)

/-- A subject that is not absent is what the account is that the id stands for. -/
theorem subject_answered {subject : Subject} {s' : σ}
    (h : (R.subject id tenant).serve server s = (.answered subject, s')) :
    subject = .absent ∨ ∃ a, R.Finds server s tenant id a ∧ subject = R.settings.classify a := by
  by_cases howns : R.settings.supervisor.owns id
  · rw [R.subject_of_owns howns] at h
    obtain ⟨hsubject, -⟩ := Prod.mk.inj h
    refine .inr ⟨R.settings.supervisor.toAccount tenant, ?_, (Outcome.answered.inj hsubject).symm⟩
    rw [Finds, if_pos howns]
  · rw [R.subject_of_not_owns howns, Query.serve] at h
    rcases hp : server (.account id tenant) s with ⟨fault | _ | a, s₁⟩ <;> rw [hp] at h
    · cases h
    · exact .inl (Outcome.answered.inj (Prod.mk.inj h).1).symm
    · refine .inr ⟨a, by rw [Finds, if_neg howns, hp], ?_⟩
      by_cases hown : belongsTo a tenant
      · simp [Query.ownRows, hown, Query.bind, Query.serve] at h
        exact h.1.symm
      · simp [Query.ownRows, hown, Query.bind, Query.serve] at h

/-- Whoever the id stands for is classified. -/
theorem subject_of_finds {a : Account} {subject : Subject} {s' : σ}
    (ha : R.Finds server s tenant id a)
    (h : (R.subject id tenant).serve server s = (.answered subject, s')) :
    subject = R.settings.classify a := by
  by_cases howns : R.settings.supervisor.owns id
  · rw [Finds, if_pos howns] at ha
    rw [R.subject_of_owns howns, ← ha] at h
    exact (Outcome.answered.inj (Prod.mk.inj h).1).symm
  · rw [Finds, if_neg howns] at ha
    rcases Query.ask_own_cases server s (R.subject_of_not_owns howns) with
      ⟨_, _, _, -, hserve⟩ | ⟨reply, s₁, hreply, -, -, hserve⟩
    · rw [hserve] at h
      cases h
    · rw [hreply] at ha
      obtain rfl : reply = some a := Except.ok.inj ha
      rw [hserve] at h
      exact (Outcome.answered.inj (Prod.mk.inj h).1).symm

/-- What is taken for a member stands for an active account that is no administrator. -/
theorem findsMember_of_subject {a : Account} {s' : σ}
    (h : (R.subject id tenant).serve server s = (.answered (.member a), s')) :
    R.FindsMember server s tenant id a := by
  obtain habsent | ⟨b, hfinds, hclassify⟩ := R.subject_answered h
  · cases habsent
  · obtain ⟨rfl, hactive, hmember⟩ := AdminSettings.classify_eq_member hclassify.symm
    exact ⟨hfinds, hactive, hmember⟩

/-- What is taken for an administrator with rights stands for one. -/
theorem findsRanged_of_subject {subject : Subject} {s' : σ}
    (h : (R.subject id tenant).serve server s = (.answered subject, s'))
    (hranged : subject.IsRanged) : ∃ a, R.FindsRanged server s tenant id a := by
  obtain rfl | ⟨a, hfinds, rfl⟩ := R.subject_answered h
  · exact hranged.elim
  · refine ⟨a, ?_⟩
    cases hclassify : R.settings.classify a with
    | absent | inactive | member => rw [hclassify] at hranged; exact hranged.elim
    | supervisor b =>
      obtain ⟨rfl, hactive, hadmin, howns⟩ := AdminSettings.classify_eq_supervisor hclassify
      exact ⟨hfinds, hactive, hadmin, .inl howns⟩
    | officer b entry =>
      obtain ⟨rfl, hactive, hadmin, hofficer⟩ := AdminSettings.classify_eq_officer hclassify
      rw [hclassify] at hranged
      cases entry with
      | none => exact hranged.elim
      | some entry =>
        exact ⟨hfinds, hactive, hadmin,
          .inr ⟨entry, AdminSettings.officer?_eq_some_iff.1 hofficer, hranged⟩⟩

section
variable {subject : Subject} {roles : List Role} {s₁ s₂ : σ}

theorem subject_mayRead : ∀ r ∈ (R.subject id tenant).reads server s,
    R.MayRead server s tenant q id r := by
  intro r hr
  obtain ⟨hid, rfl⟩ := (R.subject_asks id).forall_reads server s r hr
  exact .account hid

variable (hsubject : (R.subject id tenant).serve server s = (.answered subject, s₁))
include hsubject

theorem rolesOf_mayRead : ∀ r ∈ (R.rolesOf subject q.scope tenant).reads server s₁,
    R.MayRead server s tenant q id r := by
  intro r hr
  obtain ⟨a, rfl, rfl | ⟨hbinding, rfl⟩⟩ :=
    (R.rolesOf_asks subject q.scope).forall_reads server s₁ r hr
  · exact .enabledRoles (R.findsMember_of_subject hsubject)
  · exact .assignedRoles (R.findsMember_of_subject hsubject) hbinding

variable (hroles : (R.rolesOf subject q.scope tenant).serve server s₁ = (.answered roles, s₂))
include hroles

/-- What a subject is found to hold is what the question for its roles is answered with. -/
theorem roles_serve : (R.roles id q.scope tenant).serve server s = (.answered roles, s₂) := by
  rw [Resolver.roles, Query.bind_eq_bind, Query.serve_bind, hsubject]
  exact hroles

theorem permissionsOf_mayRead (hq : q.needsPermissions) :
    ∀ r ∈ (permissionsOf subject roles q.scope tenant).reads server s₂,
      R.MayRead server s tenant q id r := by
  intro r hr
  obtain ⟨a, rfl, hne, rfl⟩ | ⟨hranged, rfl⟩ :=
    (permissionsOf_asks subject roles q.scope).forall_reads server s₂ r hr
  · exact .linkedPermissions (R.findsMember_of_subject hsubject) hq (R.roles_serve hsubject hroles)
      hne
  · obtain ⟨a, ha⟩ := R.findsRanged_of_subject hsubject hranged
    exact .permissions ha hq

end

/-- What is read for roles may be read for every question. -/
theorem roles_mayRead : ∀ r ∈ (R.roles id q.scope tenant).reads server s,
    R.MayRead server s tenant q id r := by
  intro r hr
  rcases Query.mem_reads_bind hr with hr | ⟨subject, s₁, hsubject, hr⟩
  · exact R.subject_mayRead r hr
  · exact R.rolesOf_mayRead hsubject r hr

theorem permissions_mayRead (hq : q.needsPermissions) :
    ∀ r ∈ (R.permissions id q.scope tenant).reads server s,
      R.MayRead server s tenant q id r := by
  intro r hr
  rcases Query.mem_reads_bind hr with hr | ⟨subject, s₁, hsubject, hr⟩
  · exact R.subject_mayRead r hr
  rcases Query.mem_reads_bind hr with hr | ⟨roles, s₂, hroles, hr⟩
  · exact R.rolesOf_mayRead hsubject r hr
  · exact R.permissionsOf_mayRead hsubject hroles hq r hr

/-- Only a member is answered to hold roles. -/
theorem exists_findsMember {scope : Option ApplicationId} {roles : List Role} {s' : σ}
    (h : (R.roles id scope tenant).serve server s = (.answered roles, s')) (hne : roles ≠ []) :
    ∃ a, R.FindsMember server s tenant id a := by
  obtain ⟨subject, s₁, hsubject, hroles⟩ := Query.exists_serve_of_bind h
  cases subject with
  | member a => exact ⟨a, R.findsMember_of_subject hsubject⟩
  | absent | inactive | supervisor | officer =>
    exact absurd (Outcome.answered.inj (Prod.mk.inj hroles).1).symm hne

theorem ranges_mayRead (scope : Option ApplicationId) :
    ∀ r ∈ (R.ranges id scope tenant).reads server s,
      R.MayRead server s tenant (.ranges id scope) id r := by
  intro r hr
  rcases Query.mem_reads_bind hr with hr | ⟨roles, s₂, hserve, hr⟩
  · exact R.roles_mayRead (q := .ranges id scope) r hr
  · by_cases hne : roles = []
    · rw [if_pos (by simp [hne])] at hr
      cases hr
    · rw [if_neg (by simpa using hne)] at hr
      have hasks : (Query.ask (.roleRanges (roles.map Role.id) tenant)
          fun (rows : List RoleRange) => (Query.ownRows "role range" tenant rows).bind fun _ =>
            .answer (rangesOf R.rangeOrder (roles.map Role.id) rows)).ReadsIn
          (· = .roleRanges (roles.map Role.id) tenant) := .ask_own rfl fun _ => trivial
      obtain rfl := hasks.forall_reads server s₂ r hr
      obtain ⟨a, ha⟩ := R.exists_findsMember hserve hne
      exact .roleRanges ha rfl hserve hne

end Resolver

section
variable {menuType : Option String} {levels : Nat} {level asked ids : List MenuId}
  {found : List Menu} {i : MenuId}

/-- A level asks for ids that it was given, or for parents of menus that were seen on the way. -/
theorem climb_leads (order : Arrangement Menu)
    (h : .menus ids menuType tenant ∈
      (climb order menuType tenant levels level asked found).reads server s) (hi : i ∈ ids) :
    i ∈ level ∨ ∃ (asked' : List MenuId) (rows : List Menu) (m : Menu),
      ⟨.menus asked' menuType tenant, .ok rows⟩ ∈
        (climb order menuType tenant levels level asked found).calls server s ∧
      m ∈ seenMenus asked' menuType rows ∧ m.parent? = some i := by
  induction levels generalizing level asked found s with
  | zero =>
    cases level with
    | nil => rw [climb] at h; cases h
    | cons => cases h
  | succ levels ih =>
    cases level with
    | nil => rw [climb] at h; cases h
    | cons j rest =>
      rcases Query.mem_reads_ask h with hr | ⟨rows, s₁, hp, hr⟩
      · obtain rfl : ids = j :: rest := (Read.menus.inj hr).1
        exact .inl hi
      right
      have hcalls : (climb order menuType tenant (levels + 1) (j :: rest) asked found).calls
          server s = _ :: _ := Query.calls_ask_of_ok hp
      rw [hcalls]
      -- after the check of the owners the walk goes on from the next level
      let seen := seenMenus (j :: rest) menuType rows
      replace hr : .menus ids menuType tenant ∈ ((Query.ownRows "menu" tenant rows).bind fun _ =>
        climb order menuType tenant levels (nextLevel (asked ++ j :: rest) seen)
          (asked ++ j :: rest) (found ++ seen)).reads server s₁ := hr
      rcases Query.mem_reads_bind hr with hr | ⟨⟨⟩, s₂, hown, hr⟩
      · exact ((Query.ReadsIn.ownRows (P := fun _ => False) _ _).forall_reads server s₁ _ hr).elim
      rcases ih hr with hi | ⟨asked', rows', m, hc, hm, hparent⟩
      · obtain ⟨m, hm, hparent⟩ :=
          List.mem_filterMap.1 (List.mem_filter.1 (mem_ascending.1 hi)).1
        exact ⟨j :: rest, rows, m, List.mem_cons_self, hm, hparent⟩
      · refine ⟨asked', rows', m, List.mem_cons_of_mem _ ?_, hm, hparent⟩
        exact Query.calls_subset_bind_of_answered hown hc

end

namespace Resolver

variable (R : Resolver)

/-- Menus that a permission or another menu leads to may be read for a question that calls for a
walk through them. -/
theorem menus_mayRead {menuType : Option String} (hq : q.needsPermissions)
    (hwalk : q.walk? = some (effectiveType menuType))
    (hcalls : (R.menus id menuType q.scope tenant).calls server s ⊆
      (R.ask tenant q).calls server s) :
    ∀ r ∈ (R.menus id menuType q.scope tenant).reads server s,
      R.MayRead server s tenant q id r := by
  intro r hr
  rcases Query.mem_reads_bind hr with hr | ⟨ps, s', hps, hr⟩
  · exact R.permissions_mayRead hq r hr
  have hnew := (climb_asksNew R.menuOrder (effectiveType menuType) tenant R.levels []
    (nodup_ascending (ps.map Permission.menuId)) (List.disjoint_nil_left _)).1
  obtain ⟨ids, rfl, hne, hnodup, -⟩ := hnew.forall_reads server s' r hr
  refine .menus hwalk hne hnodup fun menu hmenu => ?_
  obtain hmem | ⟨asked, rows, m, hc, hm, hparent⟩ := climb_leads _ hr hmenu
  · obtain ⟨p, hp, rfl⟩ := List.mem_map.1 (mem_ascending.1 hmem)
    exact .permission hps hp
  · exact .parent (hcalls (Query.calls_subset_bind_of_answered hps hc)) hm hparent

/-- Each read of a lookup may be made. -/
theorem ask_mayRead (hq : q.isLookup) (hid : q.account? = some id) :
    ∀ r ∈ (R.ask tenant q).reads server s, R.MayRead server s tenant q id r := by
  cases q with
  | permissions account scope =>
    obtain rfl := Option.some.inj hid
    exact R.permissions_mayRead (q := .permissions account scope) rfl
  | roles account scope =>
    obtain rfl := Option.some.inj hid
    exact R.roles_mayRead (q := .roles account scope)
  | ranges account scope =>
    obtain rfl := Option.some.inj hid
    exact R.ranges_mayRead scope
  | menus account menuType scope =>
    obtain rfl := Option.some.inj hid
    exact R.menus_mayRead (q := .menus account menuType scope) rfl rfl (List.Subset.refl _)
  | applications account menuType =>
    obtain rfl := Option.some.inj hid
    intro r hr
    rcases Query.mem_reads_bind hr with hr | ⟨menus, s', hmenus, hr⟩
    · exact R.menus_mayRead (q := .applications account menuType) rfl rfl
        Query.calls_subset_bind r hr
    · rcases Query.mem_reads_bind hr with hr | ⟨_, _, _, hr⟩
      · obtain ⟨a, ha, rfl⟩ := (knownApplications_asks _).forall_reads server s' r hr
        obtain ⟨m, hm, rfl⟩ := List.mem_map.1 (mem_ascending.1 ha)
        exact .application rfl hmenus hm
      · cases hr
  | explain account scope code =>
    obtain rfl := Option.some.inj hid
    intro r hr
    rcases Query.mem_reads_bind hr with hr | ⟨subject, s₁, hsubject, hr⟩
    · exact R.subject_mayRead r hr
    rcases Query.mem_reads_bind hr with hr | ⟨roles, s₂, hroles, hr⟩
    · exact R.rolesOf_mayRead (q := .explain account scope code) hsubject r hr
    rcases Query.mem_reads_bind hr with hr | ⟨ps, s₃, hps, hr⟩
    · exact R.permissionsOf_mayRead (q := .explain account scope code) hsubject hroles rfl r hr
    · cases hr
  | validate | authorize | credentials => cases hq

/-- Every lookup goes on from the subject that it is about. -/
theorem exists_ask_eq_bind (tenant : TenantCode) (hq : q.isLookup) (hid : q.account? = some id) :
    ∃ f : Subject → Query q.Answer, R.ask tenant q = (R.subject id tenant).bind f := by
  cases q with
  | permissions account scope | roles account scope | explain account scope code =>
    obtain rfl := Option.some.inj hid
    exact ⟨_, rfl⟩
  | ranges account scope =>
    obtain rfl := Option.some.inj hid
    exact ⟨_, Query.bind_assoc _ _ _⟩
  | menus account menuType scope =>
    obtain rfl := Option.some.inj hid
    exact ⟨_, Query.bind_assoc _ _ _⟩
  | applications account menuType =>
    obtain rfl := Option.some.inj hid
    exact ⟨_, (Query.bind_assoc _ _ _).trans (Query.bind_assoc _ _ _)⟩
  | validate | authorize | credentials => cases hq

/-- The account that is not the supervisor is read before anything else. -/
theorem head?_reads_ask (hq : q.isLookup) (hid : q.account? = some id)
    (howns : ¬ R.settings.supervisor.owns id) :
    ((R.ask tenant q).reads server s).head? = some (.account id tenant) := by
  obtain ⟨f, hf⟩ := R.exists_ask_eq_bind tenant hq hid
  rw [hf, R.subject_of_not_owns howns, Query.bind]
  exact Query.head?_reads_ask _ _ _ _

end Resolver

/-- Whoever replies, and whatever the replies are, the reads of a lookup keep to the law: each of
them is one that the question calls for, the account comes first, they follow in their order, and
nothing is asked for twice. -/
theorem lookup_disciplined (R : Resolver) (tenant : TenantCode) (q : Question) (id : AccountId)
    (hq : q.isLookup) (hid : q.account? = some id) (server : Query.Server σ) (s : σ) :
    R.Disciplined server s tenant q id := by
  have horder := (R.ask_staged tenant hq).order.pairwise_reads server s
  exact {
    permitted := R.ask_mayRead hq hid
    first := R.head?_reads_ask hq hid
    order := horder
    once := fun kind hmenus happlication => Read.countP_kind_le_one horder hmenus happlication }

/-! ## The run of a member -/

section
variable {R : Resolver} {a : Account} {scope : Option ApplicationId} {s' s'' : σ}

/-- An account that is not the supervisor is read and classified. -/
theorem Resolver.subject_runs {subject : Subject} (hid : ¬ R.settings.supervisor.owns id)
    (h : server (.account id tenant) s = (.ok (some a), s')) (hown : a.tenant = tenant)
    (hsubject : R.settings.classify a = subject) :
    (R.subject id tenant).Runs server s [.account id tenant] subject s' := by
  subst hsubject
  rw [R.subject_of_not_owns hid]
  exact .ask h (.own (List.forall_mem_singleton.2 hown) (.answer _))

/-- Where roles are assigned, a member holds the roles that are switched on and assigned to it. -/
theorem Resolver.rolesOf_member_runs {rows : List Role} {ids : List RoleId}
    (hbinding : R.settings.roleBinding = .principal)
    (hrows : server (.enabledRoles scope tenant) s = (.ok rows, s'))
    (hown : ∀ r ∈ rows, r.tenant = tenant)
    (hids : server (.assignedRoles (.ofAccount a.id) tenant) s' = (.ok ids, s'')) :
    (R.rolesOf (.member a) scope tenant).Runs server s
      [.enabledRoles scope tenant, .assignedRoles (.ofAccount a.id) tenant]
      (heldRoles scope (some ids) rows) s'' := by
  refine .ask hrows (.own hown ?_)
  simp only [hbinding]
  exact .ask hids (.answer _)

/-- A member with roles holds the permissions that are linked to them. -/
theorem Resolver.permissionsOf_member_runs {roles : List Role} {rows : List Permission}
    (hne : roles ≠ [])
    (hrows : server (.linkedPermissions (roles.map Role.id) scope tenant) s = (.ok rows, s'))
    (hown : ∀ p ∈ rows, p.tenant = tenant) :
    (permissionsOf (.member a) roles scope tenant).Runs server s
      [.linkedPermissions (roles.map Role.id) scope tenant]
      (listedPermissions (scopedPermissions scope rows)) s' := by
  have hreply : (scopedReply scope tenant
      (Query.read (.linkedPermissions (roles.map Role.id) scope tenant))).Runs server s
      [.linkedPermissions (roles.map Role.id) scope tenant] (scopedPermissions scope rows) s' :=
    .ask hrows (.own hown (.answer _))
  rw [permissionsOf, if_neg (by simpa using hne)]
  exact hreply.bind (.answer _)

end

namespace Wiki

/-- The server replies from the rows of the wiki, in which the account is a reader. -/
structure Replies (server : Query.Server σ) (s : σ) (a : Account) : Prop where
  account : server (.account a.id ⟨"acme"⟩) s = (.ok (some a), s)
  enabledRoles : server (.enabledRoles none ⟨"acme"⟩) s = (.ok [reader ⟨"acme"⟩], s)
  assignedRoles : server (.assignedRoles (.ofAccount a.id) ⟨"acme"⟩) s = (.ok [⟨"reader"⟩], s)
  linkedPermissions : server (.linkedPermissions [⟨"reader"⟩] none ⟨"acme"⟩) s =
    (.ok [readPage ⟨"acme"⟩], s)
  firstLevel : server (.menus [⟨"pages"⟩] none ⟨"acme"⟩) s = (.ok [pages ⟨"acme"⟩], s)
  secondLevel : server (.menus [⟨"root"⟩] none ⟨"acme"⟩) s = (.ok [root ⟨"acme"⟩], s)

/-- The run goes from the account to its roles, from these to their permissions, and up the menus,
level by level. -/
theorem Replies.runs_menus {a : Account} {settings : AdminSettings} (h : Replies server s a)
    (hid : ¬ settings.supervisor.owns a.id) (hmember : settings.classify a = .member a)
    (htenant : a.tenant = ⟨"acme"⟩) (hbinding : settings.roleBinding = .principal) :
    (Resolver.menus { settings, levels := 3 } a.id none none ⟨"acme"⟩).Runs server s
      [.account a.id ⟨"acme"⟩, .enabledRoles none ⟨"acme"⟩,
        .assignedRoles (.ofAccount a.id) ⟨"acme"⟩, .linkedPermissions [⟨"reader"⟩] none ⟨"acme"⟩,
        .menus [⟨"pages"⟩] none ⟨"acme"⟩, .menus [⟨"root"⟩] none ⟨"acme"⟩]
      [pages ⟨"acme"⟩, root ⟨"acme"⟩] s := by
  have hheld : heldRoles none (some [⟨"reader"⟩]) [reader ⟨"acme"⟩] = [reader ⟨"acme"⟩] :=
    sortBy_of_pairwise (by decide)
  have hlisted : listedPermissions (scopedPermissions none [readPage ⟨"acme"⟩]) =
      [readPage ⟨"acme"⟩] := sortBy_of_pairwise (by decide)
  have hsubject := Resolver.subject_runs (R := { settings, levels := 3 }) hid h.account htenant
    hmember
  have hroles := Resolver.rolesOf_member_runs (R := { settings, levels := 3 }) hbinding
    h.enabledRoles (by decide) h.assignedRoles
  have hps : (Resolver.permissionsOf (.member a) [reader ⟨"acme"⟩] none ⟨"acme"⟩).Runs server s _
      (listedPermissions (scopedPermissions none [readPage ⟨"acme"⟩])) s :=
    Resolver.permissionsOf_member_runs (List.cons_ne_nil _ _) h.linkedPermissions (by decide)
  have hmenus := runs_toRoot h.firstLevel h.secondLevel (by decide) (by decide) rfl rfl settings
  rw [hheld] at hroles
  rw [hlisted] at hps
  have hrun : (Resolver.permissions { settings, levels := 3 } a.id none ⟨"acme"⟩).Runs server s _
      [readPage ⟨"acme"⟩] s := hsubject.bind (hroles.bind hps)
  exact hrun.bind hmenus

end Wiki

/-- Ann's question about her menus goes all the way. -/
theorem lookup_disciplined_stock :
    (Question.menus ⟨"ann"⟩ none none).isLookup ∧
    (Question.menus ⟨"ann"⟩ none none).account? = some ⟨"ann"⟩ ∧
    (Resolver.ask { settings := {}, levels := 3 } ⟨"acme"⟩ (.menus ⟨"ann"⟩ none none)).reads
      (Wiki.stock.backend fun _ => false).toServer () =
      [.account ⟨"ann"⟩ ⟨"acme"⟩, .enabledRoles none ⟨"acme"⟩,
        .assignedRoles ⟨.account, "ann"⟩ ⟨"acme"⟩, .linkedPermissions [⟨"reader"⟩] none ⟨"acme"⟩,
        .menus [⟨"pages"⟩] none ⟨"acme"⟩, .menus [⟨"root"⟩] none ⟨"acme"⟩] ∧
    Resolver.Disciplined { settings := {}, levels := 3 }
      (Wiki.stock.backend fun _ => false).toServer () ⟨"acme"⟩ (.menus ⟨"ann"⟩ none none)
      ⟨"ann"⟩ := by
  have hreplies : Wiki.Replies (Wiki.stock.backend fun _ => false).toServer ()
      (Wiki.ann ⟨"acme"⟩) := ⟨rfl, rfl, rfl, rfl, rfl, rfl⟩
  exact ⟨rfl, rfl, (hreplies.runs_menus (by decide) rfl rfl rfl).reads,
    lookup_disciplined { settings := {}, levels := 3 } ⟨"acme"⟩ (.menus ⟨"ann"⟩ none none) ⟨"ann"⟩
      rfl rfl (Wiki.stock.backend fun _ => false).toServer ()⟩

end TenantAccess
