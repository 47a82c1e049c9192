import TenantAccess.Proofs.Binding
import TenantAccess.Proofs.Footprint
import TenantAccess.Proofs.Holdings

/-!
# Grants are monotone and local

A grant is a link from a role to a permission or an assignment of a role to a holder. Each is its
own key, so writing one removes no row (`Grant.mem_after_iff`), and the rules by which accounts hold
roles and permissions never ask that a grant be missing. So what an account holds can only grow when
a grant is written (`Resolver.ask_gains`). A grant `Matters` to the questions about accounts of its
tenant, an assignment only to those about the account that it names, and only where roles are
assigned; no run that it does not matter to reads it. The main statement is `grant_gains`.
-/

namespace TenantAccess

variable {α σ₁ σ₂ : Type} {rows rows' rows₁ rows₂ : Set Row} {tenant : TenantCode}
  {scope : Option ApplicationId} {q : Question}

/-- A row that says who holds what. -/
inductive Grant where
  | link (l : PermissionLink)
  | assignment (a : RoleAssignment)

namespace Grant

/-- The grant as a row. -/
def toRow : Grant → Row
  | .link l => .permissionLink l
  | .assignment a => .roleAssignment a

/-- Whether a grant may make a difference to a question within a tenant. -/
def Matters (s : AdminSettings) (tenant : TenantCode) (q : Question) : Grant → Prop
  | .link l => l.tenant = tenant ∧ q.account? ≠ none
  | .assignment a => a.tenant = tenant ∧ s.roleBinding = .principal ∧
    a.principalKind = .account ∧ q.account? = some ⟨a.principalId⟩

variable {g : Grant} {row : Row}

/-- A grant is its own key. -/
theorem eq_toRow_of_place (h : g.toRow.place = row.place) : row = g.toRow := by
  cases g with
  | link l =>
    cases row with
    | permissionLink l' =>
      obtain ⟨ht, hkey⟩ := Place.permissionLink.inj h
      obtain ⟨hr, hp⟩ := Prod.mk.inj hkey
      cases l; cases l'; simp_all [toRow]
    | _ => cases h
  | assignment a =>
    cases row with
    | roleAssignment a' =>
      obtain ⟨ht, hkey⟩ := Place.roleAssignment.inj h
      obtain ⟨hr, hp⟩ := Prod.mk.inj hkey
      cases a; cases a'; simp_all [toRow, RoleAssignment.principal]
    | _ => cases h

/-- A grant that is written is added to the rows and takes no other's place. -/
theorem mem_after_iff : row ∈ (Write.put g.toRow).after rows ↔ row = g.toRow ∨ row ∈ rows := by
  constructor
  · rintro (h | ⟨h, -⟩)
    · exact .inl (Write.put.inj h).symm
    · exact .inr h
  · rintro (rfl | h)
    · exact .inl rfl
    · by_cases hplace : g.toRow.place = row.place
      · exact .inl (congrArg Write.put (eq_toRow_of_place hplace).symm)
      · exact .inr ⟨h, hplace⟩

end Grant

/-! ## More grants -/

/-- The second rows are the first and perhaps more grants. -/
structure GrantsMore (rows rows' : Set Row) : Prop where
  sub : ∀ row ∈ rows, row ∈ rows'
  only : ∀ row ∈ rows', (∀ g : Grant, row ≠ g.toRow) → row ∈ rows

theorem Grant.grantsMore_after (g : Grant) (rows : Set Row) :
    GrantsMore rows ((Write.put g.toRow).after rows) where
  sub _ hrow := mem_after_iff.2 (.inr hrow)
  only _ hrow hne := (mem_after_iff.1 hrow).resolve_left (hne g)

namespace GrantsMore

variable {s : AdminSettings} {id : AccountId} (h : GrantsMore rows rows')
include h

/-- Rows of other kinds stay the same. -/
theorem mem_iff {row : Row} (hrow : ∀ g : Grant, row ≠ g.toRow) : row ∈ rows ↔ row ∈ rows' :=
  ⟨h.sub row, fun hmem => h.only row hmem hrow⟩

/-- What regards no grant is the same for a read. -/
theorem agreesOn {r : Read} (hr : ∀ g : Grant, ¬ r.Regards g.toRow) : r.AgreesOn rows' rows := by
  refine fun row hrow => (h.mem_iff fun g heq => ?_).symm
  rw [heq] at hrow
  exact hr g hrow

theorem isSubject_iff {subject : Subject} :
    s.IsSubject rows tenant id subject ↔ s.IsSubject rows' tenant id subject := by
  have hkind : ∀ (a : Account) (g : Grant), .account a ≠ g.toRow := by
    rintro a (_ | _) ⟨⟩
  have haccount : ∀ a, .account a ∈ rows ↔ .account a ∈ rows' := fun a => h.mem_iff (hkind a)
  simp only [AdminSettings.IsSubject, AdminSettings.Identifies, haccount]

/-- Who is conferred a role is conferred it under more grants, too. -/
theorem holds {r : Role} (hr : s.Holds rows id scope tenant r) :
    s.Holds rows' id scope tenant r := by
  obtain ⟨subject, hsubject, hconfers⟩ := hr
  refine ⟨subject, h.isSubject_iff.1 hsubject, ?_⟩
  cases subject with
  | member a =>
    obtain ⟨⟨hrole, howner⟩, henabled, hscope, hassigned⟩ := hconfers
    exact ⟨⟨h.sub _ hrole, howner⟩, henabled, hscope, fun hbinding => h.sub _ (hassigned hbinding)⟩
  | absent | inactive | supervisor | officer => exact hconfers

/-- Who is granted a permission is granted it under more grants, too. -/
theorem grants {p : Permission}
    (hp : p.IsOf rows scope tenant ∧ s.Grants rows id scope tenant p) :
    p.IsOf rows' scope tenant ∧ s.Grants rows' id scope tenant p := by
  obtain ⟨⟨⟨hrow, howner⟩, hscope⟩, hgrant⟩ := hp
  refine ⟨⟨⟨h.sub _ hrow, howner⟩, hscope⟩, ?_⟩
  cases hgrant with
  | supervisor hid henabled => exact .supervisor hid henabled
  | officer hid hrow hplace hactive hadmin hentry henabled hpermits =>
    exact .officer hid (h.sub _ hrow) hplace hactive hadmin hentry henabled hpermits
  | member hid hrow hplace hactive hadmin hrole howner henabled hscope hassigned hlink =>
    exact .member hid (h.sub _ hrow) hplace hactive hadmin (h.sub _ hrole) howner henabled hscope
      (fun hbinding => h.sub _ (hassigned hbinding)) (h.sub _ hlink)

end GrantsMore

/-! ## What comes of questions -/

/-- The first outcome of a question shows no right that the second does not show. -/
def Question.Gains : (q : Question) → Outcome q.Answer → Outcome q.Answer → Prop
  | .permissions .. => fun (o o' : Outcome (List Permission)) => o.Within o'
  | .roles .. => fun (o o' : Outcome (List Role)) => o.Within o'
  | .ranges .. => fun (o o' : Outcome (List RoleRange)) => o.Within o'
  | .menus .. => fun (o o' : Outcome (List Menu)) => o.Within o'
  | .applications .. => fun (o o' : Outcome (List Application)) => o.Within o'
  | .authorize .. => fun (o o' : Outcome Unit) => o = .answered () → o' = .answered ()
  | .explain .. => fun (o o' : Outcome Explanation) =>
    (∃ e, o = .answered e ∧ e.granted) → ∃ e, o' = .answered e ∧ e.granted
  | .validate _ | .credentials _ _ => fun _ _ => True

section
variable {server : Query.Server σ₁} {R : Resolver}

/-- A demand is met when the tenant may use the application and the rules grant a permission with
the code. -/
theorem Resolver.authorize_answered_iff (h : server.Honours tenant rows) {account : AccountId}
    {application : ApplicationId} {code : String} {s : σ₁} :
    ((R.authorize account application tenant code).serve server s).1 = .answered () ↔
      ((validateApplication application tenant).serve server s).1 = .answered () ∧
      ∃ p : Permission, (p.IsOf rows (some application) tenant ∧
        R.settings.Grants rows account (some application) tenant p) ∧ p.code = code := by
  constructor
  · intro hanswered
    obtain ⟨⟨⟩, s₁, hvalid, hrest⟩ := Query.exists_serve_of_bind (Prod.ext hanswered rfl)
    obtain ⟨ps, s₂, hrun, hdecision⟩ := Query.exists_serve_of_bind hrest
    obtain ⟨ps', _, hrun', hps⟩ := R.permissions_yields h account (some application) s₁
    obtain rfl : ps = ps' := Outcome.answered.inj (Prod.mk.inj (hrun.symm.trans hrun')).1
    by_cases hany : ps.any (·.code = code)
    · obtain ⟨p, hp, hcode⟩ := List.any_eq_true.1 hany
      exact ⟨congrArg Prod.fst hvalid, p, (hps.mem_iff p).1 hp, of_decide_eq_true hcode⟩
    · rw [if_neg hany] at hdecision
      cases hdecision
  · rintro ⟨hvalid, p, hp, hcode⟩
    have hserve : (validateApplication application tenant).serve server s = (.answered (), _) :=
      Prod.ext hvalid rfl
    obtain ⟨ps, s₂, hrun, hps⟩ := R.permissions_yields h account (some application)
      ((validateApplication application tenant).serve server s).2
    have hany : ps.any (·.code = code) :=
      List.any_eq_true.2 ⟨p, (hps.mem_iff p).2 hp, decide_eq_true hcode⟩
    rw [authorize, Query.bind_eq_bind, Query.serve_bind, hserve]
    simp only [Query.bind_eq_bind, Query.serve_bind, hrun, if_pos hany]
    rfl

/-- An explanation grants what the rules grant. -/
theorem Resolver.explain_yields_granted (h : server.Honours tenant rows) (account : AccountId)
    (scope : Option ApplicationId) (code : String) :
    Query.Yields server (R.explain account scope tenant code) fun e => e.granted ↔
      ∃ p : Permission, (p.IsOf rows scope tenant ∧
        R.settings.Grants rows account scope tenant p) ∧ p.code = code := by
  refine (R.subject_yields h account).bind fun subject hsubject => ?_
  refine (R.rolesOf_yields h subject scope).bind fun roles hroles => ?_
  refine (Resolver.permissionsOf_yields h subject roles scope).bind fun ps hps => .answer ?_
  simp only [List.contains_iff_mem, List.mem_map, hps.mem_iff,
    Subject.mayUse_iff_grants h hsubject hroles.mem_iff]

end

/-- The directory holds no grants. -/
theorem Read.not_regards_of_isDirectory {r : Read} (hr : r.isDirectory) (g : Grant) :
    ¬ r.Regards g.toRow := by
  intro h
  have howner := r.owner?_eq_none_of_regards hr h
  cases g <;> cases howner

section
variable {server₁ : Query.Server σ₁} {server₂ : Query.Server σ₂} {R₁ R₂ : Resolver} {n₁ n₂ : Nat}
  (h₁ : server₁.Honours tenant rows₁) (h₂ : server₂.Honours tenant rows₂)
  (hsettings : R₂.settings = R₁.settings)
  (hn₁ : MenusWithin rows₁ tenant n₁) (hn₂ : MenusWithin rows₂ tenant n₂)
  (hlevels₁ : n₁ < R₁.levels) (hlevels₂ : n₂ < R₂.levels)
include h₁ h₂ hsettings hn₁ hn₂ hlevels₁ hlevels₂

/-- More grants make no difference to a question that is not about an account. -/
theorem GrantsMore.ask_eq_of_account?_eq_none (hmore : GrantsMore rows₁ rows₂)
    (hq : q.account? = none) (hdefinite : q.IsDefinite rows₁) (s₁ : σ₁) (s₂ : σ₂) :
    ((R₂.ask tenant q).serve server₂ s₂).1 = ((R₁.ask tenant q).serve server₁ s₁).1 := by
  refine h₂.ask_eq_of_reads h₁ hsettings (hn₂.mono fun m => hmore.sub (.menu m)) hn₁ hlevels₂
    hlevels₁ hdefinite fun r hr _ => hmore.agreesOn fun g => ?_
  have hdirectory := (R₂.ask_readsIn_directory hq).forall_reads server₂ s₂ r hr
  exact Read.not_regards_of_isDirectory hdirectory g

/-- Where more is granted, every question about an account shows what it showed, and perhaps
more. -/
theorem Resolver.ask_gains (hmore : GrantsMore rows₁ rows₂) (q : Question) (s₁ : σ₁) (s₂ : σ₂) :
    q.Gains ((R₁.ask tenant q).serve server₁ s₁).1 ((R₂.ask tenant q).serve server₂ s₂).1 := by
  have hwithin : ∀ account,
      (R₁.holdings server₁ s₁ account tenant).Within (R₂.holdings server₂ s₂ account tenant) :=
    fun account => holdings_within h₁ h₂ hn₁ hn₂ hlevels₁ hlevels₂ hmore.sub
      (fun _ _ => hsettings ▸ hmore.holds) (fun _ _ => hsettings ▸ hmore.grants) s₁ s₂
  cases q with
  | permissions account scope => exact (hwithin account).permissions scope
  | roles account scope => exact (hwithin account).roles scope
  | ranges account scope => exact (hwithin account).ranges scope
  | menus account menuType scope => exact (hwithin account).menus menuType scope
  | applications account menuType => exact (hwithin account).applications menuType
  | authorize account application code =>
    intro hanswered
    obtain ⟨hvalid, p, hp, hcode⟩ := (authorize_answered_iff h₁).1 hanswered
    refine (authorize_answered_iff h₂).2 ⟨?_, p, hsettings ▸ hmore.grants hp, hcode⟩
    rw [← hvalid]
    exact hmore.ask_eq_of_account?_eq_none h₁ h₂ hsettings hn₁ hn₂ hlevels₁ hlevels₂
      (q := .validate application) rfl nofun s₁ s₂
  | explain account scope code =>
    rintro ⟨e, he, hgranted⟩
    obtain ⟨e₁, _, hrun₁, hiff₁⟩ := R₁.explain_yields_granted h₁ account scope code s₁
    obtain ⟨e₂, _, hrun₂, hiff₂⟩ := R₂.explain_yields_granted h₂ account scope code s₂
    obtain rfl : e = e₁ := Outcome.answered.inj (he.symm.trans (congrArg Prod.fst hrun₁))
    obtain ⟨p, hp, hcode⟩ := hiff₁.1 hgranted
    exact ⟨e₂, congrArg Prod.fst hrun₂, hiff₂.2 ⟨p, hsettings ▸ hmore.grants hp, hcode⟩⟩
  | validate | credentials => trivial

end

/-- A run regards a grant only if the grant matters to the question. -/
theorem Query.Server.Honours.matters_of_regards {server : Query.Server σ₁} {R : Resolver} {s : σ₁}
    (h : server.Honours tenant rows) {r : Read} (hr : r ∈ (R.ask tenant q).reads server s)
    (hconcerns : r.concerns tenant) {g : Grant} (hregards : r.Regards g.toRow) :
    g.Matters R.settings tenant q := by
  have haccount : q.account? ≠ none := fun hnone =>
    Read.not_regards_of_isDirectory
      ((R.ask_readsIn_directory hnone).forall_reads server s r hr) g hregards
  cases g with
  | link l =>
    cases r with
    | linkedPermissions roles scope t =>
      obtain rfl : t = tenant := of_decide_eq_true hconcerns
      exact ⟨hregards.1, haccount⟩
    | _ => exact hregards.elim
  | assignment a =>
    cases r with
    | assignedRoles holder t =>
      obtain rfl : t = tenant := of_decide_eq_true hconcerns
      obtain ⟨hbinding, id, hid, rfl⟩ := h.of_mem_reads_assignedRoles hr
      obtain ⟨howner, hholder⟩ := hregards
      obtain ⟨hkind, hprincipal⟩ := Principal.mk.inj hholder
      refine ⟨howner, hbinding, hkind, ?_⟩
      rw [hid, hprincipal]
    | _ => exact hregards.elim

/-! ## After every history -/

/-- After every history of writes, one more link or assignment makes of no answer about an account
less than it was: no role, permission, range, menu or application is missing from its list, no
demand that was met is refused, and no explanation takes back what it granted. To a question that the
grant does not matter to it makes no difference at all: that is a question within another tenant or
not about an account and, for an assignment, also every question where roles are not assigned, every
question when the holder is no account, and all questions about other accounts than the holder. For a
question that looks an application up by a code which several share, this is said of the store as it
is walked. -/
theorem grant_gains (ws : List Write) (g : Grant) :
    ∃ store store', (∅ : MemoryStore).writeAll ws = .ok store ∧
      store.write (.put g.toRow) = .ok store' ∧
      (∀ code secret, (applicationByCredentials code secret).run store'.reply =
        (applicationByCredentials code secret).run store.reply) ∧
      ∀ {σ σ' : Type} (server : Query.Server σ) (server' : Query.Server σ'),
        server.Serves store → server'.Serves store' →
      ∀ R R' : Resolver, R'.settings = R.settings →
        store.levels ≤ R.levels → store'.levels ≤ R'.levels →
      ∀ (tenant : TenantCode) (q : Question) (st : σ) (st' : σ'),
        q.Gains ((R.ask tenant q).serve server st).1 ((R'.ask tenant q).serve server' st').1 ∧
        (¬ g.Matters R.settings tenant q → q.IsDefinite (Current ws) →
          ((R'.ask tenant q).serve server' st').1 = ((R.ask tenant q).serve server st).1) := by
  obtain ⟨store, hstore, hrep⟩ := MemoryStore.exists_writeAll ws
  obtain ⟨store', hstore', hrep'⟩ := hrep.write (.put g.toRow)
  have happ : store'.applications = store.applications := by
    rw [MemoryStore.applications_write hstore']
    cases g <;> rfl
  refine ⟨store, store', hstore, hstore', MemoryStore.run_applicationByCredentials_eq happ, ?_⟩
  intro σ σ' server server' hserver hserver' R R' hsettings hlevels hlevels' tenant q st st'
  have h := hserver.honours hrep tenant
  have h' := hserver'.honours hrep' tenant
  have hmore : GrantsMore (Current ws) ((Write.put g.toRow).after (Current ws)) :=
    g.grantsMore_after _
  refine ⟨Resolver.ask_gains h h' hsettings (hrep.menusWithin tenant) (hrep'.menusWithin tenant)
    hlevels hlevels' hmore q st st', fun hmatters hdefinite => ?_⟩
  refine h'.ask_eq_of_reads h hsettings
    ((hrep'.menusWithin tenant).mono fun m => hmore.sub (.menu m)) (hrep.menusWithin tenant)
    hlevels' hlevels hdefinite fun r hr hconcerns row hrow => ?_
  refine Grant.mem_after_iff.trans (or_iff_right ?_)
  rintro rfl
  exact hmatters (hsettings ▸ h'.matters_of_regards hr hconcerns hrow)

/-- Without a role Bob sees no menus. -/
theorem Wiki.runs_menus_nil {server : Query.Server σ₁} {st : σ₁} {levels : Nat}
    (haccount : server (.account ⟨"bob"⟩ ⟨"acme"⟩) st = (.ok (some bob), st))
    (hroles : server (.enabledRoles none ⟨"acme"⟩) st = (.ok [reader ⟨"acme"⟩], st))
    (hassigned : server (.assignedRoles ⟨.account, "bob"⟩ ⟨"acme"⟩) st = (.ok [], st)) :
    (Resolver.menus { settings := {}, levels } ⟨"bob"⟩ none none ⟨"acme"⟩).Runs server st
      [.account ⟨"bob"⟩ ⟨"acme"⟩, .enabledRoles none ⟨"acme"⟩,
        .assignedRoles ⟨.account, "bob"⟩ ⟨"acme"⟩] [] st := by
  have hid : ¬ SupervisorSettings.owns {} ⟨"bob"⟩ := by decide
  have hheld : heldRoles none (some []) [reader ⟨"acme"⟩] = [] := sortBy_nil _
  have hsubject := Resolver.subject_runs (R := { settings := {}, levels }) hid haccount rfl rfl
  have hmember := Resolver.rolesOf_member_runs (R := { settings := {}, levels }) (a := bob) rfl
    hroles (by decide) hassigned
  rw [hheld] at hmember
  have hrun : (Resolver.permissions { settings := {}, levels } ⟨"bob"⟩ none ⟨"acme"⟩).Runs server st
      _ [] st := hsubject.bind (hmember.bind (.answer []))
  refine hrun.bind ?_
  rw [List.map_nil, Resolver.menusAbove_nil]
  exact .answer []

/-- When Bob is made a reader, too, he sees the page that readers read and the menu above it, where
he saw none, and nothing changes for Ann. -/
theorem grant_gains_crew :
    ∃ store store', ∃ R R' : Resolver, (∅ : MemoryStore).writeAll Wiki.crew = .ok store ∧
      store.write (.put (.roleAssignment ⟨⟨"reader"⟩, "bob", .account, ⟨"acme"⟩⟩)) = .ok store' ∧
      (store.reply.toServer : Query.Server Unit).Serves store ∧
      (store'.reply.toServer : Query.Server Unit).Serves store' ∧
      R'.settings = R.settings ∧ store.levels ≤ R.levels ∧ store'.levels ≤ R'.levels ∧
      ((R.ask ⟨"acme"⟩ (.menus ⟨"bob"⟩ none none)).serve
        (store.reply.toServer : Query.Server Unit) ()).1 = .answered [] ∧
      ((R'.ask ⟨"acme"⟩ (.menus ⟨"bob"⟩ none none)).serve
        (store'.reply.toServer : Query.Server Unit) ()).1 =
          .answered [Wiki.pages ⟨"acme"⟩, Wiki.root ⟨"acme"⟩] ∧
      ((R.ask ⟨"acme"⟩ (.menus ⟨"bob"⟩ none none)).serve
        (store.reply.toServer : Query.Server Unit) ()).1.Within
      ((R'.ask ⟨"acme"⟩ (.menus ⟨"bob"⟩ none none)).serve
        (store'.reply.toServer : Query.Server Unit) ()).1 ∧
      ((R'.ask ⟨"acme"⟩ (.menus ⟨"ann"⟩ none none)).serve
        (store'.reply.toServer : Query.Server Unit) ()).1 =
      ((R.ask ⟨"acme"⟩ (.menus ⟨"ann"⟩ none none)).serve
        (store.reply.toServer : Query.Server Unit) ()).1 := by
  let g : Grant := .assignment ⟨⟨"reader"⟩, "bob", .account, ⟨"acme"⟩⟩
  obtain ⟨store, store', hstore, hstore', -, hall⟩ := grant_gains Wiki.crew g
  have h := hall (store.reply.toServer : Query.Server Unit)
    (store'.reply.toServer : Query.Server Unit) store.serves_reply store'.serves_reply
    { settings := {}, levels := store.levels } { settings := {}, levels := store'.levels }
    rfl le_rfl le_rfl ⟨"acme"⟩
  have hother : ¬ g.Matters {} ⟨"acme"⟩ (.menus ⟨"ann"⟩ none none) := by
    rintro ⟨-, -, -, hid⟩
    exact absurd hid (by decide)
  have hbob := (h (.menus ⟨"bob"⟩ none none) () ()).1
  have hann := (h (.menus ⟨"ann"⟩ none none) () ()).2 hother nofun
  refine ⟨store, store', { settings := {}, levels := store.levels },
    { settings := {}, levels := store'.levels }, hstore, hstore',
    store.serves_reply, store'.serves_reply, rfl, le_rfl, le_rfl, ?_, ?_, hbob, hann⟩
  · obtain rfl := Except.ok.inj hstore
    exact congrArg Prod.fst (Wiki.runs_menus_nil rfl rfl rfl).serve
  · obtain rfl := Except.ok.inj hstore
    obtain rfl := Except.ok.inj hstore'
    refine congrArg Prod.fst (Wiki.Replies.runs_menus (a := Wiki.bob) ?_ (by decide) rfl rfl rfl).serve
    exact ⟨rfl, rfl, rfl, rfl, rfl, rfl⟩

end TenantAccess
