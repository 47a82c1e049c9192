import TenantAccess.Proofs.Visibility
import TenantAccess.Resolver.Applications

/-!
# What an account holds

Five questions about an account are answered with a list. For each there is a rule that says of the
stored rows which entries belong into it: `AdminSettings.Holds` for roles, `AdminSettings.Grants`
for permissions, the ranges of held roles, `AdminSettings.Shows` for menus and
`AdminSettings.Reaches` for applications. Against a server that honours rows every answer is the
listing of the entries that its rule names (`Resolver.menus_yields_shows` and
`Resolver.applications_yields` for the last two). So to compare two answers it is enough to compare
the rules: when one implies the other, the one answer is `Outcome.Within` the other
(`Query.Yields.within`). The rules for ranges, menus and applications rest on those for roles and
permissions, so the five answers together, the `Holdings` of an account, are compared by these two
(`Resolver.holdings_within`).
-/

namespace TenantAccess

variable {α σ σ₁ σ₂ : Type} {rows rows' : Set Row} {tenant : TenantCode}

/-! ## Menus and applications -/

namespace AdminSettings

variable (s : AdminSettings)

/-- An account sees a menu to which a chain of parents leads from the menu of a permission that is
granted to the account. -/
def Shows (rows : Set Row) (account : AccountId) (menuType : Option String)
    (scope : Option ApplicationId) (tenant : TenantCode) (m : Menu) : Prop :=
  ∃ p : Permission, (p.IsOf rows scope tenant ∧ s.Grants rows account scope tenant p) ∧
    m.Reached rows tenant (OfType menuType) [p.menuId]

/-- An account reaches an application that owns a menu which the account sees. -/
def Reaches (rows : Set Row) (account : AccountId) (menuType : String) (tenant : TenantCode)
    (a : Application) : Prop :=
  .application a ∈ rows ∧
    ∃ m, s.Shows rows account (some menuType) none tenant m ∧ m.applicationId = a.id

end AdminSettings

section
variable {server : Query.Server σ} {R : Resolver} {n : Nat}

/-- A menu is reached from some ids when it is reached from one of them. -/
theorem Menu.reached_iff_exists {ofType : String → Prop} {ids : List MenuId} {m : Menu} :
    m.Reached rows tenant ofType ids ↔ ∃ id ∈ ids, m.Reached rows tenant ofType [id] := by
  constructor
  · rintro ⟨first, hid, hfirst, hchain⟩
    exact ⟨first.id, hid, first, List.mem_singleton_self _, hfirst, hchain⟩
  · rintro ⟨id, hid, first, hmem, hfirst, hchain⟩
    obtain rfl := List.mem_singleton.1 hmem
    exact ⟨first, hid, hfirst, hchain⟩

/-- The resolver finds the menus that an account sees. -/
theorem Resolver.menus_yields_shows (h : server.Honours tenant rows)
    (hn : MenusWithin rows tenant n) (hlevels : n < R.levels) (account : AccountId)
    (menuType : Option String) (scope : Option ApplicationId) :
    Query.Yields server (R.menus account menuType scope tenant)
      (IsListing Menu.listingOrder (R.settings.Shows rows account menuType scope tenant)) := by
  refine (R.menus_yields h hn hlevels account menuType scope).mono fun ms hms => ?_
  obtain ⟨ps, hps, hms⟩ := hms
  refine ⟨hms.sorted, fun m => (hms.mem_iff m).trans ?_⟩
  rw [Menu.reached_iff_exists]
  simp only [List.mem_map, exists_exists_and_eq_and, hps.mem_iff, AdminSettings.Shows]

/-- The directory is asked for one id after the other, so with distinct ids no application comes up
twice. -/
theorem knownApplications_yields (h : server.Honours tenant rows) {ids : List ApplicationId}
    (hids : ids.Nodup) :
    Query.Yields server (knownApplications ids) fun found =>
      (∀ a, a ∈ found ↔ .application a ∈ rows ∧ a.id ∈ ids) ∧
        found.Pairwise fun a b => a.id ≠ b.id := by
  induction ids with
  | nil => exact .answer ⟨by simp, .nil⟩
  | cons id rest ih =>
    obtain ⟨hid, hrest⟩ := List.nodup_cons.1 hids
    refine (h.read (.application id) rfl).bind fun reply hreply => ?_
    cases reply with
    | none =>
      refine (ih hrest).mono fun found hfound => ⟨fun a => ?_, hfound.2⟩
      have hnone : ¬ (.application a ∈ rows ∧ a.id = id) := fun ha =>
        Option.some_ne_none a ((hreply a).2 ha).symm
      rw [hfound.1, List.mem_cons]
      tauto
    | some a =>
      obtain ⟨hrow, rfl⟩ := (hreply a).1 rfl
      refine (ih hrest).bind fun found hfound => .answer ⟨fun b => ?_, ?_⟩
      · have hb := hreply b
        rw [Option.some.injEq] at hb
        rw [List.mem_cons, hfound.1, List.mem_cons, eq_comm, hb]
        tauto
      · refine List.pairwise_cons.2 ⟨fun b hb hab => hid ?_, hfound.2⟩
        exact hab ▸ ((hfound.1 b).1 hb).2

/-- The resolver finds the applications that an account reaches. -/
theorem Resolver.applications_yields (h : server.Honours tenant rows)
    (hn : MenusWithin rows tenant n) (hlevels : n < R.levels) (account : AccountId)
    (menuType : String) :
    Query.Yields server (R.applications account menuType tenant)
      (IsListing Application.listingOrder (R.settings.Reaches rows account menuType tenant)) := by
  refine (R.menus_yields_shows h hn hlevels account (some menuType) none).bind fun ms hms => ?_
  refine (knownApplications_yields h (nodup_ascending _)).bind fun found hfound => .answer ?_
  obtain ⟨hmem, hdistinct⟩ := hfound
  refine ⟨strictlySorted_sortBy ?_, fun a => ?_⟩
  · exact hdistinct.imp fun hne heq => hne (Application.id_eq_of_listingOrder heq)
  · rw [mem_sortBy, hmem, mem_ascending, List.mem_map]
    simp only [hms.mem_iff, AdminSettings.Reaches]

end

/-! ## Comparing rules -/

section
variable {s s' : AdminSettings} {account account' : AccountId}
  {scope scope' : Option ApplicationId}

/-- Where more menus may stand in a chain, a menu stays reached. -/
theorem Menu.Reached.mono {ofType ofType' : String → Prop} {ids : List MenuId} {m : Menu}
    (hof : ∀ m : Menu, m.IsOf rows tenant ofType → m.IsOf rows' tenant ofType')
    (h : m.Reached rows tenant ofType ids) : m.Reached rows' tenant ofType' ids := by
  have hunder : ∀ m m', Under rows tenant ofType m m' → Under rows' tenant ofType' m m' :=
    fun _ m' h => ⟨h.1, hof m' h.2⟩
  obtain ⟨first, hid, hfirst, hchain⟩ := h
  exact ⟨first, hid, hof first hfirst, Relation.ReflTransGen.mono hunder _ _ hchain⟩

/-- Who is granted more sees more menus. -/
theorem AdminSettings.Shows.mono {menuType : Option String} {m : Menu}
    (hgrants : ∀ p : Permission, p.IsOf rows scope tenant ∧ s.Grants rows account scope tenant p →
      p.IsOf rows' scope' tenant ∧ s'.Grants rows' account' scope' tenant p)
    (hmenus : ∀ m, Row.menu m ∈ rows → .menu m ∈ rows')
    (h : s.Shows rows account menuType scope tenant m) :
    s'.Shows rows' account' menuType scope' tenant m := by
  obtain ⟨p, hp, hm⟩ := h
  exact ⟨p, hgrants p hp, hm.mono fun m hm => ⟨⟨hmenus m hm.1.1, hm.1.2⟩, hm.2⟩⟩

/-- Who is granted more reaches more applications. -/
theorem AdminSettings.Reaches.mono {menuType : String} {a : Application}
    (hgrants : ∀ p : Permission, p.IsOf rows none tenant ∧ s.Grants rows account none tenant p →
      p.IsOf rows' none tenant ∧ s'.Grants rows' account' none tenant p)
    (hmenus : ∀ m, Row.menu m ∈ rows → .menu m ∈ rows')
    (happlications : ∀ a, Row.application a ∈ rows → .application a ∈ rows')
    (h : s.Reaches rows account menuType tenant a) :
    s'.Reaches rows' account' menuType tenant a := by
  obtain ⟨hrow, m, hm, happ⟩ := h
  exact ⟨happlications a hrow, m, hm.mono hgrants hmenus, happ⟩

end

/-! ## Comparing outcomes -/

/-- Both outcomes are answers, and the first is a part of the second, in the same order. -/
def Outcome.Within (o o' : Outcome (List α)) : Prop :=
  ∃ xs ys, o = .answered xs ∧ o' = .answered ys ∧ xs.Sublist ys

/-- Outcomes that are within each other are the same. -/
theorem Outcome.Within.antisymm {o o' : Outcome (List α)} (h : o.Within o') (h' : o'.Within o) :
    o = o' := by
  obtain ⟨xs, ys, rfl, rfl, hsub⟩ := h
  obtain ⟨_, _, heq, heq', hsub'⟩ := h'
  obtain rfl := Outcome.answered.inj heq
  obtain rfl := Outcome.answered.inj heq'
  rw [hsub.antisymm hsub']

/-- Where one rule implies another, the listing of the one is within the listing of the other. -/
theorem Query.Yields.within {server₁ : Query.Server σ₁} {server₂ : Query.Server σ₂}
    {q₁ q₂ : Query (List α)} {cmp : α → α → Ordering} [Std.TransCmp cmp] {P Q : α → Prop}
    (h₁ : Query.Yields server₁ q₁ (IsListing cmp P))
    (h₂ : Query.Yields server₂ q₂ (IsListing cmp Q)) (hPQ : ∀ a, P a → Q a) (s₁ : σ₁) (s₂ : σ₂) :
    (q₁.serve server₁ s₁).1.Within (q₂.serve server₂ s₂).1 := by
  obtain ⟨xs, _, hxs, hP⟩ := h₁ s₁
  obtain ⟨ys, _, hys, hQ⟩ := h₂ s₂
  exact ⟨xs, ys, by rw [hxs], by rw [hys], hP.sublist hQ hPQ⟩

/-! ## The five answers together -/

/-- What comes of the five questions about what an account holds, in every scope and for every type
of menus. -/
@[ext] structure Holdings where
  roles : Option ApplicationId → Outcome (List Role)
  permissions : Option ApplicationId → Outcome (List Permission)
  ranges : Option ApplicationId → Outcome (List RoleRange)
  menus : Option String → Option ApplicationId → Outcome (List Menu)
  applications : String → Outcome (List Application)

/-- What comes of the questions about what an account holds, each asked from the same state. -/
def Resolver.holdings (R : Resolver) (server : Query.Server σ) (st : σ) (account : AccountId)
    (tenant : TenantCode) : Holdings where
  roles scope := ((R.roles account scope tenant).serve server st).1
  permissions scope := ((R.permissions account scope tenant).serve server st).1
  ranges scope := ((R.ranges account scope tenant).serve server st).1
  menus menuType scope := ((R.menus account menuType scope tenant).serve server st).1
  applications menuType := ((R.applications account menuType tenant).serve server st).1

namespace Holdings

/-- Every question has an answer in both, and the one is a part of the other, in the same order. -/
structure Within (h h' : Holdings) : Prop where
  roles : ∀ scope, (h.roles scope).Within (h'.roles scope)
  permissions : ∀ scope, (h.permissions scope).Within (h'.permissions scope)
  ranges : ∀ scope, (h.ranges scope).Within (h'.ranges scope)
  menus : ∀ menuType scope, (h.menus menuType scope).Within (h'.menus menuType scope)
  applications : ∀ menuType, (h.applications menuType).Within (h'.applications menuType)

/-- Holdings that are within each other are the same. -/
theorem Within.antisymm {h h' : Holdings} (hle : h.Within h') (hge : h'.Within h) : h = h' := by
  ext1
  · exact funext fun scope => (hle.roles scope).antisymm (hge.roles scope)
  · exact funext fun scope => (hle.permissions scope).antisymm (hge.permissions scope)
  · exact funext fun scope => (hle.ranges scope).antisymm (hge.ranges scope)
  · exact funext fun menuType => funext fun scope =>
      (hle.menus menuType scope).antisymm (hge.menus menuType scope)
  · exact funext fun menuType => (hle.applications menuType).antisymm (hge.applications menuType)

end Holdings

/-- Who holds more roles and is granted more, on no fewer rows, is shown all that another is. -/
theorem Resolver.holdings_within {server₁ : Query.Server σ₁} {server₂ : Query.Server σ₂}
    {R₁ R₂ : Resolver} {n₁ n₂ : Nat} {account₁ account₂ : AccountId}
    (h₁ : server₁.Honours tenant rows) (h₂ : server₂.Honours tenant rows')
    (hn₁ : MenusWithin rows tenant n₁) (hn₂ : MenusWithin rows' tenant n₂)
    (hlevels₁ : n₁ < R₁.levels) (hlevels₂ : n₂ < R₂.levels) (hrows : ∀ row ∈ rows, row ∈ rows')
    (hholds : ∀ scope r, R₁.settings.Holds rows account₁ scope tenant r →
      R₂.settings.Holds rows' account₂ scope tenant r)
    (hgrants : ∀ scope (p : Permission),
      p.IsOf rows scope tenant ∧ R₁.settings.Grants rows account₁ scope tenant p →
      p.IsOf rows' scope tenant ∧ R₂.settings.Grants rows' account₂ scope tenant p)
    (s₁ : σ₁) (s₂ : σ₂) :
    (R₁.holdings server₁ s₁ account₁ tenant).Within (R₂.holdings server₂ s₂ account₂ tenant) where
  roles scope := (R₁.roles_yields h₁ account₁ scope).within (R₂.roles_yields h₂ account₂ scope)
    (hholds scope) s₁ s₂
  permissions scope := (R₁.permissions_yields h₁ account₁ scope).within
    (R₂.permissions_yields h₂ account₂ scope) (hgrants scope) s₁ s₂
  ranges scope := by
    refine (R₁.ranges_yields h₁ account₁ scope).within (R₂.ranges_yields h₂ account₂ scope) ?_ s₁ s₂
    rintro r ⟨⟨hrow, howner⟩, role, hrole, hid⟩
    exact ⟨⟨hrows _ hrow, howner⟩, role, hholds scope role hrole, hid⟩
  menus menuType scope := (R₁.menus_yields_shows h₁ hn₁ hlevels₁ account₁ menuType scope).within
    (R₂.menus_yields_shows h₂ hn₂ hlevels₂ account₂ menuType scope)
    (fun _ hm => hm.mono (hgrants scope) fun m => hrows (.menu m)) s₁ s₂
  applications menuType := (R₁.applications_yields h₁ hn₁ hlevels₁ account₁ menuType).within
    (R₂.applications_yields h₂ hn₂ hlevels₂ account₂ menuType)
    (fun _ ha => ha.mono (hgrants none) (fun m => hrows (.menu m)) fun a => hrows (.application a))
    s₁ s₂

end TenantAccess
