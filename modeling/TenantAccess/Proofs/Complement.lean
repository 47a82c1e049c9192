import TenantAccess.Proofs.Superset

/-!
# Two officers with complementary ranges

A range that allows some codes and the range that denies the same codes share no code and miss none
(`PermissionRange.permits_allow_iff`). An officer holds what its range leaves of the supervisor's
permissions, so what one and the same account holds under either range is, put together, what the
supervisor holds (`AdminSettings.grants_iff_or`). The permissions fall into two parts without a
common id. The menus and the applications may overlap: chains of parents that start at different
permissions can meet, and they go on from there in the same way, so seeing a menu distributes over
the two parts (`AdminSettings.shows_iff_or`). The main statement is `holdings_splitInto_officers`.
-/

namespace TenantAccess

variable {α σ : Type} {rows : Set Row} {tenant : TenantCode} {scope : Option ApplicationId}

/-! ## Ranges -/

namespace PermissionRange

variable {codes : List String} {code : String}

/-- A range that allows some codes permits these and no others. -/
theorem permits_allow (hcodes : codes ≠ []) : (allow codes).permits code ↔ code ∈ codes := by
  simp [permits, mode, allow, hcodes]

/-- A range that denies some codes permits all others. -/
theorem permits_deny : (deny codes).permits code ↔ code ∉ codes := by
  simp [permits, mode, deny]

/-- Of the two ranges with the same codes, one permits what the other does not. -/
theorem permits_allow_iff (hcodes : codes ≠ []) :
    (allow codes).permits code ↔ ¬ (deny codes).permits code := by
  rw [permits_allow hcodes, permits_deny, not_not]

end PermissionRange

/-! ## Rules -/

namespace AdminSettings

variable {s s₁ s₂ : AdminSettings} {server : Query.Server σ} {account boss : AccountId}
  {codes : List String}

/-- The entry that counts for a username is switched on and has this range. -/
def Ranges (s : AdminSettings) (username : String) (range : PermissionRange) : Prop :=
  ∃ entry, s.Appoints username entry ∧ entry.enabled ∧ entry.permissions = range

/-- An active officer is granted what its range permits. -/
theorem Ranges.grants_iff {a : Account} {range : PermissionRange} {p : Permission}
    (hrange : s.Ranges a.username range) (h : server.Honours a.tenant rows)
    (hrow : .account a ∈ rows) (hactive : a.enabled ∧ ¬ a.deleted) (hadmin : a.admin)
    (hother : ¬ s.supervisor.owns a.id) :
    s.Grants rows a.id scope a.tenant p ↔ range.permits p.code := by
  obtain ⟨entry, hentry, henabled, rfl⟩ := hrange
  exact grants_iff_of_officer h hrow hactive hadmin hother hentry henabled

/-- Who is granted what two others are granted sees the menus that one of them sees. -/
theorem shows_iff_or (hgrants : ∀ p : Permission, s.Grants rows boss scope tenant p ↔
      s₁.Grants rows account scope tenant p ∨ s₂.Grants rows account scope tenant p)
    {menuType : Option String} {m : Menu} :
    s.Shows rows boss menuType scope tenant m ↔
      s₁.Shows rows account menuType scope tenant m ∨
        s₂.Shows rows account menuType scope tenant m := by
  simp only [Shows, hgrants, and_or_left, or_and_right, exists_or]

/-- Who is granted what two others are granted reaches the applications that one of them reaches. -/
theorem reaches_iff_or (hgrants : ∀ p : Permission, s.Grants rows boss none tenant p ↔
      s₁.Grants rows account none tenant p ∨ s₂.Grants rows account none tenant p)
    {menuType : String} {a : Application} :
    s.Reaches rows boss menuType tenant a ↔
      s₁.Reaches rows account menuType tenant a ∨ s₂.Reaches rows account menuType tenant a := by
  simp only [Reaches, shows_iff_or hgrants, or_and_right, exists_or, and_or_left]

end AdminSettings

/-! ## Answers -/

/-- The outcomes are answers, and the first is the listing of the entries of the other two. -/
def Outcome.Unites (cmp : α → α → Ordering) (o o₁ o₂ : Outcome (List α)) : Prop :=
  ∃ xs xs₁ xs₂, o = .answered xs ∧ o₁ = .answered xs₁ ∧ o₂ = .answered xs₂ ∧
    IsListing cmp (fun a => a ∈ xs₁ ∨ a ∈ xs₂) xs

/-- Where a rule names what one of two others names, its listing unites theirs. -/
theorem Query.Yields.unites {server : Query.Server σ} {q q₁ q₂ : Query (List α)}
    {cmp : α → α → Ordering} {P P₁ P₂ : α → Prop} (h : Query.Yields server q (IsListing cmp P))
    (h₁ : Query.Yields server q₁ (IsListing cmp P₁))
    (h₂ : Query.Yields server q₂ (IsListing cmp P₂)) (hP : ∀ a, P a ↔ P₁ a ∨ P₂ a)
    (st st₁ st₂ : σ) : Outcome.Unites cmp (q.serve server st).1 (q₁.serve server st₁).1
      (q₂.serve server st₂).1 := by
  obtain ⟨xs, _, hxs, hlisting⟩ := h st
  obtain ⟨xs₁, _, hxs₁, hlisting₁⟩ := h₁ st₁
  obtain ⟨xs₂, _, hxs₂, hlisting₂⟩ := h₂ st₂
  refine ⟨xs, xs₁, xs₂, by rw [hxs], by rw [hxs₁], by rw [hxs₂], hlisting.sorted, fun a => ?_⟩
  rw [hlisting.mem_iff, hP, hlisting₁.mem_iff, hlisting₂.mem_iff]

/-- Where a rule names what one of two others names, and these two name nothing with the same key,
its listing is made by merging theirs. -/
theorem Query.Yields.merge_eq {κ : Type} {server : Query.Server σ} {q q₁ q₂ : Query (List α)}
    {cmp : α → α → Ordering} [Std.TransCmp cmp] {P P₁ P₂ : α → Prop} {key : α → κ}
    (h : Query.Yields server q (IsListing cmp P)) (h₁ : Query.Yields server q₁ (IsListing cmp P₁))
    (h₂ : Query.Yields server q₂ (IsListing cmp P₂)) (hP : ∀ a, P a ↔ P₁ a ∨ P₂ a)
    (hne : ∀ a b, P₁ a → P₂ b → key a ≠ key b) (hcmp : ∀ a b, cmp a b = .eq → key a = key b)
    (st st₁ st₂ : σ) :
    ∃ xs xs₁ xs₂, (q.serve server st).1 = .answered xs ∧ (q₁.serve server st₁).1 = .answered xs₁ ∧
      (q₂.serve server st₂).1 = .answered xs₂ ∧ (∀ a ∈ xs₁, ∀ b ∈ xs₂, key a ≠ key b) ∧
      xs₁.merge xs₂ (fun a b => (cmp a b).isLE) = xs := by
  obtain ⟨xs, _, hxs, hlisting⟩ := h st
  obtain ⟨xs₁, _, hxs₁, hlisting₁⟩ := h₁ st₁
  obtain ⟨xs₂, _, hxs₂, hlisting₂⟩ := h₂ st₂
  have hmerge := hlisting₁.merge hlisting₂ fun a b ha hb heq => hne a b ha hb (hcmp a b heq)
  refine ⟨xs, xs₁, xs₂, by rw [hxs], by rw [hxs₁], by rw [hxs₂], fun a ha b hb => ?_, ?_⟩
  · exact hne a b ((hlisting₁.mem_iff a).1 ha) ((hlisting₂.mem_iff b).1 hb)
  · exact hmerge.sorted.eq_of_mem_iff hlisting.sorted
      fun a => (hmerge.mem_iff a).trans ((hP a).symm.trans (hlisting.mem_iff a).symm)

/-- The permissions of the first are those of the second and of the third, which have no id in
common, merged in their order. The menus and the applications are those of the second or of the
third. -/
structure Holdings.SplitInto (h h₁ h₂ : Holdings) : Prop where
  permissions : ∀ scope, ∃ held held₁ held₂, h.permissions scope = .answered held ∧
    h₁.permissions scope = .answered held₁ ∧ h₂.permissions scope = .answered held₂ ∧
    (∀ p ∈ held₁, ∀ q ∈ held₂, p.id ≠ q.id) ∧
    held₁.merge held₂ (fun p q => (Permission.listingOrder p q).isLE) = held
  menus : ∀ menuType scope, Outcome.Unites Menu.listingOrder (h.menus menuType scope)
    (h₁.menus menuType scope) (h₂.menus menuType scope)
  applications : ∀ menuType, Outcome.Unites Application.listingOrder (h.applications menuType)
    (h₁.applications menuType) (h₂.applications menuType)

/-- After every history of writes, as long as the supervisor is switched on: when an active
administrator of a tenant other than the supervisor has a range that allows some codes under one
settings, and the range that denies the same codes under another settings with the same supervisor,
then what the supervisor holds in the tenant is split into what the administrator holds under the
one and under the other. -/
theorem holdings_splitInto_officers (ws : List Write) :
    ∃ store, (∅ : MemoryStore).writeAll ws = .ok store ∧
      ∀ {σ : Type} (server : Query.Server σ), server.Serves store →
      ∀ R R₁ R₂ : Resolver, R.settings.supervisor.enabled →
        R₁.settings.supervisor = R.settings.supervisor →
        R₂.settings.supervisor = R.settings.supervisor →
        store.levels ≤ R.levels → store.levels ≤ R₁.levels → store.levels ≤ R₂.levels →
      ∀ (tenant : TenantCode) (a : Account), .account a ∈ Current ws → a.tenant = tenant →
        a.enabled ∧ ¬ a.deleted → a.admin → ¬ R.settings.supervisor.owns a.id →
      ∀ codes, codes ≠ [] → R₁.settings.Ranges a.username (.allow codes) →
        R₂.settings.Ranges a.username (.deny codes) →
      ∀ boss, R.settings.supervisor.owns boss → ∀ st st₁ st₂ : σ,
        (R.holdings server st boss tenant).SplitInto (R₁.holdings server st₁ a.id tenant)
          (R₂.holdings server st₂ a.id tenant) := by
  obtain ⟨store, hstore, hrep⟩ := MemoryStore.exists_writeAll ws
  refine ⟨store, hstore, ?_⟩
  rintro σ server hserver R R₁ R₂ henabled hsame₁ hsame₂ hlevels hlevels₁ hlevels₂ _ a hrow rfl
    hactive hadmin hother codes hcodes hallow hdeny boss hboss st st₁ st₂
  have h := hserver.honours hrep a.tenant
  have hn := hrep.menusWithin a.tenant
  have hgrants₁ : ∀ scope (p : Permission),
      R₁.settings.Grants (Current ws) a.id scope a.tenant p ↔
        (PermissionRange.allow codes).permits p.code :=
    fun _ _ => hallow.grants_iff h hrow hactive hadmin (hsame₁ ▸ hother)
  have hgrants₂ : ∀ scope (p : Permission),
      R₂.settings.Grants (Current ws) a.id scope a.tenant p ↔
        (PermissionRange.deny codes).permits p.code :=
    fun _ _ => hdeny.grants_iff h hrow hactive hadmin (hsame₂ ▸ hother)
  have hgrants : ∀ scope (p : Permission),
      R.settings.Grants (Current ws) boss scope a.tenant p ↔
        R₁.settings.Grants (Current ws) a.id scope a.tenant p ∨
          R₂.settings.Grants (Current ws) a.id scope a.tenant p := by
    intro scope p
    rw [AdminSettings.grants_iff_of_supervisor (of_decide_eq_true hboss), hgrants₁, hgrants₂,
      PermissionRange.permits_allow_iff hcodes]
    exact iff_of_true henabled (em' _)
  refine ⟨fun scope => ?_, fun menuType scope => ?_, fun menuType => ?_⟩
  · refine (R.permissions_yields h boss scope).merge_eq (R₁.permissions_yields h a.id scope)
      (R₂.permissions_yields h a.id scope) (fun p => ?_) (fun p q hp hq hid => ?_)
      (fun _ _ => Permission.id_eq_of_listingOrder) st st₁ st₂
    · rw [hgrants, and_or_left]
    · obtain rfl := hp.1.id_inj h hq.1 hid
      have hallowed := (hgrants₁ scope p).1 hp.2
      exact (PermissionRange.permits_allow_iff hcodes).1 hallowed ((hgrants₂ scope p).1 hq.2)
  · exact (R.menus_yields_shows h hn hlevels boss menuType scope).unites
      (R₁.menus_yields_shows h hn hlevels₁ a.id menuType scope)
      (R₂.menus_yields_shows h hn hlevels₂ a.id menuType scope)
      (fun _ => AdminSettings.shows_iff_or (hgrants scope)) st st₁ st₂
  · exact (R.applications_yields h hn hlevels boss menuType).unites
      (R₁.applications_yields h hn hlevels₁ a.id menuType)
      (R₂.applications_yields h hn hlevels₂ a.id menuType)
      (fun _ => AdminSettings.reaches_iff_or (hgrants none)) st st₁ st₂

namespace Wiki

/-- A permission that no role is linked to. -/
def editPage : Permission :=
  { readPage ⟨"acme"⟩ with id := ⟨"edit"⟩, code := "page:edit", name := "Edit pages" }

/-- Ann's history, and then Olga and a second permission. -/
def editable : List Write := joined ++ [.put (.permission editPage)]

/-- Settings in which Olga is an officer with some range. -/
def staffedWith (range : PermissionRange) : AdminSettings :=
  AdminSettings.withOfficer {} "clerk" { clerical with permissions := range }

/-- The range is Olga's. -/
theorem staffedWith_ranges (range : PermissionRange) :
    (staffedWith range).Ranges olga.username range := by
  refine ⟨{ clerical with permissions := range }, ?_, rfl, rfl⟩
  refine ⟨"clerk", List.mem_singleton_self _, rfl, ?_⟩
  intro other hother _
  obtain rfl := List.mem_singleton.1 hother
  exact String.le_refl _

end Wiki

/-- What the supervisor holds is split into what Olga holds when she may read pages and nothing
else, and what she holds when she may do everything but read pages. -/
theorem holdings_splitInto_officers_wiki :
    ∃ store, (∅ : MemoryStore).writeAll Wiki.editable = .ok store ∧
      (store.reply.toServer : Query.Server Unit).Serves store ∧
      ∃ R R₁ R₂ : Resolver, R.settings = {} ∧
        R₁.settings = Wiki.staffedWith (.allow ["page:read"]) ∧
        R₂.settings = Wiki.staffedWith (.deny ["page:read"]) ∧
        (R.holdings (store.reply.toServer : Query.Server Unit) () ⟨"syssa"⟩ ⟨"acme"⟩).SplitInto
          (R₁.holdings (store.reply.toServer : Query.Server Unit) () ⟨"olga"⟩ ⟨"acme"⟩)
          (R₂.holdings (store.reply.toServer : Query.Server Unit) () ⟨"olga"⟩ ⟨"acme"⟩) := by
  have hrow : .account Wiki.olga ∈ Current Wiki.editable := by decide
  have hother : ¬ (SupervisorSettings.owns {} Wiki.olga.id) := by decide
  obtain ⟨store, hstore, hall⟩ := holdings_splitInto_officers Wiki.editable
  have hsplit := hall (store.reply.toServer : Query.Server Unit) store.serves_reply
    { settings := {}, levels := store.levels }
    { settings := Wiki.staffedWith (.allow ["page:read"]), levels := store.levels }
    { settings := Wiki.staffedWith (.deny ["page:read"]), levels := store.levels }
    rfl rfl rfl le_rfl le_rfl le_rfl
    ⟨"acme"⟩ Wiki.olga hrow rfl (by decide) rfl hother ["page:read"] (List.cons_ne_nil _ _)
    (Wiki.staffedWith_ranges _) (Wiki.staffedWith_ranges _) ⟨"syssa"⟩ rfl () () ()
  exact ⟨store, hstore, store.serves_reply, _, _, _, rfl, rfl, rfl, hsplit⟩

end TenantAccess
