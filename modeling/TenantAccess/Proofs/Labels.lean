import TenantAccess.Proofs.Query.Trace
import TenantAccess.Proofs.Settings
import TenantAccess.Proofs.Superset

/-!
# Labels carry no authority

An officer stands in the settings under a label, and the look-up of a username goes through the
officers in the order of their labels. In accepted settings no two officers share a username, so
what the look-up finds does not depend on that order (`AdminSettings.officer?_eq_some_iff_mem`), and
settings that differ in their labels only are alike in everything that a resolver asks of them
(`Resolver.Alike`). Resolvers that are alike do not merely come to the same outcomes: their queries
are equal (`Resolver.Alike.ask_eq`), so no server can tell them apart. The main statement is
`relabel_changes_nothing`.
-/

namespace TenantAccess

/-! ## Accepted settings, without the labels -/

namespace AdminSettings

variable {s s' : AdminSettings} {username : String} {officer : OfficerSettings}

/-- Whether settings are accepted does not depend on the labels of the officers. -/
theorem validate_eq_ok_iff_values : s.validate = .ok () ↔
    (¬ Text.isBlank s.supervisor.username ∧ Text.IsTrimmed s.supervisor.username) ∧
    (∀ o ∈ s.officers.values, (¬ Text.isBlank o.username ∧ Text.IsTrimmed o.username) ∧
      o.username ≠ s.supervisor.username) ∧
    (s.officers.values.map OfficerSettings.username).Nodup := by
  rw [validate_eq_ok_iff]
  simp only [LabelMap.values, List.forall_mem_map, List.map_map, Function.comp_def]

/-- In accepted settings a username has one entry at most. -/
theorem entry_unique (h : s.validate = .ok ()) {e e' : String × OfficerSettings}
    (he : e ∈ s.officers.entries) (he' : e' ∈ s.officers.entries)
    (heq : e.2.username = e'.2.username) : e = e' :=
  List.inj_on_of_nodup_map (validate_eq_ok_iff.1 h).2.2 he he' heq

/-- The look-up of a username in accepted settings finds the only entry that has it. -/
theorem officer?_eq_some_iff_only (h : s.validate = .ok ()) :
    s.officer? username = some officer ↔
      ∃ label, (label, officer) ∈ s.officers.entries ∧ officer.username = username ∧
        ∀ e ∈ s.officers.entries, e.2.username = username → e = (label, officer) := by
  rw [officer?_eq_some_iff]
  constructor
  · intro happoints
    obtain ⟨label, he, hu, -⟩ := happoints
    exact ⟨label, he, hu, fun e he' hu' => entry_unique h he' he (hu'.trans hu.symm)⟩
  · intro honly
    obtain ⟨label, he, hu, hall⟩ := honly
    refine ⟨label, he, hu, fun e he' hu' => ?_⟩
    have hlabel : e.1 = label := congrArg Prod.fst (hall e he' hu')
    exact hlabel ▸ String.le_refl e.1

/-- So the order of the entries does not matter. -/
theorem officer?_eq_some_iff_mem (h : s.validate = .ok ()) :
    s.officer? username = some officer ↔
      officer ∈ s.officers.values ∧ officer.username = username := by
  rw [officer?_eq_some_iff_only h, LabelMap.values]
  constructor
  · intro honly
    obtain ⟨label, he, hu, -⟩ := honly
    exact ⟨List.mem_map_of_mem he, hu⟩
  · intro hfound
    obtain ⟨hmem, hu⟩ := hfound
    obtain ⟨⟨label, _⟩, he, rfl⟩ := List.mem_map.1 hmem
    exact ⟨label, he, hu, fun e he' hu' => entry_unique h he' he (hu'.trans hu.symm)⟩

/-- Settings that differ at most in the labels of their officers. -/
structure SameButLabels (s s' : AdminSettings) : Prop where
  supervisor : s'.supervisor = s.supervisor
  roleBinding : s'.roleBinding = s.roleBinding
  officers : s'.officers.values.Perm s.officers.values

theorem SameButLabels.validate (hsame : s.SameButLabels s') (h : s.validate = .ok ()) :
    s'.validate = .ok () := by
  obtain ⟨hsupervisor, hofficers, hnodup⟩ := validate_eq_ok_iff_values.1 h
  refine validate_eq_ok_iff_values.2 ⟨?_, ?_, ?_⟩
  · rw [hsame.supervisor]
    exact hsupervisor
  · intro o ho
    rw [hsame.supervisor]
    exact hofficers o (hsame.officers.mem_iff.1 ho)
  · exact (hsame.officers.map _).nodup_iff.2 hnodup

theorem SameButLabels.officer?_eq (hsame : s.SameButLabels s') (h : s.validate = .ok ())
    (username : String) : s'.officer? username = s.officer? username := by
  refine Option.ext fun o => ?_
  rw [officer?_eq_some_iff_mem (hsame.validate h), officer?_eq_some_iff_mem h,
    hsame.officers.mem_iff]

/-- The settings with other labels. -/
def relabel (f : String → String) (s : AdminSettings) : AdminSettings :=
  { s with officers := s.officers.relabel f }

theorem sameButLabels_relabel {f : String → String}
    (hf : ∀ e ∈ s.officers.entries, ∀ e' ∈ s.officers.entries, f e.1 = f e'.1 → e.1 = e'.1) :
    s.SameButLabels (s.relabel f) where
  supervisor := rfl
  roleBinding := rfl
  officers := LabelMap.values_relabel_perm hf

end AdminSettings

/-! ## Resolvers that are alike -/

/-- The check of the owners lets rows of the tenant through only, so what comes after it matters for
these only. -/
theorem Query.ownRows_bind_congr {α β : Type} [TenantScoped α] {noun : String} {tenant : TenantCode}
    {rows : List α} {f f' : Unit → Query β}
    (h : (∀ row ∈ rows, TenantScoped.tenantOf row = tenant) → f () = f' ()) :
    (ownRows noun tenant rows).bind f = (ownRows noun tenant rows).bind f' := by
  rcases ownRows_cases noun tenant rows with ⟨e, hrefused⟩ | ⟨hown, hpassed⟩
  · rw [hrefused]
    rfl
  · rw [hpassed]
    exact h hown

/-- Ranges of a tenant are listed in one way, in whatever order they came out of their
collection. -/
theorem rangesOf_eq_of_own (order order' : Arrangement RoleRange) (ids : List RoleId)
    {tenant : TenantCode} {rows : List RoleRange} (hown : ∀ r ∈ rows, r.tenant = tenant) :
    rangesOf order ids rows = rangesOf order' ids rows := by
  unfold rangesOf
  refine sortBy_eq_of_perm (fun r hr r' hr' heq => ?_) (order.perm _) (order'.perm _)
  have htenant := hown r (List.mem_filter.1 hr).1
  have htenant' := hown r' (List.mem_filter.1 hr').1
  exact RoleRange.eq_of_listingOrder heq (htenant.trans htenant'.symm)

theorem listedMenus_eq (order order' : Arrangement Menu) (menus : List Menu) :
    listedMenus order menus = listedMenus order' menus := by
  unfold listedMenus
  exact sortBy_eq_of_perm (fun _ _ _ _ => Menu.id_eq_of_listingOrder) (order.perm _) (order'.perm _)

/-- A walk ends with the same listing whatever the order of its collection. -/
theorem climb_eq (order order' : Arrangement Menu) (menuType : Option String) (tenant : TenantCode)
    (levels : Nat) (level asked : List MenuId) (found : List Menu) :
    climb order menuType tenant levels level asked found =
      climb order' menuType tenant levels level asked found := by
  induction levels generalizing level asked found with
  | zero =>
    cases level with
    | nil => simp only [climb, listedMenus_eq order order']
    | cons => rfl
  | succ levels ih =>
    cases level with
    | nil => simp only [climb, listedMenus_eq order order']
    | cons => simp only [climb, ih]

namespace Resolver

/-- Two resolvers whose settings are alike in all that is asked of them: the supervisor, how
accounts come by roles, and which officer a username has. -/
structure Alike (R R' : Resolver) : Prop where
  supervisor : R'.settings.supervisor = R.settings.supervisor
  roleBinding : R'.settings.roleBinding = R.settings.roleBinding
  officer : ∀ username, R'.settings.officer? username = R.settings.officer? username
  levels : R'.levels = R.levels

namespace Alike

variable {R R' : Resolver} {tenant : TenantCode} (h : R.Alike R')
include h

theorem classify_eq (a : Account) : R'.settings.classify a = R.settings.classify a := by
  simp only [AdminSettings.classify, AdminSettings.kindOf, h.supervisor, h.officer]

theorem subject_eq (id : AccountId) : R'.subject id tenant = R.subject id tenant := by
  simp only [subject, h.supervisor, h.classify_eq]

theorem rolesOf_eq (subject : Subject) (scope : Option ApplicationId) :
    R'.rolesOf subject scope tenant = R.rolesOf subject scope tenant := by
  unfold rolesOf
  rw [h.roleBinding]

theorem permissions_eq (account : AccountId) (scope : Option ApplicationId) :
    R'.permissions account scope tenant = R.permissions account scope tenant := by
  simp only [permissions, h.subject_eq, h.rolesOf_eq]

theorem roles_eq (account : AccountId) (scope : Option ApplicationId) :
    R'.roles account scope tenant = R.roles account scope tenant := by
  simp only [roles, h.subject_eq, h.rolesOf_eq]

theorem ranges_eq (account : AccountId) (scope : Option ApplicationId) :
    R'.ranges account scope tenant = R.ranges account scope tenant := by
  unfold ranges
  rw [h.roles_eq]
  refine congrArg _ (funext fun roles => ?_)
  split
  · rfl
  · -- only rows that passed the check of their owner are listed
    refine congrArg (Query.ask _) (funext fun rows => Query.ownRows_bind_congr fun hown => ?_)
    rw [rangesOf_eq_of_own R'.rangeOrder R.rangeOrder _ hown]

theorem menus_eq (account : AccountId) (menuType : Option String) (scope : Option ApplicationId) :
    R'.menus account menuType scope tenant = R.menus account menuType scope tenant := by
  simp only [menus, menusAbove, h.permissions_eq, h.levels, climb_eq R'.menuOrder R.menuOrder]

theorem applications_eq (account : AccountId) (menuType : String) :
    R'.applications account menuType tenant = R.applications account menuType tenant := by
  simp only [applications, h.menus_eq]

theorem authorize_eq (account : AccountId) (application : ApplicationId) (code : String) :
    R'.authorize account application tenant code = R.authorize account application tenant code := by
  simp only [authorize, h.permissions_eq]

theorem explain_eq (account : AccountId) (scope : Option ApplicationId) (code : String) :
    R'.explain account scope tenant code = R.explain account scope tenant code := by
  simp only [explain, h.subject_eq, h.rolesOf_eq]

/-- Resolvers that are alike ask and answer alike, whatever the question. -/
theorem ask_eq (q : Question) : R'.ask tenant q = R.ask tenant q := by
  cases q with
  | permissions => exact h.permissions_eq _ _
  | roles => exact h.roles_eq _ _
  | ranges => exact h.ranges_eq _ _
  | menus => exact h.menus_eq _ _ _
  | applications => exact h.applications_eq _ _
  | authorize => exact h.authorize_eq _ _ _
  | explain => exact h.explain_eq _ _ _
  | validate | credentials => rfl

end Alike

end Resolver

/-- Settings that are accepted are still accepted when their officers get other labels, no two the
same. The look-up of a username finds what it found, the only entry with that username, and a
resolver with these settings comes to the same outcome for every question against every server. -/
theorem relabel_changes_nothing {s : AdminSettings} {f : String → String}
    (hvalid : s.validate = .ok ())
    (hf : ∀ e ∈ s.officers.entries, ∀ e' ∈ s.officers.entries, f e.1 = f e'.1 → e.1 = e'.1) :
    (s.relabel f).validate = .ok () ∧
    (∀ username, (s.relabel f).officer? username = s.officer? username ∧
      ∀ officer, s.officer? username = some officer ↔
        ∃ label, (label, officer) ∈ s.officers.entries ∧ officer.username = username ∧
          ∀ e ∈ s.officers.entries, e.2.username = username → e = (label, officer)) ∧
    ∀ R R' : Resolver, R.settings = s → R'.settings = s.relabel f → R'.levels = R.levels →
      ∀ (tenant : TenantCode) (q : Question) {σ : Type} (server : Query.Server σ) (st : σ),
        (R'.ask tenant q).serve server st = (R.ask tenant q).serve server st := by
  have hsame := AdminSettings.sameButLabels_relabel hf
  refine ⟨hsame.validate hvalid, fun username => ⟨hsame.officer?_eq hvalid username, fun officer =>
    AdminSettings.officer?_eq_some_iff_only hvalid⟩, ?_⟩
  intro R R' hsettings hsettings' hlevels tenant q σ server st
  have halike : R.Alike R' := by
    refine ⟨?_, ?_, ?_, hlevels⟩
    · rw [hsettings, hsettings']
      exact hsame.supervisor
    · rw [hsettings, hsettings']
      exact hsame.roleBinding
    · intro username
      rw [hsettings, hsettings']
      exact hsame.officer?_eq hvalid username
  rw [halike.ask_eq]

namespace Wiki

/-- Settings with an officer beside Olga. -/
def doubled : AdminSettings :=
  staffed.withOfficer "keeper" { username := "paul", name := "Paul", permissions := .allow [] }

/-- Labels that put Olga behind Paul. -/
def swapped (label : String) : String := if label = "clerk" then "revisor" else label

end Wiki

/-- Olga's entry counts for her wherever her label puts her, and she holds what she held. -/
theorem relabel_changes_nothing_swapped :
    Wiki.doubled.validate = .ok () ∧
    (∀ e ∈ Wiki.doubled.officers.entries, ∀ e' ∈ Wiki.doubled.officers.entries,
      Wiki.swapped e.1 = Wiki.swapped e'.1 → e.1 = e'.1) ∧
    (Wiki.doubled.relabel Wiki.swapped).officers.values ≠ Wiki.doubled.officers.values ∧
    (Wiki.doubled.relabel Wiki.swapped).officer? "olga" = some Wiki.clerical ∧
    ∀ server : Query.Server Unit,
      (Resolver.ask { settings := Wiki.doubled.relabel Wiki.swapped, levels := 0 } ⟨"acme"⟩
        (.permissions ⟨"olga"⟩ none)).serve server () =
      (Resolver.ask { settings := Wiki.doubled, levels := 0 } ⟨"acme"⟩
        (.permissions ⟨"olga"⟩ none)).serve server () := by
  have hvalid : Wiki.doubled.validate = .ok () := by decide
  have hf : ∀ e ∈ Wiki.doubled.officers.entries, ∀ e' ∈ Wiki.doubled.officers.entries,
      Wiki.swapped e.1 = Wiki.swapped e'.1 → e.1 = e'.1 := by decide
  obtain ⟨-, hofficer, hserve⟩ := relabel_changes_nothing hvalid hf
  have hfound : Wiki.doubled.officer? "olga" = some Wiki.clerical := by decide
  refine ⟨hvalid, hf, by decide, ?_, fun server => ?_⟩
  · rw [(hofficer "olga").1]
    exact hfound
  · exact hserve { settings := Wiki.doubled, levels := 0 }
      { settings := Wiki.doubled.relabel Wiki.swapped, levels := 0 } rfl rfl rfl ⟨"acme"⟩
      (.permissions ⟨"olga"⟩ none) server ()

/-- In settings that are not accepted a label decides which of two entries counts. -/
example : (AdminSettings.relabel Wiki.swapped
    (Wiki.staffed.withOfficer "keeper" { Wiki.clerical with enabled := false })).officer? "olga" ≠
      some Wiki.clerical := by decide

end TenantAccess
