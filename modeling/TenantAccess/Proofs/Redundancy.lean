import Mathlib.Data.List.Basic
import TenantAccess.Proofs.Query.Coupling
import TenantAccess.Proofs.Visibility
import TenantAccess.Resolver.Question
import TenantAccess.Store.Outage

/-!
# Redundant rows change nothing

A resolver cuts a reply down to what was asked for before it frees it of repetitions, and every
listing is in a total order, so its answers depend only on the set of the rows that were asked for.
`Twins` are two lists of rows with this set in common; a listing made from one is the listing made
from the other (`Twins.sortBy_eq`). The walk through the menus keeps them twins from level to level
(`climb_coupled`), since rows that were not asked for are passed over together with their parents.
`Resolver.ask_coupled` says of every question but the one for credentials that replies which are
alike do not tell two resolvers with the same settings apart. The main statement `ask_eq_of_pads`
compares a server with one that pads its replies.
-/

namespace TenantAccess

variable {α κ σ σ' : Type} {tenant : TenantCode} {view : Application → Application}

/-! ## Twins -/

/-- Two lists with the same members, rows of the tenant that are told apart by a key. -/
structure Twins [TenantScoped α] (tenant : TenantCode) (key : α → κ) (xs ys : List α) : Prop where
  mem_iff : ∀ a, a ∈ xs ↔ a ∈ ys
  key_inj : ∀ a ∈ xs, ∀ b ∈ xs, key a = key b → a = b
  own : ∀ a ∈ xs, TenantScoped.tenantOf a = tenant

namespace Twins

variable [TenantScoped α] {key : α → κ} {xs ys xs' ys' : List α}

theorem nil : Twins tenant key ([] : List α) [] :=
  ⟨fun _ => Iff.rfl, nofun, nofun⟩

/-- Twins stay twins when the same members are taken out of both. -/
theorem filter (h : Twins tenant key xs ys) (p : α → Bool) :
    Twins tenant key (xs.filter p) (ys.filter p) where
  mem_iff a := by rw [List.mem_filter, List.mem_filter, h.mem_iff]
  key_inj a ha b hb := h.key_inj a (List.mem_filter.1 ha).1 b (List.mem_filter.1 hb).1
  own a ha := h.own a (List.mem_filter.1 ha).1

/-- Twins behind twins are twins when no key is found in both parts. -/
theorem append (h : Twins tenant key xs ys) (h' : Twins tenant key xs' ys')
    (hne : ∀ a ∈ xs, ∀ b ∈ xs', key a ≠ key b) : Twins tenant key (xs ++ xs') (ys ++ ys') where
  mem_iff a := by rw [List.mem_append, List.mem_append, h.mem_iff, h'.mem_iff]
  key_inj a ha b hb heq := by
    rcases List.mem_append.1 ha with ha | ha <;> rcases List.mem_append.1 hb with hb | hb
    · exact h.key_inj a ha b hb heq
    · exact absurd heq (hne a ha b hb)
    · exact absurd heq.symm (hne b hb a ha)
    · exact h'.key_inj a ha b hb heq
  own a ha := (List.mem_append.1 ha).elim (h.own a) (h'.own a)

/-- The listings made from twins are equal. -/
theorem sortBy_eq [DecidableEq κ] {cmp : α → α → Ordering} [Std.TransCmp cmp]
    (h : Twins tenant key xs ys)
    (hcmp : ∀ a b, TenantScoped.tenantOf a = TenantScoped.tenantOf b → cmp a b = .eq →
      key a = key b)
    (hperm : xs'.Perm (distinctBy key xs)) (hperm' : ys'.Perm (distinctBy key ys)) :
    sortBy cmp xs' = sortBy cmp ys' :=
  sortBy_eq_of_mem_iff h.mem_iff h.key_inj
    (fun a ha b hb => hcmp a b ((h.own a ha).trans (h.own b hb).symm)) hperm hperm'

/-- The rows of replies that are alike are twins as soon as only rows are left that were asked for.
`row` is how the rows of the replies are taken for rows of the store. -/
theorem of_alike (key : α → κ) {r : Read} {x y : r.Reply} (h : r.Alike view tenant x y)
    (henlarges : Read.Enlarges tenant r x y) {row : α → Row} (hx : r.rows x = xs.map row)
    (hy : r.rows y = ys.map row) (hinj : Function.Injective row)
    (howner : ∀ a, (row a).place.owner? = some (TenantScoped.tenantOf a))
    (hplace : ∀ a b, TenantScoped.tenantOf a = TenantScoped.tenantOf b → key a = key b →
      (row a).place = (row b).place)
    {p : α → Bool} (hp : ∀ a, p a → r.wants (row a)) :
    Twins tenant key (xs.filter p) (ys.filter p) := by
  have hmem : ∀ a ∈ xs.filter p, row a ∈ r.rows x ∧ r.wants (row a) := fun a ha =>
    ⟨hx ▸ List.mem_map_of_mem (List.mem_filter.1 ha).1, hp a (List.mem_filter.1 ha).2⟩
  have hown : ∀ a ∈ xs.filter p, TenantScoped.tenantOf a = tenant := fun a ha =>
    Read.leak?_eq_none_iff.1 h.clean (row a) (hmem a ha).1 _ (howner a)
  refine ⟨fun a => ?_, fun a ha b hb heq => ?_, hown⟩
  · rw [List.mem_filter, List.mem_filter]
    refine and_congr_left fun hpa => ?_
    have hrow := henlarges.mem_iff (hp a hpa)
    rwa [hx, hy, List.mem_map_of_injective hinj, List.mem_map_of_injective hinj] at hrow
  · refine hinj (h.regular _ (hmem a ha).1 _ (hmem b hb).1 (hmem a ha).2 (hmem b hb).2 ?_)
    exact hplace a b ((hown a ha).trans (hown b hb).symm) heq

end Twins

/-! ## Listings -/

/-- The roles that a member holds are made from replies that are alike in the same way. -/
theorem heldRoles_eq {scope : Option ApplicationId} {t : TenantCode} {x y : List Role}
    {assigned assigned' : Option (List RoleId)}
    (h : (Read.enabledRoles scope t).Alike view tenant x y)
    (hassigned : ∀ id, assigned.all (·.contains id) = assigned'.all (·.contains id)) :
    heldRoles scope assigned x = heldRoles scope assigned' y := by
  have htwins := Twins.of_alike Role.id h h.widens rfl rfl (fun _ _ => Row.role.inj)
    (fun _ => rfl) (fun a b ht hid => congrArg₂ Place.role ht hid)
    (p := fun r => r.enabled && inScope scope r.applicationId && assigned.all (·.contains r.id))
    fun r hr => (Bool.and_eq_true_iff.1 hr).1
  rw [heldRoles, heldRoles]
  simp only [← hassigned]
  exact htwins.sortBy_eq (fun _ _ _ => Role.id_eq_of_listingOrder) (.refl _) (.refl _)

/-- The permissions of twin lists are listed in the same way. -/
theorem listedPermissions_eq {xs ys : List Permission} (h : Twins tenant Permission.id xs ys) :
    listedPermissions xs = listedPermissions ys :=
  h.sortBy_eq (fun _ _ _ => Permission.id_eq_of_listingOrder) (.refl _) (.refl _)

/-- The ranges of some roles are made from replies that are alike in the same way. -/
theorem rangesOf_eq {ids : List RoleId} {t : TenantCode} {x y : List RoleRange}
    (order order' : Arrangement RoleRange) (h : (Read.roleRanges ids t).Alike view tenant x y) :
    rangesOf order ids x = rangesOf order' ids y := by
  have htwins := Twins.of_alike id h h.widens rfl rfl (fun _ _ => Row.roleRange.inj)
    (fun _ => rfl) (fun a b _ heq => congrArg (fun r => (Row.roleRange r).place) heq)
    (p := fun r => ids.contains r.roleId) fun _ hr => hr
  exact htwins.sortBy_eq (fun a b ht heq => RoleRange.eq_of_listingOrder heq ht) (order.perm _)
    (order'.perm _)

/-! ## Rights -/

section
variable {R R' : Resolver}

theorem Resolver.subject_coupled (hsettings : R.settings = R'.settings) (id : AccountId) :
    Query.Coupled view tenant Eq (R.subject id tenant) (R'.subject id tenant) := by
  by_cases howns : R.settings.supervisor.owns id
  · rw [R.subject_of_owns howns, R'.subject_of_owns (hsettings ▸ howns), hsettings]
    exact .answer rfl
  · rw [R.subject_of_not_owns howns, R'.subject_of_not_owns (hsettings ▸ howns), hsettings]
    refine .ask_own (decide_eq_true rfl) (fun _ => rfl) fun x y hxy => ?_
    obtain rfl : x = y := hxy.widens
    exact .answer rfl

theorem Resolver.rolesOf_coupled (hsettings : R.settings = R'.settings) (subject : Subject)
    (scope : Option ApplicationId) :
    Query.Coupled view tenant Eq (R.rolesOf subject scope tenant)
      (R'.rolesOf subject scope tenant) := by
  cases subject with
  | absent | inactive | supervisor | officer => exact .answer rfl
  | member a =>
    refine .ask_own (decide_eq_true rfl) (fun _ => rfl) fun x y hxy => ?_
    rw [← hsettings]
    cases R.settings.roleBinding with
    | application => exact .answer (heldRoles_eq hxy fun _ => rfl)
    | principal =>
      refine .ask_free (decide_eq_true rfl) (fun _ => rfl) fun assigned assigned' h => ?_
      have hmem : ∀ id, id ∈ assigned ↔ id ∈ assigned' := h.widens
      exact .answer (heldRoles_eq hxy fun id => by simp [hmem])

theorem Resolver.permissionsOf_coupled (subject : Subject) (roles : List Role)
    (scope : Option ApplicationId) :
    Query.Coupled view tenant Eq (Resolver.permissionsOf subject roles scope tenant)
      (Resolver.permissionsOf subject roles scope tenant) := by
  have hplace : ∀ a b : Permission, a.tenant = b.tenant → a.id = b.id →
      (Row.permission a).place = (Row.permission b).place :=
    fun a b ht hid => congrArg₂ Place.permission ht hid
  have hall : Query.Coupled view tenant (Twins tenant Permission.id)
      (scopedReply scope tenant (Query.read (.permissions scope tenant)))
      (scopedReply scope tenant (Query.read (.permissions scope tenant))) := by
    refine .ask_own (decide_eq_true rfl) (fun _ => rfl) fun x y h => .answer ?_
    exact .of_alike _ h h.widens rfl rfl (fun _ _ => Row.permission.inj) (fun _ => rfl) hplace
      fun _ hp => hp
  cases subject with
  | absent | inactive => exact .answer rfl
  | supervisor a => exact hall.bind fun xs ys h => .answer (listedPermissions_eq h)
  | officer a entry =>
    cases entry with
    | none => exact .answer rfl
    | some entry =>
      simp only [permissionsOf]
      split
      · exact hall.bind fun xs ys h =>
          .answer (listedPermissions_eq (h.filter fun p => entry.permissions.permits p.code))
      · exact .answer rfl
  | member a =>
    simp only [permissionsOf]
    split
    · exact .answer rfl
    · refine Query.Coupled.bind (P := Twins tenant Permission.id) ?_ fun xs ys h =>
        .answer (listedPermissions_eq h)
      refine .ask_own (decide_eq_true rfl) (fun _ => rfl) fun x y h => .answer ?_
      exact .of_alike _ h h.widens rfl rfl (fun _ _ => Row.permission.inj) (fun _ => rfl) hplace
        fun _ hp => hp

theorem Resolver.permissions_coupled (hsettings : R.settings = R'.settings) (account : AccountId)
    (scope : Option ApplicationId) :
    Query.Coupled view tenant Eq (R.permissions account scope tenant)
      (R'.permissions account scope tenant) := by
  refine (subject_coupled hsettings account).bind fun subject _ heq => ?_
  obtain rfl := heq
  refine (rolesOf_coupled hsettings subject scope).bind fun roles _ heq => ?_
  obtain rfl := heq
  exact permissionsOf_coupled subject roles scope

theorem Resolver.roles_coupled (hsettings : R.settings = R'.settings) (account : AccountId)
    (scope : Option ApplicationId) :
    Query.Coupled view tenant Eq (R.roles account scope tenant)
      (R'.roles account scope tenant) := by
  refine (subject_coupled hsettings account).bind fun subject _ heq => ?_
  obtain rfl := heq
  exact rolesOf_coupled hsettings subject scope

theorem Resolver.ranges_coupled (hsettings : R.settings = R'.settings) (account : AccountId)
    (scope : Option ApplicationId) :
    Query.Coupled view tenant Eq (R.ranges account scope tenant)
      (R'.ranges account scope tenant) := by
  refine (roles_coupled hsettings account scope).bind fun roles _ heq => ?_
  obtain rfl := heq
  split
  · exact .answer rfl
  · exact .ask_own (decide_eq_true rfl) (fun _ => rfl) fun x y h =>
      .answer (rangesOf_eq R.rangeOrder R'.rangeOrder h)

/-! ## The walk through the menus -/

/-- What two walks have in common before a level: the menus that they found are twins, and no id is
asked for that a found menu has. -/
structure Abreast (tenant : TenantCode) (level asked : List MenuId) (found found' : List Menu) :
    Prop where
  twins : Twins tenant Menu.id found found'
  asked_of_found : ∀ m ∈ found, m.id ∈ asked
  fresh : ∀ id ∈ level, id ∉ asked

variable {level asked : List MenuId} {found found' seen seen' : List Menu}

/-- What twins name as their parents is asked for next alike. -/
theorem nextLevel_eq (h : Twins tenant Menu.id seen seen') :
    nextLevel asked seen = nextLevel asked seen' := by
  refine ascending_eq_of_mem_iff fun id => ?_
  simp only [List.mem_filter, List.mem_filterMap, h.mem_iff]

/-- A level in which twins are seen keeps two walks abreast. -/
theorem Abreast.step (h : Abreast tenant level asked found found')
    (hseen : Twins tenant Menu.id seen seen') (hlevel : ∀ m ∈ seen, m.id ∈ level) :
    Abreast tenant (nextLevel (asked ++ level) seen) (asked ++ level) (found ++ seen)
      (found' ++ seen') where
  twins := h.twins.append hseen fun a ha b hb heq =>
    h.fresh b.id (hlevel b hb) (heq ▸ h.asked_of_found a ha)
  asked_of_found m hm := by
    rcases List.mem_append.1 hm with hm | hm
    · exact List.mem_append_left _ (h.asked_of_found m hm)
    · exact List.mem_append_right _ (hlevel m hm)
  fresh id hid := (mem_nextLevel.1 hid).2

/-- Two walks that are abreast stay so, level by level, and end with the same listing. -/
theorem climb_coupled (order order' : Arrangement Menu) (menuType : Option String) (levels : Nat)
    (h : Abreast tenant level asked found found') :
    Query.Coupled view tenant Eq (climb order menuType tenant levels level asked found)
      (climb order' menuType tenant levels level asked found') := by
  have hend : ∀ {found found' : List Menu}, Twins tenant Menu.id found found' →
      listedMenus order found = listedMenus order' found' := fun htwins =>
    htwins.sortBy_eq (fun _ _ _ => Menu.id_eq_of_listingOrder) (order.perm _) (order'.perm _)
  induction levels generalizing level asked found found' with
  | zero =>
    cases level with
    | nil => rw [climb, climb]; exact .answer (hend h.twins)
    | cons id rest => exact .stall
  | succ levels ih =>
    cases level with
    | nil => rw [climb, climb]; exact .answer (hend h.twins)
    | cons id rest =>
      refine .ask_own (decide_eq_true rfl) (fun _ => rfl) fun x y hxy => ?_
      have hseen : Twins tenant Menu.id (seenMenus (id :: rest) menuType x)
          (seenMenus (id :: rest) menuType y) :=
        .of_alike _ hxy hxy.widens rfl rfl (fun _ _ => Row.menu.inj) (fun _ => rfl)
          (fun a b ht hid => congrArg₂ Place.menu ht hid) fun _ hm => hm
      have hlevel : ∀ m ∈ seenMenus (id :: rest) menuType x, m.id ∈ id :: rest := fun m hm =>
        List.contains_iff_mem.1 (Bool.and_eq_true_iff.1 (List.mem_filter.1 hm).2).1
      dsimp only
      rw [← nextLevel_eq hseen]
      exact ih (h.step hseen hlevel)

theorem Resolver.menus_coupled (hsettings : R.settings = R'.settings)
    (hlevels : R.levels = R'.levels) (account : AccountId) (menuType : Option String)
    (scope : Option ApplicationId) :
    Query.Coupled view tenant Eq (R.menus account menuType scope tenant)
      (R'.menus account menuType scope tenant) := by
  refine (permissions_coupled hsettings account scope).bind fun ps _ heq => ?_
  obtain rfl := heq
  rw [menusAbove, menusAbove, ← hlevels]
  exact climb_coupled _ _ _ _ ⟨.nil, nofun, nofun⟩

/-! ## The directory -/

theorem knownApplications_coupled (ids : List ApplicationId) :
    Query.Coupled view tenant (fun xs ys => xs.map view = ys.map view) (knownApplications ids)
      (knownApplications ids) := by
  induction ids with
  | nil => exact .answer rfl
  | cons id rest ih =>
    refine .ask_free rfl (fun _ => rfl) fun x y hxy => ?_
    have hview : x.map view = y.map view := hxy.widens
    cases x with
    | none =>
      cases y with
      | none => exact ih
      | some b => cases hview
    | some a =>
      cases y with
      | none => cases hview
      | some b =>
        refine ih.bind fun xs ys hrest => .answer ?_
        exact congrArg₂ List.cons (Option.some.inj hview) hrest

/-- The order of the applications depends on what is looked at only. -/
theorem map_sortBy_eq (h : Overview view) {xs ys : List Application}
    (hxs : xs.map view = ys.map view) :
    (sortBy Application.listingOrder xs).map view =
      (sortBy Application.listingOrder ys).map view := by
  have hcmp : ∀ a b : Application, Application.listingOrder (view a) (view b) =
      Application.listingOrder a b := fun a b => by
    simp only [Application.listingOrder, compareLex, compareOn, h.id_eq, h.code_eq]
  have hsort : ∀ zs : List Application, (sortBy Application.listingOrder zs).map view =
      sortBy Application.listingOrder (zs.map view) := fun zs =>
    List.map_mergeSort fun a _ b _ => by rw [hcmp]
  rw [hsort, hsort, hxs]

theorem validateApplication_coupled (h : Overview view) (application : ApplicationId) :
    Query.Coupled view tenant Eq (validateApplication application tenant)
      (validateApplication application tenant) := by
  refine .ask_free (decide_eq_true rfl) (fun _ => rfl) fun x y hxy => ?_
  obtain rfl : x = y := hxy.widens
  cases x with
  | none => exact .refuse nofun
  | some t =>
    show Query.Coupled view tenant Eq (ite ..) (ite ..)
    split
    · exact .refuse nofun
    cases t.lease? application with
    | none => exact .refuse nofun
    | some lease =>
      show Query.Coupled view tenant Eq (ite ..) (ite ..)
      split
      · exact .refuse nofun
      refine .ask_free rfl (fun _ => rfl) fun x y hxy => ?_
      have hview : x.map view = y.map view := hxy.widens
      cases x with
      | none =>
        cases y with
        | none => exact .refuse nofun
        | some b => cases hview
      | some a =>
        cases y with
        | none => cases hview
        | some b =>
          have hab : view a = view b := Option.some.inj hview
          have henabled : a.enabled = b.enabled := by rw [← h.enabled_eq a, hab, h.enabled_eq]
          have hcode : a.code = b.code := by rw [← h.code_eq a, hab, h.code_eq]
          show Query.Coupled view tenant Eq (ite ..) (ite ..)
          rw [henabled, hcode]
          split
          · exact .refuse nofun
          · exact .answer rfl

/-! ## Questions -/

/-- What is looked at of an answer: the applications in it. -/
def Question.look (view : Application → Application) : (q : Question) → q.Answer → q.Answer
  | .applications .. => fun (answer : List Application) => answer.map view
  | .credentials .. => fun (answer : Application) => view answer
  | .permissions .. | .roles .. | .ranges .. | .menus .. | .validate .. | .authorize ..
  | .explain .. => fun answer => answer

/-- Where everything is looked at, it is the answer that is looked at. -/
theorem Question.look_id (q : Question) (answer : q.Answer) : q.look id answer = answer := by
  cases q with
  | applications => exact List.map_id _
  | _ => rfl

/-- Replies that are alike do not tell two resolvers with the same settings apart, whatever is asked
but for credentials, which an application's secret decides. -/
theorem Resolver.ask_coupled (hview : Overview view) (hsettings : R.settings = R'.settings)
    (hlevels : R.levels = R'.levels) (q : Question)
    (hq : ∀ code secret, q ≠ .credentials code secret) :
    Query.Coupled view tenant (fun a b => q.look view a = q.look view b) (R.ask tenant q)
      (R'.ask tenant q) := by
  cases q with
  | permissions account scope => exact permissions_coupled hsettings account scope
  | roles account scope => exact roles_coupled hsettings account scope
  | ranges account scope => exact ranges_coupled hsettings account scope
  | menus account menuType scope => exact menus_coupled hsettings hlevels account menuType scope
  | applications account menuType =>
    refine (menus_coupled hsettings hlevels account (some menuType) none).bind fun ms _ heq => ?_
    obtain rfl := heq
    exact (knownApplications_coupled _).bind fun xs ys h => .answer (map_sortBy_eq hview h)
  | validate application => exact validateApplication_coupled hview application
  | authorize account application code =>
    refine (validateApplication_coupled hview application).bind fun _ _ _ => ?_
    refine (permissions_coupled hsettings account (some application)).bind fun ps _ heq => ?_
    obtain rfl := heq
    split
    · exact .answer rfl
    · exact .refuse nofun
  | explain account scope code =>
    refine (subject_coupled hsettings account).bind fun subject _ heq => ?_
    obtain rfl := heq
    refine (rolesOf_coupled hsettings subject scope).bind fun roles _ heq => ?_
    obtain rfl := heq
    refine (permissionsOf_coupled subject roles scope).bind fun ps _ heq => ?_
    obtain rfl := heq
    exact .answer rfl
  | credentials code secret => exact absurd rfl (hq code secret)

end

/-! ## Padded replies -/

/-- A server that replies to the reads which concern a tenant as another does, but for the order of
the rows, how often they are repeated, and further rows of the tenant that were not asked for. -/
def Query.Server.Pads (server' : Query.Server σ) (tenant : TenantCode) (server : Query.Server σ) :
    Prop :=
  ∀ r : Read, r.concerns tenant → ∀ s,
    Query.Replies (r.Widens id tenant) (server r s).1 (server' r s).1 ∧
      (server' r s).2 = (server r s).2

/-- Padding stays within what may stand in the place of the replies of the other server. -/
theorem Query.Server.Pads.widens {server server' : Query.Server σ}
    (h : server'.Pads tenant server) : server.Widens id tenant Eq server' := by
  rintro r hr s _ rfl
  have hconcerns : r.concerns tenant := by
    cases r with
    | applicationByCode => cases hr
    | _ => exact hr
  exact ⟨(h r hconcerns s).1, (h r hconcerns s).2.symm⟩

/-- An application is looked up by its code in one read, and then its secret decides. -/
theorem applicationByCredentials_serve (server : Query.Server σ) (s : σ) (code secret : String) :
    ((applicationByCredentials code secret).serve server s).1 =
      match (server (.applicationByCode code) s).1 with
      | .error fault => .refused (.store fault)
      | .ok none => .refused (.serviceUnavailable
          s!"application '{code}' is not known to the directory")
      | .ok (some a) =>
        if a.secret = secret then .answered a else .refused (.badCredentials code) := by
  rw [applicationByCredentials, Query.read, Query.bind_eq_bind, Query.bind, Query.serve]
  rcases server (.applicationByCode code) s with ⟨reply, s'⟩
  cases reply with
  | error fault => rfl
  | ok found =>
    cases found with
    | none => rfl
    | some a =>
      show ((ite .. : Query Application).serve server s').1 = ite ..
      split <;> rfl

/-- So an application is looked up alike where the one read is replied to alike. -/
theorem applicationByCredentials_congr {server : Query.Server σ} {server' : Query.Server σ'} {s : σ}
    {s' : σ'} {code : String} (h : (server (.applicationByCode code) s).1 =
      (server' (.applicationByCode code) s').1) (secret : String) :
    ((applicationByCredentials code secret).serve server s).1 =
      ((applicationByCredentials code secret).serve server' s').1 := by
  rw [applicationByCredentials_serve, applicationByCredentials_serve, h]

/-- Answers depend only on the set of the rows that were asked for. Whatever a server replies, as
long as no two different rows that were asked for share their place in one reply, a server that pads
its replies gets the same outcome out of every question, in whatever order the collections on the
way are walked; unless a reply held a row of another tenant, and then both are refused for it. -/
theorem ask_eq_of_pads {R R' : Resolver} (hsettings : R.settings = R'.settings)
    (hlevels : R.levels = R'.levels) (q : Question) {server server' : Query.Server σ}
    (hpads : server'.Pads tenant server) (s : σ)
    (hregular : ∀ c ∈ (R.ask tenant q).calls server s, c.Regular) :
    ((R'.ask tenant q).serve server' s).1 = ((R.ask tenant q).serve server s).1 ∨
      (∃ c ∈ (R.ask tenant q).calls server s, c.Leaks tenant) ∧
        ((R.ask tenant q).serve server s).1.IsIsolation ∧
        ((R'.ask tenant q).serve server' s).1.IsIsolation := by
  by_cases hq : ∃ code secret, q = .credentials code secret
  · obtain ⟨code, secret, rfl⟩ := hq
    refine .inl (applicationByCredentials_congr ?_ secret)
    have hreplies := (hpads (.applicationByCode code) rfl s).1
    generalize (server (.applicationByCode code) s).1 = reply at hreplies ⊢
    generalize (server' (.applicationByCode code) s).1 = reply' at hreplies ⊢
    cases hreplies with
    | error fault => rfl
    | @ok x y hxy =>
      have hmap : x.map id = y.map id := hxy
      rw [Option.map_id, id, id] at hmap
      rw [hmap]
  · have hview : Overview id := ⟨fun _ => rfl, fun _ => rfl, fun _ => rfl⟩
    have hlook : ∀ a b : q.Answer, q.look id a = q.look id b → a = b := fun a b h => by
      rwa [q.look_id, q.look_id] at h
    have hcoupled : Query.Coupled id tenant _ (R.ask tenant q) (R'.ask tenant q) :=
      Resolver.ask_coupled hview hsettings hlevels q fun code secret heq => hq ⟨code, secret, heq⟩
    rcases hcoupled.serve hpads.widens rfl hregular with hlike | ⟨⟨c, hc, -, hleaks⟩, hisolation⟩
    · exact .inl (hlike.eq hlook).symm
    · exact .inr ⟨⟨c, hc, hleaks⟩, hisolation⟩

/-- A dataset in which a role that is switched off has the id of the role that Ann holds. -/
def Wiki.crowded : Dataset where
  accounts := [Wiki.ann ⟨"acme"⟩]
  roles := [{ Wiki.reader ⟨"acme"⟩ with code := "former", enabled := false }, Wiki.reader ⟨"acme"⟩]
  roleAssignments := [⟨⟨"reader"⟩, "ann", .account, ⟨"acme"⟩⟩]

/-- A backend that hands out the roles that are switched off as well, and before the others, pads
the replies of one that does not. -/
theorem Wiki.crowded_pads :
    (Wiki.crowded.backend fun r => r.kind = .enabledRoles).toServer.Pads ⟨"acme"⟩
      ((Wiki.crowded.backend fun _ => false).toServer : Query.Server Unit) := by
  refine fun r hr s => ⟨?_, rfl⟩
  cases r with
  | enabledRoles scope t =>
    obtain rfl : t = ⟨"acme"⟩ := of_decide_eq_true hr
    have hown : ∀ role ∈ Wiki.crowded.roles, role.tenant = ⟨"acme"⟩ := by decide
    refine .ok ⟨fun row hrow => ?_, fun row hrow => ?_⟩
    · obtain ⟨role, hrole, rfl⟩ := List.mem_map.1 hrow
      exact List.mem_map_of_mem (List.mem_filter.1 hrole).1
    · obtain ⟨role, hrole, rfl⟩ := List.mem_map.1 hrow
      by_cases hwants : (Read.enabledRoles scope ⟨"acme"⟩).wants (.role role)
      · refine .inl (List.mem_map_of_mem (List.mem_filter.2 ⟨hrole, ?_⟩))
        obtain ⟨henabled, hscope⟩ := Bool.and_eq_true_iff.1 hwants
        simp [henabled, hscope, hown role hrole]
      · exact .inr ⟨congrArg some (hown role hrole), hwants⟩
  | _ => exact .ok (.refl _ _)

/-- A role that is switched off does not take the place of Ann's role, though it comes first and has
the same id. -/
theorem ask_eq_of_pads_crowded :
    (Wiki.crowded.backend fun r => r.kind = .enabledRoles).toServer.Pads ⟨"acme"⟩
      ((Wiki.crowded.backend fun _ => false).toServer : Query.Server Unit) ∧
    ((Resolver.ask { settings := {}, levels := 0 } ⟨"acme"⟩ (.roles ⟨"ann"⟩ none)).serve
      (Wiki.crowded.backend fun r => r.kind = .enabledRoles).toServer ()).1 =
    ((Resolver.ask { settings := {}, levels := 0 } ⟨"acme"⟩ (.roles ⟨"ann"⟩ none)).serve
      ((Wiki.crowded.backend fun _ => false).toServer : Query.Server Unit) ()).1 := by
  have hcalls : (Resolver.ask { settings := {}, levels := 0 } ⟨"acme"⟩ (.roles ⟨"ann"⟩ none)).calls
      ((Wiki.crowded.backend fun _ => false).toServer : Query.Server Unit) () =
      [⟨.account ⟨"ann"⟩ ⟨"acme"⟩, .ok (some (Wiki.ann ⟨"acme"⟩))⟩,
        ⟨.enabledRoles none ⟨"acme"⟩, .ok [Wiki.reader ⟨"acme"⟩]⟩,
        ⟨.assignedRoles (.ofAccount ⟨"ann"⟩) ⟨"acme"⟩, .ok [⟨"reader"⟩]⟩] := rfl
  have hone : ∀ (r : Read) (x : r.Reply) (row : Row), r.rows x = [row] → r.Regular x := by
    intro r x row hx row₁ h₁ row₂ h₂ _ _ _
    rw [hx, List.mem_singleton] at h₁ h₂
    exact h₁.trans h₂.symm
  have hregular : ∀ c ∈ (Resolver.ask { settings := {}, levels := 0 } ⟨"acme"⟩
      (.roles ⟨"ann"⟩ none)).calls ((Wiki.crowded.backend fun _ => false).toServer :
        Query.Server Unit) (), c.Regular := by
    rw [hcalls]
    simp only [List.forall_mem_cons]
    refine ⟨?_, ?_, ?_, nofun⟩
    · rintro _ ⟨⟩
      exact hone _ _ _ rfl
    · rintro _ ⟨⟩
      exact hone _ _ _ rfl
    · rintro _ ⟨⟩
      exact nofun
  refine ⟨Wiki.crowded_pads, ?_⟩
  refine (ask_eq_of_pads rfl rfl _ Wiki.crowded_pads () hregular).resolve_right ?_
  rintro ⟨⟨c, hc, x, hx, hleak⟩, -⟩
  rw [hcalls] at hc
  simp only [List.mem_cons, List.not_mem_nil, or_false] at hc
  rcases hc with rfl | rfl | rfl
  · cases hx; exact hleak rfl
  · cases hx; exact hleak rfl
  · cases hx; exact hleak rfl

end TenantAccess
