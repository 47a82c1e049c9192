import TenantAccess.Proofs.Query.Ensures
import TenantAccess.Proofs.Visibility
import TenantAccess.Resolver.Question

/-!
# Where the rows of an answer come from

Whoever replies, a resolver makes up no rows. Every row that an answer shows was in the reply to one
of the calls that led to it, and nothing was wrong with that reply (`DrawnFrom`). The supervisor's
account is the one exception; it is made from the settings. `Resolver.ask_ensures` says so of every
question. The walk through the menus is the only loop on the way: it stalls under no terms under
which the parents of the menus in replies come from a set with fewer ids than the walk may take
levels (`climb_ensures`), because every level after the first asks for ids of that set that were
never asked for.
-/

namespace TenantAccess

variable {α : Type} {tenant : TenantCode} {T : Query.Terms} {cs cs' : List Call}
  {rows rows' : List Row}

/-- Every one of the rows was in a reply with which nothing was wrong. -/
def DrawnFrom (tenant : TenantCode) (cs : List Call) (rows : List Row) : Prop :=
  ∀ row ∈ rows, ∃ c ∈ cs, row ∈ c.rows ∧ c.fault? tenant = none

namespace DrawnFrom

theorem nil : DrawnFrom tenant cs [] := nofun

/-- Rows stay drawn from the calls when more calls are made. -/
theorem mono (h : DrawnFrom tenant cs rows) (hcs : cs ⊆ cs') : DrawnFrom tenant cs' rows := by
  intro row hrow
  obtain ⟨c, hc, hrows, hclean⟩ := h row hrow
  exact ⟨c, hcs hc, hrows, hclean⟩

theorem append (h : DrawnFrom tenant cs rows) (h' : DrawnFrom tenant cs rows') :
    DrawnFrom tenant cs (rows ++ rows') := fun row hrow =>
  (List.mem_append.1 hrow).elim (h row) (h' row)

/-- Fewer rows are drawn from the same calls. -/
theorem subset (h : DrawnFrom tenant cs rows) (hrows : rows' ⊆ rows) : DrawnFrom tenant cs rows' :=
  fun row hrow => h row (hrows hrow)

/-- Rows of a reply with which nothing was wrong are drawn from its call. -/
theorem of_reply {r : Read} {reply : r.Reply} (hleak : r.leak? tenant reply = none)
    (hrows : rows ⊆ r.rows reply) : DrawnFrom tenant (⟨r, .ok reply⟩ :: cs) rows :=
  fun _ hrow => ⟨⟨r, .ok reply⟩, List.mem_cons_self, hrows hrow, hleak⟩

/-- A row that has an owner and is drawn from calls is the tenant's. -/
theorem own (h : DrawnFrom tenant cs rows) {row : Row} (hrow : row ∈ rows) {t : TenantCode}
    (ht : row.place.owner? = some t) : t = tenant := by
  obtain ⟨⟨r, reply⟩, -, hrows, hclean⟩ := h row hrow
  cases reply with
  | error => cases hclean
  | ok reply => exact Read.leak?_eq_none_iff.1 hclean row hrows t ht

end DrawnFrom

/-! ## Rights -/

/-- Listed permissions are among those that they are listed from. -/
theorem listedPermissions_subset (ps : List Permission) :
    (listedPermissions ps).map Row.permission ⊆ ps.map Row.permission :=
  List.map_subset _ (sortBy_distinctBy_subset (.refl _))

namespace Resolver

variable (R : Resolver)

theorem subject_ensures (hT : T.Admit tenant) (id : AccountId) :
    (R.subject id tenant).Ensures T fun cs subject => ∀ a ∈ subject.account?,
      R.settings.supervisor.owns id ∨ DrawnFrom tenant cs [.account a] := by
  by_cases howns : R.settings.supervisor.owns id
  · rw [R.subject_of_owns howns]
    exact fun a _ => .inl howns
  · rw [R.subject_of_not_owns howns]
    refine .ask_own hT (decide_eq_true rfl) (fun _ => rfl) fun reply _ hleak a ha => .inr ?_
    refine .of_reply hleak ?_
    cases reply with
    | none => cases ha
    | some found =>
      have haccount : (R.settings.classify found).account? = some found := by
        rw [AdminSettings.classify]
        split
        · rfl
        · cases R.settings.kindOf found <;> rfl
      obtain rfl : found = a := Option.some.inj (haccount.symm.trans ha)
      exact List.Subset.refl _

theorem rolesOf_ensures (hT : T.Admit tenant) (subject : Subject) (scope : Option ApplicationId) :
    (R.rolesOf subject scope tenant).Ensures T fun cs roles =>
      DrawnFrom tenant cs (roles.map .role) := by
  have hheld : ∀ assigned rows,
      (heldRoles scope assigned rows).map Row.role ⊆ rows.map Row.role := fun assigned rows =>
    List.map_subset _ (List.Subset.trans (sortBy_distinctBy_subset (.refl _))
      List.filter_sublist.subset)
  cases subject with
  | absent | inactive | supervisor | officer => exact DrawnFrom.nil
  | member a =>
    refine .ask_own hT (decide_eq_true rfl) (fun _ => rfl) fun found _ hleak => ?_
    cases R.settings.roleBinding with
    | application => exact DrawnFrom.of_reply hleak (hheld none found)
    | principal =>
      refine .ask_free hT (decide_eq_true rfl) (fun _ => rfl) fun assigned _ => ?_
      exact DrawnFrom.of_reply hleak (hheld (some assigned) found)

theorem permissionsOf_ensures (hT : T.Admit tenant) (subject : Subject) (roles : List Role)
    (scope : Option ApplicationId) :
    (permissionsOf subject roles scope tenant).Ensures T fun cs ps =>
      DrawnFrom tenant cs (ps.map .permission) := by
  have hscoped : ∀ found : List Permission,
      (scopedPermissions scope found).map Row.permission ⊆ found.map Row.permission := fun found =>
    List.map_subset _ List.filter_sublist.subset
  have hlisted : ∀ {cs : List Call} {ps ps' : List Permission},
      DrawnFrom tenant cs (ps.map .permission) → ps' ⊆ ps →
        DrawnFrom tenant (cs ++ []) ((listedPermissions ps').map .permission) := by
    intro cs ps ps' h hsub
    rw [List.append_nil]
    exact h.subset fun _ hrow => List.map_subset _ hsub (listedPermissions_subset ps' hrow)
  let drawn (cs : List Call) (ps : List Permission) := DrawnFrom tenant cs (ps.map .permission)
  refine permissionsOf_cases (P := fun q => q.Ensures T drawn) DrawnFrom.nil
    (fun _ keep hkeep => ?_) fun _ _ _ => ?_
  · refine Query.Ensures.bind (P := drawn) ?_ fun cs ps h => hlisted h (hkeep ps)
    exact .ask_own hT (decide_eq_true rfl) (fun _ => rfl) fun found _ hleak =>
      DrawnFrom.of_reply hleak (hscoped found)
  · refine Query.Ensures.bind (P := drawn) ?_ fun cs ps h => hlisted h (List.Subset.refl _)
    exact .ask_own hT (decide_eq_true rfl) (fun _ => rfl) fun found _ hleak =>
      DrawnFrom.of_reply hleak (hscoped found)

theorem permissions_ensures (hT : T.Admit tenant) (account : AccountId)
    (scope : Option ApplicationId) :
    (R.permissions account scope tenant).Ensures T fun cs ps =>
      DrawnFrom tenant cs (ps.map .permission) := by
  refine (R.subject_ensures hT account).bind fun cs subject _ => ?_
  refine (R.rolesOf_ensures hT subject scope).bind fun cs' roles _ => ?_
  refine (permissionsOf_ensures hT subject roles scope).mono fun cs'' ps h => h.mono ?_
  exact fun c hc => List.mem_append_right _ (List.mem_append_right _ hc)

theorem roles_ensures (hT : T.Admit tenant) (account : AccountId) (scope : Option ApplicationId) :
    (R.roles account scope tenant).Ensures T fun cs roles =>
      DrawnFrom tenant cs (roles.map .role) := by
  refine (R.subject_ensures hT account).bind fun cs subject _ => ?_
  refine (R.rolesOf_ensures hT subject scope).mono fun cs' roles h => h.mono ?_
  exact fun c hc => List.mem_append_right _ hc

theorem ranges_ensures (hT : T.Admit tenant) (account : AccountId) (scope : Option ApplicationId) :
    (R.ranges account scope tenant).Ensures T fun cs ranges =>
      DrawnFrom tenant cs (ranges.map .roleRange) := by
  refine (R.roles_ensures hT account scope).bind fun cs roles _ => ?_
  split
  · exact DrawnFrom.nil
  · refine .ask_own hT (decide_eq_true rfl) (fun _ => rfl) fun found _ hleak => ?_
    have hfound : DrawnFrom tenant [⟨.roleRanges (roles.map Role.id) tenant, .ok found⟩]
        ((rangesOf R.rangeOrder (roles.map Role.id) found).map .roleRange) := by
      have hranges : rangesOf R.rangeOrder (roles.map Role.id) found ⊆ found :=
        List.Subset.trans (sortBy_distinctBy_subset (R.rangeOrder.perm _))
          List.filter_sublist.subset
      exact .of_reply hleak (List.map_subset _ hranges)
    exact hfound.mono (List.subset_append_right _ _)

end Resolver

/-! ## The walk through the menus -/

/-- The parents of the menus in replies come from a set of ids. -/
def Query.Terms.Bounds (T : Query.Terms) (parents : Finset MenuId) : Prop :=
  ∀ r reply, T.honest r reply → ∀ m : Menu, .menu m ∈ r.rows reply → ∀ id,
    m.parent? = some id → id ∈ parents

/-- Listed menus are among those that they are listed from. -/
theorem listedMenus_subset (order : Arrangement Menu) (menus : List Menu) :
    listedMenus order menus ⊆ menus :=
  sortBy_distinctBy_subset (order.perm _)

section
variable {level asked : List MenuId}

/-- A level that asks for new ids of a set leaves fewer of them to ask for. -/
theorem card_filter_lt {parents : Finset MenuId} {next : List MenuId}
    (hnext : ∀ id ∈ next, id ∈ parents ∧ id ∉ asked) (hne : next ≠ []) :
    (parents.filter (· ∉ asked ++ next)).card < (parents.filter (· ∉ asked)).card := by
  obtain ⟨id, hid⟩ := List.exists_mem_of_ne_nil next hne
  obtain ⟨hparent, hnew⟩ := hnext id hid
  refine Finset.card_lt_card (Finset.ssubset_iff_subset_ne.2 ⟨fun x hx => ?_, fun heq => ?_⟩)
  · obtain ⟨hx, hnot⟩ := Finset.mem_filter.1 hx
    exact Finset.mem_filter.2 ⟨hx, fun hasked => hnot (List.mem_append_left _ hasked)⟩
  · have hmem : id ∈ parents.filter (· ∉ asked ++ next) :=
      heq ▸ Finset.mem_filter.2 ⟨hparent, hnew⟩
    exact (Finset.mem_filter.1 hmem).2 (List.mem_append_right _ hid)

/-- From any point on, the walk shows menus that it was replied with, and it does not stall when
more levels are left than parents that were not asked for. -/
theorem climb_ensures (hT : T.Admit tenant) (order : Arrangement Menu) (menuType : Option String)
    (parents : Finset MenuId) (levels : Nat) {before : List Call} {found : List Menu}
    (hfound : DrawnFrom tenant before (found.map .menu))
    (hlevels : T.stalls ∨ T.Bounds parents ∧
      (level = [] ∨ (parents.filter (· ∉ asked ++ level)).card < levels)) :
    (climb order menuType tenant levels level asked found).Ensures T fun cs ms =>
      DrawnFrom tenant (before ++ cs) (ms.map .menu) := by
  have hend : ∀ {before : List Call} {found : List Menu},
      DrawnFrom tenant before (found.map .menu) →
        DrawnFrom tenant (before ++ []) ((listedMenus order found).map .menu) := by
    intro before found hfound
    rw [List.append_nil]
    exact hfound.subset (List.map_subset _ (listedMenus_subset order found))
  induction levels generalizing level asked before found with
  | zero =>
    cases level with
    | nil => rw [climb]; exact hend hfound
    | cons id rest =>
      refine hlevels.resolve_right ?_
      rintro ⟨-, hnil | hcard⟩
      · exact absurd hnil (List.cons_ne_nil _ _)
      · exact absurd hcard (Nat.not_lt_zero _)
  | succ levels ih =>
    cases level with
    | nil => rw [climb]; exact hend hfound
    | cons id rest =>
      refine .ask_own hT (decide_eq_true rfl) (fun _ => rfl) fun reply hreply hleak => ?_
      have hseen : (seenMenus (id :: rest) menuType reply).map Row.menu ⊆
          (Read.menus (id :: rest) menuType tenant).rows reply :=
        List.map_subset _ List.filter_sublist.subset
      have hfound' : DrawnFrom tenant
          (before ++ [⟨.menus (id :: rest) menuType tenant, .ok reply⟩])
          ((found ++ seenMenus (id :: rest) menuType reply).map .menu) := by
        rw [List.map_append]
        refine (hfound.mono (List.subset_append_left _ _)).append ?_
        exact DrawnFrom.mono (.of_reply hleak hseen) (List.subset_append_right _ _)
      refine (ih hfound' ?_).mono fun cs ms h => ?_
      swap
      · rw [List.append_assoc] at h
        exact h
      refine hlevels.imp_right fun h => ⟨h.1, ?_⟩
      have hlt := h.2.resolve_left (List.cons_ne_nil _ _)
      refine or_iff_not_imp_left.2 fun hne => ?_
      have hnext : ∀ x ∈ nextLevel (asked ++ id :: rest) (seenMenus (id :: rest) menuType reply),
          x ∈ parents ∧ x ∉ asked ++ id :: rest := fun x hx => by
        obtain ⟨⟨m, hm, hparent⟩, hnew⟩ := mem_nextLevel.1 hx
        exact ⟨h.1 _ reply hreply m (hseen (List.mem_map_of_mem hm)) x hparent, hnew⟩
      have hless := card_filter_lt hnext hne
      omega

end

namespace Resolver

variable (R : Resolver)

theorem menus_ensures (hT : T.Admit tenant) (account : AccountId) (menuType : Option String)
    (scope : Option ApplicationId) {parents : Finset MenuId}
    (hlevels : T.stalls ∨ T.Bounds parents ∧ parents.card < R.levels) :
    (R.menus account menuType scope tenant).Ensures T fun cs ms =>
      DrawnFrom tenant cs (ms.map .menu) := by
  refine (R.permissions_ensures hT account scope).bind fun cs ps _ => ?_
  refine climb_ensures hT _ _ parents _ DrawnFrom.nil (hlevels.imp_right fun ⟨hbounds, hcard⟩ => ?_)
  exact ⟨hbounds, .inr ((Finset.card_le_card (Finset.filter_subset _ _)).trans_lt hcard)⟩

end Resolver

/-! ## The directory -/

theorem knownApplications_ensures (hT : T.Admit tenant) (ids : List ApplicationId) :
    (knownApplications ids).Ensures T fun cs as => DrawnFrom tenant cs (as.map .application) := by
  induction ids with
  | nil => exact DrawnFrom.nil
  | cons id rest ih =>
    refine .ask_free hT rfl (fun _ => rfl) fun found hleak => ?_
    cases found with
    | none => exact ih.mono fun cs as h => h.mono (List.subset_cons_self _ _)
    | some a =>
      refine ih.bind fun cs as h => ?_
      have ha : DrawnFrom tenant (⟨.application id, .ok (some a)⟩ :: cs) [.application a] :=
        .of_reply hleak (List.Subset.refl _)
      have hall := ha.append (h.mono (List.subset_cons_self _ _))
      rw [← List.append_nil cs] at hall
      exact hall

theorem validateApplication_ensures (hT : T.Admit tenant) (application : ApplicationId) :
    (validateApplication application tenant).Ensures T fun _ _ => True := by
  refine .ask_free hT (decide_eq_true rfl) (fun _ => rfl) fun found _ => ?_
  cases found with
  | none => exact hT.refuses _ nofun
  | some t =>
    show Query.Ensures T (ite ..) _
    split
    · exact hT.refuses _ nofun
    cases t.lease? application with
    | none => exact hT.refuses _ nofun
    | some lease =>
      show Query.Ensures T (ite ..) _
      split
      · exact hT.refuses _ nofun
      refine .ask_free hT rfl (fun _ => rfl) fun found _ => ?_
      cases found with
      | none => exact hT.refuses _ nofun
      | some a =>
        show Query.Ensures T (ite ..) _
        split
        · exact hT.refuses _ nofun
        · trivial

theorem applicationByCredentials_ensures (hT : T.Admit tenant) (code secret : String) :
    (applicationByCredentials code secret).Ensures T fun cs a =>
      DrawnFrom tenant cs [.application a] := by
  refine .ask_free hT rfl (fun _ => rfl) fun found hleak => ?_
  cases found with
  | none => exact hT.refuses _ nofun
  | some a =>
    show Query.Ensures T (ite ..) _
    split
    · exact .of_reply hleak (List.Subset.refl _)
    · exact hT.refuses _ nofun

/-! ## Questions -/

/-- The rows that an answer shows. An explanation shows the account, but for the supervisor's, and
the codes of roles and permissions. -/
def Question.Shows (s : AdminSettings) : (q : Question) → q.Answer → List Row → Prop
  | .permissions .. => fun (answer : List Permission) rows => rows = answer.map .permission
  | .roles .. => fun (answer : List Role) rows => rows = answer.map .role
  | .ranges .. => fun (answer : List RoleRange) rows => rows = answer.map .roleRange
  | .menus .. => fun (answer : List Menu) rows => rows = answer.map .menu
  | .applications .. => fun (answer : List Application) rows => rows = answer.map .application
  | .validate .. | .authorize .. => fun _ rows => rows = []
  | .explain id .. => fun (answer : Explanation) rows =>
    ∃ (accounts : List Account) (roles : List Role) (permissions : List Permission),
      rows = accounts.map .account ++ roles.map .role ++ permissions.map .permission ∧
        ∀ state ∈ answer.account,
          (s.supervisor.owns id ∨
            ∃ a ∈ accounts, state.accountId = a.id ∧ state.username = a.username) ∧
          state.roles = roles.map Role.code ∧ state.permissions = permissions.map Permission.code
  | .credentials .. => fun (answer : Application) rows => rows = [.application answer]

/-- The state of an account that an explanation shows is made of the account, its roles and its
permissions. -/
theorem Subject.of_mem_state? {subject : Subject} {roles held : List String} {state : AccountState}
    (h : state ∈ subject.state? tenant roles held) :
    ∃ a ∈ subject.account?, state.accountId = a.id ∧ state.username = a.username ∧
      state.roles = roles ∧ state.permissions = held := by
  cases subject with
  | absent => cases h
  | inactive a | supervisor a | officer a | member a =>
    obtain rfl := Option.some.inj h
    exact ⟨a, rfl, rfl, rfl, rfl, rfl⟩

namespace Resolver

variable (R : Resolver)

theorem authorize_ensures (hT : T.Admit tenant) (account : AccountId) (application : ApplicationId)
    (code : String) : (R.authorize account application tenant code).Ensures T fun _ _ => True := by
  refine (validateApplication_ensures hT application).bind fun _ _ _ => ?_
  refine (R.permissions_ensures hT account (some application)).bind fun _ ps _ => ?_
  split
  · trivial
  · exact hT.refuses _ nofun

theorem explain_ensures (hT : T.Admit tenant) (account : AccountId) (scope : Option ApplicationId)
    (code : String) : (R.explain account scope tenant code).Ensures T fun cs e =>
      ∃ rows, Question.Shows R.settings (.explain account scope code) e rows ∧
        DrawnFrom tenant cs rows := by
  refine (R.subject_ensures hT account).bind fun cs subject hsubject => ?_
  refine (R.rolesOf_ensures hT subject scope).bind fun cs' roles hroles => ?_
  refine (permissionsOf_ensures hT subject roles scope).bind fun cs'' ps hps => ?_
  have hrows : ∀ {rows : List Row}, DrawnFrom tenant cs rows → DrawnFrom tenant
      (cs ++ (cs' ++ (cs'' ++ []))) (rows ++ roles.map .role ++ ps.map .permission) := by
    intro rows h
    rw [List.append_nil, ← List.append_assoc]
    have hcs : DrawnFrom tenant (cs ++ cs') (rows ++ roles.map .role) :=
      (h.mono (List.subset_append_left _ _)).append (hroles.mono (List.subset_append_right _ _))
    exact (hcs.mono (List.subset_append_left _ _)).append (hps.mono (List.subset_append_right _ _))
  have hstate : ∀ state ∈ subject.state? tenant (roles.map Role.code) (ps.map Permission.code),
      ∃ a ∈ subject.account?, state.accountId = a.id ∧ state.username = a.username ∧
        state.roles = roles.map Role.code ∧ state.permissions = ps.map Permission.code :=
    fun state => Subject.of_mem_state?
  by_cases howns : R.settings.supervisor.owns account
  · refine ⟨_, ⟨[], roles, ps, rfl, fun state h => ?_⟩, hrows DrawnFrom.nil⟩
    obtain ⟨a, -, -, -, hcodes⟩ := hstate state h
    exact ⟨.inl howns, hcodes⟩
  · have haccounts : DrawnFrom tenant cs (subject.account?.toList.map .account) := by
      intro row hrow
      obtain ⟨a, ha, rfl⟩ := List.mem_map.1 hrow
      exact (hsubject a (Option.mem_toList.1 ha)).resolve_left howns _ (List.mem_singleton_self _)
    refine ⟨_, ⟨subject.account?.toList, roles, ps, rfl, fun state h => ?_⟩, hrows haccounts⟩
    obtain ⟨a, ha, hid, husername, hcodes⟩ := hstate state h
    exact ⟨.inr ⟨a, Option.mem_toList.2 ha, hid, husername⟩, hcodes⟩

/-- Every row that an answer shows was in the reply to one of the calls that led to it. -/
theorem ask_ensures (hT : T.Admit tenant) (q : Question) {parents : Finset MenuId}
    (hlevels : T.stalls ∨ T.Bounds parents ∧ parents.card < R.levels) :
    (R.ask tenant q).Ensures T fun cs answer =>
      ∃ rows, q.Shows R.settings answer rows ∧ DrawnFrom tenant cs rows := by
  cases q with
  | permissions account scope =>
    exact (R.permissions_ensures hT account scope).mono fun cs ps h => ⟨_, rfl, h⟩
  | roles account scope =>
    exact (R.roles_ensures hT account scope).mono fun cs roles h => ⟨_, rfl, h⟩
  | ranges account scope =>
    exact (R.ranges_ensures hT account scope).mono fun cs ranges h => ⟨_, rfl, h⟩
  | menus account menuType scope =>
    exact (R.menus_ensures hT account menuType scope hlevels).mono fun cs ms h => ⟨_, rfl, h⟩
  | applications account menuType =>
    refine (R.menus_ensures hT account (some menuType) none hlevels).bind fun cs ms _ => ?_
    refine (knownApplications_ensures hT _).bind fun cs' as h => ⟨_, rfl, ?_⟩
    rw [List.append_nil]
    refine (h.subset ?_).mono (List.subset_append_right _ _)
    exact List.map_subset _ fun _ ha => mem_sortBy.1 ha
  | validate application =>
    exact (validateApplication_ensures hT application).mono fun _ _ _ => ⟨[], rfl, .nil⟩
  | authorize account application code =>
    exact (R.authorize_ensures hT account application code).mono fun _ _ _ => ⟨[], rfl, .nil⟩
  | explain account scope code => exact R.explain_ensures hT account scope code
  | credentials code secret =>
    exact (applicationByCredentials_ensures hT code secret).mono fun cs a h => ⟨_, rfl, h⟩

end Resolver

end TenantAccess
