import TenantAccess.Proofs.Reads
import TenantAccess.Proofs.Reliance
import TenantAccess.Proofs.Settings

/-!
# The supervisor

The supervisor exists in the settings only, and no row can change that. A row `shadows` the
supervisor when it is an account with the supervisor's id; as no store is asked for such an account
(`Resolver.ask_readsIn`), a server may as well know of none (`Query.Server.Honours.unshadowed`), and
histories that differ in shadows only are not told apart
(`Query.Server.Serves.serve_ask_eq_of_filter_eq`, `MemoryStore.run_ask_eq_of_filter_eq`). An account
with another id is never classified as the supervisor (`AdminSettings.kind?_classify_ne`), whatever
its row says. A subject that is absent, inactive or an officer without an entry `IsPowerless`, and
whatever is asked about it is denied (`Resolver.ask_denies`). The main statement is
`supervisor_beyond_rows`.
-/

namespace TenantAccess

variable {σ σ₁ σ₂ : Type} {rows rows₁ rows₂ : Set Row} {tenant : TenantCode}
  {s : SupervisorSettings}

/-! ## Rows with the supervisor's id -/

/-- Whether a row is an account with the supervisor's id. -/
def Row.shadows (s : SupervisorSettings) : Row → Bool
  | .account a => s.owns a.id
  | _ => false

/-- Whether a write puts an account with the supervisor's id. -/
def Write.shadows (s : SupervisorSettings) : Write → Bool
  | .put row => row.shadows s
  | .clearTenant _ => false

/-- The rows but for the accounts with the supervisor's id. -/
def SupervisorSettings.unshadowed (s : SupervisorSettings) (rows : Set Row) : Set Row :=
  {row ∈ rows | ¬ row.shadows s}

/-- Only a write of an account with the supervisor's id puts such an account in its place. -/
theorem Write.not_shadows_of_displaces {w : Write} {row : Row} (hrow : ¬ row.shadows s)
    (h : w.Displaces row) : !w.shadows s := by
  cases w with
  | clearTenant => rfl
  | put other =>
    have hplace : other.place = row.place := h
    cases row <;> cases other <;> simp_all [Row.place, Row.shadows, Write.shadows]

/-- Histories that differ in accounts with the supervisor's id only leave the same other rows. -/
theorem SupervisorSettings.unshadowed_current_eq {ws₁ ws₂ : List Write}
    (h : ws₁.filter (fun w => !w.shadows s) = ws₂.filter fun w => !w.shadows s) :
    s.unshadowed (Current ws₁) = s.unshadowed (Current ws₂) := by
  ext row
  refine and_congr_left fun hrow => ?_
  have hdis : ∀ w : Write, w.Displaces row → !w.shadows s :=
    fun _ => Write.not_shadows_of_displaces hrow
  rw [← mem_current_filter hdis, h, mem_current_filter hdis]

/-- What a read that spares the supervisor asks for does not depend on accounts with its id. -/
theorem Read.Fits.unshadowed {r : Read} {reply : r.Reply} (h : r.Fits rows reply)
    (hr : r.Spares s) : r.Fits (s.unshadowed rows) reply := by
  refine h.congr_of_regards fun row hrow => ⟨fun hmem => ⟨hmem, fun hshadow => ?_⟩, And.left⟩
  -- only a look-up by an id regards accounts, and it spares the supervisor's
  cases row with
  | account a =>
    cases r with
    | account id t => exact hr (hrow.2 ▸ hshadow)
    | _ => exact hrow
  | _ => exact Bool.false_ne_true hshadow

/-- The server, knowing of no account with the supervisor's id. -/
def Query.Server.unshadowed (server : Query.Server σ) (s : SupervisorSettings) : Query.Server σ
  | .account id t, st => if s.owns id then (.ok none, st) else server (.account id t) st
  | r, st => server r st

theorem Query.Server.unshadowed_of_spares (server : Query.Server σ) {r : Read} (hr : r.Spares s) :
    server.unshadowed s r = server r := by
  cases r with
  | account id t => exact funext fun st => if_neg hr
  | _ => rfl

/-- A server that honours rows, but knows of no account with the supervisor's id, honours the other
rows. -/
theorem Query.Server.Honours.unshadowed {server : Query.Server σ} (h : server.Honours tenant rows) :
    (server.unshadowed s).Honours tenant (s.unshadowed rows) where
  place_inj hrow hrow' := h.place_inj hrow.1 hrow'.1
  reply r hr st := by
    by_cases hspares : r.Spares s
    · obtain ⟨reply, hreply, hfits⟩ := h.reply r hr st
      exact ⟨reply, by rw [server.unshadowed_of_spares hspares, hreply], hfits.unshadowed hspares⟩
    · cases r with
      | account id t =>
        have howns : s.owns id := not_not.1 hspares
        refine ⟨none, congrArg Prod.fst (if_pos howns), fun a => ?_⟩
        refine iff_of_false nofun ?_
        rintro ⟨⟨⟨-, hshadow⟩, -⟩, rfl⟩
        exact hshadow howns
      | _ => exact absurd trivial hspares

/-- Against servers whose rows differ in accounts with the supervisor's id only, every question
comes to the same. -/
theorem Query.Server.Honours.ask_eq_of_unshadowed_eq {server₁ : Query.Server σ₁}
    {server₂ : Query.Server σ₂} {R₁ R₂ : Resolver} {n₁ n₂ : Nat}
    (h₁ : server₁.Honours tenant rows₁) (h₂ : server₂.Honours tenant rows₂)
    (hsettings : R₁.settings = R₂.settings)
    (hrows : R₁.settings.supervisor.unshadowed rows₁ = R₁.settings.supervisor.unshadowed rows₂)
    (hn₁ : MenusWithin rows₁ tenant n₁) (hn₂ : MenusWithin rows₂ tenant n₂)
    (hlevels₁ : n₁ < R₁.levels) (hlevels₂ : n₂ < R₂.levels) {q : Question}
    (hq : q.IsDefinite rows₁) (st₁ : σ₁) (st₂ : σ₂) :
    ((R₁.ask tenant q).serve server₁ st₁).1 = ((R₂.ask tenant q).serve server₂ st₂).1 := by
  have hmenus : ∀ {rows : Set Row} {n : Nat} (s : SupervisorSettings),
      MenusWithin rows tenant n → MenusWithin (s.unshadowed rows) tenant n :=
    fun s hn menus hmem => hn menus fun m hm => ⟨(hmem m hm).1.1, (hmem m hm).2⟩
  have hserve : ∀ {σ : Type} (server : Query.Server σ) (R : Resolver) (st : σ),
      (R.ask tenant q).serve server st =
        (R.ask tenant q).serve (server.unshadowed R.settings.supervisor) st :=
    fun server R st => (R.ask_readsIn q).serve_congr
      (fun r hr => (server.unshadowed_of_spares hr).symm) st
  rw [hserve, hserve server₂, ← hsettings]
  refine (h₁.unshadowed).ask_eq (hrows ▸ h₂.unshadowed) hsettings (hmenus _ hn₁)
    (hrows ▸ hmenus _ hn₂) hlevels₁ hlevels₂ ?_ st₁ st₂
  exact fun code secret heq a b ha hb => hq code secret heq a b ha.1 hb.1

/-- Histories that differ in accounts with the supervisor's id only leave the applications in the
same order. -/
theorem MemoryStore.applications_eq_of_filter_eq {ws ws' : List Write} {store store' : MemoryStore}
    (hstore : (∅ : MemoryStore).writeAll ws = .ok store)
    (hstore' : (∅ : MemoryStore).writeAll ws' = .ok store')
    (hws : ws'.filter (fun w => !w.shadows s) = ws.filter fun w => !w.shadows s) :
    store'.applications = store.applications := by
  have hfold : ∀ (ws : List Write) (applications : Keyed ApplicationId Application),
      ws.foldl (fun applications w => w.register applications) applications =
        (ws.filter fun w => !w.shadows s).foldl (fun applications w => w.register applications)
          applications := by
    intro ws applications
    rw [List.foldl_filter]
    congr 1
    funext applications w
    -- a shadow is an account and no application
    cases w with
    | clearTenant tenant => rfl
    | put row => cases row <;> simp [Write.shadows, Row.shadows, Write.register]
  rw [applications_writeAll hstore, applications_writeAll hstore', hfold ws, hfold ws', hws]

section
variable {ws ws' : List Write} {store store' : MemoryStore} {R R' : Resolver}
  (hrep : store.Represents (Current ws)) (hrep' : store'.Represents (Current ws'))
  (hsettings : R'.settings = R.settings)
  (hws : ws'.filter (fun w => !w.shadows R.settings.supervisor) =
    ws.filter fun w => !w.shadows R.settings.supervisor)
  (hlevels : store.levels ≤ R.levels) (hlevels' : store'.levels ≤ R'.levels)
include hrep hrep' hsettings hws hlevels hlevels'

/-- After histories that differ in accounts with the supervisor's id only, every question comes to
the same, in whatever order the stores are walked. -/
theorem Query.Server.Serves.serve_ask_eq_of_filter_eq {server₁ : Query.Server σ₁}
    {server₂ : Query.Server σ₂} (h₁ : server₁.Serves store) (h₂ : server₂.Serves store')
    {q : Question} (hq : q.IsDefinite (Current ws)) (st₁ : σ₁) (st₂ : σ₂) :
    ((R'.ask tenant q).serve server₂ st₂).1 = ((R.ask tenant q).serve server₁ st₁).1 := by
  refine Eq.symm ((h₁.honours hrep tenant).ask_eq_of_unshadowed_eq (h₂.honours hrep' tenant)
    hsettings.symm ?_ (hrep.menusWithin tenant) (hrep'.menusWithin tenant) hlevels hlevels' hq
    st₁ st₂)
  exact (SupervisorSettings.unshadowed_current_eq hws).symm

/-- Where each store is walked in its own order, this holds of all questions. -/
theorem MemoryStore.run_ask_eq_of_filter_eq (hstore : (∅ : MemoryStore).writeAll ws = .ok store)
    (hstore' : (∅ : MemoryStore).writeAll ws' = .ok store') (tenant : TenantCode) (q : Question) :
    (R'.ask tenant q).run store'.reply = (R.ask tenant q).run store.reply := by
  by_cases hcredentials : ∃ code secret, q = .credentials code secret
  · obtain ⟨code, secret, rfl⟩ := hcredentials
    exact run_applicationByCredentials_eq (applications_eq_of_filter_eq hstore hstore' hws) code
      secret
  · rw [Query.run_eq_serve _ _ (), Query.run_eq_serve _ _ ()]
    have hq : q.IsDefinite (Current ws) := fun code secret heq =>
      absurd ⟨code, secret, heq⟩ hcredentials
    exact Query.Server.Serves.serve_ask_eq_of_filter_eq hrep hrep' hsettings hws hlevels hlevels'
      store.serves_reply store'.serves_reply hq () ()

end

/-! ## Other accounts -/

/-- An account with another id than the supervisor's is not the supervisor, nor would it be if it
were active. -/
theorem AdminSettings.kind?_classify_ne {s : AdminSettings} {a : Account}
    (h : ¬ s.supervisor.owns a.id) : (s.classify a).kind? ≠ some .supervisor := by
  rw [classify, kindOf, if_neg h]
  split_ifs <;> simp [Subject.kind?]

/-- A subject that is not of the supervisor's kind is not decided about as the supervisor. -/
theorem Subject.basis_ne_supervisor {subject : Subject} (h : subject.kind? ≠ some .supervisor) :
    subject.basis ≠ .supervisor := by
  cases subject with
  | supervisor a => exact absurd rfl h
  | officer a entry =>
    cases entry with
    | none => nofun
    | some entry =>
      rw [basis]
      split <;> nofun
  | absent | inactive | member => nofun

section
variable {server : Query.Server σ} {R : Resolver} {id : AccountId}

/-- Against a server that honours rows, an id other than the supervisor's stands for a subject that
is not of the supervisor's kind. -/
theorem Resolver.subject_yields_other (h : server.Honours tenant rows)
    (hid : ¬ R.settings.supervisor.owns id) :
    Query.Yields server (R.subject id tenant) fun subject => subject.kind? ≠ some .supervisor := by
  refine (R.subject_yields h id).mono fun subject hsubject => ?_
  obtain ⟨a, ha, rfl⟩ | ⟨-, rfl⟩ := hsubject
  · have hname : ¬ R.settings.supervisor.username = id.text := fun heq => hid (decide_eq_true heq)
    have hrow := (AdminSettings.identifies_iff_of_ne hname).1 ha
    exact AdminSettings.kind?_classify_ne (hrow.2 ▸ hid)
  · exact (Option.some_ne_none AccountKind.supervisor).symm

/-- Nor is a decision about such an id explained by what the supervisor may do. -/
theorem Resolver.explain_yields_other (h : server.Honours tenant rows)
    (hid : ¬ R.settings.supervisor.owns id) (scope : Option ApplicationId) (code : String) :
    Query.Yields server (R.explain id scope tenant code) fun e => e.basis ≠ .supervisor := by
  refine (Resolver.subject_yields_other h hid).bind fun subject hsubject => ?_
  refine (R.rolesOf_yields h subject scope).bind fun roles _ => ?_
  refine (Resolver.permissionsOf_yields h subject roles scope).bind fun ps _ => ?_
  exact .answer (Subject.basis_ne_supervisor hsubject)

/-! ## Subjects without rights -/

/-- A subject that comes by no rights. -/
def Subject.IsPowerless : Subject → Prop
  | .absent | .inactive .. | .officer _ none => True
  | .supervisor _ | .officer _ (some _) | .member _ => False

/-- The account that a question is about. -/
def Question.account? : Question → Option AccountId
  | .permissions account _ | .roles account _ | .ranges account _ | .menus account _ _
  | .applications account _ | .authorize account _ _ | .explain account _ _ => some account
  | .validate _ | .credentials _ _ => none

/-- What comes of a question shows no right of an account. -/
def Question.Denies : (q : Question) → Outcome q.Answer → Prop
  | .permissions .. => fun (o : Outcome (List Permission)) => o = .answered []
  | .roles .. => fun (o : Outcome (List Role)) => o = .answered []
  | .ranges .. => fun (o : Outcome (List RoleRange)) => o = .answered []
  | .menus .. => fun (o : Outcome (List Menu)) => o = .answered []
  | .applications .. => fun (o : Outcome (List Application)) => o = .answered []
  | .authorize .. => fun (o : Outcome Unit) => o ≠ .answered ()
  | .explain .. => fun (o : Outcome Explanation) => ∃ e, o = .answered e ∧ ¬ e.granted
  | .validate _ | .credentials _ _ => fun _ => True

theorem rolesOf_of_isPowerless {subject : Subject} (h : subject.IsPowerless)
    (scope : Option ApplicationId) : R.rolesOf subject scope tenant = .answer [] := by
  cases subject with
  | absent | inactive | officer => rfl
  | supervisor | member => exact h.elim

theorem permissionsOf_of_isPowerless {subject : Subject} (h : subject.IsPowerless)
    (scope : Option ApplicationId) :
    Resolver.permissionsOf subject [] scope tenant = .answer [] := by
  cases subject with
  | absent | inactive => rfl
  | officer a entry =>
    cases entry with
    | none => rfl
    | some entry => exact h.elim
  | supervisor | member => exact h.elim

@[simp] theorem sortBy_nil {α : Type} (cmp : α → α → Ordering) : sortBy cmp [] = [] :=
  List.mergeSort_nil

/-- From no menus a walk reaches none. -/
theorem Resolver.menusAbove_nil (menuType : Option String) :
    R.menusAbove [] menuType tenant = .answer [] := by
  have hnone : R.menuOrder.arrange [] = [] := List.Perm.eq_nil (R.menuOrder.perm [])
  simp [menusAbove, ascending, climb, listedMenus, hnone]

variable (h : Query.Yields server (R.subject id tenant) Subject.IsPowerless)
include h

theorem Resolver.roles_of_isPowerless (scope : Option ApplicationId) :
    Query.Yields server (R.roles id scope tenant) (· = []) := by
  refine h.bind fun subject hsubject => ?_
  rw [rolesOf_of_isPowerless hsubject]
  exact .answer rfl

theorem Resolver.permissions_of_isPowerless (scope : Option ApplicationId) :
    Query.Yields server (R.permissions id scope tenant) (· = []) := by
  refine h.bind fun subject hsubject => ?_
  rw [rolesOf_of_isPowerless hsubject]
  refine Query.Yields.bind (.answer rfl) ?_
  rintro _ rfl
  rw [permissionsOf_of_isPowerless hsubject]
  exact .answer rfl

theorem Resolver.menus_of_isPowerless (menuType : Option String) (scope : Option ApplicationId) :
    Query.Yields server (R.menus id menuType scope tenant) (· = []) := by
  refine (permissions_of_isPowerless h scope).bind ?_
  rintro _ rfl
  rw [List.map_nil, menusAbove_nil]
  exact .answer rfl

/-- Whatever is asked about a subject without rights is denied. -/
theorem Resolver.ask_denies {q : Question} (hq : q.account? = some id) (st : σ) :
    q.Denies ((R.ask tenant q).serve server st).1 := by
  have hanswered : ∀ {α : Type} {query : Query (List α)},
      Query.Yields server query (· = []) → (query.serve server st).1 = .answered [] := by
    intro α query hyields
    obtain ⟨_, _, hrun, rfl⟩ := hyields st
    rw [hrun]
  cases q with
  | validate | credentials => trivial
  | permissions account scope =>
    obtain rfl := Option.some.inj hq
    exact hanswered (permissions_of_isPowerless h scope)
  | roles account scope =>
    obtain rfl := Option.some.inj hq
    exact hanswered (roles_of_isPowerless h scope)
  | ranges account scope =>
    obtain rfl := Option.some.inj hq
    refine hanswered ((roles_of_isPowerless h scope).bind ?_)
    rintro _ rfl
    exact .answer rfl
  | menus account menuType scope =>
    obtain rfl := Option.some.inj hq
    exact hanswered (menus_of_isPowerless h menuType scope)
  | applications account menuType =>
    obtain rfl := Option.some.inj hq
    refine hanswered ((menus_of_isPowerless h (some menuType) none).bind ?_)
    rintro _ rfl
    rw [List.map_nil, ascending, distinctBy_nil, sortBy_nil]
    exact .answer (sortBy_nil _)
  | authorize account application code =>
    obtain rfl := Option.some.inj hq
    show ((validateApplication application tenant).bind _ |>.serve server st).1 ≠ .answered ()
    rw [Query.serve_bind]
    rcases (validateApplication application tenant).serve server st with ⟨_ | _ | _, st'⟩
    · obtain ⟨_, _, hrun, rfl⟩ := permissions_of_isPowerless h (some application) st'
      simp [Query.serve_bind, hrun, Query.serve]
    · simp
    · simp
  | explain account scope code =>
    obtain rfl := Option.some.inj hq
    have hyields : Query.Yields server (R.explain account scope tenant code)
        fun e => ¬ e.granted := by
      refine h.bind fun subject hsubject => ?_
      rw [rolesOf_of_isPowerless hsubject]
      refine Query.Yields.bind (.answer rfl) ?_
      rintro _ rfl
      rw [permissionsOf_of_isPowerless hsubject]
      exact .answer Bool.false_ne_true
    obtain ⟨e, _, hrun, he⟩ := hyields st
    exact ⟨e, congrArg Prod.fst hrun, he⟩

end

/-- While the supervisor is switched off its id stands for an inactive account, whoever replies. -/
theorem Resolver.subject_of_disabled {R : Resolver} {id : AccountId}
    (hdisabled : R.settings.supervisor.enabled = false) (hid : R.settings.supervisor.owns id) :
    R.subject id tenant =
      .answer (.inactive (R.settings.supervisor.toAccount tenant) .supervisor) := by
  rw [R.subject_of_owns hid, AdminSettings.classify_toAccount, hdisabled]
  rfl

/-- Under accepted settings an active administrator that has taken the supervisor's username, but
not its id, is an officer without an entry. -/
theorem Resolver.subject_yields_impostor {server : Query.Server σ} {R : Resolver} {a : Account}
    (h : server.Honours a.tenant rows) (hvalid : R.settings.validate = .ok ())
    (hrow : .account a ∈ rows) (hactive : a.enabled ∧ ¬ a.deleted) (hadmin : a.admin)
    (hid : ¬ R.settings.supervisor.owns a.id)
    (hname : a.username = R.settings.supervisor.username) :
    Query.Yields server (R.subject a.id a.tenant) (· = .officer a none) := by
  have hne : R.settings.supervisor.username ≠ a.id.text := fun heq => hid (decide_eq_true heq)
  refine (R.subject_yields h a.id).mono fun subject hsubject => ?_
  have hself : R.settings.IsSubject rows a.tenant a.id (R.settings.classify a) :=
    .inl ⟨a, (AdminSettings.identifies_iff_of_ne hne).2 ⟨⟨hrow, rfl⟩, rfl⟩, rfl⟩
  rw [AdminSettings.IsSubject.unique h hsubject hself,
    AdminSettings.classify_of_admin hactive hadmin hne, hname,
    AdminSettings.officer?_supervisor hvalid]

/-! ## After every history -/

/-- After every history of writes, within every tenant:

* another history that differs only in writes of accounts with the supervisor's id leaves every
  question with the same outcome, and this in whatever order the stores are walked, unless two
  applications share the code by which the question looks for one;
* while the supervisor is switched off, its id stands for an inactive account, made from the
  settings, and whatever is asked about it is denied;
* any other id never stands for the supervisor, active or not, and no decision about it is explained
  by what the supervisor may do;
* under accepted settings an active administrator that has the supervisor's username and another id
  is denied whatever is asked about it; in particular it holds no permission. -/
theorem supervisor_beyond_rows (ws : List Write) :
    ∃ store, (∅ : MemoryStore).writeAll ws = .ok store ∧
      ∀ {σ : Type} (server : Query.Server σ), server.Serves store →
      ∀ (R : Resolver) (tenant : TenantCode) (st : σ),
        (∀ ws' : List Write,
          ws'.filter (fun w => !w.shadows R.settings.supervisor) =
            ws.filter (fun w => !w.shadows R.settings.supervisor) →
          ∃ store', (∅ : MemoryStore).writeAll ws' = .ok store' ∧
            ∀ R' : Resolver, R'.settings = R.settings →
              store.levels ≤ R.levels → store'.levels ≤ R'.levels →
            ∀ q : Question,
              (R'.ask tenant q).run store'.reply = (R.ask tenant q).run store.reply ∧
              (q.IsDefinite (Current ws) →
                ∀ {σ' : Type} (server' : Query.Server σ'), server'.Serves store' → ∀ st' : σ',
                  ((R'.ask tenant q).serve server' st').1 =
                    ((R.ask tenant q).serve server st).1)) ∧
        (R.settings.supervisor.enabled = false → ∀ id, R.settings.supervisor.owns id →
          R.subject id tenant =
            .answer (.inactive (R.settings.supervisor.toAccount tenant) .supervisor) ∧
          ∀ q : Question, q.account? = some id → q.Denies ((R.ask tenant q).serve server st).1) ∧
        (∀ id, ¬ R.settings.supervisor.owns id →
          (∃ subject, ((R.subject id tenant).serve server st).1 = .answered subject ∧
            subject.kind? ≠ some .supervisor) ∧
          ∀ scope code, ∃ e, ((R.explain id scope tenant code).serve server st).1 = .answered e ∧
            e.basis ≠ .supervisor) ∧
        (R.settings.validate = .ok () →
          ∀ a, .account a ∈ Current ws → a.tenant = tenant → a.enabled ∧ ¬ a.deleted → a.admin →
            ¬ R.settings.supervisor.owns a.id →
            a.username = R.settings.supervisor.username →
          ∀ q : Question, q.account? = some a.id →
            q.Denies ((R.ask tenant q).serve server st).1) := by
  obtain ⟨store, hstore, hrep⟩ := MemoryStore.exists_writeAll ws
  refine ⟨store, hstore, fun server hserver R tenant st => ?_⟩
  have hhonours := hserver.honours hrep tenant
  refine ⟨fun ws' hws => ?_, fun hdisabled id hid => ?_, fun id hid => ?_, fun hvalid a => ?_⟩
  · obtain ⟨store', hstore', hrep'⟩ := MemoryStore.exists_writeAll ws'
    refine ⟨store', hstore', fun R' hsettings hlevels hlevels' q => ?_⟩
    refine ⟨MemoryStore.run_ask_eq_of_filter_eq hrep hrep' hsettings hws hlevels hlevels' hstore
      hstore' tenant q, fun hq σ' server' hserver' st' => ?_⟩
    exact hserver.serve_ask_eq_of_filter_eq hrep hrep' hsettings hws hlevels hlevels' hserver' hq st st'
  · have hsubject : R.subject id tenant = _ := Resolver.subject_of_disabled hdisabled hid
    refine ⟨hsubject, fun q hq => Resolver.ask_denies ?_ hq st⟩
    rw [hsubject]
    exact .answer trivial
  · obtain ⟨subject, _, hrun, hkind⟩ := Resolver.subject_yields_other hhonours hid st
    refine ⟨⟨subject, congrArg Prod.fst hrun, hkind⟩, fun scope code => ?_⟩
    obtain ⟨e, _, hexplain, hbasis⟩ := Resolver.explain_yields_other hhonours hid scope code st
    exact ⟨e, congrArg Prod.fst hexplain, hbasis⟩
  · rintro hrow rfl hactive hadmin hid hname q hq
    refine Resolver.ask_denies ?_ hq st
    refine (Resolver.subject_yields_impostor hhonours hvalid hrow hactive hadmin hid hname).mono ?_
    rintro _ rfl
    trivial

namespace Wiki

/-- A row that claims to be the supervisor. -/
def rogue : Account where
  id := ⟨"syssa"⟩
  username := "syssa"
  name := "Rogue"
  admin := true
  tenant := ⟨"acme"⟩

/-- A row that has taken the supervisor's username. -/
def impostor : Account := { rogue with id := ⟨"mallory"⟩, name := "Mallory" }

/-- Ann's history, and then the one who has taken the supervisor's username. -/
def usurped : List Write := history ⟨"acme"⟩ ++ [.put (.account impostor)]

/-- Settings with a supervisor that is switched off. -/
def unsupervised : AdminSettings where
  supervisor := { enabled := false }

end Wiki

/-- A row with the supervisor's id changes nothing for Ann and brings no rights, and neither does a
row with the supervisor's username. -/
theorem supervisor_beyond_rows_wiki :
    ∃ store store', ∃ R R' : Resolver, store.levels ≤ R.levels ∧ store'.levels ≤ R'.levels ∧
      R.settings = Wiki.unsupervised ∧ R'.settings = Wiki.unsupervised ∧
      (∅ : MemoryStore).writeAll Wiki.usurped = .ok store ∧
      (∅ : MemoryStore).writeAll (Wiki.usurped ++ [.put (.account Wiki.rogue)]) = .ok store' ∧
      ((R'.ask ⟨"acme"⟩ (.menus ⟨"ann"⟩ none none)).serve
        (store'.reply.toServer : Query.Server Unit) ()).1 =
      ((R.ask ⟨"acme"⟩ (.menus ⟨"ann"⟩ none none)).serve
        (store.reply.toServer : Query.Server Unit) ()).1 ∧
      R.subject ⟨"syssa"⟩ ⟨"acme"⟩ =
        .answer (.inactive (Wiki.unsupervised.supervisor.toAccount ⟨"acme"⟩) .supervisor) ∧
      (∃ subject, ((R.subject ⟨"mallory"⟩ ⟨"acme"⟩).serve
        (store.reply.toServer : Query.Server Unit) ()).1 = .answered subject ∧
          subject.kind? ≠ some .supervisor) ∧
      ((R.ask ⟨"acme"⟩ (.permissions ⟨"mallory"⟩ none)).serve
        (store.reply.toServer : Query.Server Unit) ()).1 = .answered ([] : List Permission) := by
  have hws : (Wiki.usurped ++ [Write.put (.account Wiki.rogue)]).filter
      (fun w => !w.shadows Wiki.unsupervised.supervisor) =
      Wiki.usurped.filter fun w => !w.shadows Wiki.unsupervised.supervisor := by decide
  have hvalid : Wiki.unsupervised.validate = .ok () := by decide
  have himpostor : .account Wiki.impostor ∈ Current Wiki.usurped := by decide
  have hmallory : ¬ Wiki.unsupervised.supervisor.owns ⟨"mallory"⟩ := by decide
  obtain ⟨store, hstore, hall⟩ := supervisor_beyond_rows Wiki.usurped
  obtain ⟨hshadows, hdisabled, hother, hdenies⟩ := hall
    (store.reply.toServer : Query.Server Unit) store.serves_reply
    { settings := Wiki.unsupervised, levels := store.levels } ⟨"acme"⟩ ()
  obtain ⟨store', hstore', heq⟩ := hshadows _ hws
  refine ⟨store, store', { settings := Wiki.unsupervised, levels := store.levels },
    { settings := Wiki.unsupervised, levels := store'.levels }, le_rfl, le_rfl, rfl, rfl, hstore,
    hstore', ?_, ?_, ?_, ?_⟩
  · exact (heq { settings := Wiki.unsupervised, levels := store'.levels } rfl le_rfl le_rfl
      (.menus ⟨"ann"⟩ none none)).2 nofun (store'.reply.toServer : Query.Server Unit)
      store'.serves_reply ()
  · exact (hdisabled rfl ⟨"syssa"⟩ rfl).1
  · exact (hother ⟨"mallory"⟩ hmallory).1
  · exact hdenies hvalid Wiki.impostor himpostor rfl (by decide) rfl hmallory rfl
      (.permissions ⟨"mallory"⟩ none) rfl

end TenantAccess
