import TenantAccess.Proofs.Subject
import TenantAccess.Resolver.Question
import TenantAccess.Store.Listed

/-!
# Every reply is vetted

A resolver trusts nobody who replies to its reads. `Query.calls` are the reads that a query makes
against a server, with their replies, and `Call.fault?` is what is wrong with one of them: that it
failed, or that a row of another tenant is among its rows. A query is `Query.Vetted` when it refuses
on the spot, with that very fault, whenever something is wrong with a reply, and for no other
reason. This is said of the tree of the query, one case for each constructor, so it holds of a query
as soon as it holds of its parts (`Query.Vetted.bind`), and it gives for every run that what is
wrong with a call decides the outcome (`Query.Vetted.verdict`). The parts of a lookup that have more
than one way to go are gone through once, for whatever is to be shown of a query
(`Resolver.permissionsOf_cases`, `climb_rec`). The main statement is `lookup_refused_iff`.
-/

namespace TenantAccess

variable {α β σ : Type} {tenant : TenantCode}

/-! ## What is wrong with a call -/

namespace Read

/-- What the rows that a read asks for are called. -/
def noun : Read → String
  | .account .. => "account"
  | .enabledRoles .. => "role"
  | .assignedRoles .. => "role assignment"
  | .linkedPermissions .. | .permissions .. => "permission"
  | .roleRanges .. => "role range"
  | .menus .. => "menu"
  | .tenant .. => "tenant"
  | .application .. | .applicationByCode .. => "application"

/-- The tenants of the rows of a reply. Ids of roles and the entries of the directory carry none. -/
def owners : (r : Read) → r.Reply → List TenantCode
  | .account .. => fun (reply : Option Account) => reply.toList.map Account.tenant
  | .enabledRoles .. => fun (reply : List Role) => reply.map Role.tenant
  | .linkedPermissions .. | .permissions .. => fun (reply : List Permission) =>
    reply.map Permission.tenant
  | .roleRanges .. => fun (reply : List RoleRange) => reply.map RoleRange.tenant
  | .menus .. => fun (reply : List Menu) => reply.map Menu.tenant
  | .assignedRoles .. | .tenant .. | .application .. | .applicationByCode .. => fun _ => []

/-- The fault of a reply in which there are rows of another tenant; it names the first of them. -/
def leak? (tenant : TenantCode) (r : Read) (reply : r.Reply) : Option StoreFault :=
  ((r.owners reply).find? (· ≠ tenant)).map fun owner => .tenantIsolation
    s!"{r.noun} of tenant '{owner.text}' returned for tenant '{tenant.text}'"

end Read

/-- A read with its reply. -/
structure Call where
  read : Read
  reply : Except StoreFault read.Reply

/-- What is wrong with a call that was made for a tenant. -/
def Call.fault? (tenant : TenantCode) (c : Call) : Option StoreFault :=
  match c.reply with
  | .ok reply => c.read.leak? tenant reply
  | .error fault => some fault

namespace Query

/-- The calls that a query makes against a server, in their order. -/
def calls (server : Server σ) : Query α → σ → List Call
  | .answer _, _ | .refuse _, _ | .stall, _ => []
  | .ask r next, s =>
    match server r s with
    | (.ok reply, s') => ⟨r, .ok reply⟩ :: (next reply).calls server s'
    | (.error fault, _) => [⟨r, .error fault⟩]

/-- The calls are those that a server which keeps a journal notes. -/
theorem journal_eq_calls (server : Server σ) (q : Query α) (journal : List Read) (s : σ) :
    (q.serve server.journaled (journal, s)).2.1 =
      ((q.calls server s).map Call.read).reverse ++ journal := by
  induction q generalizing journal s with
  | answer | refuse | stall => rfl
  | ask r next ih =>
    simp only [serve, calls, Server.journaled]
    cases server r s with
    | mk reply s' =>
      cases reply with
      | ok reply => simp [ih]
      | error fault => rfl

/-! ## Vetted queries -/

section
variable [TenantScoped β] {r : Read} {rows : List β} {reply : r.Reply}

/-- The check of the owners of the rows of a reply looks for what is wrong with the reply. -/
theorem find?_owners_eq (hrows : r.owners reply = rows.map TenantScoped.tenantOf) :
    (r.owners reply).find? (· ≠ tenant) =
      (rows.find? fun row => !belongsTo row tenant).map TenantScoped.tenantOf := by
  rw [hrows, List.find?_map]
  simp only [belongsTo, Function.comp_def, decide_not]

/-- The check refuses with what is wrong with the reply. -/
theorem ownRows_of_leak {fault : StoreFault}
    (hrows : r.owners reply = rows.map TenantScoped.tenantOf)
    (h : r.leak? tenant reply = some fault) :
    ownRows r.noun tenant rows = .refuse (.store fault) := by
  rw [Read.leak?, find?_owners_eq hrows] at h
  rw [ownRows]
  cases hrow : rows.find? fun row => !belongsTo row tenant with
  | none => simp [hrow] at h
  | some row =>
    simp only [hrow, Option.map_some, Option.some.injEq] at h
    rw [← h]

/-- The check lets a reply pass with which nothing is wrong. -/
theorem ownRows_of_clean (hrows : r.owners reply = rows.map TenantScoped.tenantOf)
    (h : r.leak? tenant reply = none) : ownRows r.noun tenant rows = .answer () := by
  rw [Read.leak?, find?_owners_eq hrows] at h
  rw [ownRows]
  cases hrow : rows.find? fun row => !belongsTo row tenant with
  | none => rfl
  | some row => simp [hrow] at h

end

/-- A query that refuses as soon as something is wrong with a reply, with the fault that it is, and
for no other reason. -/
inductive Vetted (tenant : TenantCode) : Query α → Prop
  | answer (a : α) : Vetted tenant (.answer a)
  | stall : Vetted tenant .stall
  | ask {r : Read} {next : r.Reply → Query α}
      (hleak : ∀ reply fault, r.leak? tenant reply = some fault →
        next reply = .refuse (.store fault))
      (hnext : ∀ reply, r.leak? tenant reply = none → Vetted tenant (next reply)) :
      Vetted tenant (.ask r next)

namespace Vetted

/-- A vetted query may go on to another. -/
theorem bind {q : Query α} {f : α → Query β} (hq : Vetted tenant q)
    (hf : ∀ a, Vetted tenant (f a)) : Vetted tenant (q.bind f) := by
  induction hq with
  | answer a => exact hf a
  | stall => exact .stall
  | ask hleak _ ih =>
    refine .ask (fun reply fault h => ?_) ih
    rw [hleak reply fault h]
    rfl

/-- Nothing is wrong with a reply without rows of tenants. -/
theorem ask_free {r : Read} {next : r.Reply → Query α} (hfree : ∀ reply, r.owners reply = [])
    (hnext : ∀ reply, Vetted tenant (next reply)) : Vetted tenant (.ask r next) := by
  refine .ask (fun reply fault h => ?_) fun reply _ => hnext reply
  rw [Read.leak?, hfree] at h
  cases h

/-- The check of the owners refuses on the rows of a reply that are another tenant's, and lets all
others pass. -/
theorem ask_own [TenantScoped β] {r : Read} {rows : r.Reply → List β} {next : r.Reply → Query α}
    (hrows : ∀ reply, r.owners reply = (rows reply).map TenantScoped.tenantOf)
    (hnext : ∀ reply, Vetted tenant (next reply)) :
    Vetted tenant (.ask r fun reply =>
      (ownRows r.noun tenant (rows reply)).bind fun _ => next reply) := by
  refine .ask (fun reply fault h => ?_) (fun reply h => ?_)
  · rw [ownRows_of_leak (hrows reply) h]
    rfl
  · rw [ownRows_of_clean (hrows reply) h]
    exact hnext reply

end Vetted

/-- What the calls of a run and its outcome have to do with each other: either nothing is wrong with
any call and the query does not refuse, or something is wrong with the last call, with no call
before it, and the query refuses with the fault of that call. -/
inductive Verdict (tenant : TenantCode) : List Call → Outcome α → Prop
  | clean {cs : List Call} {o : Outcome α} (hcalls : ∀ c ∈ cs, c.fault? tenant = none)
      (ho : ∀ e, o ≠ .refused e) : Verdict tenant cs o
  | spoilt (before : List Call) {c : Call} {fault : StoreFault}
      (hbefore : ∀ b ∈ before, b.fault? tenant = none) (hc : c.fault? tenant = some fault) :
      Verdict tenant (before ++ [c]) (.refused (.store fault))

/-- A call with which nothing is wrong does not change a verdict. -/
theorem Verdict.cons {c : Call} {cs : List Call} {o : Outcome α} (hc : c.fault? tenant = none)
    (h : Verdict tenant cs o) : Verdict tenant (c :: cs) o := by
  cases h with
  | clean hcalls ho => exact .clean (List.forall_mem_cons.2 ⟨hc, hcalls⟩) ho
  | spoilt before hbefore hlast =>
    exact .spoilt (c :: before) (List.forall_mem_cons.2 ⟨hc, hbefore⟩) hlast

section
variable {before later cs : List Call} {c : Call} {fault : StoreFault} {o : Outcome α}

/-- A query refuses if and only if something is wrong with a call. -/
theorem Verdict.refused_iff (h : Verdict tenant cs o) :
    (∃ e, o = .refused e) ↔ ∃ c ∈ cs, (c.fault? tenant).isSome := by
  cases h with
  | clean hcalls ho =>
    refine iff_of_false (fun ⟨e, he⟩ => ho e he) ?_
    rintro ⟨c, hc, hfault⟩
    rw [hcalls c hc] at hfault
    cases hfault
  | spoilt before hbefore hc =>
    refine iff_of_true ⟨_, rfl⟩ ⟨_, List.mem_append_right _ (List.mem_singleton_self _), ?_⟩
    rw [hc]
    rfl

/-- A call with which something is wrong is the last, and decides. -/
theorem Verdict.last (h : Verdict tenant (before ++ c :: later) o)
    (hc : c.fault? tenant = some fault) : later = [] ∧ o = .refused (.store fault) := by
  generalize hcs : before ++ c :: later = cs at h
  cases h with
  | clean hcalls ho =>
    have hnone := hcalls c (hcs ▸ List.mem_append_right _ List.mem_cons_self)
    rw [hc] at hnone
    cases hnone
  | spoilt first hfirst hlast =>
    rcases List.eq_nil_or_concat later with rfl | ⟨later, x, rfl⟩
    · obtain rfl := List.singleton_inj.1 (List.append_inj' hcs rfl).2
      obtain rfl := Option.some.inj (hc.symm.trans hlast)
      exact ⟨rfl, rfl⟩
    · -- nothing is wrong with a call before the last
      rw [List.concat_eq_append, ← List.cons_append, ← List.append_assoc] at hcs
      obtain ⟨rfl, -⟩ := List.append_inj' hcs rfl
      have hnone := hfirst c (List.mem_append_right _ List.mem_cons_self)
      rw [hc] at hnone
      cases hnone

/-- A query refuses with the fault of a store only. -/
theorem Verdict.eq_store {e : AccessError} (h : Verdict tenant cs (.refused e : Outcome α)) :
    ∃ fault, e = .store fault := by
  cases h with
  | clean _ ho => exact absurd rfl (ho e)
  | spoilt => exact ⟨_, rfl⟩

end

/-- What is wrong with the calls of a vetted query decides its outcome, against every server. -/
theorem Vetted.verdict {q : Query α} (h : Vetted tenant q) (server : Server σ) (s : σ) :
    Verdict tenant (q.calls server s) (q.serve server s).1 := by
  induction h generalizing s with
  | answer | stall => exact .clean (List.forall_mem_nil _) fun _ he => by cases he
  | @ask r next hleak _ ih =>
    rw [calls, serve]
    cases server r s with
    | mk reply s' =>
      cases reply with
      | error fault => exact .spoilt [] (List.forall_mem_nil _) rfl
      | ok reply =>
        cases hreply : r.leak? tenant reply with
        | none => exact (ih reply hreply s').cons hreply
        | some fault =>
          show Verdict tenant (⟨r, .ok reply⟩ :: (next reply).calls server s')
            ((next reply).serve server s').1
          rw [hleak reply fault hreply]
          exact .spoilt [] (List.forall_mem_nil _) hreply

end Query

/-! ## Ways through the resolver -/

namespace Resolver

/-- Permissions are worked out in one of three ways: without a read for whoever has none; from the
permissions of the scope, by what the settings leave of them; and from those that the roles of a
member are linked to. -/
theorem permissionsOf_cases {P : Query (List Permission) → Prop} {subject : Subject}
    {roles : List Role} {scope : Option ApplicationId} {tenant : TenantCode}
    (hnone : P (.answer []))
    (hranged : subject.IsRanged → ∀ keep : List Permission → List Permission,
      (∀ ps, keep ps ⊆ ps) →
      P ((scopedReply scope tenant (Query.read (.permissions scope tenant))).bind fun ps =>
        .answer (listedPermissions (keep ps))))
    (hlinked : ∀ a, subject = .member a → roles ≠ [] →
      P ((scopedReply scope tenant
        (Query.read (.linkedPermissions (roles.map Role.id) scope tenant))).bind fun ps =>
          .answer (listedPermissions ps))) :
    P (permissionsOf subject roles scope tenant) := by
  cases subject with
  | absent | inactive => exact hnone
  | supervisor a => exact hranged trivial id fun ps => List.Subset.refl ps
  | officer a entry =>
    cases entry with
    | none => exact hnone
    | some entry =>
      simp only [permissionsOf]
      split
      · rename_i henabled
        exact hranged henabled entry.permissions.restrict fun _ => List.filter_sublist.subset
      · exact hnone
  | member a =>
    simp only [permissionsOf]
    split
    · exact hnone
    · rename_i hroles
      exact hlinked a rfl fun hnil => hroles (List.isEmpty_iff.2 hnil)

end Resolver

/-- Induction on a walk through the menus: what holds of its end and of giving up, and of a level
when it holds of the level after it, holds of every walk. -/
theorem climb_rec {P : List MenuId → List MenuId → Query (List Menu) → Prop}
    {menuType : Option String} (hend : ∀ asked menus, P [] asked (.answer menus))
    (hstall : ∀ level asked, P level asked .stall)
    (hlevel : ∀ (level asked : List MenuId) (next : List Menu → Query (List Menu)), level ≠ [] →
      (∀ reply, P (nextLevel (asked ++ level) (seenMenus level menuType reply)) (asked ++ level)
        (next reply)) →
      P level asked (.ask (.menus level menuType tenant) fun (rows : List Menu) =>
        (Query.ownRows "menu" tenant rows).bind fun _ => next rows))
    (order : Arrangement Menu) (levels : Nat) (level asked : List MenuId) (found : List Menu) :
    P level asked (climb order menuType tenant levels level asked found) := by
  induction levels generalizing level asked found with
  | zero =>
    cases level with
    | nil => rw [climb]; exact hend _ _
    | cons => exact hstall _ _
  | succ levels ih =>
    cases level with
    | nil => rw [climb]; exact hend _ _
    | cons id rest => exact hlevel (id :: rest) asked _ (List.cons_ne_nil id rest) fun _ => ih _ _ _

/-! ## The resolver is vetted -/

/-- The questions that look up what an account holds and demand nothing. -/
def Question.isLookup : Question → Bool
  | .permissions .. | .roles .. | .ranges .. | .menus .. | .applications .. | .explain .. => true
  | .validate .. | .authorize .. | .credentials .. => false

namespace Resolver

variable (R : Resolver)

theorem subject_vetted (id : AccountId) (tenant : TenantCode) :
    Query.Vetted tenant (R.subject id tenant) := by
  by_cases h : R.settings.supervisor.owns id
  · rw [R.subject_of_owns h]
    exact .answer _
  · rw [R.subject_of_not_owns h]
    exact .ask_own (fun _ => rfl) fun _ => .answer _

theorem rolesOf_vetted (subject : Subject) (scope : Option ApplicationId) (tenant : TenantCode) :
    Query.Vetted tenant (R.rolesOf subject scope tenant) := by
  cases subject with
  | absent | inactive | supervisor | officer => exact .answer []
  | member a =>
    refine .ask_own (fun _ => rfl) fun found => ?_
    cases R.settings.roleBinding with
    | application => exact .answer _
    | principal => exact .ask_free (fun _ => rfl) fun assigned => .answer _

theorem permissionsOf_vetted (subject : Subject) (roles : List Role) (scope : Option ApplicationId)
    (tenant : TenantCode) : Query.Vetted tenant (permissionsOf subject roles scope tenant) := by
  refine permissionsOf_cases (.answer []) (fun _ keep _ => ?_) fun _ _ _ => ?_
  · exact Query.Vetted.bind (.ask_own (fun _ => rfl) fun _ => .answer _) fun _ => .answer _
  · exact Query.Vetted.bind (.ask_own (fun _ => rfl) fun _ => .answer _) fun _ => .answer _

theorem permissions_vetted (account : AccountId) (scope : Option ApplicationId)
    (tenant : TenantCode) : Query.Vetted tenant (R.permissions account scope tenant) :=
  (R.subject_vetted account tenant).bind fun subject =>
    (R.rolesOf_vetted subject scope tenant).bind fun roles =>
      permissionsOf_vetted subject roles scope tenant

theorem roles_vetted (account : AccountId) (scope : Option ApplicationId) (tenant : TenantCode) :
    Query.Vetted tenant (R.roles account scope tenant) :=
  (R.subject_vetted account tenant).bind fun subject => R.rolesOf_vetted subject scope tenant

theorem ranges_vetted (account : AccountId) (scope : Option ApplicationId) (tenant : TenantCode) :
    Query.Vetted tenant (R.ranges account scope tenant) := by
  refine (R.roles_vetted account scope tenant).bind fun roles => ?_
  split
  · exact .answer []
  · exact .ask_own (fun _ => rfl) fun _ => .answer _

/-- Each level of the walk is vetted before anything is taken from it. -/
theorem climb_vetted (order : Arrangement Menu) (menuType : Option String) (tenant : TenantCode)
    (levels : Nat) (level asked : List MenuId) (found : List Menu) :
    Query.Vetted tenant (climb order menuType tenant levels level asked found) :=
  climb_rec (P := fun _ _ walk => Query.Vetted tenant walk) (fun _ _ => .answer _)
    (fun _ _ => .stall) (fun _ _ _ _ hnext => .ask_own (fun _ => rfl) hnext) order levels level
    asked found

theorem menus_vetted (account : AccountId) (menuType : Option String) (scope : Option ApplicationId)
    (tenant : TenantCode) : Query.Vetted tenant (R.menus account menuType scope tenant) :=
  (R.permissions_vetted account scope tenant).bind fun _ => climb_vetted _ _ _ _ _ _ _

theorem knownApplications_vetted (ids : List ApplicationId) (tenant : TenantCode) :
    Query.Vetted tenant (knownApplications ids) := by
  induction ids with
  | nil => exact .answer []
  | cons id rest ih =>
    refine .ask_free (fun _ => rfl) fun reply => ?_
    cases reply with
    | none => exact ih
    | some a => exact ih.bind fun _ => .answer _

/-- Every lookup is vetted. -/
theorem ask_vetted (tenant : TenantCode) {q : Question} (hq : q.isLookup) :
    Query.Vetted tenant (R.ask tenant q) := by
  cases q with
  | permissions account scope => exact R.permissions_vetted account scope tenant
  | roles account scope => exact R.roles_vetted account scope tenant
  | ranges account scope => exact R.ranges_vetted account scope tenant
  | menus account menuType scope => exact R.menus_vetted account menuType scope tenant
  | applications account menuType =>
    refine (R.menus_vetted account (some menuType) none tenant).bind fun _ => ?_
    exact (knownApplications_vetted _ tenant).bind fun _ => .answer _
  | explain account scope code =>
    refine (R.subject_vetted account tenant).bind fun subject => ?_
    refine (R.rolesOf_vetted subject scope tenant).bind fun roles => ?_
    exact (permissionsOf_vetted subject roles scope tenant).bind fun _ => .answer _
  | validate | authorize | credentials => cases hq

end Resolver

/-- A dataset with one account, which belongs to another tenant than the one asked about. -/
def strangers : Dataset where
  accounts := [{ id := ⟨"ann"⟩, username := "ann", name := "Ann", tenant := ⟨"rival"⟩ }]

/-- Against every server, be it one that lies, leaks or fails when it likes: a lookup refuses if and
only if something is wrong with one of its calls. The first such call is the last that the lookup
makes, and the refusal is the fault of that call. A walk that its bound ends is no refusal; the
statement is about every bound. -/
theorem lookup_refused_iff (R : Resolver) (tenant : TenantCode) (q : Question) (hq : q.isLookup)
    (server : Query.Server σ) (s : σ) :
    ((∃ e, ((R.ask tenant q).serve server s).1 = .refused e) ↔
      ∃ c ∈ (R.ask tenant q).calls server s, (c.fault? tenant).isSome) ∧
    (∀ before c later fault, (R.ask tenant q).calls server s = before ++ c :: later →
      c.fault? tenant = some fault →
        later = [] ∧ ((R.ask tenant q).serve server s).1 = .refused (.store fault)) ∧
    ∀ e, ((R.ask tenant q).serve server s).1 = .refused e → ∃ fault, e = .store fault := by
  have h := (R.ask_vetted tenant hq).verdict server s
  refine ⟨h.refused_iff, fun before c later fault hcalls hc => ?_, fun e he => ?_⟩
  · rw [hcalls] at h
    exact h.last hc
  · rw [he] at h
    exact h.eq_store

/-- A backend that hands out its accounts to whoever asks does not get a lookup to use them. -/
theorem lookup_refused_iff_strangers : (Question.permissions ⟨"ann"⟩ none).isLookup ∧
    ((Resolver.ask { settings := {}, levels := 0 } ⟨"acme"⟩ (.permissions ⟨"ann"⟩ none)).serve
      (strangers.backend fun _ => true).toServer ()).1 =
      .refused (.store
        (.tenantIsolation "account of tenant 'rival' returned for tenant 'acme'")) := by
  obtain ⟨-, hlast, -⟩ := lookup_refused_iff { settings := {}, levels := 0 } ⟨"acme"⟩
    (.permissions ⟨"ann"⟩ none) rfl (strangers.backend fun _ => true).toServer ()
  exact ⟨rfl, (hlast [] _ [] _ rfl rfl).2⟩

end TenantAccess
