import TenantAccess.Proofs.Query.Ensures
import TenantAccess.Resolver.Question

/-!
# What a resolver reads

`Query.ReadsIn` says that all reads a query may make have a property, whatever it is replied; the
terms under which it does so grant it everything else. Servers that reply alike to such reads are
not told apart (`Query.ReadsIn.serve_congr`). The main statement is `Resolver.ask_readsIn`: no
question brings the supervisor's id before a store (`Read.Spares`). Accounts are looked up at one
place only, so it rests on `Resolver.subject_readsIn` and on the fact that nothing else reads them;
applications are read from the directory (`Read.isDirectory`).
-/

namespace TenantAccess

variable {α β σ : Type} {tenant : TenantCode}

namespace Query

/-- All reads that the query may make have a property. -/
def ReadsIn (P : Read → Prop) (q : Query α) : Prop :=
  q.Ensures { asks := P, stalls := True } fun _ _ => True

namespace ReadsIn

variable {P : Read → Prop} {q : Query α}

theorem bind {f : α → Query β} (hq : q.ReadsIn P) (hf : ∀ a, (f a).ReadsIn P) :
    (q.bind f).ReadsIn P :=
  Ensures.bind hq fun _ a _ => hf a

theorem ask {r : Read} {next : r.Reply → Query α} (hr : P r) (hnext : ∀ x, (next x).ReadsIn P) :
    (Query.ask r next).ReadsIn P :=
  ⟨hr, fun x _ => hnext x⟩

theorem mono {P' : Read → Prop} (hq : q.ReadsIn P) (h : ∀ r, P r → P' r) : q.ReadsIn P' := by
  induction q with
  | answer | refuse | stall => trivial
  | ask r next ih => exact ⟨h r hq.1, fun x hx => ih x (hq.2 x hx)⟩

/-- The check of the owners of rows reads nothing. -/
theorem ownRows [TenantScoped β] (noun : String) (rows : List β) :
    (ownRows noun tenant rows).ReadsIn P := by
  rw [Query.ownRows]
  split <;> trivial

/-- A read whose rows are checked for their owners before they are used. -/
theorem ask_own [TenantScoped β] {r : Read} {noun : String} {rows : r.Reply → List β}
    {next : r.Reply → Query α} (hr : P r) (hnext : ∀ x, (next x).ReadsIn P) :
    (Query.ask r fun x => (Query.ownRows noun tenant (rows x)).bind fun _ => next x).ReadsIn P :=
  .ask hr fun x => (ReadsIn.ownRows _ _).bind fun _ => hnext x

/-- Servers that reply alike to the reads of a query are not told apart by it. -/
theorem serve_congr {server server' : Server σ} (hq : q.ReadsIn P)
    (h : ∀ r, P r → server r = server' r) (s : σ) : q.serve server s = q.serve server' s := by
  induction q generalizing s with
  | answer | refuse | stall => rfl
  | ask r next ih =>
    obtain ⟨hr, hnext⟩ := hq
    rw [serve, serve, h r hr]
    rcases server' r s with ⟨reply | reply, s'⟩
    · rfl
    · exact ih reply (hnext reply trivial) s'

end ReadsIn

end Query

/-- A read asks for no account with the supervisor's id. -/
def Read.Spares (s : SupervisorSettings) : Read → Prop
  | .account id _ => ¬ s.owns id
  | _ => True

/-- A read of the directory, which is not kept in the tables of tenants' rows. -/
def Read.isDirectory : Read → Bool
  | .tenant _ | .application _ | .applicationByCode _ => true
  | _ => false

/-- The directory holds no accounts. -/
theorem Read.spares_of_isDirectory {r : Read} (h : r.isDirectory) (s : SupervisorSettings) :
    r.Spares s := by
  cases r with
  | account => cases h
  | _ => trivial

namespace Resolver

variable (R : Resolver) {s : SupervisorSettings}

/-- An account is read under the id that is asked about, unless it is the supervisor's. -/
theorem subject_asks (id : AccountId) : (R.subject id tenant).ReadsIn fun r =>
    ¬ R.settings.supervisor.owns id ∧ r = .account id tenant := by
  by_cases howns : R.settings.supervisor.owns id
  · rw [R.subject_of_owns howns]
    trivial
  · rw [R.subject_of_not_owns howns]
    exact .ask_own ⟨howns, rfl⟩ fun _ => trivial

/-- The tables of roles are read for a member only. -/
theorem rolesOf_asks (subject : Subject) (scope : Option ApplicationId) :
    (R.rolesOf subject scope tenant).ReadsIn fun r => ∃ a, subject = .member a ∧
      (r = .enabledRoles scope tenant ∨
        R.settings.roleBinding = .principal ∧ r = .assignedRoles (.ofAccount a.id) tenant) := by
  cases subject with
  | absent | inactive | supervisor | officer => trivial
  | member a =>
    refine .ask_own ⟨a, rfl, .inl rfl⟩ fun found => ?_
    cases hbinding : R.settings.roleBinding with
    | application => trivial
    | principal => exact .ask ⟨a, rfl, .inr ⟨rfl, rfl⟩⟩ fun assigned => trivial

/-- The permissions of roles are read for a member with roles, the table of permissions for an
administrator with rights. -/
theorem permissionsOf_asks (subject : Subject) (roles : List Role)
    (scope : Option ApplicationId) :
    (permissionsOf subject roles scope tenant).ReadsIn fun r =>
      (∃ a, subject = .member a ∧ roles ≠ [] ∧
        r = .linkedPermissions (roles.map Role.id) scope tenant) ∨
      subject.IsRanged ∧ r = .permissions scope tenant := by
  refine permissionsOf_cases trivial (fun hranged keep _ => ?_) fun a ha hroles => ?_
  · exact Query.ReadsIn.bind (.ask_own (.inr ⟨hranged, rfl⟩) fun _ => trivial) fun _ => trivial
  · exact Query.ReadsIn.bind (.ask_own (.inl ⟨a, ha, hroles, rfl⟩) fun _ => trivial)
      fun _ => trivial

theorem subject_readsIn (id : AccountId) :
    (R.subject id tenant).ReadsIn (Read.Spares R.settings.supervisor) := by
  refine (R.subject_asks id).mono ?_
  rintro _ ⟨hid, rfl⟩
  exact hid

theorem rolesOf_readsIn (subject : Subject) (scope : Option ApplicationId) :
    (R.rolesOf subject scope tenant).ReadsIn (Read.Spares s) := by
  refine (R.rolesOf_asks subject scope).mono ?_
  rintro _ ⟨a, -, rfl | ⟨-, rfl⟩⟩ <;> trivial

theorem permissionsOf_readsIn (subject : Subject) (roles : List Role)
    (scope : Option ApplicationId) :
    (permissionsOf subject roles scope tenant).ReadsIn (Read.Spares s) := by
  refine (permissionsOf_asks subject roles scope).mono ?_
  rintro _ (⟨a, -, -, rfl⟩ | ⟨-, rfl⟩) <;> trivial

theorem permissions_readsIn (account : AccountId) (scope : Option ApplicationId) :
    (R.permissions account scope tenant).ReadsIn (Read.Spares R.settings.supervisor) :=
  (R.subject_readsIn account).bind fun subject =>
    (R.rolesOf_readsIn subject scope).bind fun roles => permissionsOf_readsIn subject roles scope

theorem roles_readsIn (account : AccountId) (scope : Option ApplicationId) :
    (R.roles account scope tenant).ReadsIn (Read.Spares R.settings.supervisor) :=
  (R.subject_readsIn account).bind fun subject => R.rolesOf_readsIn subject scope

/-- No level of the walk reads accounts. -/
theorem climb_readsIn (order : Arrangement Menu) (menuType : Option String) (levels : Nat)
    (level asked : List MenuId) (found : List Menu) :
    (climb order menuType tenant levels level asked found).ReadsIn (Read.Spares s) :=
  climb_rec (P := fun _ _ walk => walk.ReadsIn (Read.Spares s)) (fun _ _ => trivial)
    (fun _ _ => trivial) (fun _ _ _ _ hnext => .ask_own trivial hnext) order levels level asked
    found

theorem menus_readsIn (account : AccountId) (menuType : Option String)
    (scope : Option ApplicationId) :
    (R.menus account menuType scope tenant).ReadsIn (Read.Spares R.settings.supervisor) :=
  (R.permissions_readsIn account scope).bind fun _ => climb_readsIn _ _ _ _ _ _

/-- The applications are read from the directory. -/
theorem knownApplications_readsIn (ids : List ApplicationId) :
    (knownApplications ids).ReadsIn (·.isDirectory) := by
  induction ids with
  | nil => trivial
  | cons id rest ih =>
    refine .ask rfl fun found => ?_
    cases found with
    | none => exact ih
    | some a => exact ih.bind fun _ => trivial

/-- Whether a tenant may use an application is read from the directory. -/
theorem validateApplication_readsIn (application : ApplicationId) :
    (validateApplication application tenant).ReadsIn (·.isDirectory) := by
  refine .ask rfl fun found => ?_
  cases found with
  | none => trivial
  | some t =>
    show Query.ReadsIn _ (ite ..)
    split
    · trivial
    cases t.lease? application with
    | none => trivial
    | some lease =>
      show Query.ReadsIn _ (ite ..)
      split
      · trivial
      refine .ask rfl fun found => ?_
      cases found with
      | none => trivial
      | some a =>
        show Query.ReadsIn _ (ite ..)
        split <;> trivial

/-- So is the application that a code and a secret stand for. -/
theorem applicationByCredentials_readsIn (code secret : String) :
    (applicationByCredentials code secret).ReadsIn (·.isDirectory) := by
  refine .ask rfl fun found => ?_
  cases found with
  | none => trivial
  | some a =>
    show Query.ReadsIn _ (ite ..)
    split <;> trivial

/-- Whatever is asked, no store is asked for an account with the supervisor's id. -/
theorem ask_readsIn (q : Question) :
    (R.ask tenant q).ReadsIn (Read.Spares R.settings.supervisor) := by
  have hdirectory : ∀ r : Read, r.isDirectory → r.Spares R.settings.supervisor :=
    fun _ hr => Read.spares_of_isDirectory hr _
  cases q with
  | permissions account scope => exact R.permissions_readsIn account scope
  | roles account scope => exact R.roles_readsIn account scope
  | ranges account scope =>
    refine (R.roles_readsIn account scope).bind fun roles => ?_
    split
    · trivial
    · exact .ask_own trivial fun _ => trivial
  | menus account menuType scope => exact R.menus_readsIn account menuType scope
  | applications account menuType =>
    exact (R.menus_readsIn account (some menuType) none).bind fun _ =>
      ((knownApplications_readsIn _).mono hdirectory).bind fun _ => trivial
  | validate application => exact (validateApplication_readsIn application).mono hdirectory
  | authorize account application code =>
    refine ((validateApplication_readsIn application).mono hdirectory).bind fun _ => ?_
    refine (R.permissions_readsIn account (some application)).bind fun ps => ?_
    split <;> trivial
  | explain account scope code =>
    refine (R.subject_readsIn account).bind fun subject => ?_
    refine (R.rolesOf_readsIn subject scope).bind fun roles => ?_
    exact (permissionsOf_readsIn subject roles scope).bind fun _ => trivial
  | credentials code secret =>
    exact (applicationByCredentials_readsIn code secret).mono hdirectory

end Resolver

end TenantAccess
