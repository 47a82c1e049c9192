import TenantAccess.Proofs.Holdings
import TenantAccess.Proofs.Roles

/-!
# Asking about one application

A question can be about one application or about all of them. For roles and ranges it makes no
difference whether the answer is narrowed to an application before or after. A permission comes with
a role, and a role may be linked to a permission of another application: such a permission is lost
when its role is narrowed away, so narrowing first can leave less. It leaves the same when no role
that the account holds is linked to another application (`AdminSettings.Grants.narrow`), and then
also for administrators, who hold no roles. The menus of an application are among all menus, because
the permissions are. Each relation is shown of the rules for the stored rows, and the answers are
the listings of what the rules name. The main statement is `answers_scoped`.
-/

namespace TenantAccess

variable {σ : Type} {rows : Set Row} {tenant : TenantCode} {app : ApplicationId}
  {scope : Option ApplicationId} {account : AccountId}

/-- Whether the role of a range is stored and belongs to an application. -/
def RoleRange.isOf (store : MemoryStore) (app : ApplicationId) (r : RoleRange) : Bool :=
  (store.roles.rows.get? (r.tenant, r.roleId)).any fun role => role.applicationId = app

/-! ## Narrowing the rules -/

namespace AdminSettings

variable {s : AdminSettings} {r : Role} {p : Permission}

/-- Of the roles conferred on a subject, those of an application are conferred in its scope. -/
theorem confers_some_iff {subject : Subject} :
    s.Confers rows (some app) tenant subject r ↔
      s.Confers rows none tenant subject r ∧ r.applicationId = app := by
  cases subject with
  | absent | inactive | supervisor | officer => simp [Confers]
  | member a =>
    simp only [Confers, Option.mem_def, Option.some.injEq, forall_eq', reduceCtorEq, false_implies,
      implies_true, true_and]
    tauto

/-- Of the roles that an account holds, it holds those of an application in its scope. -/
theorem holds_some_iff :
    s.Holds rows account (some app) tenant r ↔
      s.Holds rows account none tenant r ∧ r.applicationId = app := by
  simp only [Holds, confers_some_iff]
  constructor
  · rintro ⟨subject, hsubject, hconfers, happ⟩
    exact ⟨⟨subject, hsubject, hconfers⟩, happ⟩
  · rintro ⟨⟨subject, hsubject, hconfers⟩, happ⟩
    exact ⟨subject, hsubject, hconfers, happ⟩

/-- What is granted in a scope is granted without one. -/
theorem Grants.widen (h : s.Grants rows account scope tenant p) :
    s.Grants rows account none tenant p := by
  cases h with
  | supervisor hid henabled => exact .supervisor hid henabled
  | officer hid hrow hplace hactive hadmin hentry henabled hpermits =>
    exact .officer hid hrow hplace hactive hadmin hentry henabled hpermits
  | member hid hrow hplace hactive hadmin hrole howner henabled _ hassigned hlink =>
    exact .member hid hrow hplace hactive hadmin hrole howner henabled nofun hassigned hlink

/-- A permission that is granted is granted in the scope of its application, when roles that the
account holds are linked to it only if they are of that application. -/
theorem Grants.narrow (hlinks : ∀ r, s.Holds rows account none tenant r →
      .permissionLink ⟨r.id, p.id, tenant⟩ ∈ rows → r.applicationId = p.applicationId)
    (h : s.Grants rows account none tenant p) :
    s.Grants rows account (some p.applicationId) tenant p := by
  cases h with
  | supervisor hid henabled => exact .supervisor hid henabled
  | officer hid hrow hplace hactive hadmin hentry henabled hpermits =>
    exact .officer hid hrow hplace hactive hadmin hentry henabled hpermits
  | @member a r hid hrow hplace hactive hadmin hrole howner henabled hscope hassigned hlink =>
    have hself : s.Identifies rows tenant account a :=
      (identifies_iff_of_ne hid).2 ⟨⟨hrow, hplace.1⟩, hplace.2⟩
    have hholds : s.Holds rows account none tenant r := holds_iff.2
      ⟨⟨a, hself, hactive, hadmin⟩, hrole, howner, henabled, hscope, hassigned⟩
    refine .member hid hrow hplace hactive hadmin hrole howner henabled ?_ hassigned hlink
    exact fun app happ => (hlinks r hholds hlink).trans (Option.some.inj happ)

/-- Only a member holds roles. -/
theorem not_holds_of_admin {server : Query.Server σ} (h : server.Honours tenant rows) {a : Account}
    (ha : s.Identifies rows tenant account a) (hadmin : a.admin) :
    ¬ s.Holds rows account scope tenant r := by
  intro hholds
  obtain ⟨b, hb, -, hmember⟩ := (holds_iff.1 hholds).member
  exact hmember (ha.unique h hb ▸ hadmin)

end AdminSettings

/-- Of the permissions of the tenant, those of an application lie in its scope. -/
theorem Permission.isOf_some_iff {p : Permission} :
    p.IsOf rows (some app) tenant ↔ p.IsOf rows none tenant ∧ p.applicationId = app := by
  simp [IsOf]

/-- A permission of the tenant that is granted in the scope of an application is one that is granted
without a scope. -/
theorem AdminSettings.grants_none_of_some {s : AdminSettings} {p : Permission}
    (h : p.IsOf rows (some app) tenant ∧ s.Grants rows account (some app) tenant p) :
    p.IsOf rows none tenant ∧ s.Grants rows account none tenant p :=
  ⟨(Permission.isOf_some_iff.1 h.1).1, h.2.widen⟩

/-- A range belongs to a held role of the application when its stored role is one. -/
theorem RoleRange.exists_holds_some_iff {s : AdminSettings} {store : MemoryStore}
    (hrep : store.Represents rows) {r : RoleRange} (hr : r.tenant = tenant) :
    (∃ role, s.Holds rows account (some app) tenant role ∧ role.id = r.roleId) ↔
      (∃ role, s.Holds rows account none tenant role ∧ role.id = r.roleId) ∧ r.isOf store app := by
  have hstored : ∀ role, s.Holds rows account none tenant role → role.id = r.roleId →
      store.roles.rows.get? (r.tenant, r.roleId) = some role := by
    rintro role ⟨subject, -, hconfers⟩ hid
    cases subject with
    | member a => exact hrep.get?_role.2 ⟨⟨hconfers.1.1, hconfers.1.2.trans hr.symm⟩, hid⟩
    | absent | inactive | supervisor | officer => exact hconfers.elim
  simp only [AdminSettings.holds_some_iff, RoleRange.isOf]
  constructor
  · rintro ⟨role, ⟨hholds, happ⟩, hid⟩
    refine ⟨⟨role, hholds, hid⟩, ?_⟩
    rw [hstored role hholds hid]
    exact decide_eq_true happ
  · rintro ⟨⟨role, hholds, hid⟩, happ⟩
    rw [hstored role hholds hid] at happ
    exact ⟨role, ⟨hholds, of_decide_eq_true happ⟩, hid⟩

/-! ## Narrowing the answers -/

/-- Where one rule names what another one names and a test keeps, the listing of the one is that of
the other, filtered by the test. -/
theorem Query.Yields.eq_filter {α : Type} {server : Query.Server σ} {q q' : Query (List α)}
    {cmp : α → α → Ordering} [Std.TransCmp cmp] {P P' : α → Prop} (keep : α → Bool)
    (h : Query.Yields server q (IsListing cmp P)) (h' : Query.Yields server q' (IsListing cmp P'))
    (hP : ∀ a, P' a ↔ P a ∧ keep a) (s s' : σ) :
    ∃ xs, (q.serve server s).1 = .answered xs ∧
      (q'.serve server s').1 = .answered (xs.filter keep) ∧ ∀ a, a ∈ xs ↔ P a := by
  obtain ⟨xs, _, hxs, hlisting⟩ := h s
  obtain ⟨ys, _, hys, hlisting'⟩ := h' s'
  have heq : ys = xs.filter keep := hlisting'.sorted.eq_of_mem_iff (hlisting.filter keep).sorted
    fun a => (hlisting'.mem_iff a).trans ((hP a).trans ((hlisting.filter keep).mem_iff a).symm)
  exact ⟨xs, by rw [hxs], by rw [hys, heq], hlisting.mem_iff⟩

/-- The permissions for one application are among those for all that are of it, and they are all of
these when no role that the account holds is linked to a permission of another application than its
own. -/
theorem Resolver.permissions_scoped (R : Resolver) {server : Query.Server σ}
    (h : server.Honours tenant rows) (account : AccountId) (app : ApplicationId) (st st' : σ) :
    ∃ ps ps', ((R.permissions account none tenant).serve server st).1 = .answered ps ∧
      ((R.permissions account (some app) tenant).serve server st').1 = .answered ps' ∧
      ps'.Sublist (ps.filter (·.applicationId = app)) ∧
      ((∀ r, R.settings.Holds rows account none tenant r →
          ∀ p : Permission, p.IsOf rows none tenant → .permissionLink ⟨r.id, p.id, tenant⟩ ∈ rows →
            r.applicationId = p.applicationId) →
        ps' = ps.filter (·.applicationId = app)) := by
  obtain ⟨ps, _, hps, hall⟩ := R.permissions_yields h account none st
  obtain ⟨ps', _, hps', hscoped⟩ := R.permissions_yields h account (some app) st'
  have hpart : ps'.Sublist (ps.filter (·.applicationId = app)) :=
    hscoped.sublist (hall.filter _) fun p hp =>
      ⟨AdminSettings.grants_none_of_some hp, decide_eq_true (Permission.isOf_some_iff.1 hp.1).2⟩
  refine ⟨ps, ps', by rw [hps], by rw [hps'], hpart, fun hlinks => ?_⟩
  refine hpart.antisymm ((hall.filter _).sublist hscoped ?_)
  rintro p ⟨⟨hp, hgranted⟩, happ⟩
  obtain rfl := of_decide_eq_true happ
  exact ⟨Permission.isOf_some_iff.2 ⟨hp, rfl⟩, hgranted.narrow fun r hr => hlinks r hr p hp⟩

/-- After every history of writes, whatever the settings, the questions about an account are
answered for all applications and for one. The roles and the ranges for one application are those
for all, narrowed to it afterwards. The permissions for one application are among those for all that
are of it, and they are all of these when the account is an administrator or no role that it holds
is linked to a permission of another application than its own. The menus for one application are
among those for all. -/
theorem answers_scoped (ws : List Write) :
    ∃ store, (∅ : MemoryStore).writeAll ws = .ok store ∧
      ∀ {σ : Type} (server : Query.Server σ), server.Serves store →
      ∀ (R : Resolver) (account : AccountId) (tenant : TenantCode) (app : ApplicationId) (st st' : σ),
        (∃ roles ranges ps ps',
          ((R.roles account none tenant).serve server st).1 = .answered roles ∧
          ((R.roles account (some app) tenant).serve server st').1 =
            .answered (roles.filter (·.applicationId = app)) ∧
          ((R.ranges account none tenant).serve server st).1 = .answered ranges ∧
          ((R.ranges account (some app) tenant).serve server st').1 =
            .answered (ranges.filter (·.isOf store app)) ∧
          ((R.permissions account none tenant).serve server st).1 = .answered ps ∧
          ((R.permissions account (some app) tenant).serve server st').1 = .answered ps' ∧
          ps'.Sublist (ps.filter (·.applicationId = app)) ∧
          ((∃ a, R.settings.Identifies (Current ws) tenant account a ∧ a.admin) ∨
            (∀ r ∈ roles, ∀ p : Permission, .permission p ∈ Current ws → p.tenant = tenant →
              .permissionLink ⟨r.id, p.id, tenant⟩ ∈ Current ws →
              r.applicationId = p.applicationId) →
            ps' = ps.filter (·.applicationId = app))) ∧
        (store.levels ≤ R.levels → ∀ menuType,
          ((R.menus account menuType (some app) tenant).serve server st').1.Within
            ((R.menus account menuType none tenant).serve server st).1) := by
  obtain ⟨store, hstore, hrep⟩ := MemoryStore.exists_writeAll ws
  refine ⟨store, hstore, fun server hserver R account tenant app st st' => ?_⟩
  have h := hserver.honours hrep tenant
  refine ⟨?_, fun hlevels menuType => ?_⟩
  · obtain ⟨roles, hroles, hroles', hholds⟩ := Query.Yields.eq_filter (·.applicationId = app)
      (R.roles_yields h account none) (R.roles_yields h account (some app))
      (fun r => by rw [AdminSettings.holds_some_iff, decide_eq_true_iff]) st st'
    obtain ⟨ranges, hranges, hranges', -⟩ := Query.Yields.eq_filter (·.isOf store app)
      (R.ranges_yields h account none) (R.ranges_yields h account (some app))
      (fun r => (and_congr_right fun hr =>
        RoleRange.exists_holds_some_iff hrep hr.2).trans and_assoc.symm) st st'
    obtain ⟨ps, ps', hps, hps', hpart, heq⟩ := R.permissions_scoped h account app st st'
    refine ⟨roles, ranges, ps, ps', hroles, hroles', hranges, hranges', hps, hps', hpart,
      fun hwithin => heq fun r hr p hp hlink => ?_⟩
    rcases hwithin with ⟨a, ha, hadmin⟩ | hwithin
    · exact absurd hr (AdminSettings.not_holds_of_admin h ha hadmin)
    · exact hwithin r ((hholds r).2 hr) p hp.1.1 hp.1.2 hlink
  · have hshows := fun scope => R.menus_yields_shows h (hrep.menusWithin tenant) hlevels account
      menuType scope
    exact (hshows (some app)).within (hshows none)
      (fun m hm => hm.mono (fun _ => AdminSettings.grants_none_of_some) fun _ hrow => hrow) st' st

/-- The supervisor of the wiki has the same permissions for the wiki, whether they are narrowed to it
before or after, and no menus for the wiki but those for all applications. -/
theorem answers_scoped_wiki :
    ∃ store, (∅ : MemoryStore).writeAll (Wiki.history ⟨"acme"⟩) = .ok store ∧
      (store.reply.toServer : Query.Server Unit).Serves store ∧
      ∃ R : Resolver, R.settings = {} ∧ store.levels ≤ R.levels ∧
        (∃ ps, ((R.permissions ⟨"syssa"⟩ none ⟨"acme"⟩).serve
            (store.reply.toServer : Query.Server Unit) ()).1 = .answered ps ∧
          ((R.permissions ⟨"syssa"⟩ (some ⟨"wiki"⟩) ⟨"acme"⟩).serve
            (store.reply.toServer : Query.Server Unit) ()).1 =
            .answered (ps.filter (·.applicationId = ⟨"wiki"⟩))) ∧
        ((R.menus ⟨"syssa"⟩ none (some ⟨"wiki"⟩) ⟨"acme"⟩).serve
          (store.reply.toServer : Query.Server Unit) ()).1.Within
          ((R.menus ⟨"syssa"⟩ none none ⟨"acme"⟩).serve
            (store.reply.toServer : Query.Server Unit) ()).1 := by
  obtain ⟨store, hstore, hall⟩ := answers_scoped (Wiki.history ⟨"acme"⟩)
  obtain ⟨⟨_, _, ps, ps', -, -, -, -, hps, hps', -, heq⟩, hmenus⟩ :=
    hall (store.reply.toServer : Query.Server Unit) store.serves_reply
      { settings := {}, levels := store.levels } ⟨"syssa"⟩ ⟨"acme"⟩ ⟨"wiki"⟩ () ()
  have hadmin : ∃ a, AdminSettings.Identifies {} (Current (Wiki.history ⟨"acme"⟩)) ⟨"acme"⟩
      ⟨"syssa"⟩ a ∧ a.admin := ⟨SupervisorSettings.toAccount {} ⟨"acme"⟩, rfl, rfl⟩
  exact ⟨store, hstore, store.serves_reply, { settings := {}, levels := store.levels }, rfl, le_rfl,
    ⟨ps, hps, heq (.inl hadmin) ▸ hps'⟩, hmenus le_rfl none⟩

end TenantAccess
