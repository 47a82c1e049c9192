import Mathlib.Data.List.Nodup
import TenantAccess.Proofs.Query.Trace
import TenantAccess.Store.Outage

/-!
# The order of reads

Reads come in stages: the account, the roles, what the roles carry or the permissions, the menus,
the applications. A read is `Before` another when it is of an earlier stage, or when both are of a
stage that has many reads and they ask for different things. `Query.InOrder` says that each read of
a query is before all that follow it, whatever is replied, and `Query.Staged` moreover that the
reads are of given stages, so that queries of successive stages are in order one after the other
(`Query.Staged.bind`). That no menu is asked for twice is an invariant of the walk: a level shares
no id with those that were asked for before (`climb_asksNew`). The main statement is
`Resolver.ask_staged`.
-/

namespace TenantAccess

variable {α β σ : Type} {tenant : TenantCode}

/-- The stage of a lookup to which reads of a kind belong. -/
def ReadKind.stage : ReadKind → Nat
  | .account => 0
  | .enabledRoles => 1
  | .assignedRoles => 2
  | .linkedPermissions | .roleRanges | .permissions => 3
  | .menus => 4
  | .application => 5
  | .tenant | .applicationByCode => 6

/-- Whether a read may be made before another. No id of a menu or of an application is asked for
twice; apart from these, a stage has one read. -/
def Read.Before : Read → Read → Prop
  | .menus ids _ _, .menus ids' _ _ => ids.Disjoint ids'
  | .application id, .application id' => id ≠ id'
  | r, r' => r.kind.stage < r'.kind.stage

/-- A read of an earlier stage comes before one of a later. -/
theorem Read.Before.of_stage_lt {r r' : Read} (h : r.kind.stage < r'.kind.stage) : r.Before r' := by
  cases r <;> cases r' <;> first | exact h | exact absurd h (lt_irrefl _)

/-- Of most kinds there is one read. -/
theorem Read.Before.kind_ne {r r' : Read} (h : r.Before r') (hmenus : r.kind ≠ .menus)
    (happlication : r.kind ≠ .application) : r'.kind ≠ r.kind := by
  intro heq
  have hlt : r.kind.stage < r'.kind.stage := by
    cases r with
    | menus => exact absurd rfl hmenus
    | application => exact absurd rfl happlication
    | _ => exact h
  rw [heq] at hlt
  exact lt_irrefl _ hlt

/-- Reads in order are, but for menus and applications, at most one of each kind. -/
theorem Read.countP_kind_le_one {rs : List Read} (h : rs.Pairwise Read.Before) {kind : ReadKind}
    (hmenus : kind ≠ .menus) (happlication : kind ≠ .application) :
    rs.countP (·.kind = kind) ≤ 1 := by
  induction rs with
  | nil => exact Nat.zero_le 1
  | cons r rs ih =>
    obtain ⟨hr, hrs⟩ := List.pairwise_cons.1 h
    by_cases hkind : r.kind = kind
    · obtain rfl := hkind
      have hnone : rs.countP (·.kind = r.kind) = 0 := List.countP_eq_zero.2 fun r' hr' => by
        simpa using (hr r' hr').kind_ne hmenus happlication
      simp [hnone]
    · simpa [hkind] using ih hrs

namespace Query

/-- Each read of the query is before all that follow it, whatever is replied. -/
def InOrder : Query α → Prop
  | .answer _ | .refuse _ | .stall => True
  | .ask r next => ∀ reply, (next reply).ReadsIn r.Before ∧ (next reply).InOrder

/-- The reads of a run are in order, each before all that follow it. -/
theorem InOrder.pairwise_reads {q : Query α} (h : q.InOrder) (server : Server σ) (s : σ) :
    (q.reads server s).Pairwise Read.Before := by
  induction q generalizing s with
  | answer | refuse | stall => exact .nil
  | ask r next ih =>
    rw [reads, calls]
    rcases server r s with ⟨fault | reply, s'⟩
    · exact List.pairwise_singleton _ _
    · obtain ⟨hbefore, hnext⟩ := h reply
      exact .cons (hbefore.forall_reads server s') (ih reply hnext s')

namespace InOrder

variable {q : Query α} {f : α → Query β} {P Q : Read → Prop}

/-- A query that goes on is in order if both of its parts are, and the reads of the first come
before those of the second. -/
theorem bind (hq : q.InOrder) (hf : ∀ a, (f a).InOrder) (hP : q.ReadsIn P)
    (hQ : ∀ a, (f a).ReadsIn Q) (h : ∀ r r', P r → Q r' → r.Before r') : (q.bind f).InOrder := by
  induction q with
  | answer a => exact hf a
  | refuse | stall => trivial
  | ask r next ih =>
    obtain ⟨hr, hnext⟩ := hP
    intro reply
    obtain ⟨hbefore, hreply⟩ := hq reply
    exact ⟨hbefore.bind fun a => (hQ a).mono fun r' => h r r' hr,
      ih reply hreply (hnext reply trivial)⟩

/-- The check of the owners of rows reads nothing. -/
theorem ownRows [TenantScoped β] (noun : String) (rows : List β) :
    (ownRows noun tenant rows).InOrder := by
  rw [Query.ownRows]
  split <;> trivial

theorem ask_own [TenantScoped β] {r : Read} {noun : String} {rows : r.Reply → List β}
    {next : r.Reply → Query α} (hbefore : ∀ reply, (next reply).ReadsIn r.Before)
    (hnext : ∀ reply, (next reply).InOrder) :
    (Query.ask r fun x => (Query.ownRows noun tenant (rows x)).bind fun _ => next x).InOrder :=
  fun reply => ⟨(ReadsIn.ownRows _ _).bind fun _ => hbefore reply,
    (InOrder.ownRows _ _).bind (fun _ => hnext reply) (ReadsIn.ownRows (P := fun _ => False) _ _)
      (fun _ => hbefore reply) nofun⟩

end InOrder

/-- The reads of the query are in order, and of the stages from `lo` on and before `hi`. -/
structure Staged (lo hi : Nat) (q : Query α) : Prop where
  within : q.ReadsIn fun r => lo ≤ r.kind.stage ∧ r.kind.stage < hi
  order : q.InOrder

namespace Staged

variable {q : Query α} {lo mid hi : Nat}

theorem answer (a : α) : Staged lo hi (.answer a) := ⟨trivial, trivial⟩

theorem mono {lo' hi' : Nat} (h : Staged lo hi q) (hlo : lo' ≤ lo) (hhi : hi ≤ hi') :
    Staged lo' hi' q :=
  ⟨h.within.mono fun _ hr => ⟨hlo.trans hr.1, hr.2.trans_le hhi⟩, h.order⟩

/-- The stages of a query come before those of what it goes on with. -/
theorem bind {f : α → Query β} (hq : Staged lo mid q) (hf : ∀ a, Staged mid hi (f a))
    (hlo : lo ≤ mid) (hhi : mid ≤ hi) : Staged lo hi (q.bind f) where
  within := (hq.mono le_rfl hhi).within.bind fun a => ((hf a).mono hlo le_rfl).within
  order := hq.order.bind (fun a => (hf a).order) hq.within (fun a => (hf a).within)
    fun _ _ hr hr' => .of_stage_lt (hr.2.trans_le hr'.1)

/-- A read comes before whatever is of a later stage. -/
theorem ask {r : Read} {next : r.Reply → Query α} (hlo : lo ≤ r.kind.stage)
    (hhi : r.kind.stage < hi) (hnext : ∀ reply, Staged (r.kind.stage + 1) hi (next reply)) :
    Staged lo hi (.ask r next) where
  within := .ask ⟨hlo, hhi⟩ fun reply =>
    ((hnext reply).mono (hlo.trans (Nat.le_succ _)) le_rfl).within
  order reply := ⟨(hnext reply).within.mono fun _ hr => .of_stage_lt hr.1, (hnext reply).order⟩

/-- A read whose rows are checked for their owners before they are used. -/
theorem ask_own [TenantScoped β] {r : Read} {noun : String} {rows : r.Reply → List β}
    {next : r.Reply → Query α} (hlo : lo ≤ r.kind.stage) (hhi : r.kind.stage < hi)
    (hnext : ∀ reply, Staged (r.kind.stage + 1) hi (next reply)) :
    Staged lo hi
      (.ask r fun x => (Query.ownRows noun tenant (rows x)).bind fun _ => next x) :=
  .ask hlo hhi fun x => Staged.bind ⟨.ownRows noun (rows x), .ownRows noun (rows x)⟩
    (fun _ => hnext x) le_rfl hhi

end Staged

end Query

/-! ## The stages of a lookup -/

namespace Resolver

variable (R : Resolver)

theorem subject_staged (id : AccountId) : Query.Staged 0 1 (R.subject id tenant) := by
  by_cases h : R.settings.supervisor.owns id
  · rw [R.subject_of_owns h]
    exact .answer _
  · rw [R.subject_of_not_owns h]
    exact .ask_own le_rfl Nat.one_pos fun _ => .answer _

theorem rolesOf_staged (subject : Subject) (scope : Option ApplicationId) :
    Query.Staged 1 3 (R.rolesOf subject scope tenant) := by
  cases subject with
  | absent | inactive | supervisor | officer => exact .answer []
  | member a =>
    refine .ask_own le_rfl (by decide : 1 < 3) fun found => ?_
    cases R.settings.roleBinding with
    | application => exact .answer _
    | principal => exact .ask le_rfl (Nat.lt_succ_self 2) fun assigned => .answer _

theorem permissionsOf_staged (subject : Subject) (roles : List Role)
    (scope : Option ApplicationId) :
    Query.Staged 3 4 (permissionsOf subject roles scope tenant) := by
  have hlisted : ∀ {r : Query (List Permission)} (f : List Permission → List Permission),
      Query.Staged 3 4 r → Query.Staged 3 4 (r.bind fun ps => .answer (f ps)) := fun f hr =>
    hr.bind (fun _ => .answer _) (by decide) le_rfl
  refine permissionsOf_cases (.answer []) (fun _ keep _ => ?_) fun _ _ _ => ?_
  · exact hlisted _ (.ask_own le_rfl (Nat.lt_succ_self 3) fun _ => .answer _)
  · exact hlisted _ (.ask_own le_rfl (Nat.lt_succ_self 3) fun _ => .answer _)

theorem roles_staged (account : AccountId) (scope : Option ApplicationId) :
    Query.Staged 0 3 (R.roles account scope tenant) :=
  (R.subject_staged account).bind (fun subject => R.rolesOf_staged subject scope) (by decide)
    (by decide)

theorem permissions_staged (account : AccountId) (scope : Option ApplicationId) :
    Query.Staged 0 4 (R.permissions account scope tenant) :=
  (R.subject_staged account).bind (fun subject =>
    (R.rolesOf_staged subject scope).bind (fun roles => permissionsOf_staged subject roles scope)
      (by decide) (by decide)) (by decide) (by decide)

end Resolver

/-- The ids of the next level are none that were asked for before. -/
theorem disjoint_nextLevel (asked : List MenuId) (seen : List Menu) :
    asked.Disjoint (nextLevel asked seen) := by
  intro i hi hmem
  have hnew := (List.mem_filter.1 (mem_ascending.1 hmem)).2
  simp [hi] at hnew

/-- A level asks for menus of the type in force, each once and none that was asked for before. -/
def AsksNew (menuType : Option String) (tenant : TenantCode) (asked : List MenuId) (r : Read) :
    Prop :=
  ∃ ids : List MenuId, r = .menus ids menuType tenant ∧ ids ≠ [] ∧ ids.Nodup ∧ asked.Disjoint ids

/-- No id is asked for on two levels: each level shares none with those that were asked for before,
and so do all levels after it. -/
theorem climb_asksNew (order : Arrangement Menu) (menuType : Option String) (tenant : TenantCode)
    (levels : Nat) {level asked : List MenuId} (found : List Menu) (hlevel : level.Nodup)
    (hasked : asked.Disjoint level) :
    (climb order menuType tenant levels level asked found).ReadsIn
        (AsksNew menuType tenant asked) ∧
      (climb order menuType tenant levels level asked found).InOrder := by
  refine climb_rec (P := fun level asked walk => level.Nodup → asked.Disjoint level →
    walk.ReadsIn (AsksNew menuType tenant asked) ∧ walk.InOrder) (fun _ _ _ _ => ⟨trivial, trivial⟩)
    (fun _ _ _ _ => ⟨trivial, trivial⟩) (fun level asked next hne hnext hlevel hasked => ?_)
    order levels level asked found hlevel hasked
  have hlater : ∀ reply : List Menu, (next reply).ReadsIn
      (AsksNew menuType tenant (asked ++ level)) ∧ (next reply).InOrder := fun reply =>
    hnext reply (nodup_ascending _) (disjoint_nextLevel _ _)
  refine ⟨.ask_own ⟨level, rfl, hne, hlevel, hasked⟩ fun reply => (hlater reply).1.mono ?_,
    .ask_own (fun reply => (hlater reply).1.mono ?_) fun reply => (hlater reply).2⟩
  · rintro r ⟨ids, hr, hids, hnodup, hdisjoint⟩
    exact ⟨ids, hr, hids, hnodup, List.disjoint_of_disjoint_append_left_left hdisjoint⟩
  · rintro _ ⟨ids, rfl, -, -, hdisjoint⟩
    exact List.disjoint_of_disjoint_append_left_right hdisjoint

theorem climb_staged (order : Arrangement Menu) (menuType : Option String) (levels : Nat)
    {level : List MenuId} (hlevel : level.Nodup) :
    Query.Staged 4 5 (climb order menuType tenant levels level [] []) := by
  obtain ⟨hasks, horder⟩ := climb_asksNew order menuType tenant levels [] hlevel
    (List.disjoint_nil_left _)
  refine ⟨hasks.mono ?_, horder⟩
  rintro _ ⟨ids, rfl, -⟩
  exact ⟨le_rfl, Nat.lt_succ_self 4⟩

/-- Of the directory the applications with the ids are read. -/
theorem knownApplications_asks (ids : List ApplicationId) :
    (knownApplications ids).ReadsIn fun r => ∃ a ∈ ids, r = .application a := by
  induction ids with
  | nil => trivial
  | cons a rest ih =>
    have hrest : (knownApplications rest).ReadsIn fun r => ∃ b ∈ a :: rest, r = .application b := by
      refine ih.mono ?_
      rintro r ⟨b, hb, hr⟩
      exact ⟨b, List.mem_cons_of_mem _ hb, hr⟩
    refine .ask ⟨a, List.mem_cons_self, rfl⟩ fun found => ?_
    cases found with
    | none => exact hrest
    | some application => exact hrest.bind fun _ => trivial

theorem knownApplications_staged {ids : List ApplicationId} (h : ids.Nodup) :
    Query.Staged 5 6 (knownApplications ids) := by
  refine ⟨(knownApplications_asks ids).mono ?_, ?_⟩
  · rintro _ ⟨a, -, rfl⟩
    exact ⟨le_rfl, Nat.lt_succ_self 5⟩
  · induction ids with
    | nil => trivial
    | cons a rest ih =>
      obtain ⟨ha, hrest⟩ := List.nodup_cons.1 h
      have hbefore : (knownApplications rest).ReadsIn (Read.Before (.application a)) := by
        refine (knownApplications_asks rest).mono ?_
        rintro _ ⟨b, hb, rfl⟩ rfl
        exact ha hb
      intro found
      cases found with
      | none => exact ⟨hbefore, ih hrest⟩
      | some application => exact ⟨hbefore.bind fun _ => trivial,
        Query.InOrder.bind (f := fun as => .answer (application :: as)) (Q := fun _ => False)
          (ih hrest) (fun _ => trivial) (knownApplications_asks rest) (fun _ => trivial)
          fun _ _ _ => False.elim⟩

namespace Resolver

variable (R : Resolver)

theorem menus_staged (account : AccountId) (menuType : Option String)
    (scope : Option ApplicationId) : Query.Staged 0 5 (R.menus account menuType scope tenant) :=
  (R.permissions_staged account scope).bind (fun _ => climb_staged _ _ _ (nodup_ascending _))
    (by decide) (by decide)

theorem ranges_staged (account : AccountId) (scope : Option ApplicationId) :
    Query.Staged 0 4 (R.ranges account scope tenant) := by
  refine (R.roles_staged account scope).bind (fun roles => ?_) (by decide) (by decide)
  split
  · exact .answer []
  · exact .ask_own le_rfl (Nat.lt_succ_self 3) fun _ => .answer _

/-- The reads of a lookup are in order, whatever is replied. -/
theorem ask_staged (tenant : TenantCode) {q : Question} (hq : q.isLookup) :
    Query.Staged 0 6 (R.ask tenant q) := by
  cases q with
  | permissions account scope =>
    exact (R.permissions_staged account scope).mono le_rfl (by decide)
  | roles account scope => exact (R.roles_staged account scope).mono le_rfl (by decide)
  | ranges account scope => exact (R.ranges_staged account scope).mono le_rfl (by decide)
  | menus account menuType scope =>
    exact (R.menus_staged account menuType scope).mono le_rfl (by decide)
  | applications account menuType =>
    refine (R.menus_staged account (some menuType) none).bind (fun menus => ?_) (by decide)
      (by decide)
    exact (knownApplications_staged (nodup_ascending _)).bind (fun _ => .answer _) (by decide)
      le_rfl
  | explain account scope code =>
    refine (R.subject_staged account).bind (fun subject => ?_) (by decide) (by decide)
    refine (R.rolesOf_staged subject scope).bind (fun roles => ?_) (by decide) (by decide)
    exact (permissionsOf_staged subject roles scope).bind (fun _ => .answer _) (by decide)
      (by decide)
  | validate | authorize | credentials => cases hq

end Resolver

end TenantAccess
