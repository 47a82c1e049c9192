import TenantAccess.Proofs.Visibility
import TenantAccess.Resolver.Question

/-!
# Tenants do not interfere

Two servers that honour the same rows for a tenant are not told apart by the tenant's questions,
even when they reply in different orders and the two resolvers arrange their collections
differently: every lookup yields the one listing that its rows determine, so two runs agree
(`Query.Agree`) on each lookup, and then on everything that is made of lookups. `Resolver.ask_agree`
says it of every question at once. What a tenant's rows are depends on the writes of the tenant and
of applications only, so the main statement `ask_eq_of_filter_eq` compares two histories that have
these in common, whatever else they write.
-/

namespace TenantAccess

variable {σ₁ σ₂ : Type} {server₁ : Query.Server σ₁} {server₂ : Query.Server σ₂} {rows : Set Row}
  {tenant : TenantCode}

/-! ## The directory -/

section
variable (h₁ : server₁.Honours tenant rows) (h₂ : server₂.Honours tenant rows)
include h₁ h₂

/-- The tenant's own directory entry is read alike. -/
theorem agree_readTenant :
    Query.Agree server₁ server₂ (Query.read (.tenant tenant)) (Query.read (.tenant tenant)) := by
  refine .of_yields (h₁.read _ (decide_eq_true rfl)) (h₂.read _ (decide_eq_true rfl))
    fun a b ha hb => Option.ext fun t => ?_
  exact (ha t).trans (hb t).symm

/-- An application is read alike. -/
theorem agree_readApplication (id : ApplicationId) :
    Query.Agree server₁ server₂ (Query.read (.application id)) (Query.read (.application id)) := by
  refine .of_yields (h₁.read _ rfl) (h₂.read _ rfl) fun a b ha hb => Option.ext fun t => ?_
  exact (ha t).trans (hb t).symm

theorem knownApplications_agree (ids : List ApplicationId) :
    Query.Agree server₁ server₂ (knownApplications ids) (knownApplications ids) := by
  induction ids with
  | nil => exact .answer []
  | cons id rest ih =>
    refine (agree_readApplication h₁ h₂ id).bind fun found => ?_
    cases found with
    | none => exact ih
    | some a => exact ih.bind fun applications => .answer (a :: applications)

theorem validateApplication_agree (application : ApplicationId) :
    Query.Agree server₁ server₂ (validateApplication application tenant)
      (validateApplication application tenant) := by
  refine (agree_readTenant h₁ h₂).bind fun found => ?_
  cases found with
  | none => exact .refuse _
  | some t =>
    show Query.Agree server₁ server₂ (ite ..) (ite ..)
    split
    · exact .refuse _
    cases t.lease? application with
    | none => exact .refuse _
    | some lease =>
      show Query.Agree server₁ server₂ (ite ..) (ite ..)
      split
      · exact .refuse _
      refine (agree_readApplication h₁ h₂ lease.applicationId).bind fun found => ?_
      cases found with
      | none => exact .refuse _
      | some a =>
        show Query.Agree server₁ server₂ (ite ..) (ite ..)
        split
        · exact .refuse _
        · exact .answer ()

end

/-! ## Questions -/

section
variable {R₁ R₂ : Resolver} {n₁ n₂ : Nat}
  (h₁ : server₁.Honours tenant rows) (h₂ : server₂.Honours tenant rows)
  (hsettings : R₁.settings = R₂.settings)
include h₁ h₂ hsettings

namespace Resolver

theorem subject_agree (id : AccountId) :
    Query.Agree server₁ server₂ (R₁.subject id tenant) (R₂.subject id tenant) := by
  have hyields := R₂.subject_yields h₂ id
  rw [← hsettings] at hyields
  exact .of_yields (R₁.subject_yields h₁ id) hyields fun _ _ => AdminSettings.IsSubject.unique h₁

theorem rolesOf_agree (subject : Subject) (scope : Option ApplicationId) :
    Query.Agree server₁ server₂ (R₁.rolesOf subject scope tenant)
      (R₂.rolesOf subject scope tenant) := by
  have hyields := R₂.rolesOf_yields h₂ subject scope
  rw [← hsettings] at hyields
  exact .of_yields (R₁.rolesOf_yields h₁ subject scope) hyields fun _ _ => IsListing.unique

theorem permissions_agree (account : AccountId) (scope : Option ApplicationId) :
    Query.Agree server₁ server₂ (R₁.permissions account scope tenant)
      (R₂.permissions account scope tenant) := by
  have hyields := R₂.permissions_yields h₂ account scope
  rw [← hsettings] at hyields
  exact .of_yields (R₁.permissions_yields h₁ account scope) hyields fun _ _ => IsListing.unique

theorem ranges_agree (account : AccountId) (scope : Option ApplicationId) :
    Query.Agree server₁ server₂ (R₁.ranges account scope tenant)
      (R₂.ranges account scope tenant) := by
  have hyields := R₂.ranges_yields h₂ account scope
  rw [← hsettings] at hyields
  exact .of_yields (R₁.ranges_yields h₁ account scope) hyields fun _ _ => IsListing.unique

variable (hn₁ : MenusWithin rows tenant n₁) (hn₂ : MenusWithin rows tenant n₂)
  (hlevels₁ : n₁ < R₁.levels) (hlevels₂ : n₂ < R₂.levels)
include hn₁ hn₂ hlevels₁ hlevels₂

theorem menus_agree (account : AccountId) (menuType : Option String)
    (scope : Option ApplicationId) :
    Query.Agree server₁ server₂ (R₁.menus account menuType scope tenant)
      (R₂.menus account menuType scope tenant) := by
  refine (permissions_agree h₁ h₂ hsettings account scope).bind fun ps => ?_
  exact .of_yields (R₁.menusAbove_yields h₁ hn₁ hlevels₁ _ menuType)
    (R₂.menusAbove_yields h₂ hn₂ hlevels₂ _ menuType) fun _ _ => IsListing.unique

/-- The two resolvers come to the same outcome for every question within the tenant, but for the one
that looks an application up by its code, which several may share. -/
theorem ask_agree (q : Question) (hq : ∀ code secret, q ≠ .credentials code secret) :
    Query.Agree server₁ server₂ (R₁.ask tenant q) (R₂.ask tenant q) := by
  have hmenus : ∀ account menuType scope, Query.Agree server₁ server₂
      (R₁.menus account menuType scope tenant) (R₂.menus account menuType scope tenant) :=
    menus_agree h₁ h₂ hsettings hn₁ hn₂ hlevels₁ hlevels₂
  cases q with
  | permissions account scope => exact permissions_agree h₁ h₂ hsettings account scope
  | roles account scope =>
    exact (subject_agree h₁ h₂ hsettings account).bind fun subject =>
      rolesOf_agree h₁ h₂ hsettings subject scope
  | ranges account scope => exact ranges_agree h₁ h₂ hsettings account scope
  | menus account menuType scope => exact hmenus account menuType scope
  | applications account menuType =>
    refine (hmenus account (some menuType) none).bind fun ms => ?_
    exact (knownApplications_agree h₁ h₂ _).bind fun applications => .answer _
  | validate application => exact validateApplication_agree h₁ h₂ application
  | authorize account application code =>
    refine (validateApplication_agree h₁ h₂ application).bind fun _ => ?_
    refine (permissions_agree h₁ h₂ hsettings account (some application)).bind fun ps => ?_
    split
    · exact .answer ()
    · exact .refuse _
  | explain account scope code =>
    refine (subject_agree h₁ h₂ hsettings account).bind fun subject => ?_
    refine (rolesOf_agree h₁ h₂ hsettings subject scope).bind fun roles => ?_
    refine Query.Agree.bind ?_ fun ps => .answer _
    exact .of_yields (permissionsOf_yields h₁ subject roles scope)
      (permissionsOf_yields h₂ subject roles scope) fun _ _ => IsListing.unique
  | credentials code secret => exact absurd rfl (hq code secret)

end Resolver

end

/-- How many levels a walk may take makes no difference to the outcome as long as the store bounds
it. -/
theorem Resolver.ask_with_levels {σ : Type} {server : Query.Server σ} {store : MemoryStore}
    (hserver : server.Serves store) (hrep : store.Represents rows) {R : Resolver} {levels : Nat}
    (hR : store.levels ≤ R.levels) (hlevels : store.levels ≤ levels) (q : Question)
    (hq : ∀ code secret, q ≠ .credentials code secret) (st : σ) :
    (({ R with levels }.ask tenant q).serve server st).1 =
      ((R.ask tenant q).serve server st).1 := by
  have hsettings : ({ R with levels } : Resolver).settings = R.settings := rfl
  have hhonours := hserver.honours hrep tenant
  have hmenus := hrep.menusWithin tenant
  exact ask_agree hhonours hhonours hsettings hmenus hmenus hlevels hR q hq st st

/-! ## Histories -/

/-- Two histories that have the writes of a tenant and the writes of applications in common are not
told apart by any question within the tenant: whatever they write for others, in whatever order the
tables and the collections on the way are walked, the outcome is the same. -/
theorem ask_eq_of_filter_eq (R₁ R₂ : Resolver) {ws₁ ws₂ : List Write} {store₁ store₂ : MemoryStore}
    (hown : ws₁.filter (Write.isOf tenant) = ws₂.filter (Write.isOf tenant))
    (happ : ws₁.filter Write.putsApplication = ws₂.filter Write.putsApplication)
    (hstore₁ : (∅ : MemoryStore).writeAll ws₁ = .ok store₁)
    (hstore₂ : (∅ : MemoryStore).writeAll ws₂ = .ok store₂)
    (hserver₁ : server₁.Serves store₁) (hserver₂ : server₂.Serves store₂)
    (hsettings : R₁.settings = R₂.settings)
    (hlevels₁ : store₁.levels ≤ R₁.levels) (hlevels₂ : store₂.levels ≤ R₂.levels)
    (q : Question) (hq : ∀ code secret, q ≠ .credentials code secret) (st₁ : σ₁) (st₂ : σ₂) :
    ((R₁.ask tenant q).serve server₁ st₁).1 = ((R₂.ask tenant q).serve server₂ st₂).1 := by
  obtain ⟨store, hstore, hrep₁⟩ := MemoryStore.exists_writeAll ws₁
  obtain rfl : store₁ = store := Except.ok.inj (hstore₁.symm.trans hstore)
  obtain ⟨store, hstore, hrep₂⟩ := MemoryStore.exists_writeAll ws₂
  obtain rfl : store₂ = store := Except.ok.inj (hstore₂.symm.trans hstore)
  have hagree : ∀ row : Row, row.place.concerns tenant →
      (row ∈ Current ws₂ ↔ row ∈ Current ws₁) :=
    fun row hrow => (mem_current_iff_of_filter_eq hown happ hrow).symm
  -- the second server is moved over to the rows of the first history
  have h₂ : server₂.Honours tenant (Current ws₁) :=
    (hserver₂.honours hrep₂ tenant).congr hagree hrep₁.place_inj
  have hn₂ : MenusWithin (Current ws₁) tenant store₂.menus.rows.size :=
    (hrep₂.menusWithin tenant).congr hagree
  exact Resolver.ask_agree (hserver₁.honours hrep₁ tenant) h₂ hsettings
    (hrep₁.menusWithin tenant) hn₂ hlevels₁ hlevels₂ q hq st₁ st₂

/-- Ann is told which menus she sees, and nothing of a second tenant with the same ids, whose rows
were written and cleared around hers. -/
theorem ask_eq_of_filter_eq_wiki : ∃ store₁ store₂,
    (∅ : MemoryStore).writeAll (Wiki.history ⟨"acme"⟩) = .ok store₁ ∧
    (∅ : MemoryStore).writeAll
      (Wiki.history ⟨"rival"⟩ ++ Wiki.history ⟨"acme"⟩ ++ [.clearTenant ⟨"rival"⟩]) = .ok store₂ ∧
    ((Resolver.ask { settings := {}, levels := store₁.levels } ⟨"acme"⟩
      (.menus ⟨"ann"⟩ none none)).serve (store₁.reply.toServer : Query.Server Unit) ()).1 =
    ((Resolver.ask { settings := {}, levels := store₂.levels,
                     menuOrder := ⟨List.reverse, List.reverse_perm⟩ } ⟨"acme"⟩
      (.menus ⟨"ann"⟩ none none)).serve (store₂.reply.toServer : Query.Server Unit) ()).1 := by
  obtain ⟨store₁, hstore₁, -⟩ := MemoryStore.exists_writeAll (Wiki.history ⟨"acme"⟩)
  obtain ⟨store₂, hstore₂, -⟩ := MemoryStore.exists_writeAll
    (Wiki.history ⟨"rival"⟩ ++ Wiki.history ⟨"acme"⟩ ++ [.clearTenant ⟨"rival"⟩])
  have hown : (Wiki.history ⟨"acme"⟩).filter (Write.isOf ⟨"acme"⟩) =
      (Wiki.history ⟨"rival"⟩ ++ Wiki.history ⟨"acme"⟩ ++ [Write.clearTenant ⟨"rival"⟩]).filter
        (Write.isOf ⟨"acme"⟩) := by decide
  have happ : (Wiki.history ⟨"acme"⟩).filter Write.putsApplication =
      (Wiki.history ⟨"rival"⟩ ++ Wiki.history ⟨"acme"⟩ ++ [Write.clearTenant ⟨"rival"⟩]).filter
        Write.putsApplication := by decide
  have hserver₁ : (store₁.reply.toServer : Query.Server Unit).Serves store₁ := store₁.serves_reply
  have hserver₂ : (store₂.reply.toServer : Query.Server Unit).Serves store₂ := store₂.serves_reply
  refine ⟨store₁, store₂, hstore₁, hstore₂, ?_⟩
  exact ask_eq_of_filter_eq { settings := {}, levels := store₁.levels }
    { settings := {}, levels := store₂.levels, menuOrder := ⟨List.reverse, List.reverse_perm⟩ }
    hown happ hstore₁ hstore₂ hserver₁ hserver₂ rfl le_rfl le_rfl (.menus ⟨"ann"⟩ none none)
    (by simp) () ()

end TenantAccess
