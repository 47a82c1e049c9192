import TenantAccess.Proofs.Interleaving
import TenantAccess.Proofs.Isolation

/-!
# What a question may rely on

Two things hold of every question, whatever it is about. Servers that honour the same rows are not
told apart by it (`Query.Server.Honours.ask_eq`); the one that looks for an application by its code
needs that no two applications of the rows share the code. And a server of a store that represents
rows never is the reason for a refusal, and ends every walk (`Query.Server.Serves.ask_settles`):
such a server keeps to the terms to which a store keeps that others write to
(`Query.Server.Serves.keeps`).
-/

namespace TenantAccess

variable {σ σ₁ σ₂ : Type} {rows : Set Row} {tenant : TenantCode}

/-- No two applications of some rows share the code by which a question looks for one. -/
def Question.IsDefinite (rows : Set Row) (q : Question) : Prop :=
  ∀ code secret, q = .credentials code secret → ∀ a b, .application a ∈ rows →
    .application b ∈ rows → a.code = code → b.code = code → a = b

/-- Against servers that honour the same rows, every question comes to the same outcome. -/
theorem Query.Server.Honours.ask_eq {server₁ : Query.Server σ₁} {server₂ : Query.Server σ₂}
    {R₁ R₂ : Resolver} {n₁ n₂ : Nat} (h₁ : server₁.Honours tenant rows)
    (h₂ : server₂.Honours tenant rows) (hsettings : R₁.settings = R₂.settings)
    (hn₁ : MenusWithin rows tenant n₁) (hn₂ : MenusWithin rows tenant n₂)
    (hlevels₁ : n₁ < R₁.levels) (hlevels₂ : n₂ < R₂.levels) {q : Question}
    (hq : q.IsDefinite rows) (s₁ : σ₁) (s₂ : σ₂) :
    ((R₁.ask tenant q).serve server₁ s₁).1 = ((R₂.ask tenant q).serve server₂ s₂).1 := by
  by_cases hcredentials : ∃ code secret, q = .credentials code secret
  · obtain ⟨code, secret, rfl⟩ := hcredentials
    obtain ⟨x, hx, hxfits⟩ := h₁.reply (.applicationByCode code) rfl s₁
    obtain ⟨y, hy, hyfits⟩ := h₂.reply (.applicationByCode code) rfl s₂
    refine applicationByCredentials_congr ?_ secret
    rw [hx, hy, hxfits.applicationByCode_eq (hq code secret rfl) hyfits]
  · refine Resolver.ask_agree h₁ h₂ hsettings hn₁ hn₂ hlevels₁ hlevels₂ q ?_ s₁ s₂
    exact fun code secret heq => hcredentials ⟨code, secret, heq⟩

/-- Against stores whose rows agree on everything that concerns a tenant, every question within the
tenant comes to the same outcome. -/
theorem Query.Server.Serves.ask_eq_of_agree {server₁ : Query.Server σ₁} {server₂ : Query.Server σ₂}
    {store₁ store₂ : MemoryStore} {rows₁ rows₂ : Set Row} {R₁ R₂ : Resolver}
    (h₁ : server₁.Serves store₁) (h₂ : server₂.Serves store₂) (hrep₁ : store₁.Represents rows₁)
    (hrep₂ : store₂.Represents rows₂)
    (hagree : ∀ row : Row, row.place.concerns tenant → (row ∈ rows₂ ↔ row ∈ rows₁))
    (hsettings : R₁.settings = R₂.settings) (hlevels₁ : store₁.levels ≤ R₁.levels)
    (hlevels₂ : store₂.levels ≤ R₂.levels) {q : Question} (hq : q.IsDefinite rows₁)
    (s₁ : σ₁) (s₂ : σ₂) :
    ((R₁.ask tenant q).serve server₁ s₁).1 = ((R₂.ask tenant q).serve server₂ s₂).1 :=
  (h₁.honours hrep₁ tenant).ask_eq ((h₂.honours hrep₂ tenant).congr hagree hrep₁.place_inj)
    hsettings (hrep₁.menusWithin tenant) ((hrep₂.menusWithin tenant).congr hagree) hlevels₁ hlevels₂
    hq s₁ s₂

/-- Where the applications stand in the same order, a code and a secret stand for the same, also when
several applications share the code. -/
theorem MemoryStore.run_applicationByCredentials_eq {store store' : MemoryStore}
    (h : store'.applications = store.applications) (code secret : String) :
    (applicationByCredentials code secret).run store'.reply =
      (applicationByCredentials code secret).run store.reply := by
  rw [Query.run_eq_serve _ _ (), Query.run_eq_serve _ _ ()]
  refine applicationByCredentials_congr ?_ secret
  rw [Query.Backend.toServer, Query.Backend.toServer, reply, reply, h]

/-- A server of a store keeps to the terms of a store that others write to. -/
theorem Query.Server.Serves.keeps {server : Query.Server σ} {store : MemoryStore}
    (hserver : server.Serves store) (hrep : store.Represents rows) {parents : Finset MenuId}
    (hparents : Interleaved.ParentsIn parents rows) (levels : Nat) :
    server.Keeps (Interleaved.terms tenant parents levels) fun _ => True where
  honest r st reply hr _ hreply := by
    obtain ⟨x, hx, hfits⟩ := hserver.exists_reply hrep r st
    obtain rfl : x = reply := Except.ok.inj (hx.symm.trans hreply)
    exact ⟨hfits.clean hr, fun m hm => hparents m (hfits.mem_and_own hm).1⟩
  fault r st fault _ _ hfault := by
    obtain ⟨x, hx, -⟩ := hserver.exists_reply hrep r st
    rw [hx] at hfault
    cases hfault
  next _ _ _ _ := trivial

/-- A question that is put to a store is not refused because of the store, and it ends. -/
theorem Query.Server.Serves.ask_settles {server : Query.Server σ} {store : MemoryStore}
    (hserver : server.Serves store) (hrep : store.Represents rows) (R : Resolver)
    (tenant : TenantCode) (q : Question) (s : σ) :
    (∀ fault, ((R.ask tenant q).serve server s).1 ≠ .refused (.store fault)) ∧
      (store.levels ≤ R.levels → ((R.ask tenant q).serve server s).1 ≠ .stalled) := by
  let st : Interleaved := ⟨store, []⟩
  have htracks : st.Tracks (Interleaved.ParentsIn st.parents) (Interleaved.PutsIn st.parents) :=
    Interleaved.tracks_parents hrep
  obtain ⟨rows', hrep', hparents⟩ := htracks.represents
  have hcard : st.parents.card ≤ store.menus.rows.size := st.card_parents_le
  have hlevels : (Interleaved.terms tenant st.parents R.levels).stalls ∨
      (Interleaved.terms tenant st.parents R.levels).Bounds st.parents ∧
        st.parents.card < R.levels := by
    by_cases hlt : st.parents.card < R.levels
    · exact .inr ⟨fun r reply hreply => hreply.2, hlt⟩
    · exact .inl hlt
  have hallows := (R.ask_ensures (Interleaved.admissible_terms tenant st.parents R.levels) q
    hlevels).serve (hserver.keeps hrep' hparents R.levels) (s := s) trivial
  refine ⟨fun fault heq => ?_, fun hle heq => ?_⟩
  · rw [heq] at hallows
    exact hallows fault rfl
  · rw [heq] at hallows
    refine hallows ?_
    rw [MemoryStore.levels] at hle
    omega

end TenantAccess
