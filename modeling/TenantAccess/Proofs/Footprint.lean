import TenantAccess.Proofs.Discipline

/-!
# What an outcome depends on

A run regards the rows that its reads regard, and no others. Servers of different rows are not told
apart by a question when the rows agree on all that its run against one of the servers regards
(`Query.Server.Honours.ask_eq_of_reads`): where the run reads nothing, the one server may as well
reply as the other does. What a run reads is known from the discipline of reads: a question that is
not about an account is answered from the directory (`Resolver.ask_readsIn_directory`), and
assignments are read for the account that a question is about
(`Query.Server.Honours.of_mem_reads_assignedRoles`).
-/

namespace TenantAccess

variable {σ σ₁ σ₂ : Type} {rows rows₁ rows₂ : Set Row} {tenant : TenantCode} {q : Question}

/-- Rows agree on all that a read regards. -/
def Read.AgreesOn (r : Read) (rows₁ rows₂ : Set Row) : Prop :=
  ∀ row, r.Regards row → (row ∈ rows₁ ↔ row ∈ rows₂)

/-- A server that replies to the reads with a property; to all others a backend replies. -/
def Query.Server.orElse (server : Query.Server σ) (P : Read → Prop) [DecidablePred P]
    (backend : Query.Backend) : Query.Server σ := fun r s =>
  if P r then server r s else (backend r, s)

/-- A server may reply for another where their rows agree. -/
theorem Query.Server.Honours.orElse {server₁ : Query.Server σ₁} {server₂ : Query.Server σ₂}
    (h₁ : server₁.Honours tenant rows₁) (h₂ : server₂.Honours tenant rows₂) {P : Read → Prop}
    [DecidablePred P] (hP : ∀ r, P r → r.concerns tenant → r.AgreesOn rows₁ rows₂) (s₂ : σ₂) :
    (server₁.orElse P fun r => (server₂ r s₂).1).Honours tenant rows₂ where
  place_inj := h₂.place_inj
  reply r hr st := by
    rw [Query.Server.orElse]
    split
    · rename_i hagrees
      obtain ⟨reply, hreply, hfits⟩ := h₁.reply r hr st
      exact ⟨reply, hreply, hfits.congr_of_regards (hP r hagrees hr)⟩
    · exact h₂.reply r hr s₂

/-- Against servers whose rows agree on all that the run against one of them regards, a question
comes to the same. -/
theorem Query.Server.Honours.ask_eq_of_reads {server₁ : Query.Server σ₁} {server₂ : Query.Server σ₂}
    {R₁ R₂ : Resolver} {n₁ n₂ : Nat} {s₁ : σ₁} {s₂ : σ₂} (h₁ : server₁.Honours tenant rows₁)
    (h₂ : server₂.Honours tenant rows₂) (hsettings : R₁.settings = R₂.settings)
    (hn₁ : MenusWithin rows₂ tenant n₁) (hn₂ : MenusWithin rows₂ tenant n₂)
    (hlevels₁ : n₁ < R₁.levels) (hlevels₂ : n₂ < R₂.levels) (hq : q.IsDefinite rows₂)
    (hreads : ∀ r ∈ (R₁.ask tenant q).reads server₁ s₁, r.concerns tenant →
      r.AgreesOn rows₁ rows₂) :
    ((R₁.ask tenant q).serve server₁ s₁).1 = ((R₂.ask tenant q).serve server₂ s₂).1 := by
  classical
  have hother := h₁.orElse h₂ (P := fun r => r.concerns tenant → r.AgreesOn rows₁ rows₂)
    (fun _ hr => hr) s₂
  rw [← hother.ask_eq h₂ hsettings hn₁ hn₂ hlevels₁ hlevels₂ hq s₁ s₂]
  refine congrArg Prod.fst (Eq.symm ?_)
  exact Query.serve_congr_of_reads fun r hr => funext fun st => if_pos (hreads r hr)

/-- Fewer menus are within the same number. -/
theorem MenusWithin.mono {n : Nat} (h : MenusWithin rows₂ tenant n)
    (hmenus : ∀ m, Row.menu m ∈ rows₁ → .menu m ∈ rows₂) : MenusWithin rows₁ tenant n :=
  fun menus hmem => h menus fun m hm => ⟨hmenus m (hmem m hm).1, (hmem m hm).2⟩

/-! ## What is read for a question -/

/-- A read of the directory regards no rows of the tables. -/
theorem Read.owner?_eq_none_of_regards {r : Read} (hr : r.isDirectory) {row : Row}
    (h : r.Regards row) : row.place.owner? = none := by
  cases r with
  | tenant | application | applicationByCode =>
    cases row with
    | tenant | application => rfl
    | _ => exact h.elim
  | _ => cases hr

section
variable {R : Resolver} {server : Query.Server σ} {s : σ}

/-- A question that is not about an account is answered from the directory. -/
theorem Resolver.ask_readsIn_directory (hq : q.account? = none) :
    (R.ask tenant q).ReadsIn (·.isDirectory) := by
  cases q with
  | validate application => exact Resolver.validateApplication_readsIn application
  | credentials code secret => exact Resolver.applicationByCredentials_readsIn code secret
  | permissions | roles | ranges | menus | applications | authorize | explain => cases hq

/-- Every lookup is about an account. -/
theorem Question.exists_account (h : q.isLookup) : ∃ id, q.account? = some id := by
  cases q with
  | validate | authorize | credentials => cases h
  | permissions | roles | ranges | menus | applications | explain => exact ⟨_, rfl⟩

/-- What is read for a question about an account is of the directory or may be read for a
question. -/
theorem Resolver.exists_mayRead {r : Read} (h : r ∈ (R.ask tenant q).reads server s) :
    r.isDirectory ∨ ∃ q' id s', q.account? = some id ∧ R.MayRead server s' tenant q' id r := by
  by_cases hlookup : q.isLookup
  · obtain ⟨id, hid⟩ := Question.exists_account hlookup
    exact .inr ⟨q, id, s, hid, R.ask_mayRead hlookup hid r h⟩
  · cases q with
    | validate | credentials => exact .inl ((ask_readsIn_directory rfl).forall_reads server s r h)
    | permissions | roles | ranges | menus | applications | explain => exact absurd rfl hlookup
    | authorize account application code =>
      rcases Query.mem_reads_bind h with h | ⟨_, s', -, h⟩
      · exact .inl ((validateApplication_readsIn application).forall_reads server s r h)
      rcases Query.mem_reads_bind h with h | ⟨ps, _, -, h⟩
      · exact .inr ⟨.authorize account application code, account, s', rfl,
          R.permissions_mayRead (q := .authorize account application code) rfl r h⟩
      · split at h <;> cases h

/-- Against a server that honours rows, an id stands for an account with that id. -/
theorem Query.Server.Honours.id_eq_of_finds (h : server.Honours tenant rows) {id : AccountId}
    {a : Account} (ha : R.Finds server s tenant id a) : a.id = id := by
  rw [Resolver.Finds] at ha
  split at ha
  · rename_i howns
    rw [ha, SupervisorSettings.toAccount, of_decide_eq_true howns]
  · obtain ⟨reply, hreply, hfits⟩ := h.reply (.account id tenant) (decide_eq_true rfl) s
    obtain rfl : reply = some a := Except.ok.inj (hreply.symm.trans ha)
    exact ((hfits a).1 rfl).2

/-- Assignments are read where roles are assigned, and for the account that a question is about. -/
theorem Query.Server.Honours.of_mem_reads_assignedRoles (h : server.Honours tenant rows)
    {holder : Principal} {t : TenantCode}
    (hr : .assignedRoles holder t ∈ (R.ask tenant q).reads server s) :
    R.settings.roleBinding = .principal ∧
      ∃ id, q.account? = some id ∧ holder = .ofAccount id := by
  obtain hdirectory | ⟨q', id, s', hid, hmay⟩ := Resolver.exists_mayRead hr
  · cases hdirectory
  · cases hmay with
    | assignedRoles ha hbinding =>
      exact ⟨hbinding, id, hid, by rw [← h.id_eq_of_finds ha.finds]; rfl⟩

end

end TenantAccess
