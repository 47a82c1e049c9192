import TenantAccess.Proofs.Footprint

/-!
# A cleared tenant starts afresh

Clearing a tenant takes its rows out of every table. What is left for the tenant to look at is the
directory, as in a fresh store that was filled with the same entries of tenants and applications
(`MemoryStore.directory`). Whether a row is stored after some writes depends on that row alone, so
the two stores stay alike for the tenant whatever is written later: no row that was cleared comes
back because a role or a permission is written again under an old id. All other tenants keep what
they had, and so do all who look into the directory only. The main statement is
`clearTenant_starts_afresh`.
-/

namespace TenantAccess

variable {rows : Set Row} {tenant gone : TenantCode} {row : Row}

/-- A fresh store with the entries of the directory of another. -/
def MemoryStore.directory (s : MemoryStore) : MemoryStore :=
  { tenants := s.tenants, applications := s.applications }

/-- It represents the rows of the directory. -/
theorem MemoryStore.Represents.directory {s : MemoryStore} (h : s.Represents rows) :
    s.directory.Represents {row ∈ rows | row.place.owner? = none} where
  intact := {}
  rowAt?_eq_some p row := by
    have hdirectory : p.owner? = none → (row ∈ rows ∧ row.place = p ↔
        row ∈ {row ∈ rows | row.place.owner? = none} ∧ row.place = p) := fun hnone =>
      and_congr_left fun hplace => (and_iff_left (hplace ▸ hnone)).symm
    cases p with
    | tenant code => exact (h.rowAt?_eq_some (.tenant code) row).trans (hdirectory rfl)
    | application id => exact (h.rowAt?_eq_some (.application id) row).trans (hdirectory rfl)
    | account | role | permissionLink | roleAssignment | roleRange | menu | permission =>
      refine iff_of_false nofun ?_
      rintro ⟨⟨-, howner⟩, hplace⟩
      rw [hplace] at howner
      cases howner

/-- Where a tenant may look there are its own rows and the directory. -/
theorem Place.owner?_of_concerns {p : Place} (h : p.concerns tenant) :
    p.owner? = none ∨ p.owner? = some tenant := by
  cases p <;> simp_all [Place.concerns, Place.isOf, Place.isApplication, Place.owner?,
    Place.partition?]

/-- After a tenant was cleared, the rows are those that are not in its part of the tables. -/
theorem Write.mem_after_clearTenant_iff :
    row ∈ (Write.clearTenant gone).after rows ↔ row ∈ rows ∧ row.place.owner? ≠ some gone :=
  or_iff_right nofun

/-- For the cleared tenant only the directory is left, -/
theorem Write.mem_after_clearTenant_of_concerns (h : row.place.concerns gone) :
    row ∈ (Write.clearTenant gone).after rows ↔
      row ∈ {row ∈ rows | row.place.owner? = none} := by
  rw [Write.mem_after_clearTenant_iff, Set.mem_ofPred_eq]
  refine and_congr_right fun _ => ⟨fun hne => ?_, fun hnone heq => ?_⟩
  · exact (Place.owner?_of_concerns h).resolve_right hne
  · rw [hnone] at heq
    cases heq

/-- for another tenant nothing has changed. -/
theorem Write.mem_after_clearTenant_of_ne (hne : tenant ≠ gone) (h : row.place.concerns tenant) :
    row ∈ (Write.clearTenant gone).after rows ↔ row ∈ rows := by
  refine Write.mem_after_clearTenant_iff.trans (and_iff_left ?_)
  rcases Place.owner?_of_concerns h with howner | howner <;> rw [howner]
  · nofun
  · exact fun heq => hne (Option.some.inj heq)

/-- After every history of writes, when a tenant is cleared:

* whatever is written afterwards, every question within the tenant comes to the same outcome as if
  the same had been written into a fresh store with the same directory;
* every question within another tenant and, in every tenant, every question that is not about an
  account comes to the same outcome as before.

A question that looks an application up by a code needs that no two applications share it; where
the store is walked as it is, the outcome of this question is the same as before in any case. -/
theorem clearTenant_starts_afresh (ws : List Write) (gone : TenantCode) :
    ∃ store cleared, (∅ : MemoryStore).writeAll ws = .ok store ∧
      store.write (.clearTenant gone) = .ok cleared ∧
      (∀ later : List Write, ∃ store₁ store₂,
        cleared.writeAll later = .ok store₁ ∧ store.directory.writeAll later = .ok store₂ ∧
        ∀ {σ₁ σ₂ : Type} (server₁ : Query.Server σ₁) (server₂ : Query.Server σ₂),
          server₁.Serves store₁ → server₂.Serves store₂ →
        ∀ R₁ R₂ : Resolver, R₁.settings = R₂.settings →
          store₁.levels ≤ R₁.levels → store₂.levels ≤ R₂.levels →
        ∀ q : Question, q.IsDefinite (Current (ws ++ .clearTenant gone :: later)) →
        ∀ (st₁ : σ₁) (st₂ : σ₂),
          ((R₁.ask gone q).serve server₁ st₁).1 = ((R₂.ask gone q).serve server₂ st₂).1) ∧
      (∀ {σ σ' : Type} (server : Query.Server σ) (server' : Query.Server σ'),
        server.Serves store → server'.Serves cleared →
        ∀ R R' : Resolver, R'.settings = R.settings →
          store.levels ≤ R.levels → cleared.levels ≤ R'.levels →
        ∀ (tenant : TenantCode) (q : Question), tenant ≠ gone ∨ q.account? = none →
          q.IsDefinite (Current ws) → ∀ (st : σ) (st' : σ'),
          ((R'.ask tenant q).serve server' st').1 = ((R.ask tenant q).serve server st).1) ∧
      ∀ code secret, (applicationByCredentials code secret).run cleared.reply =
        (applicationByCredentials code secret).run store.reply := by
  obtain ⟨store, hstore, hrep⟩ := MemoryStore.exists_writeAll ws
  obtain ⟨cleared, hcleared, hrep'⟩ := hrep.write (.clearTenant gone)
  refine ⟨store, cleared, hstore, hcleared, fun later => ?_, ?_, ?_⟩
  · obtain ⟨store₁, hstore₁, hrep₁⟩ := hrep'.writeAll later
    obtain ⟨store₂, hstore₂, hrep₂⟩ := hrep.directory.writeAll later
    refine ⟨store₁, store₂, hstore₁, hstore₂, ?_⟩
    intro σ₁ σ₂ server₁ server₂ hserver₁ hserver₂ R₁ R₂ hsettings hlevels₁ hlevels₂ q hq st₁ st₂
    rw [current_append, List.foldl_cons] at hq
    refine hserver₁.ask_eq_of_agree hserver₂ hrep₁ hrep₂ (fun row hrow => ?_) hsettings hlevels₁
      hlevels₂ hq st₁ st₂
    exact mem_foldl_after_congr later (Write.mem_after_clearTenant_of_concerns hrow).symm
  · intro σ σ' server server' hserver hserver' R R' hsettings hlevels hlevels' tenant q hapart hq
      st st'
    rcases hapart with hne | haccount
    · exact (hserver.ask_eq_of_agree hserver' hrep hrep'
        (fun row hrow => Write.mem_after_clearTenant_of_ne hne hrow) hsettings.symm hlevels hlevels'
        hq st st').symm
    · have hsub : ∀ row ∈ (Write.clearTenant gone).after (Current ws), row ∈ Current ws :=
        fun row hrow => (Write.mem_after_clearTenant_iff.1 hrow).1
      refine ((hserver.honours hrep tenant).ask_eq_of_reads (hserver'.honours hrep' tenant)
        hsettings.symm ((hrep.menusWithin tenant).mono fun m => hsub (.menu m))
        (hrep'.menusWithin tenant) hlevels hlevels' (fun code secret heq a b ha hb =>
          hq code secret heq a b (hsub _ ha) (hsub _ hb)) fun r hr _ row hrow => ?_).symm
      -- the directory is not cleared
      have hdirectory := (R.ask_readsIn_directory haccount).forall_reads server st r hr
      refine (Write.mem_after_clearTenant_iff.trans (and_iff_left ?_)).symm
      rw [r.owner?_eq_none_of_regards hdirectory hrow]
      nofun
  · exact MemoryStore.run_applicationByCredentials_eq (MemoryStore.applications_write hcleared)

/-- Writes that bring Ann, her role and its permission back, but neither the link nor the
assignment. -/
def Wiki.restored : List Write :=
  [.put (.account (ann ⟨"acme"⟩)), .put (.role (reader ⟨"acme"⟩)),
    .put (.permission (readPage ⟨"acme"⟩))]

/-- When Ann's tenant is cleared and the rows of her, of the role and of the permission are written
again, she holds what she would hold in a fresh store; and another tenant notices nothing. -/
theorem clearTenant_starts_afresh_wiki :
    ∃ store cleared store₁ store₂, (∅ : MemoryStore).writeAll (Wiki.history ⟨"acme"⟩) = .ok store ∧
      store.write (.clearTenant ⟨"acme"⟩) = .ok cleared ∧
      cleared.writeAll Wiki.restored = .ok store₁ ∧
      store.directory.writeAll Wiki.restored = .ok store₂ ∧
      ((Resolver.ask { settings := {}, levels := store₁.levels } ⟨"acme"⟩
        (.permissions ⟨"ann"⟩ none)).serve (store₁.reply.toServer : Query.Server Unit) ()).1 =
      ((Resolver.ask { settings := {}, levels := store₂.levels } ⟨"acme"⟩
        (.permissions ⟨"ann"⟩ none)).serve (store₂.reply.toServer : Query.Server Unit) ()).1 ∧
      ((Resolver.ask { settings := {}, levels := cleared.levels } ⟨"rival"⟩
        (.permissions ⟨"ann"⟩ none)).serve (cleared.reply.toServer : Query.Server Unit) ()).1 =
      ((Resolver.ask { settings := {}, levels := store.levels } ⟨"rival"⟩
        (.permissions ⟨"ann"⟩ none)).serve (store.reply.toServer : Query.Server Unit) ()).1 := by
  obtain ⟨store, cleared, hstore, hcleared, hafresh, hothers, -⟩ :=
    clearTenant_starts_afresh (Wiki.history ⟨"acme"⟩) ⟨"acme"⟩
  obtain ⟨store₁, store₂, hstore₁, hstore₂, hall⟩ := hafresh Wiki.restored
  refine ⟨store, cleared, store₁, store₂, hstore, hcleared, hstore₁, hstore₂, ?_, ?_⟩
  · exact hall (store₁.reply.toServer : Query.Server Unit)
      (store₂.reply.toServer : Query.Server Unit) store₁.serves_reply store₂.serves_reply
      { settings := {}, levels := store₁.levels } { settings := {}, levels := store₂.levels }
      rfl le_rfl le_rfl (.permissions ⟨"ann"⟩ none) nofun () ()
  · exact hothers (store.reply.toServer : Query.Server Unit)
      (cleared.reply.toServer : Query.Server Unit) store.serves_reply cleared.serves_reply
      { settings := {}, levels := store.levels } { settings := {}, levels := cleared.levels }
      rfl le_rfl le_rfl ⟨"rival"⟩ (.permissions ⟨"ann"⟩ none) (.inl (by decide)) nofun () ()

end TenantAccess
