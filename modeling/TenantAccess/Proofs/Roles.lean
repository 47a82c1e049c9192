import TenantAccess.Proofs.Rights

/-!
# Which roles and ranges an account holds

`AdminSettings.Entitles` is the rule by which an account holds a role, said of the stored rows: the
account is a member (`AdminSettings.IsMember`), the role is switched on and of the scope, and where
roles are assigned, the role is assigned to the account. An assignment names the kind of its holder
beside the id, so one to a unit or a post that happens to have the id of the account is another row
and does not count. The rule says the same as the classification of an account that a query goes
through (`AdminSettings.holds_iff`). The main statement is `roles_isListing_entitles`: after every
history of writes the roles of an account are the listing of those that it is entitled to, and its
ranges are the listing of the ranges of these roles.
-/

namespace TenantAccess

variable {rows : Set Row} {account : AccountId} {scope : Option ApplicationId} {tenant : TenantCode}

/-! ## The rule -/

namespace AdminSettings

variable (s : AdminSettings)

/-- An id stands for an account that comes by rights through roles: one that exists, is active and
is no administrator. -/
def IsMember (rows : Set Row) (tenant : TenantCode) (account : AccountId) : Prop :=
  ∃ a, s.Identifies rows tenant account a ∧ (a.enabled ∧ ¬ a.deleted) ∧ ¬ a.admin

/-- The rule by which an account holds a role in a scope. -/
structure Entitles (rows : Set Row) (account : AccountId) (scope : Option ApplicationId)
    (tenant : TenantCode) (r : Role) : Prop where
  member : s.IsMember rows tenant account
  stored : .role r ∈ rows
  own : r.tenant = tenant
  enabled : r.enabled
  inScope : ∀ app ∈ scope, r.applicationId = app
  assigned : s.roleBinding = .principal →
    .roleAssignment ⟨r.id, account.text, .account, tenant⟩ ∈ rows

variable {s} {a : Account} {r : Role}

/-- An id stands for an account with that id. -/
theorem Identifies.id_eq (h : s.Identifies rows tenant account a) : a.id = account := by
  unfold Identifies at h
  split at h
  · rename_i hid
    rw [h, SupervisorSettings.toAccount, hid]
  · exact h.2

/-- An account is entitled to the roles that are conferred on a member. -/
theorem entitles_iff_confers (ha : s.Identifies rows tenant account a)
    (hactive : a.enabled ∧ ¬ a.deleted) (hadmin : ¬ a.admin) :
    s.Entitles rows account scope tenant r ↔ s.Confers rows scope tenant (.member a) r := by
  rw [Confers, ha.id_eq]
  constructor
  · exact fun h => ⟨⟨h.stored, h.own⟩, h.enabled, h.inScope, h.assigned⟩
  · rintro ⟨⟨hstored, hown⟩, henabled, hscope, hassigned⟩
    exact ⟨⟨a, ha, hactive, hadmin⟩, hstored, hown, henabled, hscope, hassigned⟩

/-- What an account holds as the subject that it is classified as, it is entitled to. -/
theorem holds_iff :
    s.Holds rows account scope tenant r ↔ s.Entitles rows account scope tenant r := by
  constructor
  · rintro ⟨subject, hsubject, hconfers⟩
    cases subject with
    | absent | inactive | supervisor | officer => exact hconfers.elim
    | member b =>
      obtain ⟨a, ha, hclassify⟩ | ⟨-, hne⟩ := hsubject
      · obtain ⟨rfl, hactive, hadmin⟩ := classify_eq_member hclassify.symm
        exact (entitles_iff_confers ha (by simpa [Account.isActive] using hactive) hadmin).2 hconfers
      · cases hne
  · intro h
    obtain ⟨a, ha, hactive, hadmin⟩ := h.member
    exact ⟨.member a, .inl ⟨a, ha, (classify_of_not_admin hactive hadmin).symm⟩,
      (entitles_iff_confers ha hactive hadmin).1 h⟩

end AdminSettings

/-! ## After every history -/

/-- After every history of writes, whatever the settings, the roles of an account are the listing of
those stored ones of the tenant that the account is entitled to in the scope, and its ranges are the
listing of the stored ranges of the tenant that belong to one of these roles. An account that does
not exist, is not active or is an administrator has neither. -/
theorem roles_isListing_entitles (ws : List Write) :
    ∃ store, (∅ : MemoryStore).writeAll ws = .ok store ∧
      ∀ {σ : Type} (server : Query.Server σ), server.Serves store →
      ∀ (R : Resolver) (account : AccountId) (scope : Option ApplicationId) (tenant : TenantCode)
        (st st' : σ), ∃ roles ranges,
        ((R.roles account scope tenant).serve server st).1 = .answered roles ∧
        ((R.ranges account scope tenant).serve server st').1 = .answered ranges ∧
        IsListing Role.listingOrder (R.settings.Entitles (Current ws) account scope tenant) roles ∧
        IsListing RoleRange.listingOrder (fun r =>
          (.roleRange r ∈ Current ws ∧ r.tenant = tenant) ∧ r.roleId ∈ roles.map Role.id) ranges ∧
        (¬ R.settings.IsMember (Current ws) tenant account → roles = [] ∧ ranges = []) := by
  obtain ⟨store, hstore, hrep⟩ := MemoryStore.exists_writeAll ws
  refine ⟨store, hstore, fun server hserver R account scope tenant st st' => ?_⟩
  have h := hserver.honours hrep tenant
  obtain ⟨roles, _, hroles, hheld⟩ := R.roles_yields h account scope st
  obtain ⟨ranges, _, hranges, hcarried⟩ := R.ranges_yields h account scope st'
  have hentitled : IsListing Role.listingOrder
      (R.settings.Entitles (Current ws) account scope tenant) roles :=
    ⟨hheld.sorted, fun r => (hheld.mem_iff r).trans AdminSettings.holds_iff⟩
  have hbelong : IsListing RoleRange.listingOrder (fun r =>
      (.roleRange r ∈ Current ws ∧ r.tenant = tenant) ∧ r.roleId ∈ roles.map Role.id) ranges := by
    refine ⟨hcarried.sorted, fun r => (hcarried.mem_iff r).trans ?_⟩
    simp only [List.mem_map, hheld.mem_iff]
  refine ⟨roles, ranges, by rw [hroles], by rw [hranges], hentitled, hbelong, fun hno => ?_⟩
  have hnone : roles = [] := List.eq_nil_iff_forall_not_mem.2 fun r hr =>
    hno ((hentitled.mem_iff r).1 hr).member
  refine ⟨hnone, List.eq_nil_iff_forall_not_mem.2 fun r hr => ?_⟩
  have hid := ((hbelong.mem_iff r).1 hr).2
  rw [hnone] at hid
  exact List.not_mem_nil hid

namespace Wiki

/-- A role that Ann does not hold. -/
def editor : Role := { reader ⟨"acme"⟩ with id := ⟨"editor"⟩, code := "editor", name := "Editor" }

/-- A range of the readers or of the editors. -/
def shelf (role : RoleId) : RoleRange := ⟨role, "shelf", "id", "1", ⟨"acme"⟩⟩

/-- Ann's history, and then a role that is assigned to a unit with Ann's id, with a range for each
of the two roles. -/
def namesake : List Write := history ⟨"acme"⟩ ++
  [.put (.role editor), .put (.roleAssignment ⟨⟨"editor"⟩, "ann", .unit, ⟨"acme"⟩⟩),
    .put (.roleRange (shelf ⟨"reader"⟩)), .put (.roleRange (shelf ⟨"editor"⟩))]

/-- Ann is entitled to the role that is assigned to her. -/
theorem namesake_entitles :
    AdminSettings.Entitles {} (Current namesake) ⟨"ann"⟩ none ⟨"acme"⟩ (reader ⟨"acme"⟩) where
  member := ⟨ann ⟨"acme"⟩, ⟨⟨by decide, rfl⟩, rfl⟩, by decide, by decide⟩
  stored := by decide
  own := rfl
  enabled := rfl
  inScope := nofun
  assigned _ := by decide

end Wiki

/-- Ann holds the role that is assigned to her and sees its range. The role that is assigned to a
unit with her id she does not hold, nor does she see its range. -/
theorem roles_isListing_entitles_namesake :
    ∃ store, (∅ : MemoryStore).writeAll Wiki.namesake = .ok store ∧
      (store.reply.toServer : Query.Server Unit).Serves store ∧ ∃ roles ranges,
        ((Resolver.roles { settings := {}, levels := 0 } ⟨"ann"⟩ none ⟨"acme"⟩).serve
          (store.reply.toServer : Query.Server Unit) ()).1 = .answered roles ∧
        ((Resolver.ranges { settings := {}, levels := 0 } ⟨"ann"⟩ none ⟨"acme"⟩).serve
          (store.reply.toServer : Query.Server Unit) ()).1 = .answered ranges ∧
        Wiki.reader ⟨"acme"⟩ ∈ roles ∧ Wiki.editor ∉ roles ∧
        Wiki.shelf ⟨"reader"⟩ ∈ ranges ∧ Wiki.shelf ⟨"editor"⟩ ∉ ranges := by
  obtain ⟨store, hstore, hall⟩ := roles_isListing_entitles Wiki.namesake
  obtain ⟨roles, ranges, hroles, hranges, hentitled, hbelong, -⟩ :=
    hall (store.reply.toServer : Query.Server Unit) store.serves_reply
      { settings := {}, levels := 0 } ⟨"ann"⟩ none ⟨"acme"⟩ () ()
  have hreader : Wiki.reader ⟨"acme"⟩ ∈ roles := (hentitled.mem_iff _).2 Wiki.namesake_entitles
  have heditor : ∀ r ∈ roles, r.id ≠ ⟨"editor"⟩ := by
    intro r hr hid
    have hassigned := ((hentitled.mem_iff r).1 hr).assigned rfl
    rw [hid] at hassigned
    exact absurd hassigned (by decide)
  refine ⟨store, hstore, store.serves_reply, roles, ranges, hroles, hranges, hreader,
    fun hr => heditor _ hr rfl, ?_, fun hr => ?_⟩
  · exact (hbelong.mem_iff _).2 ⟨⟨by decide, rfl⟩, List.mem_map.2 ⟨_, hreader, rfl⟩⟩
  · obtain ⟨r, hr, hid⟩ := List.mem_map.1 ((hbelong.mem_iff _).1 hr).2
    exact heditor r hr hid

end TenantAccess
