import TenantAccess.Proofs.Holdings

/-!
# The supervisor holds what anyone holds

The permissions of the supervisor are read off the table of permissions, those of a member are
gathered through roles and links. Whatever way a permission is granted, the rules grant it to the
supervisor too, as long as it is switched on, and with more permissions come more menus and more
applications. So every listed answer about an account is within the answer about the supervisor. An
officer holds exactly what its range leaves of the supervisor's permissions
(`AdminSettings.grants_iff_of_officer`), in their order. The main statement is `within_supervisor`.
-/

namespace TenantAccess

variable {σ : Type} {rows : Set Row} {tenant : TenantCode} {scope : Option ApplicationId}

namespace AdminSettings

variable {s : AdminSettings} {server : Query.Server σ}

/-- Whatever is granted to an account is granted to the supervisor. -/
theorem Grants.to_supervisor {account boss : AccountId} {p : Permission}
    (henabled : s.supervisor.enabled) (hboss : s.supervisor.owns boss)
    (h : p.IsOf rows scope tenant ∧ s.Grants rows account scope tenant p) :
    p.IsOf rows scope tenant ∧ s.Grants rows boss scope tenant p :=
  ⟨h.1, .supervisor (of_decide_eq_true hboss) henabled⟩

/-- An active officer is granted the permissions whose codes its range permits. -/
theorem grants_iff_of_officer {a : Account} {entry : OfficerSettings}
    (h : server.Honours a.tenant rows) (hrow : .account a ∈ rows)
    (hactive : a.enabled ∧ ¬ a.deleted) (hadmin : a.admin) (hother : ¬ s.supervisor.owns a.id)
    (hentry : s.Appoints a.username entry) (henabled : entry.enabled) {p : Permission} :
    s.Grants rows a.id scope a.tenant p ↔ entry.permissions.permits p.code := by
  have hid : s.supervisor.username ≠ a.id.text := fun heq => hother (decide_eq_true heq)
  have hself : s.Identifies rows a.tenant a.id a :=
    (identifies_iff_of_ne hid).2 ⟨⟨hrow, rfl⟩, rfl⟩
  rw [grants_iff_of_row h hid hself]
  constructor
  · rintro ⟨-, ⟨-, entry', hentry', -, hpermits⟩ | ⟨hmember, -⟩⟩
    · exact hentry'.unique hentry ▸ hpermits
    · exact absurd hadmin hmember
  · exact fun hpermits => ⟨hactive, .inl ⟨hadmin, entry, hentry, henabled, hpermits⟩⟩

end AdminSettings

/-- After every history of writes, whatever the settings, as long as the supervisor is switched on:
the permissions, the menus and the applications of every account are part of the supervisor's, in
the same order; and the permissions of an active officer other than the supervisor, whose entry is
switched on, are the supervisor's, restricted to the range of the entry. -/
theorem within_supervisor (ws : List Write) :
    ∃ store, (∅ : MemoryStore).writeAll ws = .ok store ∧
      ∀ {σ : Type} (server : Query.Server σ), server.Serves store →
      ∀ R : Resolver, R.settings.supervisor.enabled → store.levels ≤ R.levels →
      ∀ boss, R.settings.supervisor.owns boss → ∀ (tenant : TenantCode) (st st' : σ),
        (∀ account,
          (∀ scope, ((R.permissions account scope tenant).serve server st).1.Within
            ((R.permissions boss scope tenant).serve server st').1) ∧
          (∀ menuType scope, ((R.menus account menuType scope tenant).serve server st).1.Within
            ((R.menus boss menuType scope tenant).serve server st').1) ∧
          ∀ menuType, ((R.applications account menuType tenant).serve server st).1.Within
            ((R.applications boss menuType tenant).serve server st').1) ∧
        ∀ a entry, .account a ∈ Current ws → a.tenant = tenant → a.enabled ∧ ¬ a.deleted →
          a.admin → ¬ R.settings.supervisor.owns a.id →
          R.settings.Appoints a.username entry → entry.enabled →
          ∀ scope, ∃ held,
            ((R.permissions boss scope tenant).serve server st').1 = .answered held ∧
            ((R.permissions a.id scope tenant).serve server st).1 =
              .answered (entry.permissions.restrict held) := by
  obtain ⟨store, hstore, hrep⟩ := MemoryStore.exists_writeAll ws
  refine ⟨store, hstore, fun server hserver R henabled hlevels boss hboss tenant st st' => ?_⟩
  have h := hserver.honours hrep tenant
  have hn := hrep.menusWithin tenant
  have hgrants : ∀ account scope (p : Permission),
      p.IsOf (Current ws) scope tenant ∧
        R.settings.Grants (Current ws) account scope tenant p →
      p.IsOf (Current ws) scope tenant ∧ R.settings.Grants (Current ws) boss scope tenant p :=
    fun account scope p => AdminSettings.Grants.to_supervisor henabled hboss
  refine ⟨fun account => ⟨fun scope => ?_, fun menuType scope => ?_, fun menuType => ?_⟩, ?_⟩
  · exact (R.permissions_yields h account scope).within (R.permissions_yields h boss scope)
      (hgrants account scope) st st'
  · exact (R.menus_yields_shows h hn hlevels account menuType scope).within
      (R.menus_yields_shows h hn hlevels boss menuType scope)
      (fun m hm => hm.mono (hgrants account scope) fun _ hrow => hrow) st st'
  · exact (R.applications_yields h hn hlevels account menuType).within
      (R.applications_yields h hn hlevels boss menuType)
      (fun a ha => ha.mono (hgrants account none) (fun _ hrow => hrow) fun _ hrow => hrow) st st'
  · rintro a entry hrow rfl hactive hadmin hother hentry hswitched scope
    obtain ⟨held, _, hheld, hall⟩ := R.permissions_yields h boss scope st'
    obtain ⟨own, _, hown, hpart⟩ := R.permissions_yields h a.id scope st
    have hrange : IsListing Permission.listingOrder
        (fun p => p.IsOf (Current ws) scope a.tenant ∧
          R.settings.Grants (Current ws) a.id scope a.tenant p)
        (entry.permissions.restrict held) := by
      have hfilter := hall.filter fun p => entry.permissions.permits p.code
      refine ⟨hfilter.sorted, fun p => (hfilter.mem_iff p).trans ?_⟩
      rw [AdminSettings.grants_iff_of_officer h hrow hactive hadmin hother hentry hswitched,
        AdminSettings.grants_iff_of_supervisor (of_decide_eq_true hboss)]
      tauto
    exact ⟨held, by rw [hheld], by rw [hown, hpart.unique hrange]⟩

namespace Wiki

/-- An administrator of the wiki. -/
def olga : Account where
  id := ⟨"olga"⟩
  username := "olga"
  name := "Olga"
  admin := true
  tenant := ⟨"acme"⟩

/-- The range of an officer who may do everything but read pages. -/
def clerical : OfficerSettings where
  username := "olga"
  name := "Olga"
  permissions := .deny ["page:read"]

/-- Settings in which Olga is an officer. -/
def staffed : AdminSettings := AdminSettings.withOfficer {} "clerk" clerical

/-- Ann's history, and then Olga. -/
def joined : List Write := history ⟨"acme"⟩ ++ [.put (.account olga)]

/-- The entry of the settings that counts for Olga is the one under her username. -/
theorem staffed_appoints : staffed.Appoints olga.username clerical :=
  AdminSettings.officer?_eq_some_iff.1 (by decide)

end Wiki

/-- Ann sees no menu that the supervisor does not see, and Olga holds what is left of the
supervisor's permissions without the one that her range excludes. -/
theorem within_supervisor_wiki :
    ∃ store, (∅ : MemoryStore).writeAll Wiki.joined = .ok store ∧
      ∃ R : Resolver, R.settings = Wiki.staffed ∧ store.levels ≤ R.levels ∧
      ((R.menus ⟨"ann"⟩ none none ⟨"acme"⟩).serve
        (store.reply.toServer : Query.Server Unit) ()).1.Within
      ((R.menus ⟨"syssa"⟩ none none ⟨"acme"⟩).serve
        (store.reply.toServer : Query.Server Unit) ()).1 ∧
      ∃ held, ((R.permissions ⟨"syssa"⟩ none ⟨"acme"⟩).serve
          (store.reply.toServer : Query.Server Unit) ()).1 = .answered held ∧
        ((R.permissions ⟨"olga"⟩ none ⟨"acme"⟩).serve
          (store.reply.toServer : Query.Server Unit) ()).1 =
          .answered ((PermissionRange.deny ["page:read"]).restrict held) := by
  have hrow : .account Wiki.olga ∈ Current Wiki.joined := by decide
  have hother : ¬ Wiki.staffed.supervisor.owns Wiki.olga.id := by decide
  obtain ⟨store, hstore, hall⟩ := within_supervisor Wiki.joined
  obtain ⟨hwithin, hofficer⟩ := hall (store.reply.toServer : Query.Server Unit) store.serves_reply
    { settings := Wiki.staffed, levels := store.levels } rfl le_rfl ⟨"syssa"⟩ rfl ⟨"acme"⟩ () ()
  refine ⟨store, hstore, { settings := Wiki.staffed, levels := store.levels }, rfl, le_rfl, ?_, ?_⟩
  · exact (hwithin ⟨"ann"⟩).2.1 none none
  · exact hofficer Wiki.olga Wiki.clerical hrow rfl (by decide) rfl hother Wiki.staffed_appoints rfl
      none

end TenantAccess
