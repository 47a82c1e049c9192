import TenantAccess.Proofs.Holdings
import TenantAccess.Proofs.Roles
import TenantAccess.Proofs.Superset

/-!
# Two ways of coming by roles

Roles are assigned to accounts, or every member holds all roles that are switched on. The settings
say which, and it makes a difference to members only: under the rules, binding roles to applications
takes the condition away that a role be assigned, and nothing else (`AdminSettings.Entitles.rebind`,
`AdminSettings.Grants.rebind`). So what an account holds can only become more. Then the account
matters no longer, and any two members hold the same. The main statement is
`holdings_within_of_application`.
-/

namespace TenantAccess

variable {σ : Type} {rows : Set Row} {account account' : AccountId} {scope : Option ApplicationId}
  {tenant : TenantCode}

namespace AdminSettings

variable {s : AdminSettings} {binding : RoleBinding} {r : Role} {p : Permission}

/-- An account that is entitled to a role is so, too, when roles are bound to applications. -/
theorem Entitles.rebind (h : s.Entitles rows account scope tenant r) :
    (s.withRoleBinding .application).Entitles rows account scope tenant r :=
  { h with member := h.member, assigned := nofun }

/-- When roles are bound to applications, members are entitled to the same roles. -/
theorem Entitles.of_isMember (hbinding : s.roleBinding = .application)
    (hmember : s.IsMember rows tenant account')
    (h : s.Entitles rows account scope tenant r) : s.Entitles rows account' scope tenant r :=
  { h with
    member := hmember
    assigned := fun heq => by rw [hbinding] at heq; cases heq }

/-- What an account is granted it is granted under another way of coming by roles, when roles are
bound to applications or the account is no member. -/
theorem Grants.rebind (hbinding : binding = .application ∨ ¬ s.IsMember rows tenant account)
    (h : s.Grants rows account scope tenant p) :
    (s.withRoleBinding binding).Grants rows account scope tenant p := by
  cases h with
  | supervisor hid henabled => exact .supervisor hid henabled
  | officer hid hrow hplace hactive hadmin hentry henabled hpermits =>
    exact .officer hid hrow hplace hactive hadmin hentry henabled hpermits
  | @member a r hid hrow hplace hactive hadmin hrole howner henabled hscope _ hlink =>
    refine .member hid hrow hplace hactive hadmin hrole howner henabled hscope ?_ hlink
    rintro rfl
    have hself : s.Identifies rows tenant account a :=
      (identifies_iff_of_ne hid).2 ⟨⟨hrow, hplace.1⟩, hplace.2⟩
    rcases hbinding with heq | hno
    · cases heq
    · exact absurd ⟨a, hself, hactive, hadmin⟩ hno

/-- A member is granted the permissions that are linked to a role it is entitled to. -/
theorem grants_iff_of_isMember {server : Query.Server σ} (h : server.Honours tenant rows)
    (hmember : s.IsMember rows tenant account) : s.Grants rows account scope tenant p ↔
      ∃ r, s.Entitles rows account scope tenant r ∧
        .permissionLink ⟨r.id, p.id, tenant⟩ ∈ rows := by
  obtain ⟨a, ha, hactive, hadmin⟩ := hmember
  have hid : s.supervisor.username ≠ account.text := by
    intro hid
    rw [Identifies, if_pos hid] at ha
    exact hadmin (ha ▸ rfl)
  simp [grants_iff_of_row h hid ha, entitles_iff_confers ha hactive hadmin, hactive, hadmin]

end AdminSettings

/-- When roles are bound to applications, a member holds no more than another. -/
theorem Resolver.holdings_within_of_isMember {server : Query.Server σ} {R : Resolver} {n : Nat}
    (h : server.Honours tenant rows) (hn : MenusWithin rows tenant n) (hlevels : n < R.levels)
    (hbinding : R.settings.roleBinding = .application) {account account' : AccountId}
    (hmember : R.settings.IsMember rows tenant account)
    (hmember' : R.settings.IsMember rows tenant account') (st st' : σ) :
    (R.holdings server st account tenant).Within (R.holdings server st' account' tenant) := by
  refine holdings_within h h hn hn hlevels hlevels (fun _ hrow => hrow) (fun scope r hr => ?_)
    (fun scope p hp => ⟨hp.1, ?_⟩) st st'
  · rw [AdminSettings.holds_iff] at hr ⊢
    exact hr.of_isMember hbinding hmember'
  · obtain ⟨r, hr, hlink⟩ := (AdminSettings.grants_iff_of_isMember h hmember).1 hp.2
    rw [AdminSettings.grants_iff_of_isMember h hmember']
    exact ⟨r, hr.of_isMember hbinding hmember', hlink⟩

/-- After every history of writes, whatever the settings are otherwise: when roles are bound to
applications instead of being assigned, every account is answered with what it was answered with
before, in the same order, and perhaps more. Nothing changes for an account that does not exist, is
not active or is an administrator, and any two members of a tenant hold the same. -/
theorem holdings_within_of_application (ws : List Write) :
    ∃ store, (∅ : MemoryStore).writeAll ws = .ok store ∧
      ∀ {σ : Type} (server : Query.Server σ), server.Serves store →
      ∀ (s : AdminSettings) (R R' : Resolver), R.settings = s.withRoleBinding .principal →
        R'.settings = s.withRoleBinding .application →
        store.levels ≤ R.levels → store.levels ≤ R'.levels →
      ∀ (tenant : TenantCode) (account : AccountId) (st st' : σ),
        (R.holdings server st account tenant).Within (R'.holdings server st' account tenant) ∧
        (¬ s.IsMember (Current ws) tenant account →
          R'.holdings server st' account tenant = R.holdings server st account tenant) ∧
        ∀ account', s.IsMember (Current ws) tenant account →
          s.IsMember (Current ws) tenant account' →
          R'.holdings server st account tenant = R'.holdings server st' account' tenant := by
  obtain ⟨store, hstore, hrep⟩ := MemoryStore.exists_writeAll ws
  refine ⟨store, hstore, ?_⟩
  intro σ server hserver s R R' hR hR' hlevels hlevels' tenant account st st'
  have h := hserver.honours hrep tenant
  have hn := hrep.menusWithin tenant
  have hwiden : (R.holdings server st account tenant).Within
      (R'.holdings server st' account tenant) := by
    refine Resolver.holdings_within h h hn hn hlevels hlevels' (fun _ hrow => hrow)
      (fun scope r hr => ?_) (fun scope p hp => ⟨hp.1, ?_⟩) st st'
    · rw [AdminSettings.holds_iff, hR] at hr
      rw [AdminSettings.holds_iff, hR']
      exact hr.rebind
    · rw [hR']
      have hgrants := hp.2
      rw [hR] at hgrants
      exact hgrants.rebind (s := s.withRoleBinding .principal) (.inl rfl)
  refine ⟨hwiden, fun hno => ?_, fun account' hmember hmember' => ?_⟩
  · -- The converse: nobody who is no member is conferred a role, so only grants are to be compared.
    refine Holdings.Within.antisymm ?_ hwiden
    refine Resolver.holdings_within h h hn hn hlevels' hlevels (fun _ hrow => hrow)
      (fun scope r hr => ?_) (fun scope p hp => ⟨hp.1, ?_⟩) st' st
    · rw [AdminSettings.holds_iff, hR'] at hr
      exact absurd hr.member hno
    · rw [hR]
      have hgrants := hp.2
      rw [hR'] at hgrants
      exact hgrants.rebind (s := s.withRoleBinding .application) (.inr hno)
  · have hsettled : ∀ {a}, s.IsMember (Current ws) tenant a →
        R'.settings.IsMember (Current ws) tenant a := fun ha => by rw [hR']; exact ha
    have hbinding : R'.settings.roleBinding = .application := by rw [hR']; rfl
    refine Holdings.Within.antisymm ?_ ?_
    · exact R'.holdings_within_of_isMember h hn hlevels' hbinding (hsettled hmember)
        (hsettled hmember') st st'
    · exact R'.holdings_within_of_isMember h hn hlevels' hbinding (hsettled hmember')
        (hsettled hmember) st' st

namespace Wiki

/-- A member of the wiki without roles. -/
def bob : Account where
  id := ⟨"bob"⟩
  username := "bob"
  name := "Bob"
  tenant := ⟨"acme"⟩

/-- Ann's history, and then Olga and Bob. -/
def crew : List Write := joined ++ [.put (.account bob)]

/-- Ann and Bob are members. -/
theorem isMember_crew :
    AdminSettings.IsMember {} (Current crew) ⟨"acme"⟩ ⟨"ann"⟩ ∧
      AdminSettings.IsMember {} (Current crew) ⟨"acme"⟩ ⟨"bob"⟩ :=
  ⟨⟨ann ⟨"acme"⟩, ⟨⟨by decide, rfl⟩, rfl⟩, by decide, by decide⟩,
    ⟨bob, ⟨⟨by decide, rfl⟩, rfl⟩, by decide, by decide⟩⟩

/-- Olga is none. -/
theorem not_isMember_olga :
    ¬ AdminSettings.IsMember {} (Current crew) ⟨"acme"⟩ ⟨"olga"⟩ := by
  rintro ⟨a, ha, -, hadmin⟩
  obtain ⟨⟨hrow, htenant⟩, hid⟩ := (AdminSettings.identifies_iff_of_ne (by decide)).1 ha
  have holga : .account olga ∈ Current crew := by decide
  have hplace : (Row.account a).place = (Row.account olga).place := by
    rw [Row.place, htenant, hid]
    rfl
  obtain rfl := Row.account.inj (current_place_inj hrow holga hplace)
  exact hadmin rfl

end Wiki

/-- When roles are bound to applications, Bob holds what he held and perhaps more, the same as Ann.
Olga, an administrator, holds what she held. -/
theorem holdings_within_of_application_wiki :
    ∃ store, (∅ : MemoryStore).writeAll Wiki.crew = .ok store ∧
      (store.reply.toServer : Query.Server Unit).Serves store ∧
      ∃ R R' : Resolver, R.settings = {} ∧
        R'.settings = AdminSettings.withRoleBinding {} .application ∧
        (R.holdings (store.reply.toServer : Query.Server Unit) () ⟨"bob"⟩ ⟨"acme"⟩).Within
          (R'.holdings (store.reply.toServer : Query.Server Unit) () ⟨"bob"⟩ ⟨"acme"⟩) ∧
        R'.holdings (store.reply.toServer : Query.Server Unit) () ⟨"bob"⟩ ⟨"acme"⟩ =
          R'.holdings (store.reply.toServer : Query.Server Unit) () ⟨"ann"⟩ ⟨"acme"⟩ ∧
        R'.holdings (store.reply.toServer : Query.Server Unit) () ⟨"olga"⟩ ⟨"acme"⟩ =
          R.holdings (store.reply.toServer : Query.Server Unit) () ⟨"olga"⟩ ⟨"acme"⟩ := by
  obtain ⟨store, hstore, hall⟩ := holdings_within_of_application Wiki.crew
  have hcompare := hall (store.reply.toServer : Query.Server Unit) store.serves_reply {}
    { settings := {}, levels := store.levels }
    { settings := AdminSettings.withRoleBinding {} .application, levels := store.levels }
    rfl rfl le_rfl le_rfl ⟨"acme"⟩
  obtain ⟨hann, hbob⟩ := Wiki.isMember_crew
  obtain ⟨hwithin, -, hsame⟩ := hcompare ⟨"bob"⟩ () ()
  exact ⟨store, hstore, store.serves_reply, _, _, rfl, rfl, hwithin, hsame ⟨"ann"⟩ hbob hann,
    (hcompare ⟨"olga"⟩ () ()).2.1 Wiki.not_isMember_olga⟩

end TenantAccess
