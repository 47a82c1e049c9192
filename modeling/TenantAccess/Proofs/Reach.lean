import TenantAccess.Proofs.Holdings

/-!
# Which applications an account reaches

The applications of an account are looked up by the ids that stand on its menus. What comes of it is
read off the menus alone: the rule `AdminSettings.Reaches` asks for a menu that the account sees,
and the answer about the menus lists what the account sees. So the applications are those of the
directory that own one of these menus, whether or not an id on another menu is known. A blank type
is no type (`Resolver.menus_of_isBlank`). Without a type more menus may stand in a chain of parents,
so a typed walk is within the untyped one, though the two end at different places
(`AdminSettings.Shows.ofType`). The main statement is `applications_isListing_owners`.
-/

namespace TenantAccess

variable {σ : Type} {rows : Set Row} {account : AccountId} {scope : Option ApplicationId}
  {tenant : TenantCode}

/-! ## Blank types -/

/-- A blank type is not in force. -/
theorem effectiveType_of_isBlank {t : String} (h : Text.isBlank t) :
    effectiveType (some t) = effectiveType none := by
  simp [effectiveType, Text.trim_eq_empty_iff.2 h]

/-- Menus of a blank type are menus of every type. -/
theorem Resolver.menus_of_isBlank (R : Resolver) {t : String} (h : Text.isBlank t) :
    R.menus account (some t) scope tenant = R.menus account none scope tenant := by
  rw [menus, menus, effectiveType_of_isBlank h]

/-- Every type passes a test whose text is blank. -/
theorem ofType_of_isBlank {t u : String} (h : Text.isBlank t) : OfType (some t) u := by
  intro t' ht' hne
  obtain rfl := Option.mem_some.1 ht'
  exact absurd (Text.trim_eq_empty_iff.2 h) hne

namespace AdminSettings

variable {s : AdminSettings}

/-- Under a type that more types pass an account sees more menus. -/
theorem Shows.ofType {t t' : Option String} {m : Menu} (htype : ∀ u, OfType t u → OfType t' u)
    (h : s.Shows rows account t scope tenant m) : s.Shows rows account t' scope tenant m := by
  obtain ⟨p, hp, hreached⟩ := h
  exact ⟨p, hp, hreached.mono fun m hm => ⟨hm.1, htype m.menuType hm.2⟩⟩

/-- Under a type that more types pass an account reaches more applications. -/
theorem Reaches.ofType {t t' : String} {a : Application}
    (htype : ∀ u, OfType (some t) u → OfType (some t') u)
    (h : s.Reaches rows account t tenant a) : s.Reaches rows account t' tenant a := by
  obtain ⟨hrow, m, hm, happ⟩ := h
  exact ⟨hrow, m, hm.ofType htype, happ⟩

end AdminSettings

/-! ## After every history -/

/-- After every history of writes, whatever the settings: the applications of an account are the
listing of those stored in the directory, enabled or not, whose id stands on a menu that the account
sees, and no two of them share an id. The menus of a blank type are the menus of all types, and the
applications of any type are among those of a blank one. -/
theorem applications_isListing_owners (ws : List Write) :
    ∃ store, (∅ : MemoryStore).writeAll ws = .ok store ∧
      ∀ {σ : Type} (server : Query.Server σ), server.Serves store →
      ∀ R : Resolver, store.levels ≤ R.levels →
      ∀ (account : AccountId) (menuType : String) (tenant : TenantCode) (st st' : σ),
        ∃ menus applications,
          ((R.menus account (some menuType) none tenant).serve server st).1 = .answered menus ∧
          ((R.applications account menuType tenant).serve server st').1 =
            .answered applications ∧
          IsListing Application.listingOrder (fun a => .application a ∈ Current ws ∧
            ∃ m ∈ menus, m.applicationId = a.id) applications ∧
          (applications.map Application.id).Nodup ∧
          ∀ blank, Text.isBlank blank →
            ((R.menus account (some blank) none tenant).serve server st).1 =
              ((R.menus account none none tenant).serve server st).1 ∧
            ((R.applications account menuType tenant).serve server st').1.Within
              ((R.applications account blank tenant).serve server st).1 := by
  obtain ⟨store, hstore, hrep⟩ := MemoryStore.exists_writeAll ws
  refine ⟨store, hstore, fun server hserver R hlevels account menuType tenant st st' => ?_⟩
  have h := hserver.honours hrep tenant
  have hn := hrep.menusWithin tenant
  have happlications := R.applications_yields h hn hlevels account
  obtain ⟨menus, _, hmenus, hshown⟩ :=
    R.menus_yields_shows h hn hlevels account (some menuType) none st
  obtain ⟨applications, _, hrun, hreached⟩ := happlications menuType st'
  have howners : IsListing Application.listingOrder (fun a => .application a ∈ Current ws ∧
      ∃ m ∈ menus, m.applicationId = a.id) applications := by
    refine ⟨hreached.sorted, fun a => (hreached.mem_iff a).trans ?_⟩
    simp only [AdminSettings.Reaches, hshown.mem_iff]
  refine ⟨menus, applications, by rw [hmenus], by rw [hrun], howners, ?_, ?_⟩
  · refine hreached.sorted.nodup.map_on fun a ha b hb hid => ?_
    have hrows := fun c hc => ((howners.mem_iff c).1 hc).1
    exact Row.application.inj (hrep.place_inj (hrows a ha) (hrows b hb)
      (congrArg Place.application hid))
  · intro blank hblank
    refine ⟨by rw [R.menus_of_isBlank hblank], ?_⟩
    refine (happlications menuType).within (happlications blank) ?_ st' st
    exact fun a ha => ha.ofType fun u _ => ofType_of_isBlank hblank

namespace Wiki

/-- The wiki, as the directory has it. -/
def site : Application where
  id := ⟨"wiki"⟩
  code := "wiki"
  name := "Wiki"
  enabled := false

/-- The root of the menus, moved to an application that the directory does not have. -/
def archive : Menu := { root ⟨"acme"⟩ with applicationId := ⟨"archive"⟩ }

/-- Ann's history, and then the wiki and the root that is moved. -/
def listed : List Write :=
  history ⟨"acme"⟩ ++ [.put (.application site), .put (.menu archive)]

end Wiki

/-- The wiki, though it is switched off, is among Ann's applications when she sees a menu of it, and
her applications with pages are among those with any menus. -/
theorem applications_isListing_owners_wiki :
    ∃ store, (∅ : MemoryStore).writeAll Wiki.listed = .ok store ∧
      (store.reply.toServer : Query.Server Unit).Serves store ∧
      ∃ R : Resolver, R.settings = {} ∧ store.levels ≤ R.levels ∧
      ∃ menus applications,
        ((R.menus ⟨"ann"⟩ (some "page") none ⟨"acme"⟩).serve
          (store.reply.toServer : Query.Server Unit) ()).1 = .answered menus ∧
        ((R.applications ⟨"ann"⟩ "page" ⟨"acme"⟩).serve
          (store.reply.toServer : Query.Server Unit) ()).1 = .answered applications ∧
        ((∃ m ∈ menus, m.applicationId = ⟨"wiki"⟩) → Wiki.site ∈ applications) ∧
        ((R.applications ⟨"ann"⟩ "page" ⟨"acme"⟩).serve
          (store.reply.toServer : Query.Server Unit) ()).1.Within
          ((R.applications ⟨"ann"⟩ " " ⟨"acme"⟩).serve
            (store.reply.toServer : Query.Server Unit) ()).1 := by
  have hsite : .application Wiki.site ∈ Current Wiki.listed := by decide
  have hblank : Text.isBlank " " := by decide
  obtain ⟨store, hstore, hall⟩ := applications_isListing_owners Wiki.listed
  obtain ⟨menus, applications, hmenus, hrun, howners, -, huntyped⟩ :=
    hall (store.reply.toServer : Query.Server Unit) store.serves_reply
      { settings := {}, levels := store.levels } le_rfl ⟨"ann"⟩ "page" ⟨"acme"⟩ () ()
  exact ⟨store, hstore, store.serves_reply, { settings := {}, levels := store.levels }, rfl, le_rfl,
    menus, applications, hmenus, hrun, fun hm => (howners.mem_iff _).2 ⟨hsite, hm⟩,
    (huntyped " " hblank).2⟩

end TenantAccess
