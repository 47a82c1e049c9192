import Mathlib.Data.Finset.Card
import Mathlib.Logic.Relation
import TenantAccess.Proofs.Rights
import TenantAccess.Resolver.Menus

/-!
# Which menus are visible

A menu is visible when a chain of parents leads to it from a menu of a permission, each menu of the
chain stored under the tenant and of the type in force (`Menu.Reached`). `climb` asks for a whole
level at once and for no id twice. `Ascent` is what holds between two levels: what was found is
visible, whatever stands under an id that was asked for was found, and what is still to be found
lies above the level at hand. `Ascent.step` carries it over a level and `Ascent.mem_found_iff` reads
the result off the end of the walk. The walk ends because a level that is not the last one finds a
menu that no level before it did (`Ascent.card_lt`), so as many levels as there are menus, and one,
are enough (`climb_yields`). The main statement is `menus_isListing_reached`.
-/

namespace TenantAccess

variable {σ : Type} {rows : Set Row} {tenant : TenantCode} {ofType : String → Prop}
  {menuType : Option String} {ids level asked : List MenuId} {found reply : List Menu}

/-! ## Chains of parents -/

/-- A type passes a test for menu types when the text of the test is blank or is the type with white
space around it. -/
def OfType (menuType : Option String) (u : String) : Prop :=
  ∀ t ∈ menuType, Text.trim t ≠ "" → u = Text.trim t

/-- The type in force tests for the same as the text that it was made from. -/
theorem ofType_iff {u : String} : OfType menuType u ↔ ∀ t ∈ effectiveType menuType, u = t := by
  cases menuType with
  | none => simp [OfType, effectiveType]
  | some t => by_cases ht : Text.trim t = "" <;> simp [OfType, effectiveType, ht]

namespace Menu

/-- A menu is among the rows of a tenant and is of the type in force. -/
def IsOf (rows : Set Row) (tenant : TenantCode) (ofType : String → Prop) (m : Menu) : Prop :=
  (.menu m ∈ rows ∧ m.tenant = tenant) ∧ ofType m.menuType

/-- A menu names another as its parent, which is among the rows of the tenant and of the type in
force. -/
def Under (rows : Set Row) (tenant : TenantCode) (ofType : String → Prop) (m parent : Menu) :
    Prop :=
  m.parent? = some parent.id ∧ parent.IsOf rows tenant ofType

/-- A chain of parents leads to a menu from one whose id is among the given ones. -/
def Reached (rows : Set Row) (tenant : TenantCode) (ofType : String → Prop) (ids : List MenuId)
    (m : Menu) : Prop :=
  ∃ first, first.id ∈ ids ∧ first.IsOf rows tenant ofType ∧
    Relation.ReflTransGen (Under rows tenant ofType) first m

variable {m m' : Menu}

/-- Every menu of a chain is among the rows of the tenant and of the type in force. -/
theorem Reached.isOf (h : m.Reached rows tenant ofType ids) : m.IsOf rows tenant ofType := by
  obtain ⟨first, -, hfirst, hchain⟩ := h
  cases hchain with
  | refl => exact hfirst
  | tail _ hunder => exact hunder.2

/-- A chain goes on to the parent. -/
theorem Reached.parent (h : m.Reached rows tenant ofType ids)
    (hunder : m.Under rows tenant ofType m') : m'.Reached rows tenant ofType ids := by
  obtain ⟨first, hid, hfirst, hchain⟩ := h
  exact ⟨first, hid, hfirst, hchain.tail hunder⟩

end Menu

/-! ## One level -/

/-- What holds before a level of a walk that started from `ids`. -/
structure Ascent (rows : Set Row) (tenant : TenantCode) (ofType : String → Prop)
    (ids level asked : List MenuId) (found : List Menu) : Prop where
  /-- What was found is visible. -/
  reached : ∀ m ∈ found, m.Reached rows tenant ofType ids
  /-- What was found stands under an id that was asked for, -/
  asked_of_found : ∀ m ∈ found, m.id ∈ asked
  /-- and whatever stands under such an id was found. -/
  found_of_asked : ∀ m : Menu, m.IsOf rows tenant ofType → m.id ∈ asked → m ∈ found
  /-- The walk starts where it should. -/
  start : ∀ id ∈ ids, id ∈ asked ∨ id ∈ level
  /-- The parents of what was found have been asked for or are asked for next. -/
  closed : ∀ m ∈ found, ∀ id, m.parent? = some id → id ∈ asked ∨ id ∈ level
  /-- What is asked for next is a start or the parent of a visible menu, -/
  wanted : ∀ id ∈ level,
    id ∈ ids ∨ ∃ m : Menu, m.Reached rows tenant ofType ids ∧ m.parent? = some id
  /-- and has not been asked for before. -/
  fresh : ∀ id ∈ level, id ∉ asked

/-- What is asked for after a level are the parents of the menus seen there that are new. -/
theorem mem_nextLevel {seen : List Menu} {id : MenuId} :
    id ∈ nextLevel asked seen ↔ (∃ m ∈ seen, m.parent? = some id) ∧ id ∉ asked := by
  simp [nextLevel, mem_ascending]

/-- Where nothing is seen the walk is over. -/
@[simp] theorem nextLevel_nil : nextLevel asked [] = [] := by
  refine List.eq_nil_iff_forall_not_mem.2 fun id hid => ?_
  obtain ⟨⟨m, hm, -⟩, -⟩ := mem_nextLevel.1 hid
  exact List.not_mem_nil hm

/-- The menus seen in a level are those of the tenant and the type in force that stand under its
ids. -/
theorem mem_seenMenus (htype : ∀ u, ofType u ↔ ∀ t ∈ menuType, u = t)
    (hreply : (Read.menus level menuType tenant).Fits rows reply) {m : Menu} :
    m ∈ seenMenus level menuType reply ↔ m.IsOf rows tenant ofType ∧ m.id ∈ level := by
  have hm := hreply m
  have hall : menuType.all (m.menuType = ·) ↔ ofType m.menuType := by
    rw [htype]
    cases menuType <;> simp
  rw [seenMenus, List.mem_filter, hm, Bool.and_eq_true, List.contains_iff_mem, hall, Menu.IsOf,
    ← htype]
  tauto

namespace Ascent

/-- Before the first level nothing has been asked for. -/
theorem init : Ascent rows tenant ofType ids (ascending ids) [] [] where
  reached := nofun
  asked_of_found := nofun
  found_of_asked := nofun
  start _ hid := .inr (mem_ascending.2 hid)
  closed := nofun
  wanted _ hid := .inl (mem_ascending.1 hid)
  fresh := nofun

/-- What is seen in a level is visible. -/
theorem reached_of_seen (h : Ascent rows tenant ofType ids level asked found) {m : Menu}
    (hm : m.IsOf rows tenant ofType) (hid : m.id ∈ level) : m.Reached rows tenant ofType ids := by
  rcases h.wanted m.id hid with hstart | ⟨below, hbelow, hparent⟩
  · exact ⟨m, hstart, hm, .refl⟩
  · exact hbelow.parent ⟨hparent, hm⟩

/-- A level carries the walk on. -/
theorem step (h : Ascent rows tenant ofType ids level asked found) {seen : List Menu}
    (hseen : ∀ m, m ∈ seen ↔ m.IsOf rows tenant ofType ∧ m.id ∈ level) :
    Ascent rows tenant ofType ids (nextLevel (asked ++ level) seen) (asked ++ level)
      (found ++ seen) where
  reached m hm := by
    rcases List.mem_append.1 hm with hm | hm
    · exact h.reached m hm
    · obtain ⟨hof, hid⟩ := (hseen m).1 hm
      exact h.reached_of_seen hof hid
  asked_of_found m hm := by
    rcases List.mem_append.1 hm with hm | hm
    · exact List.mem_append_left _ (h.asked_of_found m hm)
    · exact List.mem_append_right _ ((hseen m).1 hm).2
  found_of_asked m hof hid := by
    rcases List.mem_append.1 hid with hid | hid
    · exact List.mem_append_left _ (h.found_of_asked m hof hid)
    · exact List.mem_append_right _ ((hseen m).2 ⟨hof, hid⟩)
  start id hid := .inl (List.mem_append.2 (h.start id hid))
  closed m hm id hparent := by
    by_cases hid : id ∈ asked ++ level
    · exact .inl hid
    · rcases List.mem_append.1 hm with hm | hm
      · exact absurd (List.mem_append.2 (h.closed m hm id hparent)) hid
      · exact .inr (mem_nextLevel.2 ⟨⟨m, hm, hparent⟩, hid⟩)
  wanted id hid := by
    obtain ⟨⟨m, hm, hparent⟩, -⟩ := mem_nextLevel.1 hid
    obtain ⟨hof, hlevel⟩ := (hseen m).1 hm
    exact .inr ⟨m, h.reached_of_seen hof hlevel, hparent⟩
  fresh _ hid := (mem_nextLevel.1 hid).2

/-- When nothing is left to ask for, what was found is what is visible. -/
theorem mem_found_iff (h : Ascent rows tenant ofType ids [] asked found) (m : Menu) :
    m ∈ found ↔ m.Reached rows tenant ofType ids := by
  refine ⟨h.reached m, ?_⟩
  rintro ⟨first, hid, hfirst, hchain⟩
  -- the induction goes up the chain: each menu was found, so its parent was asked for
  induction hchain with
  | refl => exact h.found_of_asked first hfirst ((h.start _ hid).resolve_right List.not_mem_nil)
  | tail _ hunder ih =>
    have hasked := (h.closed _ ih _ hunder.1).resolve_right List.not_mem_nil
    exact h.found_of_asked _ hunder.2 hasked

/-- Then the walk answers with the listing of what is visible, however its menus are arranged. -/
theorem isListing_listedMenus {server : Query.Server σ} (h : server.Honours tenant rows)
    (hascent : Ascent rows tenant ofType ids [] asked found) (order : Arrangement Menu) :
    IsListing Menu.listingOrder (Menu.Reached rows tenant ofType ids)
      (listedMenus order found) := by
  refine isListing_sortBy hascent.mem_found_iff (fun m m' hm hm' hid => ?_)
    (fun _ _ _ _ => Menu.id_eq_of_listingOrder) (order.perm _)
  refine Row.menu.inj (h.place_inj hm.isOf.1.1 hm'.isOf.1.1 ?_)
  simp [Row.place, hm.isOf.1.2, hm'.isOf.1.2, hid]

/-- A level in which something is seen finds a menu that no level before it did. -/
theorem card_lt (h : Ascent rows tenant ofType ids level asked found) {seen : List Menu}
    (hseen : ∀ m ∈ seen, m.id ∈ level) (hne : seen ≠ []) :
    found.toFinset.card < (found ++ seen).toFinset.card := by
  obtain ⟨m, hm⟩ := List.exists_mem_of_ne_nil seen hne
  have hnew : m ∉ found := fun hfound => h.fresh m.id (hseen m hm) (h.asked_of_found m hfound)
  refine Finset.card_lt_card (Finset.ssubset_iff_subset_ne.2 ⟨fun a ha => ?_, fun heq => hnew ?_⟩)
  · rw [List.mem_toFinset] at ha ⊢
    exact List.mem_append_left _ ha
  · rw [← List.mem_toFinset, heq, List.mem_toFinset]
    exact List.mem_append_right _ hm

end Ascent

/-! ## The whole walk -/

/-- A tenant has at most so many menus. -/
def MenusWithin (rows : Set Row) (tenant : TenantCode) (n : Nat) : Prop :=
  ∀ menus : Finset Menu, (∀ m ∈ menus, .menu m ∈ rows ∧ m.tenant = tenant) → menus.card ≤ n

section
variable {server : Query.Server σ} {R : Resolver} {n : Nat}

/-- How many menus a tenant has depends on the rows that concern it only. -/
theorem MenusWithin.congr {rows' : Set Row} (h : MenusWithin rows tenant n)
    (hagree : ∀ row : Row, row.place.concerns tenant → (row ∈ rows ↔ row ∈ rows')) :
    MenusWithin rows' tenant n := by
  refine fun menus hmenus => h menus fun m hm => ?_
  obtain ⟨hrow, rfl⟩ := hmenus m hm
  exact ⟨(hagree (.menu m) (Place.concerns_of_owner? rfl)).2 hrow, rfl⟩

/-- From any point on, the walk ends with the listing of what is visible. `found` grows with each
level, so that what is left of the bound is enough for the menus not found yet. -/
theorem climb_yields (h : server.Honours tenant rows) (hn : MenusWithin rows tenant n)
    (htype : ∀ u, ofType u ↔ ∀ t ∈ menuType, u = t) (order : Arrangement Menu) (levels : Nat)
    (hascent : Ascent rows tenant ofType ids level asked found)
    (hlevels : level = [] ∨ n < levels + found.toFinset.card) :
    Query.Yields server (climb order menuType tenant levels level asked found)
      (IsListing Menu.listingOrder (Menu.Reached rows tenant ofType ids)) := by
  have hnil : ∀ {levels asked found}, Ascent rows tenant ofType ids [] asked found →
      Query.Yields server (climb order menuType tenant levels [] asked found)
        (IsListing Menu.listingOrder (Menu.Reached rows tenant ofType ids)) := by
    intro levels asked found hascent
    rw [climb]
    exact .answer (hascent.isListing_listedMenus h order)
  induction levels generalizing level asked found with
  | zero =>
    cases level with
    | nil => exact hnil hascent
    | cons id rest =>
      have hlt := hlevels.resolve_left (List.cons_ne_nil id rest)
      have hle := hn found.toFinset fun m hm =>
        (hascent.reached m (List.mem_toFinset.1 hm)).isOf.1
      omega
  | succ levels ih =>
    cases level with
    | nil => exact hnil hascent
    | cons id rest =>
      have hlt := hlevels.resolve_left (List.cons_ne_nil id rest)
      refine (h.read (.menus (id :: rest) menuType tenant) (decide_eq_true rfl)).bind
        fun reply hreply => ?_
      rw [Query.bind_eq_bind, Query.ownRows_of_own fun m hm => ((hreply m).1 hm).1.2]
      have hseen := fun m => mem_seenMenus htype hreply (m := m)
      refine ih (hascent.step hseen) ?_
      by_cases hempty : seenMenus (id :: rest) menuType reply = []
      · left
        rw [hempty, nextLevel_nil]
      · right
        have hcard := hascent.card_lt (fun m hm => ((hseen m).1 hm).2) hempty
        omega

/-- Against a server that honours rows, the walk from some ids ends with the listing of what is
visible from them. -/
theorem Resolver.menusAbove_yields (h : server.Honours tenant rows) (hn : MenusWithin rows tenant n)
    (hlevels : n < R.levels) (ids : List MenuId) (menuType : Option String) :
    Query.Yields server (R.menusAbove ids (effectiveType menuType) tenant)
      (IsListing Menu.listingOrder (Menu.Reached rows tenant (OfType menuType) ids)) :=
  climb_yields h hn (fun _ => ofType_iff) R.menuOrder R.levels .init (.inr hlevels)

/-- Against a server that honours rows, the menus of an account are the listing of what is visible
from the menus of the permissions that the rules grant to it. -/
theorem Resolver.menus_yields (h : server.Honours tenant rows) (hn : MenusWithin rows tenant n)
    (hlevels : n < R.levels) (account : AccountId) (menuType : Option String)
    (scope : Option ApplicationId) :
    Query.Yields server (R.menus account menuType scope tenant) fun ms => ∃ ps,
      IsListing Permission.listingOrder (fun p => p.IsOf rows scope tenant ∧
        R.settings.Grants rows account scope tenant p) ps ∧
      IsListing Menu.listingOrder (Menu.Reached rows tenant (OfType menuType)
        (ps.map Permission.menuId)) ms := by
  refine (R.permissions_yields h account scope).bind fun ps hps => ?_
  exact (R.menusAbove_yields h hn hlevels _ menuType).mono fun ms hms => ⟨ps, hps, hms⟩

/-- A store has no more menus of a tenant than it has rows in the table of menus. -/
theorem MemoryStore.Represents.menusWithin {s : MemoryStore} (h : s.Represents rows)
    (tenant : TenantCode) : MenusWithin rows tenant s.menus.rows.size := by
  intro menus hmenus
  have hsub : menus ⊆ s.menus.rows.values.toFinset := by
    intro m hm
    have hget := h.get?_menu.2 ⟨hmenus m hm, rfl⟩
    exact List.mem_toFinset.2 (List.mem_map_of_mem (Keyed.mem_entries_iff.2 hget))
  calc menus.card
      ≤ s.menus.rows.values.toFinset.card := Finset.card_le_card hsub
    _ ≤ s.menus.rows.values.length := List.toFinset_card_le _
    _ = s.menus.rows.size := List.length_map _

/-- After every history of writes, be its menus in cycles, without their parents or their own
parents, the query for the menus of an account answers. The answer is strictly sorted by order, code
and id and holds exactly the menus to which a chain of parents leads from the menu of a permission
that the account holds, each menu of the chain stored under the tenant and of the type asked for. -/
theorem menus_isListing_reached (R : Resolver) (ws : List Write) (account : AccountId)
    (menuType : Option String) (scope : Option ApplicationId) (tenant : TenantCode) :
    ∃ store, (∅ : MemoryStore).writeAll ws = .ok store ∧
      ∀ {σ : Type} (server : Query.Server σ), server.Serves store → store.levels ≤ R.levels →
        ∀ st, ∃ ps ms,
          ((R.permissions account scope tenant).serve server st).1 = .answered ps ∧
          ((R.menus account menuType scope tenant).serve server st).1 = .answered ms ∧
          IsListing Menu.listingOrder (Menu.Reached (Current ws) tenant (OfType menuType)
            (ps.map Permission.menuId)) ms := by
  obtain ⟨store, hstore, hrep⟩ := MemoryStore.exists_writeAll ws
  refine ⟨store, hstore, fun server hserver hlevels st => ?_⟩
  have h := hserver.honours hrep tenant
  obtain ⟨ps, _, hrun, hps⟩ := R.permissions_yields h account scope st
  obtain ⟨ms, _, hrun', ps', hps', hms⟩ :=
    R.menus_yields h (hrep.menusWithin tenant) hlevels account menuType scope st
  obtain rfl : ps' = ps := hps'.unique hps
  exact ⟨ps', ms, by rw [hrun], by rw [hrun'], hms⟩

end

/-- Ann sees the menu above the one of her permission, though the two are each other's parents. -/
theorem menus_isListing_reached_wiki :
    ∃ store, (∅ : MemoryStore).writeAll (Wiki.history ⟨"acme"⟩) = .ok store ∧
      (store.reply.toServer : Query.Server Unit).Serves store ∧ store.levels ≤ 3 ∧
      ∃ ms, ((Resolver.menus { settings := {}, levels := 3 } ⟨"ann"⟩ (some " page ") none
        ⟨"acme"⟩).serve store.reply.toServer ()).1 = .answered ms ∧ Wiki.root ⟨"acme"⟩ ∈ ms := by
  obtain ⟨store, hstore, hlisting⟩ := menus_isListing_reached { settings := {}, levels := 3 }
    (Wiki.history ⟨"acme"⟩) ⟨"ann"⟩ (some " page ") none ⟨"acme"⟩
  have hlevels : store.levels ≤ 3 := by
    have hall : ((∅ : MemoryStore).writeAll (Wiki.history ⟨"acme"⟩)).map MemoryStore.levels =
      .ok 3 := rfl
    rw [hstore] at hall
    exact (Except.ok.inj hall).le
  obtain ⟨ps, ms, hps, hms, hmem⟩ := hlisting store.reply.toServer store.serves_reply hlevels ()
  have hread : Wiki.readPage ⟨"acme"⟩ ∈ ps := by
    obtain ⟨store', hstore', hrep⟩ := MemoryStore.exists_writeAll (Wiki.history ⟨"acme"⟩)
    obtain rfl : store = store' := Except.ok.inj (hstore.symm.trans hstore')
    obtain ⟨ps', _, hrun, hps'⟩ := Resolver.permissions_yields
      (R := { settings := {}, levels := 3 }) (store.serves_reply.honours hrep ⟨"acme"⟩) ⟨"ann"⟩
      none ()
    rw [hrun] at hps
    obtain rfl : ps' = ps := Outcome.answered.inj hps
    exact (hps'.mem_iff _).2 Wiki.grants_readPage
  have htype : OfType (some " page ") "page" := by
    rintro t ht -
    obtain rfl := Option.mem_some.1 ht
    decide
  have hpages : (Wiki.pages ⟨"acme"⟩).IsOf (Current (Wiki.history ⟨"acme"⟩)) ⟨"acme"⟩
      (OfType (some " page ")) := ⟨⟨by decide, rfl⟩, htype⟩
  have hroot : (Wiki.root ⟨"acme"⟩).IsOf (Current (Wiki.history ⟨"acme"⟩)) ⟨"acme"⟩
      (OfType (some " page ")) := ⟨⟨by decide, rfl⟩, htype⟩
  refine ⟨store, hstore, store.serves_reply, hlevels, ms, hms, (hmem.mem_iff _).2 ?_⟩
  exact ⟨_, List.mem_map.2 ⟨_, hread, rfl⟩, hpages, .single ⟨by decide, hroot⟩⟩

end TenantAccess
