import TenantAccess.Proofs.Walk

/-!
# Why a menu is shown

A menu is shown because a permission belongs to it, or because a menu below it names it as its
parent. `Justified` says so of an answer, as a chain from the menu of a permission in which every id
is named from under the one before. The walk lists one menu for each id, but goes on from the
parents of all menus that it was replied with, so where a reply has several menus under one id, the
parent can be named by one that is not listed. What holds of every reply is that a menu which the
walk has fetched names the parent (`Climb.justified`); when menus fetched under one id name one
parent, the menus of the answer do so themselves. The main statement is `menus_justified`, and
`menus_justified_twins` shows the difference.
-/

namespace TenantAccess

variable {σ : Type} {tenant : TenantCode} {menuType : Option String} {level asked : List MenuId}
  {found all : List Menu} {cs : List Call} {ps : List Permission} {names : Menu → MenuId → Prop}

/-- Permissions and menus justify an id: it is the menu of one of the permissions, or it is named
from under the id of another of the menus, which is justified itself. -/
inductive Justified (ps : List Permission) (ms : List Menu) (names : Menu → MenuId → Prop) :
    MenuId → Prop
  | permission {p : Permission} (hp : p ∈ ps) : Justified ps ms names p.menuId
  | parent {m : Menu} {id : MenuId} (hm : m ∈ ms) (hjustified : Justified ps ms names m.id)
      (hother : m.id ≠ id) (hnames : names m id) : Justified ps ms names id

/-- What is true of the ids of a level, and passes on from every menu that is fetched to its parent,
is true of the ids of all menus that a walk finds. -/
theorem Climb.forall_ids {J : MenuId → Prop} (h : Climb menuType tenant level asked found cs all)
    (hlevel : ∀ id ∈ level, J id) (hfound : ∀ m ∈ found, J m.id)
    (hparent : ∀ m id, Fetched menuType tenant cs m → J m.id → m.id ≠ id → m.parent? = some id →
      J id) : ∀ m ∈ all, J m.id := by
  induction h with
  | done => exact hfound
  | @level level asked _ _ _ rows _ _ _ ih =>
    have hseen : ∀ m ∈ seenMenus level menuType rows, J m.id := fun m hm =>
      hlevel m.id (id_mem_of_seen hm)
    refine ih (fun id hid => ?_) (fun m hm => ?_) fun m id hm => ?_
    · -- the next level is named as a parent in this one, and lies in no level so far
      obtain ⟨⟨m, hm, hid⟩, hnew⟩ := mem_nextLevel.1 hid
      refine hparent m id ⟨level, rows, List.mem_cons_self, hm⟩ (hseen m hm) ?_ hid
      rintro rfl
      exact hnew (List.mem_append_right _ (id_mem_of_seen hm))
    · exact (List.mem_append.1 hm).elim (hfound m) (hseen m)
    · exact hparent m id (hm.mono (List.subset_cons_self _ _))

/-- Every id that is found is the id of a menu that is listed. -/
theorem exists_mem_listedMenus (order : Arrangement Menu) {m : Menu} (hm : m ∈ all) :
    ∃ m' ∈ listedMenus order all, m' ∈ all ∧ m'.id = m.id := by
  obtain ⟨m', hm', hid⟩ := exists_mem_distinctBy Menu.id hm
  have hlisted : m' ∈ listedMenus order all := mem_sortBy.2 ((order.perm _).mem_iff.2 hm')
  exact ⟨m', hlisted, listedMenus_subset order all hlisted, hid⟩

/-- What a walk from the menus of permissions lists is justified, when of the menus that it has
fetched each one names the parents of those that share its id. -/
theorem Climb.justified (order : Arrangement Menu)
    (h : Climb menuType tenant (ascending (ps.map Permission.menuId)) [] [] cs all)
    (hnames : ∀ m m', Fetched menuType tenant cs m → Fetched menuType tenant cs m' →
      m'.id = m.id → ∀ id, m.parent? = some id → names m' id) :
    ∀ m ∈ listedMenus order all, Justified ps (listedMenus order all) names m.id := by
  have hall : ∀ m ∈ all, Justified ps (listedMenus order all) names m.id := by
    refine h.forall_ids (fun id hid => ?_) nofun fun m id hm hj hne hparent => ?_
    · obtain ⟨p, hp, rfl⟩ := List.mem_map.1 (mem_ascending.1 hid)
      exact .permission hp
    · obtain ⟨m', hlisted, hfound, hid⟩ := exists_mem_listedMenus order (h.mem_of_fetched hm)
      have hm' : Fetched menuType tenant cs m' :=
        ((h.fetched_of_mem m' hfound).resolve_left nofun).1
      rw [← hid] at hj hne
      exact .parent hlisted hj hne (hnames m m' hm hm' hid id hparent)
  exact fun m hm => hall m (listedMenus_subset order all hm)

/-- Whoever replies, and whatever the replies are: when the question for the menus of an account is
answered, so is the one for its permissions, and these justify every menu of the answer. A chain
leads to it from the menu of a permission, in which every id but the first is named as a parent by a
menu that was fetched under the id of another menu of the answer, the one before in the chain. When
no two menus were fetched under one id that name different parents, the menu of the answer names the
parent itself. -/
theorem menus_justified (R : Resolver) (account : AccountId) (menuType : Option String)
    (scope : Option ApplicationId) (tenant : TenantCode) (server : Query.Server σ) (s : σ)
    (ms : List Menu) (h : ((R.menus account menuType scope tenant).serve server s).1 = .answered ms) :
    ∃ ps, ((R.permissions account scope tenant).serve server s).1 = .answered ps ∧
      let fetched := Fetched (effectiveType menuType) tenant
        ((R.menus account menuType scope tenant).calls server s)
      (∀ m ∈ ms, Justified ps ms
        (fun m id => ∃ row, fetched row ∧ row.id = m.id ∧ row.parent? = some id) m.id) ∧
      ((∀ row row', fetched row → fetched row' → row.id = row'.id → row.parent? = row'.parent?) →
        ∀ m ∈ ms, Justified ps ms (fun m id => m.parent? = some id) m.id) := by
  obtain ⟨ps, s₁, hps, hwalk⟩ := Query.exists_serve_of_bind (Prod.ext h rfl)
  obtain ⟨all, hclimb, rfl⟩ := climb_of_answered hwalk
  have hcalls := Query.calls_subset_bind_of_answered (f := fun ps =>
    R.menusAbove (ps.map Permission.menuId) (effectiveType menuType) tenant) hps
  refine ⟨ps, by rw [hps], hclimb.justified R.menuOrder fun m m' hm _ hid id hparent => ?_,
    fun hagree => hclimb.justified R.menuOrder fun m m' hm hm' hid id hparent => ?_⟩
  · exact ⟨m, hm.mono hcalls, hid.symm, hparent⟩
  · exact (hagree m' m (hm'.mono hcalls) (hm.mono hcalls) hid).trans hparent

namespace Wiki

/-- Of the menus that are each other's parents, no others are fetched. -/
theorem fetched_circular {α : Type} {q : Query α} {m : Menu}
    (h : Fetched menuType tenant (q.calls circular ()) m) :
    m = pages ⟨"acme"⟩ ∨ m = root ⟨"acme"⟩ := by
  obtain ⟨asked, rows, hc, hseen⟩ := h
  exact menu_of_circular q _ hc m (List.mem_map_of_mem (List.mem_filter.1 hseen).1)

end Wiki

/-- The supervisor holds the permission to read pages if it is the only one. -/
theorem Wiki.runs_permissions_syssa (server : Query.Server σ) (s : σ)
    (h : server (.permissions none ⟨"acme"⟩) s = (.ok [readPage ⟨"acme"⟩], s)) :
    (Resolver.permissions { settings := {}, levels := 3 } ⟨"syssa"⟩ none ⟨"acme"⟩).Runs server s
      [.permissions none ⟨"acme"⟩] [readPage ⟨"acme"⟩] s := by
  have hlisted : listedPermissions [readPage ⟨"acme"⟩] = [readPage ⟨"acme"⟩] :=
    sortBy_of_pairwise (by decide)
  exact .ask h ⟨congrArg (fun ps => (Outcome.answered ps, s)) hlisted, rfl⟩

/-- Two menus that are each other's parents are justified by each other and by a permission. -/
theorem menus_justified_circular :
    ((Resolver.menus { settings := {}, levels := 3 } ⟨"syssa"⟩ none none ⟨"acme"⟩).serve
      Wiki.circular ()).1 =
      .answered [Wiki.pages ⟨"acme"⟩, Wiki.root ⟨"acme"⟩] ∧
    ∃ ps, ((Resolver.permissions { settings := {}, levels := 3 } ⟨"syssa"⟩ none ⟨"acme"⟩).serve
        Wiki.circular ()).1 = .answered ps ∧
      Justified ps [Wiki.pages ⟨"acme"⟩, Wiki.root ⟨"acme"⟩] (fun m id => m.parent? = some id)
        ⟨"root"⟩ := by
  have hpermissions := Wiki.runs_permissions_syssa Wiki.circular () rfl
  have hrun : ((Resolver.menus { settings := {}, levels := 3 } ⟨"syssa"⟩ none none ⟨"acme"⟩).serve
      Wiki.circular ()).1 = .answered [Wiki.pages ⟨"acme"⟩, Wiki.root ⟨"acme"⟩] :=
    congrArg Prod.fst (hpermissions.bind
      (Wiki.runs_toRoot rfl rfl (by decide) (by decide) rfl rfl {})).serve
  obtain ⟨ps, hps, -, hjustified⟩ := menus_justified { settings := {}, levels := 3 }
    ⟨"syssa"⟩ none none ⟨"acme"⟩ Wiki.circular () _ hrun
  refine ⟨hrun, ps, hps, hjustified ?_ (Wiki.root ⟨"acme"⟩) (.tail _ (.head _))⟩
  intro row row' hrow hrow' hid
  rcases Wiki.fetched_circular hrow with rfl | rfl <;>
    rcases Wiki.fetched_circular hrow' with rfl | rfl <;>
    first | rfl | exact absurd hid (by decide)

namespace Wiki

/-- A dataset that keeps two menus under one id, of which only the second has a parent. -/
def twins : Dataset where
  permissions := [readPage ⟨"acme"⟩]
  menus := [{ pages ⟨"acme"⟩ with parentId := none }, pages ⟨"acme"⟩,
    { root ⟨"acme"⟩ with parentId := none }]

/-- The walk goes to the parent of the second menu, and lists the first. -/
theorem runs_twins : (fromPages { settings := {}, levels := 3 }).Runs
    (twins.backend fun _ => false).toServer ()
    [.menus [⟨"pages"⟩] none ⟨"acme"⟩, .menus [⟨"root"⟩] none ⟨"acme"⟩]
    [{ pages ⟨"acme"⟩ with parentId := none }, { root ⟨"acme"⟩ with parentId := none }] () := by
  have hnext : nextLevel [⟨"pages"⟩] [{ pages ⟨"acme"⟩ with parentId := none }, pages ⟨"acme"⟩] =
      [⟨"root"⟩] := sortBy_of_pairwise (by decide)
  have hlast : nextLevel [⟨"pages"⟩, ⟨"root"⟩] [{ root ⟨"acme"⟩ with parentId := none }] = [] :=
    sortBy_of_pairwise (by decide)
  exact runs_fromPages rfl rfl (by decide) (by decide) hnext hlast (sortBy_of_pairwise (by decide))

end Wiki

/-- The menus of a dataset that keeps two of them under one id: the first is listed, and the parent
of the second, which no menu of the answer names. -/
theorem menus_justified_twins :
    ∃ (ps : List Permission) (ms : List Menu),
      ((Resolver.permissions { settings := {}, levels := 3 } ⟨"syssa"⟩ none ⟨"acme"⟩).serve
        (Wiki.twins.backend fun _ => false).toServer ()).1 = .answered ps ∧
      ((Resolver.menus { settings := {}, levels := 3 } ⟨"syssa"⟩ none none ⟨"acme"⟩).serve
        (Wiki.twins.backend fun _ => false).toServer ()).1 = .answered ms ∧
      ∃ m ∈ ms, ¬ Justified ps ms (fun m id => m.parent? = some id) m.id := by
  have hpermissions :=
    Wiki.runs_permissions_syssa (Wiki.twins.backend fun _ => false).toServer () rfl
  refine ⟨[Wiki.readPage ⟨"acme"⟩], [{ Wiki.pages ⟨"acme"⟩ with parentId := none },
    { Wiki.root ⟨"acme"⟩ with parentId := none }], congrArg Prod.fst hpermissions.serve,
    congrArg Prod.fst (hpermissions.bind Wiki.runs_twins).serve, _, .tail _ (.head _), ?_⟩
  generalize hid : Menu.id _ = id
  rintro (hp | ⟨hm, -, -, hparent⟩)
  · cases hp with
    | head => exact absurd hid (by decide)
    | tail _ hp => cases hp
  · simp at hm
    rcases hm with rfl | rfl <;> cases hparent

end TenantAccess
