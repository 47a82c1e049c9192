import Mathlib.Data.Finset.Card
import Mathlib.Data.Set.List
import TenantAccess.Proofs.Origin
import TenantAccess.Proofs.Query.Coupling
import TenantAccess.Proofs.Stages

/-!
# How long a walk through the menus takes

The walk upwards from some menus asks for a level of them at a time. Nothing is known of those who
reply: they may leave menus out, repeat them, hand out others, and link menus in circles. What a
level can come to is said once (`climb_level_cases`): the walk is refused, or it goes on from the
parents of the menus that were seen. A walk that comes to its end is then a `Climb`, a list of
levels with their replies, and what holds of its menus is shown by induction on it.

Two measures bound the walk. No id is asked for twice, so a level that is not the last one finds a
menu under an id that no level before it found (`Climb.length_le`), and each level after the first
uses up an id out of those that are named as parents (`climb_within`). The bound of the model on
the levels is none of the walk: where it is not met, a greater bound changes nothing
(`Query.Extends`). The main statement is `menusAbove_ends`.
-/

namespace TenantAccess

variable {α β σ : Type} {tenant : TenantCode} {menuType : Option String} {server : Query.Server σ}
  {s : σ} {levels : Nat} {level asked : List MenuId} {found all : List Menu} {cs : List Call}

/-! ## One level -/

section
variable (order : Arrangement Menu) (server : Query.Server σ) (s : σ) (levels : Nat)
  (asked : List MenuId) (found : List Menu)

/-- A level that is not empty is asked for. This is the last call of a walk that is refused, or the
rows are the tenant's and the walk goes on from the next level. -/
theorem climb_level_cases (hne : level ≠ []) :
    (∃ reply e s', (climb order menuType tenant (levels + 1) level asked found).calls server s =
        [⟨.menus level menuType tenant, reply⟩] ∧
      (climb order menuType tenant (levels + 1) level asked found).serve server s =
        (.refused e, s')) ∨
    ∃ (rows : List Menu) (s' : σ), (∀ m ∈ rows, m.tenant = tenant) ∧
      (climb order menuType tenant (levels + 1) level asked found).calls server s =
        ⟨.menus level menuType tenant, .ok rows⟩ ::
          (climb order menuType tenant levels
            (nextLevel (asked ++ level) (seenMenus level menuType rows)) (asked ++ level)
            (found ++ seenMenus level menuType rows)).calls server s' ∧
      (climb order menuType tenant (levels + 1) level asked found).serve server s =
        (climb order menuType tenant levels
          (nextLevel (asked ++ level) (seenMenus level menuType rows)) (asked ++ level)
          (found ++ seenMenus level menuType rows)).serve server s' := by
  cases level with
  | nil => exact absurd rfl hne
  | cons id rest =>
    have hask : climb order menuType tenant (levels + 1) (id :: rest) asked found =
        Query.ask (.menus (id :: rest) menuType tenant) fun (rows : List Menu) =>
          (Query.ownRows "menu" tenant rows).bind fun _ =>
            climb order menuType tenant levels
              (nextLevel (asked ++ id :: rest) (seenMenus (id :: rest) menuType rows))
              (asked ++ id :: rest) (found ++ seenMenus (id :: rest) menuType rows) := rfl
    rcases Query.ask_own_cases server s hask with hrefused | ⟨rows, s', -, hown, hcalls, hserve⟩
    · exact .inl hrefused
    · exact .inr ⟨rows, s', hown, hcalls, hserve⟩

end

/-- One level of a walk: its menus are read, and the walk goes on from the next level. -/
theorem climb_runs {order : Arrangement Menu} {server : Query.Server σ} {s s' s'' : σ}
    {levels : Nat} {id : MenuId} {rest next asked : List MenuId} {found rows ms : List Menu}
    {rs : List Read} (h : server (.menus (id :: rest) menuType tenant) s = (.ok rows, s'))
    (hown : ∀ m ∈ rows, m.tenant = tenant)
    (hnext : nextLevel (asked ++ id :: rest) (seenMenus (id :: rest) menuType rows) = next)
    (hrest : (climb order menuType tenant levels next (asked ++ id :: rest)
      (found ++ seenMenus (id :: rest) menuType rows)).Runs server s' rs ms s'') :
    (climb order menuType tenant (levels + 1) (id :: rest) asked found).Runs server s
      (.menus (id :: rest) menuType tenant :: rs) ms s'' := by
  subst hnext
  exact .ask h (.own hown hrest)

/-- Behind the last level a walk reads nothing. -/
theorem climb_nil_runs {order : Arrangement Menu} {server : Query.Server σ} {s : σ} {levels : Nat}
    {asked : List MenuId} {found ms : List Menu} (h : listedMenus order found = ms) :
    (climb order menuType tenant levels [] asked found).Runs server s [] ms s := by
  rw [climb, h]
  exact .answer ms

/-- What is seen in a level stands under one of its ids. -/
theorem id_mem_of_seen {rows : List Menu} {m : Menu} (h : m ∈ seenMenus level menuType rows) :
    m.id ∈ level := by
  have hseen := (List.mem_filter.1 h).2
  rw [Bool.and_eq_true, List.contains_iff_mem] at hseen
  exact hseen.1

/-- What is seen in a level is of the type in force. -/
theorem menuType_of_seen {rows : List Menu} {m : Menu} (h : m ∈ seenMenus level menuType rows) :
    ∀ t ∈ menuType, m.menuType = t := by
  have hseen := (List.mem_filter.1 h).2
  rw [Bool.and_eq_true] at hseen
  rintro t rfl
  exact of_decide_eq_true hseen.2

/-- A level shares no id with those asked for, and no menu was found under another id than those
asked for. -/
structure Fresh (level asked : List MenuId) (found : List Menu) : Prop where
  disjoint : asked.Disjoint level
  asked_of_found : ∀ m ∈ found, m.id ∈ asked

namespace Fresh

/-- Before the first level nothing has been asked for. -/
theorem init : Fresh level [] [] := ⟨List.disjoint_nil_left _, nofun⟩

theorem step (h : Fresh level asked found) (menuType : Option String) (reply : List Menu) :
    Fresh (nextLevel (asked ++ level) (seenMenus level menuType reply)) (asked ++ level)
      (found ++ seenMenus level menuType reply) where
  disjoint := disjoint_nextLevel _ _
  asked_of_found m hm := by
    rcases List.mem_append.1 hm with hm | hm
    · exact List.mem_append_left _ (h.asked_of_found m hm)
    · exact List.mem_append_right _ (id_mem_of_seen hm)

/-- A level in which something is seen finds an id that no level before it found. -/
theorem card_ids_lt (h : Fresh level asked found) {seen : List Menu}
    (hseen : ∀ m ∈ seen, m.id ∈ level) (hne : seen ≠ []) :
    (found.map Menu.id).toFinset.card < ((found ++ seen).map Menu.id).toFinset.card := by
  obtain ⟨m, hm⟩ := List.exists_mem_of_ne_nil seen hne
  have hnew : m.id ∉ (found.map Menu.id).toFinset := by
    rw [List.mem_toFinset, List.mem_map]
    rintro ⟨m', hm', hid⟩
    exact h.disjoint (hid ▸ h.asked_of_found m' hm') (hseen m hm)
  refine Finset.card_lt_card (Finset.ssubset_iff_subset_ne.2 ⟨fun id hid => ?_, fun heq => hnew ?_⟩)
  · rw [List.map_append, List.mem_toFinset, List.mem_append]
    exact .inl (List.mem_toFinset.1 hid)
  · rw [heq, List.map_append, List.mem_toFinset, List.mem_append]
    exact .inr (List.mem_map_of_mem hm)

end Fresh

/-! ## A walk to its end -/

/-- The levels of a walk that comes to its end: from a level on, the calls that it makes and all
that it has found in the end. -/
inductive Climb (menuType : Option String) (tenant : TenantCode) :
    List MenuId → List MenuId → List Menu → List Call → List Menu → Prop
  | done (asked : List MenuId) (found : List Menu) : Climb menuType tenant [] asked found [] found
  | level {level asked : List MenuId} {found all : List Menu} {cs : List Call} (rows : List Menu)
      (hne : level ≠ []) (hown : ∀ m ∈ rows, m.tenant = tenant)
      (hrest : Climb menuType tenant (nextLevel (asked ++ level) (seenMenus level menuType rows))
        (asked ++ level) (found ++ seenMenus level menuType rows) cs all) :
      Climb menuType tenant level asked found
        (⟨.menus level menuType tenant, .ok rows⟩ :: cs) all

/-- A walk that is answered came to its end, and the answer is the listing of what it found. -/
theorem climb_of_answered {order : Arrangement Menu} {ms : List Menu} {s' : σ}
    (h : (climb order menuType tenant levels level asked found).serve server s =
      (.answered ms, s')) :
    ∃ all, Climb menuType tenant level asked found
      ((climb order menuType tenant levels level asked found).calls server s) all ∧
      ms = listedMenus order all := by
  have hend : ∀ {levels asked found s}, (climb order menuType tenant levels [] asked found).serve
      server s = (.answered ms, s') → ∃ all, Climb menuType tenant [] asked found
        ((climb order menuType tenant levels [] asked found).calls server s) all ∧
        ms = listedMenus order all := by
    intro levels asked found s h
    rw [climb] at h ⊢
    exact ⟨found, .done asked found, (Outcome.answered.inj (Prod.mk.inj h).1).symm⟩
  induction levels generalizing level asked found s with
  | zero =>
    cases level with
    | nil => exact hend h
    | cons => cases h
  | succ levels ih =>
    by_cases hne : level = []
    · subst hne
      exact hend h
    · rcases climb_level_cases order server s levels asked found hne with
        ⟨_, e, _, -, hserve⟩ | ⟨rows, s₁, hown, hcalls, hserve⟩
      · rw [hserve] at h
        cases h
      · rw [hserve] at h
        obtain ⟨all, hclimb, hms⟩ := ih h
        rw [hcalls]
        exact ⟨all, .level rows hne hown hclimb, hms⟩

/-- A menu that a run was replied with, under an id that it had asked for, and of the type in
force. -/
def Fetched (menuType : Option String) (tenant : TenantCode) (cs : List Call) (m : Menu) : Prop :=
  ∃ (asked : List MenuId) (rows : List Menu),
    ⟨.menus asked menuType tenant, .ok rows⟩ ∈ cs ∧ m ∈ seenMenus asked menuType rows

/-- What was fetched by some of the calls was fetched by all of them. -/
theorem Fetched.mono {cs' : List Call} {m : Menu} (h : Fetched menuType tenant cs m)
    (hcs : cs ⊆ cs') : Fetched menuType tenant cs' m := by
  obtain ⟨asked, rows, hc, hm⟩ := h
  exact ⟨asked, rows, hcs hc, hm⟩

namespace Climb

/-- What was found stays found. -/
theorem found_subset (h : Climb menuType tenant level asked found cs all) : found ⊆ all := by
  induction h with
  | done => exact List.Subset.refl _
  | level _ _ _ _ ih => exact fun _ hm => ih (List.mem_append_left _ hm)

/-- Whatever was fetched is found in the end. -/
theorem mem_of_fetched (h : Climb menuType tenant level asked found cs all) {m : Menu}
    (hm : Fetched menuType tenant cs m) : m ∈ all := by
  induction h with
  | done =>
    obtain ⟨_, _, hc, -⟩ := hm
    cases hc
  | level rows _ _ hrest ih =>
    obtain ⟨asked', rows', hc, hseen⟩ := hm
    rcases List.mem_cons.1 hc with heq | hc
    · cases heq
      exact hrest.found_subset (List.mem_append_right _ hseen)
    · exact ih ⟨asked', rows', hc, hseen⟩

/-- Whatever is found in the end is there from the start or was fetched, and is then the tenant's. -/
theorem fetched_of_mem (h : Climb menuType tenant level asked found cs all) :
    ∀ m ∈ all, m ∈ found ∨ Fetched menuType tenant cs m ∧ m.tenant = tenant := by
  induction h with
  | done => exact fun m hm => .inl hm
  | @level level _ _ _ _ rows _ hown _ ih =>
    intro m hm
    rcases ih m hm with hm | ⟨hfetched, htenant⟩
    · refine (List.mem_append.1 hm).imp_right fun hm => ?_
      exact ⟨⟨level, rows, List.mem_cons_self, hm⟩, hown m (List.mem_filter.1 hm).1⟩
    · exact .inr ⟨hfetched.mono (List.subset_cons_self _ _), htenant⟩

/-- A walk makes at most one call more than it finds ids that were not found before. -/
theorem length_le (h : Climb menuType tenant level asked found cs all)
    (hfresh : Fresh level asked found) :
    cs.length + (found.map Menu.id).toFinset.card ≤ (all.map Menu.id).toFinset.card + 1 := by
  induction h with
  | done => simp
  | @level level asked found all cs rows hne hown hrest ih =>
    have hle := ih (hfresh.step menuType rows)
    rw [List.length_cons]
    by_cases hseen : seenMenus level menuType rows = []
    · -- nothing was seen, so this is the last level
      rw [hseen, nextLevel_nil, List.append_nil] at hrest
      cases hrest with
      | done => exact (Nat.add_comm 1 _).le
      | level _ hne => exact absurd rfl hne
    · have hlt := hfresh.card_ids_lt (fun _ => id_mem_of_seen) hseen
      omega

end Climb

/-! ## The parents that are named -/

/-- The ids that the menus in replies name as their parents come from a set. -/
def NamesWithin (parents : Finset MenuId) (cs : List Call) : Prop :=
  ∀ c ∈ cs, ∀ m : Menu, .menu m ∈ c.rows → ∀ id, m.parent? = some id → id ∈ parents

/-- Every level after the first asks for ids that were named as parents and not asked for before, so
a walk has at most so many levels, and does not stall when more of them are allowed. -/
theorem climb_within (order : Arrangement Menu) {parents : Finset MenuId}
    (h : NamesWithin parents
      ((climb order menuType tenant levels level asked found).calls server s)) :
    ((climb order menuType tenant levels level asked found).calls server s).length ≤
        (parents.filter (· ∉ asked ++ level)).card + 1 ∧
      (level = [] ∨ (parents.filter (· ∉ asked ++ level)).card < levels →
        ((climb order menuType tenant levels level asked found).serve server s).1 ≠ .stalled) := by
  induction levels generalizing level asked found s with
  | zero =>
    cases level with
    | nil =>
      rw [climb]
      exact ⟨Nat.zero_le _, fun _ h => by cases h⟩
    | cons => exact ⟨Nat.zero_le _, fun hlt => by simp at hlt⟩
  | succ levels ih =>
    by_cases hne : level = []
    · subst hne
      rw [climb]
      exact ⟨Nat.zero_le _, fun _ h => by cases h⟩
    · rcases climb_level_cases order server s levels asked found hne with
        ⟨_, e, _, hcalls, hserve⟩ | ⟨rows, s₁, -, hcalls, hserve⟩
      · rw [hcalls, hserve]
        exact ⟨Nat.le_add_left 1 _, fun _ h => by cases h⟩
      · rw [hcalls] at h
        obtain ⟨hrows, hrest⟩ := List.forall_mem_cons.1 h
        obtain ⟨hlength, hends⟩ := ih hrest
        rw [hcalls, hserve, List.length_cons]
        by_cases hlast : nextLevel (asked ++ level) (seenMenus level menuType rows) = []
        · rw [hlast, climb]
          exact ⟨Nat.le_add_left 1 _, fun _ h => by cases h⟩
        · have hnew : ∀ id ∈ nextLevel (asked ++ level) (seenMenus level menuType rows),
              id ∈ parents ∧ id ∉ asked ++ level := by
            intro id hid
            obtain ⟨⟨m, hm, hparent⟩, hnew⟩ := mem_nextLevel.1 hid
            exact ⟨hrows m (List.mem_map_of_mem (List.mem_filter.1 hm).1) id hparent, hnew⟩
          have hless := card_filter_lt hnew hlast
          refine ⟨by omega, fun hlevels => hends (.inr ?_)⟩
          have hlt := hlevels.resolve_left hne
          omega

/-! ## The bound on the levels -/

/-- A query does what another does, but may go on where the other stalls. -/
inductive Query.Extends : Query α → Query α → Prop
  | refl (q : Query α) : Extends q q
  | stall (q : Query α) : Extends .stall q
  | ask {r : Read} {next next' : r.Reply → Query α} (h : ∀ x, Extends (next x) (next' x)) :
      Extends (.ask r next) (.ask r next')

namespace Query.Extends

theorem bind (q : Query α) {f f' : α → Query β} (h : ∀ a, Extends (f a) (f' a)) :
    Extends (q.bind f) (q.bind f') := by
  induction q with
  | answer a => exact h a
  | refuse | stall => exact .refl _
  | ask r next ih => exact .ask ih

/-- Where a query does not stall, going on changes nothing. -/
theorem serve_eq {q q' : Query α} (h : Extends q q') (server : Server σ) (s : σ)
    (hends : (q.serve server s).1 ≠ .stalled) : q'.serve server s = q.serve server s := by
  induction h generalizing s with
  | refl => rfl
  | stall => exact absurd rfl hends
  | ask _ ih =>
    rw [serve] at hends
    rw [serve, serve]
    rcases hp : server _ s with ⟨fault | reply, s'⟩
    · rfl
    · rw [hp] at hends
      exact ih reply s' hends

end Query.Extends

/-- A walk that is allowed more levels extends one that is allowed fewer. -/
theorem climb_extends (order : Arrangement Menu) {levels' : Nat} (hlevels : levels ≤ levels') :
    Query.Extends (climb order menuType tenant levels level asked found)
      (climb order menuType tenant levels' level asked found) := by
  induction levels generalizing levels' level asked found with
  | zero =>
    cases level with
    | nil =>
      rw [climb, climb]
      exact .refl _
    | cons => exact .stall _
  | succ levels ih =>
    obtain ⟨levels', rfl⟩ := Nat.exists_eq_add_of_le' (Nat.one_le_of_lt hlevels)
    cases level with
    | nil =>
      rw [climb, climb]
      exact .refl _
    | cons id rest => exact .bind _ fun _ => .bind _ fun _ => ih (Nat.le_of_succ_le_succ hlevels)

/-! ## The whole walk -/

/-- Each level asks for its ids from the least to the greatest. -/
theorem climb_ascends (order : Arrangement Menu) (menuType : Option String) (tenant : TenantCode)
    (levels : Nat) (asked : List MenuId) (found : List Menu)
    (hlevel : StrictlySorted compare level) :
    (climb order menuType tenant levels level asked found).ReadsIn fun r =>
      ∃ ids : List MenuId, .menus ids menuType tenant = r ∧ ids ≠ [] ∧
        StrictlySorted compare ids :=
  climb_rec (P := fun level _ walk => StrictlySorted compare level → walk.ReadsIn fun r =>
      ∃ ids : List MenuId, .menus ids menuType tenant = r ∧ ids ≠ [] ∧ StrictlySorted compare ids)
    (fun _ _ _ => trivial) (fun _ _ _ => trivial)
    (fun level _ _ hne hnext hlevel => .ask_own ⟨level, rfl, hne, hlevel⟩ fun reply =>
      hnext reply (strictlySorted_ascending _))
    order levels level asked found hlevel

/-- `distinctBy` keeps as many entries as a list has keys. -/
theorem length_distinctBy {κ : Type} [DecidableEq κ] (key : α → κ) (xs : List α) :
    (distinctBy key xs).length = (xs.map key).toFinset.card := by
  have hkeys : ((distinctBy key xs).map key).toFinset = (xs.map key).toFinset := by
    ext k
    simp only [List.mem_toFinset, List.mem_map]
    constructor
    · rintro ⟨a, ha, rfl⟩
      exact ⟨a, (distinctBy_sublist key xs).subset ha, rfl⟩
    · rintro ⟨a, ha, rfl⟩
      exact exists_mem_distinctBy key ha
  rw [← hkeys, List.toFinset_card_of_nodup (nodup_map_distinctBy key xs), List.length_map]

/-- As many menus are listed as there are ids among them. -/
theorem length_listedMenus (order : Arrangement Menu) (menus : List Menu) :
    (listedMenus order menus).length = (menus.map Menu.id).toFinset.card := by
  rw [listedMenus, sortBy, List.length_mergeSort, (order.perm _).length_eq, length_distinctBy]

/-- The walk upwards from some menus reads levels of ids, each from the least to the greatest, and no
two of them share an id. -/
theorem menusAbove_levels (R : Resolver) (ids : List MenuId) (menuType : Option String)
    (tenant : TenantCode) (server : Query.Server σ) (s : σ) :
    ∃ asked : List (List MenuId),
      (R.menusAbove ids menuType tenant).reads server s =
        asked.map (fun level => .menus level menuType tenant) ∧
      (∀ level ∈ asked, level ≠ [] ∧ StrictlySorted compare level) ∧
      asked.Pairwise List.Disjoint := by
  have hreads := (climb_ascends R.menuOrder menuType tenant R.levels [] []
    (strictlySorted_ascending ids)).forall_reads server s
  have hstaged : Query.Staged 4 5
      (climb R.menuOrder menuType tenant R.levels (ascending ids) [] []) :=
    climb_staged R.menuOrder menuType R.levels (nodup_ascending ids)
  have horder := hstaged.order.pairwise_reads server s
  have hrange : (R.menusAbove ids menuType tenant).reads server s ∈
      Set.range (List.map fun level => Read.menus level menuType tenant) := by
    rw [Set.range_list_map]
    exact fun r hr => (hreads r hr).imp fun _ h => h.1
  obtain ⟨asked, hasked⟩ := hrange
  rw [Resolver.menusAbove] at hasked
  rw [← hasked] at hreads horder
  have hdisjoint : asked.Pairwise fun level level' =>
      Read.Before (.menus level menuType tenant) (.menus level' menuType tenant) :=
    List.pairwise_map.1 horder
  refine ⟨asked, hasked.symm, fun level hlevel => ?_, hdisjoint⟩
  obtain ⟨ids, heq, hids⟩ := hreads _ (List.mem_map_of_mem hlevel)
  rwa [(Read.menus.inj heq).1] at hids

/-- Whoever replies, and whatever the replies are: the walk upwards from some menus makes reads that
ask for at least one id each, from the least to the greatest, and for no id twice. When it is
answered, it has made at most one read more than it found menus. And when the menus in the replies
name parents out of a finite set only, it ends: it makes at most one read more than the set has ids,
and with a bound beyond that it does not stall and comes to the same as with every greater bound. -/
theorem menusAbove_ends (R : Resolver) (ids : List MenuId) (menuType : Option String)
    (tenant : TenantCode) (server : Query.Server σ) (s : σ) :
    (∃ asked : List (List MenuId),
      (R.menusAbove ids menuType tenant).reads server s =
        asked.map (fun level => .menus level menuType tenant) ∧
      (∀ level ∈ asked, level ≠ [] ∧ StrictlySorted compare level) ∧
      asked.Pairwise List.Disjoint) ∧
    (∀ ms, ((R.menusAbove ids menuType tenant).serve server s).1 = .answered ms →
      ((R.menusAbove ids menuType tenant).reads server s).length ≤ ms.length + 1) ∧
    ∀ parents : Finset MenuId,
      NamesWithin parents ((R.menusAbove ids menuType tenant).calls server s) →
      ((R.menusAbove ids menuType tenant).reads server s).length ≤ parents.card + 1 ∧
      (parents.card < R.levels →
        ((R.menusAbove ids menuType tenant).serve server s).1 ≠ .stalled ∧
        ∀ levels, R.levels ≤ levels →
          ({ R with levels }.menusAbove ids menuType tenant).serve server s =
            (R.menusAbove ids menuType tenant).serve server s) := by
  refine ⟨menusAbove_levels R ids menuType tenant server s, fun ms hms => ?_,
    fun parents hparents => ?_⟩
  · obtain ⟨all, hclimb, rfl⟩ := climb_of_answered (Prod.ext hms rfl)
    have hle := hclimb.length_le .init
    rw [length_listedMenus, Query.reads, List.length_map]
    exact Nat.le_of_add_right_le hle
  · obtain ⟨hlength, hends⟩ := climb_within R.menuOrder hparents
    have hcard := Finset.card_le_card (Finset.filter_subset (· ∉ [] ++ ascending ids) parents)
    refine ⟨?_, fun hlevels => ?_⟩
    · rw [Query.reads, List.length_map]
      exact hlength.trans (Nat.add_le_add_right hcard 1)
    · have hstalls := hends (.inr (hcard.trans_lt hlevels))
      exact ⟨hstalls, fun levels hle => (climb_extends R.menuOrder hle).serve_eq server s hstalls⟩

namespace Wiki

/-- Whatever is asked, the permission of the wiki is handed out, and its two menus, which are each
other's parents. -/
def circular : Query.Server Unit :=
  (Dataset.backend { permissions := [readPage ⟨"acme"⟩], menus := [pages ⟨"acme"⟩, root ⟨"acme"⟩] }
    fun _ => true).toServer

/-- No other menus are handed out. -/
theorem menu_of_circular {α : Type} (q : Query α) :
    ∀ c ∈ q.calls circular (), ∀ m : Menu, .menu m ∈ c.rows →
      m = pages ⟨"acme"⟩ ∨ m = root ⟨"acme"⟩ := by
  refine Query.forall_calls (fun r _ => ?_) q ()
  cases r <;> simp [circular, Query.Backend.toServer, Dataset.backend, Dataset.wholeReply, Call.rows,
    Read.rows]

/-- The walk upwards from the pages. -/
def fromPages (R : Resolver) : Query (List Menu) := R.menusAbove [⟨"pages"⟩] none ⟨"acme"⟩

/-- From the pages the walk goes to the root, if that is what is named there, and from the root on to
no menu. -/
theorem runs_fromPages {server : Query.Server σ} {s : σ} {settings : AdminSettings}
    {rows rows' ms : List Menu}
    (hpages : server (.menus [⟨"pages"⟩] none ⟨"acme"⟩) s = (.ok rows, s))
    (hroot : server (.menus [⟨"root"⟩] none ⟨"acme"⟩) s = (.ok rows', s))
    (hown : ∀ m ∈ rows, m.tenant = ⟨"acme"⟩) (hown' : ∀ m ∈ rows', m.tenant = ⟨"acme"⟩)
    (hnext : nextLevel [⟨"pages"⟩] (seenMenus [⟨"pages"⟩] none rows) = [⟨"root"⟩])
    (hlast : nextLevel [⟨"pages"⟩, ⟨"root"⟩] (seenMenus [⟨"root"⟩] none rows') = [])
    (hlisted : listedMenus {} (seenMenus [⟨"pages"⟩] none rows ++ seenMenus [⟨"root"⟩] none rows') =
      ms) :
    (fromPages { settings, levels := 3 }).Runs server s
      [.menus [⟨"pages"⟩] none ⟨"acme"⟩, .menus [⟨"root"⟩] none ⟨"acme"⟩] ms s := by
  have hascending : ascending [⟨"pages"⟩] = [(⟨"pages"⟩ : MenuId)] := sortBy_of_pairwise (by decide)
  rw [fromPages, Resolver.menusAbove, hascending]
  exact climb_runs hpages hown hnext (climb_runs hroot hown' hlast (climb_nil_runs hlisted))

/-- The walk of a wiki that keeps each of the two menus once. -/
theorem runs_toRoot {server : Query.Server σ} {s : σ} {rows rows' : List Menu}
    (hpages : server (.menus [⟨"pages"⟩] none ⟨"acme"⟩) s = (.ok rows, s))
    (hroot : server (.menus [⟨"root"⟩] none ⟨"acme"⟩) s = (.ok rows', s))
    (hown : ∀ m ∈ rows, m.tenant = ⟨"acme"⟩) (hown' : ∀ m ∈ rows', m.tenant = ⟨"acme"⟩)
    (hseen : seenMenus [⟨"pages"⟩] none rows = [pages ⟨"acme"⟩])
    (hseen' : seenMenus [⟨"root"⟩] none rows' = [root ⟨"acme"⟩]) (settings : AdminSettings) :
    (fromPages { settings, levels := 3 }).Runs server s
      [.menus [⟨"pages"⟩] none ⟨"acme"⟩, .menus [⟨"root"⟩] none ⟨"acme"⟩]
      [pages ⟨"acme"⟩, root ⟨"acme"⟩] s := by
  have hnext : nextLevel [⟨"pages"⟩] [pages ⟨"acme"⟩] = [⟨"root"⟩] :=
    sortBy_of_pairwise (by decide)
  have hlast : nextLevel [⟨"pages"⟩, ⟨"root"⟩] [root ⟨"acme"⟩] = [] :=
    sortBy_of_pairwise (by decide)
  refine runs_fromPages hpages hroot hown hown' (hseen ▸ hnext) (hseen' ▸ hlast) ?_
  rw [hseen, hseen']
  exact sortBy_of_pairwise (by decide)

/-- No menus but these are named as parents. -/
theorem namesWithin_circular (q : Query (List Menu)) :
    NamesWithin {⟨"pages"⟩, ⟨"root"⟩} (q.calls circular ()) := by
  intro c hc m hm id hparent
  rcases menu_of_circular q c hc m hm with rfl | rfl <;> revert hparent <;> revert id <;> decide

end Wiki

/-- Two menus that are each other's parents, handed out whatever is asked, are found with at most
three reads. -/
theorem menusAbove_ends_circular :
    ∃ R : Resolver, R.levels = 3 ∧
      NamesWithin {⟨"pages"⟩, ⟨"root"⟩} ((Wiki.fromPages R).calls Wiki.circular ()) ∧
      ({⟨"pages"⟩, ⟨"root"⟩} : Finset MenuId).card < R.levels ∧
      ((Wiki.fromPages R).serve Wiki.circular ()).1 =
        .answered [Wiki.pages ⟨"acme"⟩, Wiki.root ⟨"acme"⟩] ∧
      ((Wiki.fromPages R).reads Wiki.circular ()).length ≤ 3 ∧
      ((Wiki.fromPages R).serve Wiki.circular ()).1 ≠ .stalled := by
  obtain ⟨-, hanswered, hends⟩ := menusAbove_ends { settings := {}, levels := 3 }
    [⟨"pages"⟩] none ⟨"acme"⟩ Wiki.circular ()
  have hnames := Wiki.namesWithin_circular (Wiki.fromPages { settings := {}, levels := 3 })
  have hrun : ((Wiki.fromPages { settings := {}, levels := 3 }).serve Wiki.circular ()).1 =
      .answered [Wiki.pages ⟨"acme"⟩, Wiki.root ⟨"acme"⟩] :=
    congrArg Prod.fst (Wiki.runs_toRoot rfl rfl (by decide) (by decide) rfl rfl {}).serve
  exact ⟨{ settings := {}, levels := 3 }, rfl, hnames, by decide, hrun, hanswered _ hrun,
    ((hends _ hnames).2 (by decide)).1⟩

end TenantAccess
