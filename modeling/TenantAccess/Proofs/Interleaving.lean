import TenantAccess.Proofs.Origin
import TenantAccess.Proofs.Redundancy

/-!
# Writes between the reads

A query makes many reads, and nothing keeps others from writing in between. An `Interleaved` store
comes with the `Pause`s before the looks that will be taken at it: in a pause others take steps of
their writes, of any tenant, and the collections may come to be walked in another order. Most reads
are one look; the permissions linked to roles are two, and the links that were found may be gone
when the permissions are looked up.

Every step keeps each row at its own place, so whatever happens in the pauses, the rows in a reply
are rows that stand in the store at the moment of the look, and they are the tenant's
(`Interleaved.Tracks.look`). Nothing is wrong with such a reply, so a query is never refused because
of the store; it shows rows that were in replies (`Resolver.ask_ensures`); and the walk through the
menus ends, for the parents come from the menus that are there or are put. If the steps do not
concern the tenant, the replies are as good as those of the store before the first pause, and
`Query.Coupled.serve` does the rest. The main statement is `ask_interleaved`.
-/

namespace TenantAccess

variable {α σ : Type} {tenant : TenantCode}

/-! ## A store that others write to -/

/-- What happens to a store between two looks at it. -/
structure Pause where
  /-- The steps that others take. -/
  steps : List Step
  /-- How the collections of the store are walked afterwards. -/
  arrange : MemoryStore → MemoryStore
  rearranges : ∀ s, (arrange s).Rearranges s

/-- A store with the pauses before the looks to come. When they are over nothing happens any more.
-/
structure Interleaved where
  store : MemoryStore
  pauses : List Pause

/-- The store after a step that somebody else takes. A step that fails changes nothing. -/
def MemoryStore.stepped (s : MemoryStore) (step : Step) : MemoryStore :=
  match s.step step with
  | .ok s' => s'
  | .error _ => s

namespace Interleaved

/-- The next pause goes by. -/
def next (st : Interleaved) : Interleaved :=
  match st.pauses with
  | [] => st
  | pause :: rest => ⟨pause.arrange (pause.steps.foldl MemoryStore.stepped st.store), rest⟩

/-- Replies to reads by looks at the store, each after a pause. The links of roles are looked at
before the permissions that they lead to. -/
def server : Query.Server Interleaved
  | .linkedPermissions roles scope tenant, st =>
    match st.next.store.linkedIds roles tenant with
    | .ok ids => (st.next.next.store.permissionsById ids scope tenant, st.next.next)
    | .error fault => (.error fault, st.next)
  | r, st => (st.next.store.reply r, st.next)

/-- Without pauses it is the store that replies. -/
theorem server_of_no_pauses (s : MemoryStore) (r : Read) :
    server r ⟨s, []⟩ = (s.reply r, ⟨s, []⟩) := by
  cases r with
  | linkedPermissions roles scope t =>
    rw [server, MemoryStore.reply]
    dsimp only [next]
    cases s.linkedIds roles t <;> rfl
  | _ => rfl

end Interleaved

/-! ## Steps -/

/-- Whether a step puts a row where a tenant's questions may look, or clears the tenant. -/
def Step.concerns (tenant : TenantCode) : Step → Bool
  | .put row => row.place.concerns tenant
  | .clear _ t => t = tenant

/-- The menu that a step puts. -/
def Step.menu? : Step → Option Menu
  | .put (.menu m) => some m
  | _ => none

section
variable {row : Row} {rows : Set Row} {s : MemoryStore} {step : Step}

/-- A step that does not concern a tenant leaves the rows where the tenant's questions may look. -/
theorem Step.mem_after_iff (hstep : ¬ step.concerns tenant) (hrow : row.place.concerns tenant) :
    row ∈ step.after rows ↔ row ∈ rows := by
  have hdis : ¬ step.Displaces row := fun hdis => hstep <| by
    cases step with
    | put other =>
      have hplace : other.place = row.place := hdis
      rw [concerns, hplace]
      exact hrow
    | clear table t =>
      have hown : row.place.owner? = some t := by
        rw [Place.owner?, hdis]
        rfl
      cases hp : row.place <;>
        simp_all [concerns, Place.concerns, Place.isOf, Place.isApplication, Place.owner?,
          Place.partition?]
  have hput : step ≠ .put row := by
    rintro rfl
    exact hdis rfl
  exact ⟨fun h => (h.resolve_left hput).1, fun h => .inr ⟨h, hdis⟩⟩

/-- A step of somebody else keeps a store in line with the rows. -/
theorem MemoryStore.Represents.stepped (h : s.Represents rows) (step : Step) :
    (s.stepped step).Represents (step.after rows) := by
  obtain ⟨s', hs', h'⟩ := h.step step
  rw [MemoryStore.stepped, hs']
  exact h'

end

namespace Interleaved

/-! ## What goes on in the pauses -/

variable {st : Interleaved} {I : Set Row → Prop} {J : Step → Prop}

/-- The store represents rows with a property, and the steps to come are of a kind. -/
structure Tracks (I : Set Row → Prop) (J : Step → Prop) (st : Interleaved) : Prop where
  represents : ∃ rows, st.store.Represents rows ∧ I rows
  steps : ∀ pause ∈ st.pauses, ∀ step ∈ pause.steps, J step

/-- A pause keeps what each of its steps keeps. -/
theorem Tracks.next (hIJ : ∀ step rows, J step → I rows → I (step.after rows))
    (h : st.Tracks I J) : st.next.Tracks I J := by
  obtain ⟨store, pauses⟩ := st
  cases pauses with
  | nil => exact h
  | cons pause rest =>
    have hsteps : ∀ (steps : List Step) (s : MemoryStore), (∀ step ∈ steps, J step) →
        (∃ rows, s.Represents rows ∧ I rows) →
        ∃ rows, (steps.foldl MemoryStore.stepped s).Represents rows ∧ I rows := by
      intro steps
      induction steps with
      | nil => exact fun _ _ hs => hs
      | cons step steps ih =>
        rintro s hJ ⟨rows, hs, hI⟩
        have hstep := hIJ step rows (hJ step List.mem_cons_self) hI
        exact ih (s.stepped step) (fun other hother => hJ other (List.mem_cons_of_mem _ hother))
          ⟨step.after rows, hs.stepped step, hstep⟩
    obtain ⟨rows, hrep, hI⟩ := hsteps pause.steps store (h.steps pause List.mem_cons_self)
      h.represents
    exact ⟨⟨rows, hrep.of_rearranges (pause.rearranges _), hI⟩,
      fun other hother => h.steps other (List.mem_cons_of_mem _ hother)⟩

end Interleaved

/-- Whether a row is a link from a role to a permission. -/
def Row.isLink : Row → Bool
  | .permissionLink _ => true
  | _ => false

/-- No reply holds links. -/
theorem Read.isLink_of_mem_rows {r : Read} {x : r.Reply} {row : Row} (h : row ∈ r.rows x) :
    row.isLink = false := by
  cases r with
  | assignedRoles => cases h
  | _ =>
    obtain ⟨a, -, rfl⟩ := List.mem_map.1 h
    rfl

namespace Interleaved

variable {st : Interleaved} {I : Set Row → Prop} {J : Step → Prop}

/-- A read is replied to with what it asks for of rows that stand in the store when they are looked
at: the links at a first look, all other rows at the last. -/
theorem Tracks.look (hIJ : ∀ step rows, J step → I rows → I (step.after rows)) (h : st.Tracks I J)
    (r : Read) : ∃ reply seen links rows, (server r st).1 = .ok reply ∧ r.Fits seen reply ∧
      I links ∧ I rows ∧ (server r st).2.store.Represents rows ∧ (server r st).2.Tracks I J ∧
      ∀ row, row ∈ seen ↔ row ∈ if row.isLink then links else rows := by
  have h₁ := h.next hIJ
  obtain ⟨links, hrep₁, hlinks⟩ := h₁.represents
  by_cases hlinked : ∃ roles scope t, r = .linkedPermissions roles scope t
  · obtain ⟨roles, scope, t, rfl⟩ := hlinked
    have h₂ := h₁.next hIJ
    obtain ⟨rows, hrep₂, hrows⟩ := h₂.represents
    obtain ⟨ids, hids, hid⟩ := hrep₁.exists_linkedIds roles t
    obtain ⟨found, hfound, hmem⟩ := hrep₂.exists_permissionsById ids scope t
    have hserver : server (.linkedPermissions roles scope t) st = (.ok found, st.next.next) := by
      rw [server, hids]
      exact congrArg (·, st.next.next) hfound
    refine ⟨found, {row | row ∈ if row.isLink then links else rows}, links, rows, ?_, fun p => ?_,
      hlinks, hrows, ?_, ?_, fun _ => Iff.rfl⟩
    · rw [hserver]
    · rw [hmem p, hid p.id]
      rfl
    · rwa [hserver]
    · rwa [hserver]
  · have hserver : server r st = (st.next.store.reply r, st.next) := by
      cases r with
      | linkedPermissions roles scope t => exact absurd ⟨roles, scope, t, rfl⟩ hlinked
      | _ => rfl
    obtain ⟨reply, hreply, hfits⟩ := hrep₁.exists_reply r
    refine ⟨reply, links, links, links, ?_, hfits, hlinks, hlinks, ?_, ?_, fun row => ?_⟩
    · rw [hserver, hreply]
    · rwa [hserver]
    · rwa [hserver]
    · rw [ite_self]

/-- The rows of a reply stand in the store at the moment of the last look. -/
theorem Tracks.rowAt?_of_reply (hIJ : ∀ step rows, J step → I rows → I (step.after rows))
    (h : st.Tracks I J) {r : Read} {reply : r.Reply} (hreply : (server r st).1 = .ok reply)
    {row : Row} (hrow : row ∈ r.rows reply) :
    (server r st).2.store.rowAt? row.place = some row := by
  obtain ⟨x, seen, links, rows, hx, hfits, -, -, hrep, -, hseen⟩ := h.look hIJ r
  obtain rfl : x = reply := Except.ok.inj (hx.symm.trans hreply)
  have hmem := (hseen row).1 (hfits.mem_and_own hrow).1
  rw [Read.isLink_of_mem_rows hrow] at hmem
  exact (hrep.rowAt?_eq_some _ _).2 ⟨hmem, rfl⟩

end Interleaved

/-! ## Moments -/

namespace Query

/-- The calls that a query makes against a server, each with the state in which it leaves the
server. -/
def visits (server : Server σ) : Query α → σ → List (Call × σ)
  | .answer _, _ | .refuse _, _ | .stall, _ => []
  | .ask r next, s =>
    match server r s with
    | (.ok reply, s') => (⟨r, .ok reply⟩, s') :: (next reply).visits server s'
    | (.error fault, s') => [(⟨r, .error fault⟩, s')]

variable {server : Server σ}

theorem map_fst_visits (q : Query α) (s : σ) :
    (q.visits server s).map Prod.fst = q.calls server s := by
  induction q generalizing s with
  | answer | refuse | stall => rfl
  | ask r next ih =>
    rw [visits, calls]
    rcases server r s with ⟨reply, s'⟩
    cases reply with
    | ok reply => exact congrArg (_ :: ·) (ih reply s')
    | error fault => rfl

/-- What every read does from the states with an invariant, the calls of a query did. -/
theorem forall_visits {I : σ → Prop} {P : Call → σ → Prop}
    (hserver : ∀ r s, I s → P ⟨r, (server r s).1⟩ (server r s).2 ∧ I (server r s).2)
    (q : Query α) {s : σ} (hs : I s) : ∀ v ∈ q.visits server s, P v.1 v.2 := by
  induction q generalizing s with
  | answer | refuse | stall => exact nofun
  | ask r next ih =>
    obtain ⟨hP, hI⟩ := hserver r s hs
    rw [visits]
    rcases hp : server r s with ⟨reply, s'⟩
    rw [hp] at hP hI
    cases reply with
    | ok reply => exact List.forall_mem_cons.2 ⟨hP, ih reply hI⟩
    | error fault => exact List.forall_mem_singleton.2 hP

end Query

namespace Interleaved

variable {st : Interleaved}

/-! ## Safety and termination -/

/-- The parents of the menus that are stored or going to be. -/
def parents (st : Interleaved) : Finset MenuId :=
  ((st.store.menus.rows.values ++ (st.pauses.flatMap Pause.steps).filterMap Step.menu?).filterMap
    Menu.parent?).toFinset

/-- There are at most as many parents as there are menus stored and steps to come. -/
theorem card_parents_le (st : Interleaved) :
    st.parents.card ≤ st.store.menus.rows.size + (st.pauses.flatMap Pause.steps).length := by
  have hmenus : st.store.menus.rows.values.length = st.store.menus.rows.size := List.length_map _
  have hputs := List.length_filterMap_le Step.menu? (st.pauses.flatMap Pause.steps)
  have hparents := List.length_filterMap_le Menu.parent?
    (st.store.menus.rows.values ++ (st.pauses.flatMap Pause.steps).filterMap Step.menu?)
  have hcard : st.parents.card ≤ _ := List.toFinset_card_le _
  rw [List.length_append] at hparents
  omega

/-- The menus among some rows have their parents in a set. -/
def ParentsIn (parents : Finset MenuId) (rows : Set Row) : Prop :=
  ∀ m : Menu, .menu m ∈ rows → ∀ id, m.parent? = some id → id ∈ parents

/-- A menu that a step puts has its parent in a set. -/
def PutsIn (parents : Finset MenuId) (step : Step) : Prop :=
  ∀ m : Menu, step = .put (.menu m) → ∀ id, m.parent? = some id → id ∈ parents

theorem parentsIn_after {parents : Finset MenuId} (step : Step) (rows : Set Row)
    (hstep : PutsIn parents step) (hrows : ParentsIn parents rows) :
    ParentsIn parents (step.after rows) :=
  fun m hm => hm.elim (hstep m) fun h => hrows m h.1

/-- All parents are in the set of the parents, and stay there. -/
theorem tracks_parents {rows : Set Row} (h : st.store.Represents rows) :
    st.Tracks (ParentsIn st.parents) (PutsIn st.parents) where
  represents := by
    refine ⟨rows, h, fun m hm id hid => List.mem_toFinset.2 (List.mem_filterMap.2 ⟨m, ?_, hid⟩)⟩
    refine List.mem_append_left _ (List.mem_map.2 ⟨((m.tenant, m.id), m), ?_, rfl⟩)
    exact Keyed.mem_entries_iff.2 (h.get?_menu.2 ⟨⟨hm, rfl⟩, rfl⟩)
  steps pause hpause step hstep m hm id hid := by
    refine List.mem_toFinset.2 (List.mem_filterMap.2 ⟨m, List.mem_append_right _ ?_, hid⟩)
    exact List.mem_filterMap.2 ⟨step, List.mem_flatMap.2 ⟨pause, hpause, hstep⟩, hm ▸ rfl⟩

/-- The rows of every reply stood in the store at the moment of the call. -/
theorem rowAt?_of_visit {rows : Set Row} (h : st.store.Represents rows) (q : Query α) :
    ∀ v ∈ q.visits server st, ∀ row ∈ v.1.rows, v.2.store.rowAt? row.place = some row := by
  have htracks : st.Tracks (ParentsIn st.parents) (PutsIn st.parents) := tracks_parents h
  refine Query.forall_visits (P := fun c st => ∀ row ∈ c.rows, st.store.rowAt? row.place = some row)
    (fun r st' h' => ?_) q htracks
  obtain ⟨reply, -, -, -, hreply, -, -, -, -, hnext, -⟩ := h'.look parentsIn_after r
  refine ⟨fun row hrow => ?_, hnext⟩
  rw [hreply] at hrow
  exact h'.rowAt?_of_reply parentsIn_after hreply hrow

/-- Terms to which a store keeps that others write to: nothing is wrong with a reply, and the
parents of its menus are in a set. A query is not refused because of the store. -/
def terms (tenant : TenantCode) (parents : Finset MenuId) (levels : Nat) : Query.Terms where
  asks r := r.concerns tenant
  honest r reply := r.leak? tenant reply = none ∧
    ∀ m : Menu, .menu m ∈ r.rows reply → ∀ id, m.parent? = some id → id ∈ parents
  refuses e := ∀ fault, e ≠ .store fault
  stalls := ¬ parents.card < levels

theorem admissible_terms (tenant : TenantCode) (parents : Finset MenuId) (levels : Nat) :
    (terms tenant parents levels).Admit tenant where
  asks _ hr := hr
  isolation r reply fault hreply hleak := by
    rw [hreply.1] at hleak
    cases hleak
  refuses _ he := he

/-- An interleaved store keeps to the terms. -/
theorem server_keeps (tenant : TenantCode) (parents : Finset MenuId) (levels : Nat) :
    server.Keeps (terms tenant parents levels) (Tracks (ParentsIn parents) (PutsIn parents)) where
  honest r st reply hr h hreply := by
    obtain ⟨x, seen, links, rows, hx, hfits, -, hrows, -, -, hseen⟩ := h.look parentsIn_after r
    obtain rfl : x = reply := Except.ok.inj (hx.symm.trans hreply)
    refine ⟨hfits.clean hr, fun m hm id hid => hrows m ?_ id hid⟩
    exact (hseen (.menu m)).1 (hfits.mem_and_own hm).1
  fault r st fault _ h hfault := by
    obtain ⟨x, seen, links, rows, hx, -⟩ := h.look parentsIn_after r
    rw [hx] at hfault
    cases hfault
  next r st _ h := by
    obtain ⟨x, seen, links, rows, -, -, -, -, -, hnext, -⟩ := h.look parentsIn_after r
    exact hnext

/-- What comes of a question that is put to a store that others write to. -/
theorem ask_allows (st : Interleaved) {rows : Set Row} (h : st.store.Represents rows)
    (R : Resolver) (tenant : TenantCode) (q : Question) :
    (terms tenant st.parents R.levels).Allows (fun answer =>
      ∃ shown, q.Shows R.settings answer shown ∧
        DrawnFrom tenant ((R.ask tenant q).calls server st) shown)
      ((R.ask tenant q).serve server st).1 := by
  have hlevels : (terms tenant st.parents R.levels).stalls ∨
      (terms tenant st.parents R.levels).Bounds st.parents ∧ st.parents.card < R.levels := by
    by_cases hcard : st.parents.card < R.levels
    · exact .inr ⟨fun r reply hreply => hreply.2, hcard⟩
    · exact .inl hcard
  exact (R.ask_ensures (admissible_terms tenant st.parents R.levels) q hlevels).serve
    (server_keeps tenant st.parents R.levels) (tracks_parents h)

/-! ## Writes for others -/

/-- Rows are those of a set where a tenant's questions may look. -/
def AgreesOn (tenant : TenantCode) (rows₀ rows : Set Row) : Prop :=
  ∀ row : Row, row.place.concerns tenant → (row ∈ rows ↔ row ∈ rows₀)

/-- A step is none of a tenant's business. -/
def Apart (tenant : TenantCode) (step : Step) : Prop := ¬ step.concerns tenant

variable {rows₀ : Set Row}

theorem agreesOn_after (step : Step) (rows : Set Row) (hstep : Apart tenant step)
    (h : AgreesOn tenant rows₀ rows) : AgreesOn tenant rows₀ (step.after rows) :=
  fun row hrow => (Step.mem_after_iff hstep hrow).trans (h row hrow)

/-- While others write what is none of the tenant's business, reads that concern the tenant are
replied to as before. -/
theorem Tracks.look_apart (h : st.Tracks (AgreesOn tenant rows₀) (Apart tenant)) {r : Read}
    (hr : r.concerns tenant) : ∃ reply, (server r st).1 = .ok reply ∧ r.Fits rows₀ reply ∧
      (server r st).2.Tracks (AgreesOn tenant rows₀) (Apart tenant) := by
  obtain ⟨reply, seen, links, rows, hreply, hfits, hlinks, hrows, -, hnext, hseen⟩ :=
    h.look agreesOn_after r
  refine ⟨reply, hreply, hfits.congr hr fun row hrow => ?_, hnext⟩
  rw [hseen]
  split
  · exact hlinks row hrow
  · exact hrows row hrow

section
variable {store : MemoryStore} {pauses : List Pause} {server' : Query.Server σ} {R R' : Resolver}

/-- Writes that are none of the tenant's business do not change the outcome of a question, but
perhaps of one that looks for an application by a code that several share. -/
theorem ask_apart (hsettings : R'.settings = R.settings) (hlevels : R'.levels = R.levels)
    (q : Question) (h : store.Represents rows₀)
    (hpauses : ∀ pause ∈ pauses, ∀ step ∈ pause.steps, Apart tenant step)
    (hq : ∀ code secret, q = .credentials code secret → ∀ a b, .application a ∈ rows₀ →
      .application b ∈ rows₀ → a.code = code → b.code = code → a = b)
    (hserver' : server'.Serves store) (s : σ) :
    ((R'.ask tenant q).serve server' s).1 = ((R.ask tenant q).serve server ⟨store, pauses⟩).1 := by
  have htracks : (⟨store, pauses⟩ : Interleaved).Tracks (AgreesOn tenant rows₀) (Apart tenant) :=
    ⟨⟨rows₀, h, fun _ _ => Iff.rfl⟩, hpauses⟩
  by_cases hcredentials : ∃ code secret, q = .credentials code secret
  · obtain ⟨code, secret, rfl⟩ := hcredentials
    refine applicationByCredentials_congr ?_ secret
    obtain ⟨x, hx, hxfits⟩ := hserver'.exists_reply h (.applicationByCode code) s
    obtain ⟨y, hy, hyfits, -⟩ := htracks.look_apart (r := .applicationByCode code) rfl
    rw [hx, hy, hxfits.applicationByCode_eq (hq code secret rfl) hyfits]
  · have hview : Overview id := ⟨fun _ => rfl, fun _ => rfl, fun _ => rfl⟩
    have hcoupled : Query.Coupled id tenant _ (R'.ask tenant q) (R.ask tenant q) :=
      Resolver.ask_coupled hview hsettings hlevels q fun code secret heq =>
        hcredentials ⟨code, secret, heq⟩
    have hwidens : server'.Widens id tenant
        (fun _ st => st.Tracks (AgreesOn tenant rows₀) (Apart tenant)) server := by
      intro r hr s st hst
      obtain ⟨x, hx, hxfits⟩ := hserver'.exists_reply h r s
      obtain ⟨y, hy, hyfits, hnext⟩ := hst.look_apart (Read.concerns_of_isWithin hr)
      rw [hx, hy]
      exact ⟨.ok (hxfits.widens hview hr (fun _ _ => Iff.rfl) (fun _ => Iff.rfl) hyfits), hnext⟩
    refine (hcoupled.serve_of_serves h hserver' hwidens htracks).eq fun a b hab => ?_
    rwa [q.look_id, q.look_id] at hab

end

end Interleaved

/-! ## Every history, every interleaving -/

/-- After every history of steps, whatever steps others take between the looks of a query at the
store: the query is never refused because of the store, and it ends. Every row that its answer shows
was in the reply to one of its calls and stood at its place in the store at the moment of that call;
if it is a row of a tenant, it is a row of the tenant that the query is about. And when the steps do
not concern the tenant, the outcome is that of the query alone; of a query that looks for an
application by its code, if the code is no other's. -/
theorem ask_interleaved (R : Resolver) (history : List Step) (tenant : TenantCode)
    (q : Question) :
    ∃ store, history.foldlM MemoryStore.step ∅ = .ok store ∧ ∀ pauses : List Pause,
      (∀ fault, ((R.ask tenant q).serve Interleaved.server ⟨store, pauses⟩).1 ≠
        .refused (.store fault)) ∧
      (store.levels + (pauses.flatMap Pause.steps).length ≤ R.levels →
        ((R.ask tenant q).serve Interleaved.server ⟨store, pauses⟩).1 ≠ .stalled) ∧
      (∀ answer, ((R.ask tenant q).serve Interleaved.server ⟨store, pauses⟩).1 = .answered answer →
        ∃ shown, q.Shows R.settings answer shown ∧ ∀ row ∈ shown,
          (∀ t, row.place.owner? = some t → t = tenant) ∧
          ∃ v ∈ (R.ask tenant q).visits Interleaved.server ⟨store, pauses⟩,
            row ∈ v.1.rows ∧ v.2.store.rowAt? row.place = some row) ∧
      ((∀ pause ∈ pauses, ∀ step ∈ pause.steps, ¬ step.concerns tenant) →
        (∀ code secret, q = .credentials code secret → ∀ a ∈ store.applications.values,
          ∀ b ∈ store.applications.values, a.code = code → b.code = code → a = b) →
        ∀ {σ : Type} (R' : Resolver) (server : Query.Server σ), R'.settings = R.settings →
          R'.levels = R.levels → server.Serves store → ∀ s,
          ((R'.ask tenant q).serve server s).1 =
            ((R.ask tenant q).serve Interleaved.server ⟨store, pauses⟩).1) := by
  obtain ⟨store, hstore, hrep⟩ := MemoryStore.represents_empty.steps history
  refine ⟨store, hstore, fun pauses => ?_⟩
  have hallows := Interleaved.ask_allows ⟨store, pauses⟩ hrep R tenant q
  refine ⟨fun fault heq => ?_, fun hlevels heq => ?_, fun answer heq => ?_, fun hapart hcodes => ?_⟩
  · rw [heq] at hallows
    exact hallows fault rfl
  · rw [heq] at hallows
    have hcard := Interleaved.card_parents_le ⟨store, pauses⟩
    refine hallows ?_
    rw [MemoryStore.levels] at hlevels
    dsimp only at hcard
    omega
  · rw [heq] at hallows
    obtain ⟨shown, hshows, hdrawn⟩ := hallows
    refine ⟨shown, hshows, fun row hrow => ⟨fun t => hdrawn.own hrow, ?_⟩⟩
    obtain ⟨c, hc, hrows, -⟩ := hdrawn row hrow
    rw [← Query.map_fst_visits, List.mem_map] at hc
    obtain ⟨v, hv, rfl⟩ := hc
    exact ⟨v, hv, hrows, Interleaved.rowAt?_of_visit hrep _ v hv row hrows⟩
  · intro σ R' server hsettings hlevels hserver s
    have hvalues : ∀ a, .application a ∈ history.foldl (fun rows step => step.after rows) ∅ →
        a ∈ store.applications.values := fun a ha =>
      List.mem_map_of_mem (Keyed.mem_entries_iff.2 (hrep.get?_application.2 ⟨ha, rfl⟩))
    exact Interleaved.ask_apart hsettings hlevels q hrep hapart
      (fun code secret heq a b ha hb => hcodes code secret heq a (hvalues a ha) b (hvalues b hb))
      hserver s

/-- A pause in which a second tenant comes and goes, with rows under the same ids. -/
def Wiki.bustle : Pause where
  steps := .put (.tenant ⟨⟨"rival"⟩, "Rival", true, []⟩) ::
    (Wiki.history ⟨"rival"⟩ ++ [Write.clearTenant ⟨"rival"⟩]).flatMap Write.steps
  arrange := id
  rearranges := .refl

/-- Ann is told her menus as if nobody else were there, however busy a second tenant is between the
looks. -/
theorem ask_interleaved_wiki :
    ∃ store, ((Wiki.history ⟨"acme"⟩).flatMap Write.steps).foldlM MemoryStore.step ∅ = .ok store ∧
      store.levels + ((List.replicate 4 Wiki.bustle).flatMap Pause.steps).length ≤ 100 ∧
      (∀ pause ∈ List.replicate 4 Wiki.bustle, ∀ step ∈ pause.steps,
        ¬ step.concerns ⟨"acme"⟩) ∧
      ((Resolver.ask { settings := {}, levels := 100 } ⟨"acme"⟩ (.menus ⟨"ann"⟩ none none)).serve
        Interleaved.server ⟨store, List.replicate 4 Wiki.bustle⟩).1 ≠ .stalled ∧
      ((Resolver.ask { settings := {}, levels := 100 } ⟨"acme"⟩ (.menus ⟨"ann"⟩ none none)).serve
        (store.reply.toServer : Query.Server Unit) ()).1 =
      ((Resolver.ask { settings := {}, levels := 100 } ⟨"acme"⟩ (.menus ⟨"ann"⟩ none none)).serve
        Interleaved.server ⟨store, List.replicate 4 Wiki.bustle⟩).1 := by
  obtain ⟨store, hstore, hall⟩ := ask_interleaved { settings := {}, levels := 100 }
    ((Wiki.history ⟨"acme"⟩).flatMap Write.steps) ⟨"acme"⟩ (.menus ⟨"ann"⟩ none none)
  obtain ⟨-, hends, -, hapart⟩ := hall (List.replicate 4 Wiki.bustle)
  have hlevels :
      store.levels + ((List.replicate 4 Wiki.bustle).flatMap Pause.steps).length ≤ 100 := by
    have hthree : (((Wiki.history ⟨"acme"⟩).flatMap Write.steps).foldlM MemoryStore.step ∅).map
      MemoryStore.levels = .ok 3 := rfl
    rw [hstore] at hthree
    obtain hthree : store.levels = 3 := Except.ok.inj hthree
    rw [hthree]
    decide
  have hbustle : ∀ pause ∈ List.replicate 4 Wiki.bustle, ∀ step ∈ pause.steps,
      ¬ step.concerns ⟨"acme"⟩ := by
    intro pause hpause
    obtain rfl := List.eq_of_mem_replicate hpause
    decide
  refine ⟨store, hstore, hlevels, hbustle, hends hlevels, ?_⟩
  exact hapart hbustle (by simp) { settings := {}, levels := 100 } store.reply.toServer rfl rfl
    store.serves_reply ()

end TenantAccess
