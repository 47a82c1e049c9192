import Mathlib.Data.List.Nodup
import TenantAccess.Proofs.Rights

/-!
# A table is a map for every tenant

What can be done with a table is data here, an `Action`, so a history of a table is a list of
actions; the death of a writer is one of them. `LastStored` says of the actions alone which row
stands under a key of a tenant: the one that was stored there last, by an insertion or by a put, and
neither replaced since nor cleared with its tenant. `Succeeds` is the whole of what one action does
to a table that is not poisoned, and `succeeds` proves it of every action; so after any history
without a death the table holds the rows that were stored last (`run_of_not_mem_poison`). A table
`AnswersFor` a tenant as a map does when every read of the tenant is answered from the map alone.

The main statement is `run_answersFor_lastStored`: to each tenant the table is a map of its own,
which no other tenant's action touches, and the first death stops all of it.
-/

namespace TenantAccess

namespace TenantTable

variable {κ ν : Type}

/-- What can be done with a table. Any row can be stored under any tenant and key; a row that is
known by an identifier can also be put, under the tenant and the identifier that it names itself. -/
inductive Action (ν : Type) : Type → Type 1 where
  | put {kind : IdKind} [TenantScoped ν] [Entity ν kind] (row : ν) : Action ν (Identifier kind)
  | upsert {κ : Type} (tenant : TenantCode) (key : κ) (row : ν) : Action ν κ
  | get {κ : Type} (tenant : TenantCode) (key : κ) : Action ν κ
  | getMany {κ : Type} (tenant : TenantCode) (keys : List κ) : Action ν κ
  | filter {κ : Type} (tenant : TenantCode) (p : ν → Bool) : Action ν κ
  | clearTenant {κ : Type} (tenant : TenantCode) : Action ν κ
  /-- A writer dies in the middle of its work. -/
  | poison {κ : Type} : Action ν κ

namespace Action

/-- What an action replies when it succeeds. -/
def Reply : {κ : Type} → Action ν κ → Type
  | _, .get .. => Option ν
  | _, .getMany .. | _, .filter .. => List ν
  | _, @put _ _ _ _ _ | _, .upsert .. | _, .clearTenant .. | _, .poison => Unit

/-- The tenant and the key under which an action stores a row, and the row. -/
def stored? : {κ : Type} → Action ν κ → Option ((TenantCode × κ) × ν)
  | _, @put _ _ _ _ row => some ((TenantScoped.tenantOf row, Entity.idOf row), row)
  | _, .upsert tenant key row => some ((tenant, key), row)
  | _, .get .. | _, .getMany .. | _, .filter .. | _, .clearTenant .. | _, .poison => none

/-- The tenant that an action is about. The death of a writer is about no tenant. -/
def tenant? : {κ : Type} → Action ν κ → Option TenantCode
  | _, @put _ _ _ _ row => some (TenantScoped.tenantOf row)
  | _, .upsert tenant .. | _, .get tenant _ | _, .getMany tenant _ | _, .filter tenant _
  | _, .clearTenant tenant => some tenant
  | _, .poison => none

/-- An action displaces what stands under a key of a tenant when it clears the tenant or stores
another row there. -/
def Displaces (tenant : TenantCode) (key : κ) (a : Action ν κ) : Prop :=
  a = .clearTenant tenant ∨ ∃ row, a.stored? = some ((tenant, key), row)

/-- Whether an action is about a tenant. -/
def isOf (tenant : TenantCode) (a : Action ν κ) : Bool := a.tenant? = some tenant

end Action

/-- The row is the last that was stored under the key of the tenant, and the tenant was not cleared
since. -/
def LastStored (as : List (Action ν κ)) (tenant : TenantCode) (key : κ) (row : ν) : Prop :=
  Stands (fun a => a.stored? = some ((tenant, key), row)) (Action.Displaces tenant key) as

/-- The reply to a change of a table and the table after it, which is the old one if the change
fails. -/
def changed (t : TenantTable κ ν) :
    Except StoreFault (TenantTable κ ν) → Except StoreFault Unit × TenantTable κ ν
  | .ok t' => (.ok (), t')
  | .error fault => (.error fault, t)

/-- The reply to an action and the table after it. -/
def perform : {κ : Type} → [DecidableEq κ] → TenantTable κ ν → (a : Action ν κ) →
    Except StoreFault a.Reply × TenantTable κ ν
  | _, _, t, @Action.put _ _ _ _ row => t.changed (t.put row)
  | _, _, t, .upsert tenant key row => t.changed (t.upsert tenant key row)
  | _, _, t, .get tenant key => (t.get? tenant key, t)
  | _, _, t, .getMany tenant keys => (t.getMany tenant keys, t)
  | _, _, t, .filter tenant p => (t.filter tenant p, t)
  | _, _, t, .clearTenant tenant => t.changed (t.clearTenant tenant)
  | _, _, t, .poison => t.changed t.poison

variable [DecidableEq κ]

/-- The table after some actions, one after the other. -/
def run (t : TenantTable κ ν) (as : List (Action ν κ)) : TenantTable κ ν :=
  as.foldl (fun t a => (t.perform a).2) t

/-- To the reads of a tenant a table replies as a map does. The rows that pass a test come in some
order, once for every key that they stand under. -/
structure AnswersFor (t : TenantTable κ ν) (tenant : TenantCode) (map : κ → Option ν) : Prop where
  get : ∀ key, t.get? tenant key = .ok (map key)
  getMany : ∀ keys, t.getMany tenant keys = .ok (keys.filterMap map)
  filter : ∀ p, ∃ found : List (κ × ν), t.filter tenant p = .ok (found.map Prod.snd) ∧
    (found.map Prod.fst).Nodup ∧ ∀ key row, (key, row) ∈ found ↔ map key = some row ∧ p row

variable {t : TenantTable κ ν} {a : Action ν κ} {as : List (Action ν κ)} {tenant : TenantCode}
  {key : κ} {row : ν}

/-! ## One action -/

/-- A put is the insertion of a row under its own tenant and id, however ids are compared. -/
theorem put_eq_upsert {kind : IdKind} [DecidableEq (Identifier kind)] [TenantScoped ν]
    [Entity ν kind] (t : TenantTable (Identifier kind) ν) (row : ν) :
    t.put row = t.upsert (TenantScoped.tenantOf row) (Entity.idOf row) row := by
  rw [put]
  congr!

/-- A poisoned table fails at every action and stays as it is. -/
theorem perform_of_poisoned (h : t.poisoned) (a : Action ν κ) :
    t.perform a = (.error (.backend s!"{t.name} table lock poisoned"), t) := by
  have hguarded : ∀ {α : Type} (outcome : α),
      t.guarded outcome = .error (.backend s!"{t.name} table lock poisoned") := fun _ => by
    rw [guarded, if_pos h]
  cases a with
  | put row => rw [perform, put_eq_upsert, upsert, hguarded]; rfl
  | upsert => rw [perform, upsert, hguarded]; rfl
  | get => rw [perform, get?, hguarded]; rfl
  | getMany => rw [perform, TenantTable.getMany, hguarded]; rfl
  | filter => rw [perform, TenantTable.filter, hguarded]; rfl
  | clearTenant => rw [perform, clearTenant, hguarded]; rfl
  | poison => rw [perform, poison, hguarded]; rfl

/-- What an action does to a table that is not poisoned. It succeeds, and under every key there
stands afterwards what it stored there, or what stood there and was not displaced. -/
structure Succeeds (t : TenantTable κ ν) (a : Action ν κ) : Prop where
  reply : ∃ reply, (t.perform a).1 = .ok reply
  get? : ∀ tenant key row, (t.perform a).2.rows.get? (tenant, key) = some row ↔
    a.stored? = some ((tenant, key), row) ∨
      t.rows.get? (tenant, key) = some row ∧ ¬ a.Displaces tenant key
  poisoned : (t.perform a).2.poisoned = true ↔ a = .poison
  name : (t.perform a).2.name = t.name

section
variable {reply : a.Reply}

/-- A look changes nothing. -/
theorem succeeds_of_look (h : t.poisoned = false) (hperform : t.perform a = (.ok reply, t))
    (hstored : a.stored? = none) (hclear : ∀ gone, a ≠ .clearTenant gone) (hpoison : a ≠ .poison) :
    t.Succeeds a where
  reply := ⟨reply, by rw [hperform]⟩
  get? tenant key row := by simp [hperform, hstored, Action.Displaces, hclear]
  poisoned := by simp [hperform, h, hpoison]
  name := by rw [hperform]

/-- A row that is stored displaces the one that stands at its place. -/
theorem succeeds_of_inserted (h : t.poisoned = false)
    (hperform : t.perform a = (.ok reply, t.inserted tenant key row))
    (hstored : a.stored? = some ((tenant, key), row)) : t.Succeeds a where
  reply := ⟨reply, by rw [hperform]⟩
  get? tenant' key' row' := by
    have hclear : a ≠ .clearTenant tenant' := by
      rintro rfl
      cases hstored
    simp only [hperform, get?_inserted, hstored, Action.Displaces, hclear, false_or,
      Option.some.injEq, Prod.mk.injEq]
    grind
  poisoned := by
    have hpoison : a ≠ .poison := by
      rintro rfl
      cases hstored
    simp [hperform, inserted, h, hpoison]
  name := by rw [hperform]; rfl

end

/-- A writer that dies leaves the rows as they are. -/
theorem perform_poison (h : t.poisoned = false) :
    t.perform .poison = (.ok (), { t with poisoned := true }) := by
  rw [perform, poison, guarded, h]
  rfl

/-- A table that is not poisoned performs every action. -/
theorem succeeds (h : t.poisoned = false) (a : Action ν κ) : t.Succeeds a := by
  have hguarded : ∀ {α : Type} (outcome : α), t.guarded outcome = .ok outcome := fun _ => by
    simp [guarded, h]
  cases a with
  | put row =>
    have hperform : t.perform (.put row) =
        (.ok (), t.inserted (TenantScoped.tenantOf row) (Entity.idOf row) row) := by
      rw [perform, put_eq_upsert, upsert_of_intact h]
      rfl
    exact succeeds_of_inserted h hperform rfl
  | upsert tenant key row =>
    have hperform : t.perform (.upsert tenant key row) = (.ok (), t.inserted tenant key row) := by
      rw [perform, upsert_of_intact h]
      rfl
    exact succeeds_of_inserted h hperform rfl
  | get | getMany | filter =>
    refine succeeds_of_look h (Prod.ext (hguarded _) rfl) rfl (fun gone hclear => ?_)
      fun hpoison => ?_
    · cases hclear
    · cases hpoison
  | clearTenant gone =>
    have hperform : t.perform (.clearTenant gone) = (.ok (), t.cleared gone) := by
      rw [perform, clearTenant_of_intact h]
      rfl
    constructor
    · exact ⟨(), by rw [hperform]⟩
    · intro tenant key row
      by_cases htenant : gone = tenant
      · simp [hperform, Action.stored?, Action.Displaces, htenant]
      · simp [hperform, Action.stored?, Action.Displaces, htenant, Ne.symm htenant]
    · simp [hperform, cleared, h]
    · rw [hperform]; rfl
  | poison =>
    constructor
    · exact ⟨(), by rw [perform_poison h]⟩
    · simp [perform_poison h, Action.stored?, Action.Displaces]
    · simp [perform_poison h]
    · rw [perform_poison h]

/-! ## Many actions -/

theorem run_append_singleton (t : TenantTable κ ν) (as : List (Action ν κ)) (a : Action ν κ) :
    t.run (as ++ [a]) = ((t.run as).perform a).2 := by
  rw [run, List.foldl_append]
  rfl

theorem name_run (t : TenantTable κ ν) (as : List (Action ν κ)) : (t.run as).name = t.name := by
  induction as using List.reverseRecOn with
  | nil => rfl
  | append_singleton as a ih =>
    rw [run_append_singleton]
    cases h : (t.run as).poisoned with
    | true => rw [perform_of_poisoned h, ih]
    | false => rw [(succeeds h a).name, ih]

omit [DecidableEq κ] in
/-- One more action stores the row, or leaves it standing. -/
theorem lastStored_append_singleton (as : List (Action ν κ)) (a : Action ν κ) :
    LastStored (as ++ [a]) tenant key row ↔
      a.stored? = some ((tenant, key), row) ∨
        LastStored as tenant key row ∧ ¬ a.Displaces tenant key :=
  stands_append_singleton as a

omit [DecidableEq κ] in
/-- Which row was stored last depends on the actions that are about the tenant only. -/
theorem lastStored_filter :
    LastStored (as.filter (·.isOf tenant)) tenant key row ↔ LastStored as tenant key row := by
  have hstored : ∀ (a : Action ν κ) row, a.stored? = some ((tenant, key), row) → a.isOf tenant := by
    intro a row ha
    cases a <;> cases ha <;> simp [Action.isOf, Action.tenant?]
  refine stands_filter (fun a => hstored a row) fun a ha => ?_
  obtain rfl | ⟨row, ha⟩ := ha
  · simp [Action.isOf, Action.tenant?]
  · exact hstored a row ha

/-- As long as no writer dies, under every key there stands the row that was stored last. -/
theorem run_of_not_mem_poison (name : String) (h : .poison ∉ as) :
    (run { name } as).poisoned = false ∧
      ∀ tenant key row, (run { name } as).rows.get? (tenant, key) = some row ↔
        LastStored as tenant key row := by
  induction as using List.reverseRecOn with
  | nil => exact ⟨rfl, fun tenant key row => iff_of_false nofun not_stands_nil⟩
  | append_singleton as a ih =>
    simp only [List.mem_append, List.mem_singleton, not_or] at h
    obtain ⟨hintact, hget⟩ := ih h.1
    have ha := succeeds hintact a
    rw [run_append_singleton]
    refine ⟨Bool.eq_false_iff.2 fun hpoisoned => h.2 (ha.poisoned.1 hpoisoned).symm,
      fun tenant key row => ?_⟩
    rw [ha.get?, hget, lastStored_append_singleton]

/-- After the death of a writer the table is poisoned and holds the rows that it held before. -/
theorem run_of_poison (t : TenantTable κ ν) (before later : List (Action ν κ)) :
    (t.run (before ++ .poison :: later)).poisoned ∧
      (t.run (before ++ .poison :: later)).rows = (t.run before).rows := by
  have hdeath : ((t.run before).perform .poison).2.poisoned ∧
      ((t.run before).perform .poison).2.rows = (t.run before).rows := by
    cases h : (t.run before).poisoned with
    | true => rw [perform_of_poisoned h]; exact ⟨h, rfl⟩
    | false => rw [perform_poison h]; exact ⟨rfl, rfl⟩
  have hstays : ∀ {t : TenantTable κ ν}, t.poisoned → ∀ as : List (Action ν κ), t.run as = t := by
    intro t h as
    induction as with
    | nil => rfl
    | cons a as ih => rw [run, List.foldl_cons, perform_of_poisoned h]; exact ih
  have hsplit : t.run (before ++ .poison :: later) =
      ((t.run before).perform .poison).2.run later := by
    rw [run, List.foldl_append]
    rfl
  rw [hsplit, hstays hdeath.1]
  exact hdeath

/-! ## Replies -/

/-- A table that is not poisoned replies to the reads of a tenant from what stands under the keys of
the tenant. -/
theorem answersFor_of_get? (h : t.poisoned = false) {map : κ → Option ν}
    (hmap : ∀ key, t.rows.get? (tenant, key) = map key) : t.AnswersFor tenant map where
  get key := by rw [get?, guarded, h, hmap]; rfl
  getMany keys := by simp only [TenantTable.getMany, guarded, h, hmap]; rfl
  filter p := by
    let entries := t.rows.entries.filter fun e => e.1.1 = tenant && p e.2
    have hmem : ∀ k row, (k, row) ∈ entries ↔ k.1 = tenant ∧ t.rows.get? k = some row ∧ p row := by
      intro k row
      simp only [entries, List.mem_filter, Keyed.mem_entries_iff, Bool.and_eq_true,
        decide_eq_true_eq]
      tauto
    have hplaces : (entries.map Prod.fst).Nodup :=
      t.rows.nodup_keys.sublist (List.filter_sublist.map _)
    refine ⟨entries.map fun e => (e.1.2, e.2), ?_, ?_, fun key row => ?_⟩
    · rw [TenantTable.filter, guarded, h, List.map_map]; rfl
    · -- within one tenant the key tells the places apart
      have hkeys : ((entries.map Prod.fst).map Prod.snd).Nodup := by
        refine hplaces.map_on fun k hk k' hk' heq => Prod.ext ?_ heq
        obtain ⟨⟨_, row⟩, he, rfl⟩ := List.mem_map.1 hk
        obtain ⟨⟨_, row'⟩, he', rfl⟩ := List.mem_map.1 hk'
        rw [((hmem _ _).1 he).1, ((hmem _ _).1 he').1]
      simpa [Function.comp_def] using hkeys
    · rw [List.mem_map, ← hmap]
      constructor
      · rintro ⟨⟨⟨tenant', key'⟩, row'⟩, he, heq⟩
        obtain ⟨rfl, rfl⟩ := Prod.mk.inj heq
        obtain ⟨rfl, hget⟩ := (hmem _ _).1 he
        exact hget
      · intro hget
        exact ⟨((tenant, key), row), (hmem _ _).2 ⟨rfl, hget⟩, rfl⟩

/-- From a fresh table on, whatever is done with it, as long as no writer dies

* every action succeeds;
* to the reads of a tenant the table replies as the map does that has, under every key, the row that
  was stored last under this key and tenant, by an insertion or a put, since the tenant was cleared;
* other tenants' actions make no difference to that, and neither does the order in which the table
  is walked.

Once a writer has died, every action fails with the name of the table, and its rows stay as they
were. -/
theorem run_answersFor_lastStored (name : String) (as : List (Action ν κ)) :
    (.poison ∉ as →
      (∀ a : Action ν κ, ∃ reply, ((run { name } as).perform a).1 = .ok reply) ∧
      ∀ tenant, ∃ map : κ → Option ν,
        (∀ key row, map key = some row ↔ LastStored as tenant key row) ∧
        ∀ as' : List (Action ν κ), .poison ∉ as' →
          as'.filter (·.isOf tenant) = as.filter (·.isOf tenant) →
          ∀ t : TenantTable κ ν, t.Rearranges (run { name } as') → t.AnswersFor tenant map) ∧
    ∀ before later : List (Action ν κ), as = before ++ .poison :: later →
      (∀ a : Action ν κ, ((run { name } as).perform a).1 =
        .error (.backend s!"{name} table lock poisoned")) ∧
      (run { name } as).rows = (run { name } before).rows := by
  refine ⟨fun has => ?_, fun before later heq => ?_⟩
  · obtain ⟨hintact, hget⟩ := run_of_not_mem_poison name has
    refine ⟨fun a => (succeeds hintact a).reply, fun tenant =>
      ⟨fun key => (run { name } as).rows.get? (tenant, key), hget tenant, ?_⟩⟩
    intro as' has' hfilter t ht
    obtain ⟨hintact', hget'⟩ := run_of_not_mem_poison name has'
    refine answersFor_of_get? (ht.poisoned.trans hintact') fun key => ?_
    ext row
    rw [Keyed.get?_eq_of_perm ht.entries, hget', hget, ← lastStored_filter, hfilter,
      lastStored_filter]
  · obtain ⟨hpoisoned, hrows⟩ := run_of_poison ({ name } : TenantTable κ ν) before later
    rw [heq]
    refine ⟨fun a => ?_, hrows⟩
    rw [perform_of_poisoned hpoisoned, name_run]

end TenantTable

/-- Ann's account is put into her tenant and stored in another tenant too, under another key; then
her own tenant is cleared. -/
def Wiki.moved : List (TenantTable.Action Account AccountId) :=
  [.put (ann ⟨"acme"⟩), .upsert ⟨"rival"⟩ ⟨"guest"⟩ (ann ⟨"acme"⟩), .clearTenant ⟨"acme"⟩]

open TenantTable in
/-- Her account is gone from her tenant and still there in the other, although the row names hers.
After the death of a writer nobody finds it any more. -/
theorem run_answersFor_lastStored_moved :
    .poison ∉ Wiki.moved ∧
      (run { name := "account" } Wiki.moved).get? ⟨"acme"⟩ ⟨"ann"⟩ = .ok none ∧
      (run { name := "account" } Wiki.moved).get? ⟨"rival"⟩ ⟨"guest"⟩ =
        .ok (some (Wiki.ann ⟨"acme"⟩)) ∧
      ((run { name := "account" } (Wiki.moved ++ [.poison])).perform
        (.get ⟨"rival"⟩ ⟨"guest"⟩)).1 = .error (.backend "account table lock poisoned") := by
  have halive : .poison ∉ Wiki.moved := by simp [Wiki.moved]
  obtain ⟨-, hmap⟩ := (run_answersFor_lastStored "account" Wiki.moved).1 halive
  refine ⟨halive, ?_, ?_, ?_⟩
  · obtain ⟨map, hlast, hreplies⟩ := hmap ⟨"acme"⟩
    have hnone : map ⟨"ann"⟩ = none := by
      refine Option.eq_none_iff_forall_ne_some.2 fun row hrow => ?_
      have hstands : LastStored ([_, _] ++ [.clearTenant ⟨"acme"⟩]) _ _ row := (hlast _ _).1 hrow
      obtain hstored | ⟨-, hkept⟩ := (lastStored_append_singleton _ _).1 hstands
      · cases hstored
      · exact hkept (.inl rfl)
    rw [← hnone]
    exact (hreplies Wiki.moved halive rfl _ (.refl _)).get _
  · obtain ⟨map, hlast, hreplies⟩ := hmap ⟨"rival"⟩
    have hguest : map ⟨"guest"⟩ = some (Wiki.ann ⟨"acme"⟩) :=
      (hlast _ _).2 ⟨[_], _, [.clearTenant ⟨"acme"⟩], rfl, rfl,
        by simp [Action.Displaces, Action.stored?]⟩
    rw [← hguest]
    exact (hreplies Wiki.moved halive rfl _ (.refl _)).get _
  · exact ((run_answersFor_lastStored "account" (Wiki.moved ++ [.poison])).2 Wiki.moved [] rfl).1 _

end TenantAccess
