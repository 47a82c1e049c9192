import TenantAccess.Proofs.Query
import TenantAccess.Proofs.Replies

/-!
# Queries that are not told apart

`Query.Coupled` relates two queries for a tenant: they make the same reads, both stop on the spot at
a reply with a row of another tenant, and on replies that are alike they go on as coupled queries,
to answers that are related. It is said of the trees of the queries, so it holds of them as soon as
it holds of their parts (`Query.Coupled.bind`). `Query.Coupled.serve` makes of it a statement about
two runs against servers of which the replies of one may stand in the place of those of the other:
the runs come to the same outcome, with related answers, unless a row of another tenant turns up,
and then both are refused for it. In the replies of a store none does
(`Query.Coupled.serve_of_serves`).
-/

namespace TenantAccess

variable {α β σ σ' : Type} {tenant : TenantCode} {view : Application → Application}

/-- Two outcomes that are the same but for their answers, which are related. -/
inductive Outcome.Like (P : α → α → Prop) : Outcome α → Outcome α → Prop
  | answered {a b : α} (h : P a b) : Like P (.answered a) (.answered b)
  | refused (e : AccessError) : Like P (.refused e) (.refused e)
  | stalled : Like P .stalled .stalled

/-- Outcomes whose answers look the same look the same. -/
theorem Outcome.Like.map_eq {P : α → α → Prop} {f : α → β} {o o' : Outcome α} (h : o.Like P o')
    (hf : ∀ a b, P a b → f a = f b) : o.map f = o'.map f := by
  cases h with
  | answered h => exact congrArg Outcome.answered (hf _ _ h)
  | refused | stalled => rfl

/-- Outcomes whose answers are related as equal answers only are, are equal. -/
theorem Outcome.Like.eq {P : α → α → Prop} {o o' : Outcome α} (h : o.Like P o')
    (hP : ∀ a b, P a b → a = b) : o = o' := by
  cases h with
  | answered h => exact congrArg Outcome.answered (hP _ _ h)
  | refused | stalled => rfl

/-- A query was refused because of a row of another tenant. -/
def Outcome.IsIsolation (o : Outcome α) : Prop :=
  ∃ detail, o = .refused (.store (.tenantIsolation detail))

namespace Query

/-- Two queries that are not told apart by replies that are alike; their answers are related. They
refuse of themselves for reasons other than a fault of the store. -/
inductive Coupled (view : Application → Application) (tenant : TenantCode) (P : α → α → Prop) :
    Query α → Query α → Prop
  | answer {a b : α} (h : P a b) : Coupled view tenant P (.answer a) (.answer b)
  | refuse {e : AccessError} (he : ∀ fault, e ≠ .store fault) :
      Coupled view tenant P (.refuse e) (.refuse e)
  | stall : Coupled view tenant P .stall .stall
  | ask {r : Read} {next next' : r.Reply → Query α} (hr : r.isWithin tenant)
      (hleak : ∀ x fault, r.leak? tenant x = some fault →
        next x = .refuse (.store fault) ∧ next' x = .refuse (.store fault))
      (hnext : ∀ x y, r.Alike view tenant x y → Coupled view tenant P (next x) (next' y)) :
      Coupled view tenant P (.ask r next) (.ask r next')

/-- What comes of two replies to the same read: both are faults, the same, or both hold rows, and
are related. -/
inductive Replies {ρ : Type} (like : ρ → ρ → Prop) :
    Except StoreFault ρ → Except StoreFault ρ → Prop
  | error (fault : StoreFault) : Replies like (.error fault) (.error fault)
  | ok {x y : ρ} (h : like x y) : Replies like (.ok x) (.ok y)

/-- From states that are related, the replies of the second server to reads within a tenant may
stand in the place of the replies of the first, and the states stay related. -/
def Server.Widens (view : Application → Application) (tenant : TenantCode) (S : σ → σ' → Prop)
    (server : Server σ) (server' : Server σ') : Prop :=
  ∀ r, r.isWithin tenant → ∀ s s', S s s' →
    Replies (r.Widens view tenant) (server r s).1 (server' r s').1 ∧
      S (server r s).2 (server' r s').2

namespace Coupled

variable {P : α → α → Prop} {Q : β → β → Prop} {q q' : Query α}

/-- Coupled queries may go on to coupled queries. -/
theorem bind {k k' : α → Query β} (h : Coupled view tenant P q q')
    (hk : ∀ a b, P a b → Coupled view tenant Q (k a) (k' b)) :
    Coupled view tenant Q (q.bind k) (q'.bind k') := by
  induction h with
  | answer h => exact hk _ _ h
  | refuse he => exact .refuse he
  | stall => exact .stall
  | ask hr hleak _ ih =>
    refine .ask hr (fun x fault hx => ?_) ih
    obtain ⟨h₁, h₂⟩ := hleak x fault hx
    rw [h₁, h₂]
    exact ⟨rfl, rfl⟩

/-- Nothing is wrong with a reply without rows of tenants. -/
theorem ask_free {r : Read} {next next' : r.Reply → Query α} (hr : r.isWithin tenant)
    (hfree : ∀ x, r.owners x = [])
    (hnext : ∀ x y, r.Alike view tenant x y → Coupled view tenant P (next x) (next' y)) :
    Coupled view tenant P (.ask r next) (.ask r next') := by
  refine .ask hr (fun x fault hx => ?_) hnext
  rw [Read.leak?, hfree] at hx
  cases hx

/-- The check of the owners stops both queries at a row of another tenant, and neither at replies
that are alike. -/
theorem ask_own [TenantScoped β] {r : Read} {rows : r.Reply → List β}
    {next next' : r.Reply → Query α} (hr : r.isWithin tenant)
    (hrows : ∀ x, r.owners x = (rows x).map TenantScoped.tenantOf)
    (hnext : ∀ x y, r.Alike view tenant x y → Coupled view tenant P (next x) (next' y)) :
    Coupled view tenant P
      (.ask r fun x => (ownRows r.noun tenant (rows x)).bind fun _ => next x)
      (.ask r fun y => (ownRows r.noun tenant (rows y)).bind fun _ => next' y) := by
  refine .ask hr (fun x fault hx => ?_) (fun x y hxy => ?_)
  · rw [ownRows_of_leak (hrows x) hx]
    exact ⟨rfl, rfl⟩
  · rw [ownRows_of_clean (hrows x) hxy.clean, ownRows_of_clean (hrows y) hxy.clean']
    exact hnext x y hxy

end Coupled

/-! ## Two runs -/

section
variable {P : α → α → Prop} {q q' : Query α} {server : Server σ}

/-- Run against servers of which the second may stand in the place of the first, coupled queries
come to the same outcome, with related answers, or both are refused because a row of another tenant
was in the reply to a call that was made within the tenant. -/
theorem Coupled.serve (h : Coupled view tenant P q q') {server' : Server σ'} {S : σ → σ' → Prop}
    (hserver : server.Widens view tenant S server') {s : σ} {s' : σ'} (hs : S s s')
    (hregular : ∀ c ∈ q.calls server s, c.Regular) :
    (q.serve server s).1.Like P (q'.serve server' s').1 ∨
      (∃ c ∈ q.calls server s, c.read.isWithin tenant ∧ c.Leaks tenant) ∧
        (q.serve server s).1.IsIsolation ∧ (q'.serve server' s').1.IsIsolation := by
  induction h generalizing s s' with
  | answer h => exact .inl (.answered h)
  | refuse => exact .inl (.refused _)
  | stall => exact .inl .stalled
  | @ask r next next' hr hleak _ ih =>
    obtain ⟨hreplies, hs₁⟩ := hserver r hr s s' hs
    simp only [Query.serve, calls] at hregular ⊢
    rcases hp : server r s with ⟨reply, s₁⟩
    rcases hp' : server' r s' with ⟨reply', s₁'⟩
    rw [hp, hp'] at hreplies hs₁
    rw [hp] at hregular
    cases hreplies with
    | error fault => exact .inl (.refused _)
    | @ok x y hxy =>
      have hx : r.Regular x := (List.forall_mem_cons.1 hregular).1 x rfl
      have hrest := (List.forall_mem_cons.1 hregular).2
      cases hclean : r.leak? tenant x with
      | none =>
        rcases ih x y ⟨hxy, hx, hclean⟩ hs₁ hrest with hlike | ⟨⟨c, hc, hcleak⟩, hiso⟩
        · exact .inl hlike
        · exact .inr ⟨⟨c, List.mem_cons_of_mem _ hc, hcleak⟩, hiso⟩
      | some fault =>
        -- the same check stops both, though perhaps at different rows
        have hy : r.leak? tenant y ≠ none := fun hy => by
          rw [hxy.leak?_eq_none_iff.2 hy] at hclean
          cases hclean
        obtain ⟨fault', hfault'⟩ := Option.ne_none_iff_exists'.1 hy
        obtain ⟨detail, rfl⟩ := Read.eq_tenantIsolation_of_leak? hclean
        obtain ⟨detail', rfl⟩ := Read.eq_tenantIsolation_of_leak? hfault'
        have hnext := (hleak x _ hclean).1
        have hnext' := (hleak y _ hfault').2
        refine .inr ⟨⟨⟨r, .ok x⟩, List.mem_cons_self, hr, x, rfl, ?_⟩, ⟨detail, ?_⟩, ⟨detail', ?_⟩⟩
        · rw [hclean]
          exact Option.some_ne_none _
        · show ((next x).serve server s₁).1 = _
          rw [hnext]
          rfl
        · show ((next' y).serve server' s₁').1 = _
          rw [hnext']
          rfl

/-- What every read of a server does, the calls of a query did. -/
theorem forall_calls {P : Call → Prop} (h : ∀ r s, P ⟨r, (server r s).1⟩) (q : Query α) (s : σ) :
    ∀ c ∈ q.calls server s, P c := by
  induction q generalizing s with
  | answer | refuse | stall => exact nofun
  | ask r next ih =>
    have hr := h r s
    rw [calls]
    rcases hp : server r s with ⟨reply, s'⟩
    rw [hp] at hr
    cases reply with
    | ok reply => exact List.forall_mem_cons.2 ⟨hr, ih reply s'⟩
    | error fault => exact List.forall_mem_singleton.2 hr

/-- Nothing is wrong with the replies of a store, so against servers of which the second may stand
in the place of the first, which serves a store, the outcomes are the same. -/
theorem Coupled.serve_of_serves (h : Coupled view tenant P q q') {store : MemoryStore}
    {rows : Set Row} (hrep : store.Represents rows) (hserves : server.Serves store)
    {server' : Server σ'} {S : σ → σ' → Prop} (hserver : server.Widens view tenant S server')
    {s : σ} {s' : σ'} (hs : S s s') : (q.serve server s).1.Like P (q'.serve server' s').1 := by
  have hregular : ∀ c ∈ q.calls server s, c.Regular := by
    refine forall_calls (fun r s reply hreply => ?_) q s
    obtain ⟨x, hx, hfits⟩ := hserves.exists_reply hrep r s
    obtain rfl : x = reply := Except.ok.inj (hx.symm.trans hreply)
    exact hfits.regular hrep.place_inj
  have hclean : ∀ c ∈ q.calls server s, c.read.isWithin tenant → ¬ c.Leaks tenant := by
    refine forall_calls (fun r s hr => ?_) q s
    rintro ⟨reply, hreply, hleak⟩
    obtain ⟨x, hx, hfits⟩ := hserves.exists_reply hrep r s
    obtain rfl : x = reply := Except.ok.inj (hx.symm.trans hreply)
    exact hleak (hfits.clean (Read.concerns_of_isWithin hr))
  rcases h.serve hserver hs hregular with hlike | ⟨⟨c, hc, hr, hleaks⟩, -⟩
  · exact hlike
  · exact absurd hleaks (hclean c hc hr)

end

end Query

end TenantAccess
