import TenantAccess.Query

/-!
# Judgements about queries

Two judgements say what comes of a query whatever the state it starts from. `Query.Yields` is about
one run: against a server the query answers, and the answer has a property. `Query.Agree` is about
two runs: against two servers, two queries come to the same outcome, be it an answer or a refusal.
Both go through `bind`, by `serve_bind`, so what holds of the steps of a query is put together
without looking into a run.
-/

namespace TenantAccess.Query

variable {α β σ σ₁ σ₂ : Type}

@[simp] theorem pure_eq_answer (a : α) : (pure a : Query α) = .answer a := rfl

@[simp] theorem bind_eq_bind (q : Query α) (f : α → Query β) : q >>= f = q.bind f := rfl

/-- A query that goes on with the answer of another runs the other first; a refusal and a stall are
passed on. -/
theorem serve_bind (server : Server σ) (q : Query α) (f : α → Query β) (s : σ) :
    (q.bind f).serve server s =
      match q.serve server s with
      | (.answered a, s') => (f a).serve server s'
      | (.refused e, s') => (.refused e, s')
      | (.stalled, s') => (.stalled, s') := by
  induction q generalizing s with
  | answer | refuse | stall => rfl
  | ask r next ih =>
    simp only [Query.bind, serve]
    cases server r s with
    | mk reply s' =>
      cases reply with
      | ok reply => exact ih reply s'
      | error => rfl

/-- A query that asks goes on with the reply. -/
theorem serve_ask_of_ok {server : Server σ} {r : Read} {next : r.Reply → Query α} {s : σ}
    {reply : r.Reply} (h : (server r s).1 = .ok reply) :
    (Query.ask r next).serve server s = (next reply).serve server (server r s).2 := by
  have hpair : server r s = (.ok reply, (server r s).2) := Prod.ext h rfl
  rw [serve, hpair]

/-- Only a query that is answered goes on to an answer. -/
theorem exists_serve_of_bind {server : Server σ} {q : Query α} {f : α → Query β} {s s'' : σ} {b : β}
    (h : (q.bind f).serve server s = (.answered b, s'')) :
    ∃ a s', q.serve server s = (.answered a, s') ∧ (f a).serve server s' = (.answered b, s'') := by
  rw [serve_bind] at h
  rcases hrun : q.serve server s with ⟨a | e | _, s'⟩ <;> rw [hrun] at h
  · exact ⟨a, s', rfl, h⟩
  · cases h
  · cases h

/-- Against a backend, too, a query that goes on with the answer of another runs the other first. -/
theorem run_bind_of_answered {backend : Backend} {q : Query α} {a : α}
    (h : q.run backend = .answered a) (f : α → Query β) :
    (q.bind f).run backend = (f a).run backend := by
  induction q with
  | answer b =>
    obtain rfl : b = a := Outcome.answered.inj h
    rfl
  | refuse | stall => cases h
  | ask r next ih =>
    rw [run] at h
    rw [Query.bind, run]
    cases hreply : backend r with
    | ok reply =>
      rw [hreply] at h
      exact ih reply h
    | error fault =>
      rw [hreply] at h
      cases h

/-- A refusal is passed on. -/
theorem run_bind_of_refused {backend : Backend} {q : Query α} {e : AccessError}
    (h : q.run backend = .refused e) (f : α → Query β) : (q.bind f).run backend = .refused e := by
  induction q with
  | answer | stall => cases h
  | refuse => exact congrArg Outcome.refused (Outcome.refused.inj h)
  | ask r next ih =>
    rw [run] at h
    rw [Query.bind, run]
    cases hreply : backend r with
    | ok reply =>
      rw [hreply] at h
      exact ih reply h
    | error fault =>
      rw [hreply] at h
      exact congrArg Outcome.refused (Outcome.refused.inj h)

/-- A run against a backend is a run against a server whose state stays as it is. -/
theorem run_eq_serve (backend : Backend) (q : Query α) (s : σ) :
    q.run backend = (q.serve backend.toServer s).1 := by
  induction q with
  | answer | refuse | stall => rfl
  | ask r next ih =>
    simp only [run, serve, Backend.toServer]
    cases backend r with
    | ok reply => exact ih reply
    | error => rfl

/-- Rows that all belong to the tenant pass the check of their owner. -/
theorem ownRows_of_own [TenantScoped α] {noun : String} {tenant : TenantCode} {rows : List α}
    (h : ∀ row ∈ rows, TenantScoped.tenantOf row = tenant) :
    ownRows noun tenant rows = .answer () := by
  have hnone : rows.find? (fun row => !belongsTo row tenant) = none := by
    simpa [List.find?_eq_none, belongsTo] using h
  rw [ownRows, hnone]

/-! ## What a query yields -/

/-- Run against the server, the query answers, and the answer has the property. -/
def Yields (server : Server σ) (q : Query α) (P : α → Prop) : Prop :=
  ∀ s, ∃ a s', q.serve server s = (.answered a, s') ∧ P a

section
variable {server : Server σ} {q : Query α} {P : α → Prop}

theorem Yields.answer {a : α} (h : P a) : Yields server (.answer a) P :=
  fun s => ⟨a, s, rfl, h⟩

/-- What is known of an answer is all that the rest of the query may use. -/
theorem Yields.bind {f : α → Query β} {Q : β → Prop} (hq : Yields server q P)
    (hf : ∀ a, P a → Yields server (f a) Q) : Yields server (q.bind f) Q := by
  intro s
  obtain ⟨a, s', hs, ha⟩ := hq s
  obtain ⟨b, s'', hs', hb⟩ := hf a ha s'
  exact ⟨b, s'', by rw [serve_bind, hs]; exact hs', hb⟩

theorem Yields.mono {Q : α → Prop} (hq : Yields server q P) (h : ∀ a, P a → Q a) :
    Yields server q Q := by
  intro s
  obtain ⟨a, s', hs, ha⟩ := hq s
  exact ⟨a, s', hs, h a ha⟩

/-- A read yields what every reply of the server has. -/
theorem Yields.read {r : Read} {P : r.Reply → Prop}
    (h : ∀ s, ∃ reply, (server r s).1 = .ok reply ∧ P reply) : Yields server (Query.read r) P := by
  intro s
  obtain ⟨reply, hreply, hP⟩ := h s
  refine ⟨reply, (server r s).2, ?_, hP⟩
  have hpair : server r s = (.ok reply, (server r s).2) := Prod.ext hreply rfl
  rw [Query.read, serve, hpair]
  rfl

end

/-! ## Queries that agree -/

/-- Run against their servers, the queries come to the same outcome, whatever the states. -/
def Agree (server₁ : Server σ₁) (server₂ : Server σ₂) (q₁ q₂ : Query α) : Prop :=
  ∀ s₁ s₂, (q₁.serve server₁ s₁).1 = (q₂.serve server₂ s₂).1

section
variable {server₁ : Server σ₁} {server₂ : Server σ₂} {q₁ q₂ : Query α}

theorem Agree.answer (a : α) : Agree server₁ server₂ (.answer a) (.answer a) :=
  fun _ _ => rfl

theorem Agree.refuse (e : AccessError) : Agree server₁ server₂ (.refuse e : Query α) (.refuse e) :=
  fun _ _ => rfl

/-- Queries agree when they agree on an answer and then go on with it in ways that agree. -/
theorem Agree.bind {f₁ f₂ : α → Query β} (hq : Agree server₁ server₂ q₁ q₂)
    (hf : ∀ a, Agree server₁ server₂ (f₁ a) (f₂ a)) :
    Agree server₁ server₂ (q₁.bind f₁) (q₂.bind f₂) := by
  intro s₁ s₂
  have h := hq s₁ s₂
  rw [serve_bind, serve_bind]
  rcases h₁ : q₁.serve server₁ s₁ with ⟨o₁, s₁'⟩
  rcases h₂ : q₂.serve server₂ s₂ with ⟨o₂, s₂'⟩
  rw [h₁, h₂] at h
  obtain rfl : o₁ = o₂ := h
  cases o₁ with
  | answered a => exact hf a s₁' s₂'
  | refused | stalled => rfl

/-- Queries that yield the one answer with a property agree. -/
theorem Agree.of_yields {P : α → Prop} (h₁ : Yields server₁ q₁ P) (h₂ : Yields server₂ q₂ P)
    (hP : ∀ a b, P a → P b → a = b) : Agree server₁ server₂ q₁ q₂ := by
  intro s₁ s₂
  obtain ⟨a, _, ha, hPa⟩ := h₁ s₁
  obtain ⟨b, _, hb, hPb⟩ := h₂ s₂
  rw [ha, hb, hP a b hPa hPb]

end

end TenantAccess.Query
