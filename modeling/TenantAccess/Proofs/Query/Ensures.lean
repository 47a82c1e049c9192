import TenantAccess.Proofs.Replies

/-!
# What a query ensures

`Query.Ensures` says what is known of an answer and of the calls that led to it. It is said of the
tree of the query, under `Query.Terms`: which reads the query may make, what it may take for granted
of their replies, and what it may come to instead of an answer. So nothing is said yet about who
replies; against every server that keeps to the terms, a run then comes to what the query ensures
(`Query.Ensures.serve`). `Query.Ensures.bind` puts queries together, and `Query.Ensures.ask_own` and
`Query.Ensures.ask_free` are the two ways in which a resolver reads.
-/

namespace TenantAccess

variable {α β σ : Type} {tenant : TenantCode}

namespace Query

/-- The terms of a query. -/
structure Terms where
  /-- The reads that it may make. -/
  asks : Read → Prop := fun _ => True
  /-- What it may take for granted of the replies. -/
  honest : (r : Read) → r.Reply → Prop := fun _ _ => True
  /-- The errors with which it may be refused. -/
  refuses : AccessError → Prop := fun _ => True
  /-- Whether it may stall. -/
  stalls : Prop := False

/-- What may come of a query under the terms, if its answers have a property. -/
def Terms.Allows (T : Terms) (P : α → Prop) : Outcome α → Prop
  | .answered a => P a
  | .refused e => T.refuses e
  | .stalled => T.stalls

/-- Under the terms, the calls of the query and its answer are related. -/
def Ensures (T : Terms) : Query α → (List Call → α → Prop) → Prop
  | .answer a, P => P [] a
  | .refuse e, _ => T.refuses e
  | .stall, _ => T.stalls
  | .ask r next, P => T.asks r ∧ ∀ reply, T.honest r reply →
    (next reply).Ensures T fun cs a => P (⟨r, .ok reply⟩ :: cs) a

/-- From the states with a property, a server keeps to the terms. -/
structure Server.Keeps (server : Server σ) (T : Terms) (I : σ → Prop) : Prop where
  honest : ∀ r s reply, T.asks r → I s → (server r s).1 = .ok reply → T.honest r reply
  fault : ∀ r s fault, T.asks r → I s → (server r s).1 = .error fault → T.refuses (.store fault)
  next : ∀ r s, T.asks r → I s → I (server r s).2

/-- Terms under which a resolver can work for a tenant: it may make the reads that concern the
tenant, and it may refuse at a row of another tenant and for reasons of its own. -/
structure Terms.Admit (T : Terms) (tenant : TenantCode) : Prop where
  asks : ∀ r : Read, r.concerns tenant → T.asks r
  isolation : ∀ (r : Read) reply fault, T.honest r reply → r.leak? tenant reply = some fault →
    T.refuses (.store fault)
  refuses : ∀ e, (∀ fault, e ≠ .store fault) → T.refuses e

/-- A resolver can work under terms that grant everything. -/
theorem Terms.Admit.default (tenant : TenantCode) : Terms.Admit {} tenant where
  asks _ _ := trivial
  isolation _ _ _ _ _ := trivial
  refuses _ _ := trivial

/-- Every server keeps to terms that grant everything. -/
theorem Server.keeps_default (server : Server σ) : server.Keeps {} fun _ => True where
  honest _ _ _ _ _ _ := trivial
  fault _ _ _ _ _ _ := trivial
  next _ _ _ _ := trivial

namespace Ensures

variable {T : Terms} {P : List Call → α → Prop} {q : Query α}

/-- What an answer is known to be may be weakened. -/
theorem mono {Q : List Call → α → Prop} (h : q.Ensures T P) (hPQ : ∀ cs a, P cs a → Q cs a) :
    q.Ensures T Q := by
  induction q generalizing P Q with
  | answer a => exact hPQ [] a h
  | refuse | stall => exact h
  | ask r next ih => exact ⟨h.1, fun reply hreply => ih reply (h.2 reply hreply) fun cs => hPQ _⟩

/-- The calls of a query that goes on are its own, and then those of what it goes on with. -/
theorem bind {f : α → Query β} {Q : List Call → β → Prop} (h : q.Ensures T P)
    (hf : ∀ cs a, P cs a → (f a).Ensures T fun cs' b => Q (cs ++ cs') b) :
    (q.bind f).Ensures T Q := by
  induction q generalizing P Q with
  | answer a => exact hf [] a h
  | refuse | stall => exact h
  | ask r next ih =>
    exact ⟨h.1, fun reply hreply => ih reply (h.2 reply hreply) fun cs => hf (⟨r, .ok reply⟩ :: cs)⟩

/-- A reply without rows of tenants is used as it is. -/
theorem ask_free (hT : T.Admit tenant) {r : Read} {next : r.Reply → Query α}
    (hr : r.concerns tenant) (hfree : ∀ x, r.owners x = [])
    (hnext : ∀ x, r.leak? tenant x = none →
      (next x).Ensures T fun cs a => P (⟨r, .ok x⟩ :: cs) a) :
    (Query.ask r next).Ensures T P :=
  ⟨hT.asks r hr, fun x _ => hnext x (by rw [Read.leak?, hfree]; rfl)⟩

/-- A reply with rows of tenants is used when they are all the tenant's. -/
theorem ask_own [TenantScoped β] (hT : T.Admit tenant) {r : Read} {rows : r.Reply → List β}
    {next : r.Reply → Query α} (hr : r.concerns tenant)
    (hrows : ∀ x, r.owners x = (rows x).map TenantScoped.tenantOf)
    (hnext : ∀ x, T.honest r x → r.leak? tenant x = none →
      (next x).Ensures T fun cs a => P (⟨r, .ok x⟩ :: cs) a) :
    (Query.ask r fun x => (ownRows r.noun tenant (rows x)).bind fun _ => next x).Ensures T P := by
  refine ⟨hT.asks r hr, fun x hx => ?_⟩
  dsimp only
  cases hleak : r.leak? tenant x with
  | none =>
    rw [ownRows_of_clean (hrows x) hleak]
    exact hnext x hx hleak
  | some fault =>
    rw [ownRows_of_leak (hrows x) hleak]
    exact hT.isolation r x fault hx hleak

/-- Against a server that keeps to the terms, a run comes to what the query ensures. -/
theorem serve (h : q.Ensures T P) {server : Server σ} {I : σ → Prop} (hserver : server.Keeps T I)
    {s : σ} (hs : I s) : T.Allows (P (q.calls server s)) (q.serve server s).1 := by
  induction q generalizing P s with
  | answer a => exact h
  | refuse e => exact h
  | stall => exact h
  | ask r next ih =>
    obtain ⟨hr, hnext⟩ := h
    have hhonest := hserver.honest r s
    have hfault := hserver.fault r s
    have hs₁ := hserver.next r s hr hs
    rw [calls, Query.serve]
    rcases hp : server r s with ⟨reply, s₁⟩
    rw [hp] at hhonest hfault hs₁
    cases reply with
    | error fault => exact hfault fault hr hs rfl
    | ok x => exact ih x (hnext x (hhonest x hr hs rfl)) hs₁

/-- Whoever replies, the calls of a run that is answered and its answer are related. -/
theorem of_answered (h : q.Ensures {} P) {server : Server σ} {s s' : σ} {a : α}
    (hrun : q.serve server s = (.answered a, s')) : P (q.calls server s) a := by
  have hallows := h.serve server.keeps_default (s := s) trivial
  rwa [hrun] at hallows

/-- Against a backend, a query that may not stall answers or is refused. -/
theorem answered_or_refused (h : q.Ensures {} P) (backend : Backend) :
    (∃ e, q.run backend = .refused e) ∨ ∃ a, q.run backend = .answered a := by
  have hallows := h.serve (backend.toServer : Server Unit).keeps_default (s := ()) trivial
  rw [← run_eq_serve] at hallows
  cases hrun : q.run backend with
  | answered a => exact .inr ⟨a, rfl⟩
  | refused e => exact .inl ⟨e, rfl⟩
  | stalled =>
    rw [hrun] at hallows
    exact hallows.elim

end Ensures

end Query

end TenantAccess
