import TenantAccess.Proofs.Reads

/-!
# The reads of a run

`Query.reads` are the reads that a query makes against a server, in their order, whether or not it
comes to an answer. A query that goes on with the answer of another makes the calls of the other
first, and then, when it was answered, those of what it goes on with (`Query.calls_bind`). So a law
about the calls of a run is shown of the parts of a query and put together. A run depends on the
replies to its own reads only (`Query.serve_congr_of_reads`). `Query.Runs` says of a run that is
answered what it reads and what it is answered with, and is put together in the same way.
-/

namespace TenantAccess

variable {α β σ : Type} {server : Query.Server σ} {tenant : TenantCode}

namespace Query

variable {q : Query α} {f : α → Query β} {s : σ}

/-- The reads that a query makes against a server, in their order. -/
def reads (server : Server σ) (q : Query α) (s : σ) : List Read :=
  (q.calls server s).map Call.read

/-- A query that asks makes that read first. -/
theorem head?_reads_ask (r : Read) (next : r.Reply → Query α) (server : Server σ) (s : σ) :
    ((Query.ask r next).reads server s).head? = some r := by
  rw [reads, calls]
  rcases server r s with ⟨_ | _, _⟩ <;> rfl

theorem calls_ask_of_ok {r : Read} {next : r.Reply → Query α} {reply : r.Reply} {s' : σ}
    (h : server r s = (.ok reply, s')) :
    (Query.ask r next).calls server s = ⟨r, .ok reply⟩ :: (next reply).calls server s' := by
  rw [calls, h]

/-- The check of the owners of rows refuses, or all rows are the tenant's. -/
theorem ownRows_cases [TenantScoped β] (noun : String) (tenant : TenantCode) (rows : List β) :
    (∃ e, ownRows noun tenant rows = .refuse e) ∨
      (∀ row ∈ rows, TenantScoped.tenantOf row = tenant) ∧
        ownRows noun tenant rows = .answer () := by
  by_cases hown : ∀ row ∈ rows, TenantScoped.tenantOf row = tenant
  · exact .inr ⟨hown, ownRows_of_own hown⟩
  · left
    rw [ownRows]
    cases hrow : rows.find? fun row => !belongsTo row tenant with
    | some row => exact ⟨_, rfl⟩
    | none => exact absurd (by simpa [belongsTo] using hrow) hown

/-- A read whose rows are checked for their owners is the last of a query that is refused, or all
rows of the reply are the tenant's and the query goes on with them. -/
theorem ask_own_cases [TenantScoped β] {r : Read} {noun : String} {rows : r.Reply → List β}
    {next : r.Reply → Query α} (server : Server σ) (s : σ) {q : Query α}
    (hq : q = Query.ask r fun x => (ownRows noun tenant (rows x)).bind fun _ => next x) :
    (∃ reply e s', q.calls server s = [⟨r, reply⟩] ∧ q.serve server s = (.refused e, s')) ∨
    ∃ reply s', server r s = (.ok reply, s') ∧
      (∀ row ∈ rows reply, TenantScoped.tenantOf row = tenant) ∧
      q.calls server s = ⟨r, .ok reply⟩ :: (next reply).calls server s' ∧
      q.serve server s = (next reply).serve server s' := by
  subst hq
  rw [calls, serve]
  rcases server r s with ⟨fault | reply, s'⟩
  · exact .inl ⟨_, _, _, rfl, rfl⟩
  · rcases ownRows_cases noun tenant (rows reply) with ⟨e, he⟩ | ⟨hown, hanswer⟩
    · exact .inl ⟨.ok reply, e, s', by simp only [he]; rfl, by simp only [he]; rfl⟩
    · exact .inr ⟨reply, s', rfl, hown, by simp only [hanswer]; rfl, by simp only [hanswer]; rfl⟩

/-- A read of a query that asks is the one that it asks, or comes after the reply to it. -/
theorem mem_reads_ask {r r' : Read} {next : r.Reply → Query α}
    (h : r' ∈ (Query.ask r next).reads server s) :
    r' = r ∨ ∃ reply s', server r s = (.ok reply, s') ∧ r' ∈ (next reply).reads server s' := by
  rw [reads, calls] at h
  rcases hp : server r s with ⟨fault | reply, s'⟩ <;> rw [hp] at h
  · exact .inl (List.mem_singleton.1 h)
  · exact (List.mem_cons.1 h).imp_right fun hr => ⟨reply, s', rfl, hr⟩

/-- A query that goes on makes its own calls, and then, if it is answered, those of what it goes on
with. -/
theorem calls_bind (server : Server σ) (q : Query α) (f : α → Query β) (s : σ) :
    (q.bind f).calls server s = q.calls server s ++
      match q.serve server s with
      | (.answered a, s') => (f a).calls server s'
      | _ => [] := by
  induction q generalizing s with
  | answer | refuse | stall => rfl
  | ask r next ih =>
    simp only [Query.bind, calls, serve]
    rcases server r s with ⟨fault | reply, s'⟩
    · rfl
    · exact congrArg _ (ih reply s')

/-- The calls of a part of a query are calls of the query. -/
theorem calls_subset_bind : q.calls server s ⊆ (q.bind f).calls server s := by
  rw [calls_bind]
  exact List.subset_append_left _ _

theorem calls_subset_bind_of_answered {a : α} {s' : σ}
    (h : q.serve server s = (.answered a, s')) :
    (f a).calls server s' ⊆ (q.bind f).calls server s := by
  rw [calls_bind, h]
  exact List.subset_append_right _ _

/-- A read of a query that goes on is one of its own, or one of what it goes on with. -/
theorem mem_reads_bind {r : Read} (h : r ∈ (q.bind f).reads server s) :
    r ∈ q.reads server s ∨
      ∃ a s', q.serve server s = (.answered a, s') ∧ r ∈ (f a).reads server s' := by
  rw [reads, calls_bind, List.map_append, List.mem_append] at h
  refine h.imp_right fun hr => ?_
  rcases hrun : q.serve server s with ⟨a | e | _, s'⟩ <;> rw [hrun] at hr
  · exact ⟨a, s', rfl, hr⟩
  · cases hr
  · cases hr

/-- Servers that reply alike to the reads of a run are not told apart by it. -/
theorem serve_congr_of_reads {server' : Server σ}
    (h : ∀ r ∈ q.reads server s, server' r = server r) :
    q.serve server' s = q.serve server s := by
  induction q generalizing s with
  | answer | refuse | stall => rfl
  | ask r next ih =>
    have hr : server' r = server r := h r (List.mem_of_mem_head? (head?_reads_ask r next server s))
    rw [serve, serve, hr]
    rcases hp : server r s with ⟨fault | reply, s'⟩
    · rfl
    · refine ih reply fun r' hr' => h r' ?_
      rw [reads, calls_ask_of_ok hp]
      exact List.mem_cons_of_mem _ hr'

/-- What all reads of a query have is had by all reads of a run. -/
theorem ReadsIn.forall_reads {P : Read → Prop} (h : q.ReadsIn P) (server : Server σ) (s : σ) :
    ∀ r ∈ q.reads server s, P r := by
  induction q generalizing s with
  | answer | refuse | stall => exact List.forall_mem_nil _
  | ask r next ih =>
    obtain ⟨hr, hnext⟩ := h
    rw [reads, calls]
    rcases server r s with ⟨fault | reply, s'⟩
    · exact List.forall_mem_singleton.2 hr
    · exact List.forall_mem_cons.2 ⟨hr, ih reply (hnext reply trivial) s'⟩

/-! ## Runs that come to an answer -/

/-- The query makes the reads `rs`, one after the other, and is answered with `a`. -/
structure Runs (server : Server σ) (q : Query α) (s : σ) (rs : List Read) (a : α) (s' : σ) :
    Prop where
  serve : q.serve server s = (.answered a, s')
  reads : q.reads server s = rs

namespace Runs

variable {rs rs' : List Read} {a : α} {b : β} {s' s'' : σ}

theorem answer (a : α) : (Query.answer a).Runs server s [] a s := ⟨rfl, rfl⟩

theorem ask {r : Read} {next : r.Reply → Query α} {reply : r.Reply}
    (h : server r s = (.ok reply, s')) (hrest : (next reply).Runs server s' rs a s'') :
    (Query.ask r next).Runs server s (r :: rs) a s'' where
  serve := by
    rw [Query.serve, h]
    exact hrest.serve
  reads := by
    rw [Query.reads, calls_ask_of_ok h]
    exact congrArg (r :: ·) hrest.reads

/-- A query goes on behind the check of the owners of rows if all of them are the tenant's. -/
theorem own [TenantScoped β] {noun : String} {rows : List β} {next : Unit → Query α}
    (hown : ∀ row ∈ rows, TenantScoped.tenantOf row = tenant)
    (hrest : (next ()).Runs server s rs a s') :
    ((ownRows noun tenant rows).bind next).Runs server s rs a s' := by
  rw [ownRows_of_own hown]
  exact hrest

theorem bind (h : q.Runs server s rs a s') (hrest : (f a).Runs server s' rs' b s'') :
    (q.bind f).Runs server s (rs ++ rs') b s'' where
  serve := by
    rw [serve_bind, h.serve]
    exact hrest.serve
  reads := by
    rw [Query.reads, calls_bind, h.serve, List.map_append]
    exact congrArg₂ _ h.reads hrest.reads

end Runs

end Query

end TenantAccess
