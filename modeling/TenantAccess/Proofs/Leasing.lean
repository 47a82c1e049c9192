import TenantAccess.Proofs.Store.Service
import TenantAccess.Resolver.Applications

/-!
# Which of several faults of a lease is reported

A tenant may use an application if the tenant, its first lease on the application and the
application itself are there and switched on. These are the `Requirement`s, and each of them is
judged on its own, by what a history has put last in the directory (`Requirement.state?`), without
a store. Of those that are not met the check reports the one that comes first
(`validateApplication_reports_first`). So it does not matter what is wrong behind it, nor what is
written to the tables of tenants' rows or cleared from them.
-/

namespace TenantAccess

/-! ## The directory after a history -/

/-- The tenant that a row is. -/
def Row.tenant? : Row → Option Tenant
  | .tenant t => some t
  | _ => none

/-- The application that a row is. -/
def Row.application? : Row → Option Application
  | .application a => some a
  | _ => none

/-- The last tenant that a history puts under a code. -/
def lastTenant? (ws : List Write) (code : TenantCode) : Option Tenant :=
  (lastPut? ws (.tenant code)).bind Row.tenant?

/-- The last application that a history puts under an id. -/
def lastApplication? (ws : List Write) (id : ApplicationId) : Option Application :=
  (lastPut? ws (.application id)).bind Row.application?

section
variable {ws : List Write}

theorem lastTenant?_eq_some_iff {code : TenantCode} {t : Tenant} :
    lastTenant? ws code = some t ↔ .tenant t ∈ Current ws ∧ t.code = code := by
  have hrow : ∀ row : Row, row.tenant? = some t ↔ row = .tenant t := by
    intro row
    cases row <;> simp [Row.tenant?]
  simp only [lastTenant?, Option.bind_eq_some_iff, hrow, exists_eq_right]
  rw [lastPut?_eq_some_iff rfl]
  simp [Row.place]

theorem lastApplication?_eq_some_iff {id : ApplicationId} {a : Application} :
    lastApplication? ws id = some a ↔ .application a ∈ Current ws ∧ a.id = id := by
  have hrow : ∀ row : Row, row.application? = some a ↔ row = .application a := by
    intro row
    cases row <;> simp [Row.application?]
  simp only [lastApplication?, Option.bind_eq_some_iff, hrow, exists_eq_right]
  rw [lastPut?_eq_some_iff rfl]
  simp [Row.place]

end

/-! ## Requirements -/

/-- What it takes that a tenant may use an application, in the order in which it is looked at. -/
inductive Requirement where
  | tenant | lease | application

namespace Requirement

/-- The requirements that are looked at before one. -/
def before : Requirement → List Requirement
  | .tenant => []
  | .lease => [.tenant]
  | .application => [.tenant, .lease]

section
variable (ws : List Write) (tenant : TenantCode) (application : ApplicationId)

/-- Whether what is required is switched on, if a history has left it there at all. -/
def state? : Requirement → Option Bool
  | .tenant => (lastTenant? ws tenant).map Tenant.enabled
  | .lease =>
    ((lastTenant? ws tenant).bind fun t =>
      t.leases.find? (·.applicationId = application)).map Lease.enabled
  | .application => (lastApplication? ws application).map Application.enabled

/-- What is said to be missing. -/
def missing : Requirement → String
  | .tenant => s!"tenant '{tenant.text}'"
  | .lease => s!"application '{application.text}' is not leased by tenant '{tenant.text}'"
  | .application => s!"application '{application.text}'"

/-- What is said to be switched off; an application goes by its code. -/
def disabled : Requirement → String
  | .tenant => s!"tenant '{tenant.text}'"
  | .lease => s!"lease of application '{application.text}' in tenant '{tenant.text}'"
  | .application =>
    let code := (lastApplication? ws application).elim "" Application.code
    s!"application '{code}'"

/-- The error for a requirement that is not met. -/
inductive Unmet (r : Requirement) : AccessError → Prop
  | missing (h : r.state? ws tenant application = none) :
      Unmet r (.notFound (r.missing tenant application))
  | disabled (h : r.state? ws tenant application = some false) :
      Unmet r (.disabled (r.disabled ws tenant application))

/-- A requirement is not met, and those before it are. -/
structure FirstUnmet (r : Requirement) (e : AccessError) : Prop where
  before : ∀ q ∈ r.before, q.state? ws tenant application = some true
  unmet : r.Unmet ws tenant application e

/-- Two histories have the same to say about a requirement. -/
structure Alike (ws' : List Write) (r : Requirement) : Prop where
  state? : r.state? ws tenant application = r.state? ws' tenant application
  disabled : r.disabled ws tenant application = r.disabled ws' tenant application

/-- What the check is to come to after a history. -/
inductive Verdict : Outcome Unit → Prop
  | answered (h : ∀ r : Requirement, r.state? ws tenant application = some true) :
      Verdict (.answered ())
  | refused {r : Requirement} {e : AccessError} (h : r.FirstUnmet ws tenant application e) :
      Verdict (.refused e)

end

variable {ws ws' : List Write} {tenant : TenantCode} {application : ApplicationId}
  {q r s : Requirement} {e e' : AccessError} {o o' : Outcome Unit}

/-- The lease is the first that the tenant has on the application. -/
theorem state?_lease {t : Tenant} (h : lastTenant? ws tenant = some t) :
    Requirement.lease.state? ws tenant application =
      (t.lease? application).map Lease.enabled := by
  rw [state?, h, Option.bind_some, Tenant.lease?]

/-- An application goes by its code. -/
theorem disabled_application {a : Application} (h : lastApplication? ws application = some a) :
    Requirement.application.disabled ws tenant application = s!"application '{a.code}'" := by
  unfold disabled
  rw [h]
  dsimp only [Option.elim_some]

theorem Unmet.state?_ne (h : r.Unmet ws tenant application e) :
    r.state? ws tenant application ≠ some true := by
  intro hstate
  cases h with
  | missing h => rw [hstate] at h; cases h
  | disabled h => rw [hstate] at h; cases h

/-- A requirement is not met for one error only. -/
theorem Unmet.unique (h : r.Unmet ws tenant application e) (h' : r.Unmet ws tenant application e') :
    e = e' := by
  cases h with
  | missing h =>
    cases h' with
    | missing => rfl
    | disabled h' => rw [h] at h'; cases h'
  | disabled h =>
    cases h' with
    | missing h' => rw [h] at h'; cases h'
    | disabled => rfl

/-- Of two requirements one is looked at before the other. -/
theorem before_trichotomy (q r : Requirement) : q = r ∨ q ∈ r.before ∨ r ∈ q.before := by
  cases q <;> cases r <;> simp [before]

theorem before_trans (hq : q ∈ r.before) (hr : r ∈ s.before) : q ∈ s.before := by
  cases q <;> cases r <;> cases s <;> simp_all [before]

/-- The first requirement that is not met comes before all others that are not met. -/
theorem FirstUnmet.le (h : q.FirstUnmet ws tenant application e)
    (hr : r.state? ws tenant application ≠ some true) : q = r ∨ q ∈ r.before := by
  obtain rfl | hbefore | hbefore := before_trichotomy q r
  · exact .inl rfl
  · exact .inr hbefore
  · exact absurd (h.before r hbefore) hr

/-- There is one error at most to refuse for. -/
theorem FirstUnmet.unique (h : q.FirstUnmet ws tenant application e)
    (h' : r.FirstUnmet ws tenant application e') : e = e' := by
  obtain rfl | hbefore := h.le h'.unmet.state?_ne
  · exact h.unmet.unique h'.unmet
  · exact absurd (h'.before q hbefore) h.unmet.state?_ne

theorem Unmet.congr (h : r.Unmet ws tenant application e)
    (halike : r.Alike ws tenant application ws') : r.Unmet ws' tenant application e := by
  cases h with
  | missing h => exact .missing (halike.state?.symm.trans h)
  | disabled h =>
    rw [halike.disabled]
    exact .disabled (halike.state?.symm.trans h)

/-- What is the first requirement that is not met after a history is so after every history that has
the same to say up to it. -/
theorem FirstUnmet.congr (h : r.FirstUnmet ws tenant application e)
    (halike : ∀ q, q = r ∨ q ∈ r.before → q.Alike ws tenant application ws') :
    r.FirstUnmet ws' tenant application e where
  before q hq := (halike q (.inr hq)).state?.symm.trans (h.before q hq)
  unmet := h.unmet.congr (halike r (.inl rfl))

/-! ## The verdict -/

theorem Verdict.eq_answered_iff (h : Verdict ws tenant application o) :
    o = .answered () ↔ ∀ r : Requirement, r.state? ws tenant application = some true := by
  cases h with
  | answered h => exact ⟨fun _ => h, fun _ => rfl⟩
  | refused h =>
    constructor
    · intro heq
      cases heq
    · intro hall
      exact absurd (hall _) h.unmet.state?_ne

theorem Verdict.eq_refused_iff (h : Verdict ws tenant application o) :
    o = .refused e ↔ ∃ r : Requirement, r.FirstUnmet ws tenant application e := by
  cases h with
  | answered h =>
    constructor
    · intro heq
      cases heq
    · intro hr
      obtain ⟨r, hr⟩ := hr
      exact absurd (h r) hr.unmet.state?_ne
  | refused h =>
    constructor
    · intro heq
      cases heq
      exact ⟨_, h⟩
    · intro hr
      obtain ⟨r, hr⟩ := hr
      rw [h.unique hr]

/-- Histories that have the same to say up to a requirement that is not met have the same
verdict. -/
theorem Verdict.eq_of_alike (h : Verdict ws tenant application o)
    (h' : Verdict ws' tenant application o') (hr : r.state? ws tenant application ≠ some true)
    (halike : ∀ q, q = r ∨ q ∈ r.before → q.Alike ws tenant application ws') : o = o' := by
  cases h with
  | answered h => exact absurd (h r) hr
  | @refused p e h =>
    have hfirst : p.FirstUnmet ws' tenant application e := by
      refine h.congr fun q hq => halike q ?_
      obtain rfl | hp := h.le hr
      · exact hq
      · obtain rfl | hq := hq
        · exact .inr hp
        · exact .inr (before_trans hq hp)
    exact (h'.eq_refused_iff.2 ⟨p, hfirst⟩).symm

/-- So have histories that have the same to say about every requirement. -/
theorem Verdict.eq_of_forall_alike (h : Verdict ws tenant application o)
    (h' : Verdict ws' tenant application o')
    (halike : ∀ r : Requirement, r.Alike ws tenant application ws') : o = o' := by
  cases h with
  | answered h =>
    have hall : ∀ r : Requirement, r.state? ws' tenant application = some true := fun r =>
      (halike r).state?.symm.trans (h r)
    exact (h'.eq_answered_iff.2 hall).symm
  | refused h =>
    exact (Verdict.refused h).eq_of_alike h' h.unmet.state?_ne fun q _ => halike q

theorem Verdict.ne_stalled (h : Verdict ws tenant application o) : o ≠ .stalled := by
  intro heq
  cases h <;> cases heq

/-- Only what was put last in the directory counts. -/
theorem alike_of_last_eq (htenant : lastTenant? ws tenant = lastTenant? ws' tenant)
    (happ : lastApplication? ws application = lastApplication? ws' application) (r : Requirement) :
    r.Alike ws tenant application ws' where
  state? := by cases r <;> simp only [Requirement.state?, htenant, happ]
  disabled := by
    unfold Requirement.disabled
    rw [happ]

end Requirement

/-! ## The check -/

section
variable {σ : Type} {server : Query.Server σ} {store : MemoryStore} {ws : List Write}
  {tenant : TenantCode} {application : ApplicationId}

open Requirement (Verdict)

/-- The look at the application, when the tenant and its lease are as required. -/
theorem application_verdict (hserver : server.Serves store) (h : store.Represents (Current ws))
    (htenant : Requirement.tenant.state? ws tenant application = some true)
    (hlease : Requirement.lease.state? ws tenant application = some true)
    {next : Option Application → Query Unit}
    (hnone : next none = .refuse (.notFound s!"application '{application.text}'"))
    (hsome : ∀ a, next (some a) =
      if !a.enabled then .refuse (.disabled s!"application '{a.code}'") else .answer ()) (st : σ) :
    Verdict ws tenant application ((Query.ask (.application application) next).serve server st).1 := by
  have hbefore : ∀ q ∈ Requirement.application.before, q.state? ws tenant application = some true :=
    List.forall_mem_cons.2 ⟨htenant, List.forall_mem_singleton.2 hlease⟩
  obtain ⟨found, hfound, hfits⟩ := hserver.exists_reply h (.application application) st
  have hlast : lastApplication? ws application = found :=
    Option.ext fun a => lastApplication?_eq_some_iff.trans (hfits a).symm
  have happ : Requirement.application.state? ws tenant application =
      found.map Application.enabled := by
    rw [Requirement.state?, hlast]
  rw [Query.serve_ask_of_ok hfound]
  cases found with
  | none =>
    rw [hnone]
    exact .refused (r := .application) ⟨hbefore, .missing happ⟩
  | some a =>
    rw [hsome]
    cases hswitch : a.enabled with
    | false =>
      have hunmet : Requirement.application.Unmet ws tenant application _ :=
        .disabled (happ.trans (congrArg some hswitch))
      rw [Requirement.disabled_application hlast] at hunmet
      exact .refused (r := .application) ⟨hbefore, hunmet⟩
    | true =>
      refine .answered fun r => ?_
      cases r with
      | tenant => exact htenant
      | lease => exact hlease
      | application => exact happ.trans (congrArg some hswitch)

/-- Against a store the check comes to the verdict on the history of the store. -/
theorem validateApplication_verdict (hserver : server.Serves store)
    (h : store.Represents (Current ws)) (st : σ) :
    Verdict ws tenant application ((validateApplication application tenant).serve server st).1 := by
  obtain ⟨found, hfound, hfits⟩ := hserver.exists_reply h (.tenant tenant) st
  have hlast : lastTenant? ws tenant = found :=
    Option.ext fun t => lastTenant?_eq_some_iff.trans (hfits t).symm
  have hfront : ∀ q ∈ Requirement.tenant.before, q.state? ws tenant application = some true :=
    List.forall_mem_nil _
  simp only [validateApplication, Query.read, Query.bind_eq_bind, Query.bind,
    Query.serve_ask_of_ok hfound]
  -- The check stops at what is not met, so each case below has the requirements before it as met.
  cases found with
  | none =>
    have htenant : Requirement.tenant.state? ws tenant application = none := by
      rw [Requirement.state?, hlast, Option.map_none]
    exact .refused (r := .tenant) ⟨hfront, .missing htenant⟩
  | some t =>
    have htenant : Requirement.tenant.state? ws tenant application = some t.enabled := by
      rw [Requirement.state?, hlast, Option.map_some]
    have hlease : Requirement.lease.state? ws tenant application =
        (t.lease? application).map Lease.enabled := Requirement.state?_lease hlast
    dsimp only
    cases hswitch : t.enabled with
    | false =>
      rw [hswitch] at htenant
      exact .refused (r := .tenant) ⟨hfront, .disabled htenant⟩
    | true =>
      rw [hswitch] at htenant
      have hbefore : ∀ q ∈ Requirement.lease.before, q.state? ws tenant application = some true :=
        List.forall_mem_singleton.2 htenant
      cases hfind : t.lease? application with
      | none =>
        rw [hfind, Option.map_none] at hlease
        exact .refused (r := .lease) ⟨hbefore, .missing hlease⟩
      | some l =>
        rw [hfind, Option.map_some] at hlease
        have hid : l.applicationId = application := by simpa using List.find?_some hfind
        dsimp only
        cases hswitch : l.enabled with
        | false =>
          rw [hswitch] at hlease
          exact .refused (r := .lease) ⟨hbefore, .disabled hlease⟩
        | true =>
          rw [hswitch] at hlease
          rw [hid]
          exact application_verdict hserver h htenant hlease rfl (fun _ => rfl) _

end

/-! ## After every history -/

/-- Whether a write puts a tenant under the code or an application under the id. -/
def Write.putsEither (tenant : TenantCode) (application : ApplicationId) (w : Write) : Bool :=
  (w.rowAt? (.tenant tenant)).isSome || (w.rowAt? (.application application)).isSome

/-- Histories with the same writes of the tenant and of the application have the same to say about
every requirement. -/
theorem Requirement.alike_of_filter_eq {ws ws' : List Write} {tenant : TenantCode}
    {application : ApplicationId}
    (h : ws'.filter (Write.putsEither tenant application) =
      ws.filter (Write.putsEither tenant application)) (r : Requirement) :
    r.Alike ws tenant application ws' := by
  have htenant : ∀ w : Write, (w.rowAt? (.tenant tenant)).isSome → w.putsEither tenant application :=
    fun w hw => Bool.or_eq_true_iff.2 (.inl hw)
  have happ : ∀ w : Write, (w.rowAt? (.application application)).isSome →
      w.putsEither tenant application := fun w hw => Bool.or_eq_true_iff.2 (.inr hw)
  refine alike_of_last_eq ?_ ?_ r
  · rw [lastTenant?, lastTenant?, ← lastPut?_filter htenant, ← h, lastPut?_filter htenant]
  · rw [lastApplication?, lastApplication?, ← lastPut?_filter happ, ← h, lastPut?_filter happ]

/-- After every history of writes the check goes through if the last tenant under the code is there
and switched on, its first lease on the application too, and the last application under the id too.
Otherwise it refuses for the first of them that is not: as not found if it is missing, and as
disabled if it is there. Another history gives the same outcome if it has the same to say up to one
that is not met, and also if it has the same writes of the tenant and of the application, whatever
else it writes, and whichever tenants it clears. -/
theorem validateApplication_reports_first (ws : List Write) :
    ∃ store, (∅ : MemoryStore).writeAll ws = .ok store ∧
      ∀ {σ : Type} (server : Query.Server σ), server.Serves store →
      ∀ (application : ApplicationId) (tenant : TenantCode) (st : σ),
        (((validateApplication application tenant).serve server st).1 = .answered () ↔
          ∀ r : Requirement, r.state? ws tenant application = some true) ∧
        (∀ e, ((validateApplication application tenant).serve server st).1 = .refused e ↔
          ∃ r : Requirement, r.FirstUnmet ws tenant application e) ∧
        ((validateApplication application tenant).serve server st).1 ≠ .stalled ∧
        ∀ ws' store', (∅ : MemoryStore).writeAll ws' = .ok store' →
          ∀ {σ' : Type} (server' : Query.Server σ'), server'.Serves store' → ∀ st',
            (∀ r : Requirement, r.state? ws tenant application ≠ some true →
              (∀ q, q = r ∨ q ∈ r.before → q.Alike ws tenant application ws') →
              ((validateApplication application tenant).serve server' st').1 =
                ((validateApplication application tenant).serve server st).1) ∧
            (ws'.filter (Write.putsEither tenant application) =
                ws.filter (Write.putsEither tenant application) →
              ((validateApplication application tenant).serve server' st').1 =
                ((validateApplication application tenant).serve server st).1) := by
  obtain ⟨store, hstore, hrep⟩ := MemoryStore.exists_writeAll ws
  refine ⟨store, hstore, fun server hserver application tenant st => ?_⟩
  have hverdict : Requirement.Verdict ws tenant application
      ((validateApplication application tenant).serve server st).1 :=
    validateApplication_verdict hserver hrep st
  refine ⟨hverdict.eq_answered_iff, fun e => hverdict.eq_refused_iff, hverdict.ne_stalled, ?_⟩
  intro ws' store' hstore' σ' server' hserver' st'
  obtain ⟨found, hfound, hrep'⟩ := MemoryStore.exists_writeAll ws'
  obtain rfl : store' = found := Except.ok.inj (hstore'.symm.trans hfound)
  have hverdict' : Requirement.Verdict ws' tenant application
      ((validateApplication application tenant).serve server' st').1 :=
    validateApplication_verdict hserver' hrep' st'
  constructor
  · intro r hr halike
    exact (hverdict.eq_of_alike hverdict' hr halike).symm
  · intro hfilter
    exact (hverdict.eq_of_forall_alike hverdict' (Requirement.alike_of_filter_eq hfilter)).symm

namespace Wiki

/-- A tenant with the given leases. -/
def acme (leases : List Lease) : Tenant := { code := ⟨"acme"⟩, name := "Acme", leases }

/-- The wiki is switched off, and so is the first lease that the tenant has on it in the end, though
not the second. At last the tenant is cleared. -/
def sublet : List Write :=
  [.put (.tenant (acme [{ applicationId := ⟨"wiki"⟩ }])),
    .put (.application { id := ⟨"wiki"⟩, code := "wiki", name := "Wiki", enabled := false }),
    .put (.tenant (acme [⟨⟨"wiki"⟩, false, false⟩, { applicationId := ⟨"wiki"⟩ }])),
    .clearTenant ⟨"acme"⟩]

/-- The same without the wiki. -/
def unbuilt : List Write := sublet.filter fun w => !w.putsApplication

end Wiki

/-- The first lease is reported, not the wiki behind it, and so it is when there is no wiki. -/
theorem validateApplication_reports_first_sublet :
    ∃ store store', (∅ : MemoryStore).writeAll Wiki.sublet = .ok store ∧
      (∅ : MemoryStore).writeAll Wiki.unbuilt = .ok store' ∧
      ((validateApplication ⟨"wiki"⟩ ⟨"acme"⟩).serve
        (store.reply.toServer : Query.Server Unit) ()).1 =
          .refused (.disabled "lease of application 'wiki' in tenant 'acme'") ∧
      ((validateApplication ⟨"wiki"⟩ ⟨"acme"⟩).serve
        (store'.reply.toServer : Query.Server Unit) ()).1 =
      ((validateApplication ⟨"wiki"⟩ ⟨"acme"⟩).serve
        (store.reply.toServer : Query.Server Unit) ()).1 := by
  obtain ⟨store', hstore', -⟩ := MemoryStore.exists_writeAll Wiki.unbuilt
  obtain ⟨store, hstore, hall⟩ := validateApplication_reports_first Wiki.sublet
  obtain ⟨-, hrefused, -, hsame⟩ := hall (store.reply.toServer : Query.Server Unit)
    store.serves_reply ⟨"wiki"⟩ ⟨"acme"⟩ ()
  have htenant : Requirement.tenant.state? Wiki.sublet ⟨"acme"⟩ ⟨"wiki"⟩ = some true := by decide
  have hlease : Requirement.lease.state? Wiki.sublet ⟨"acme"⟩ ⟨"wiki"⟩ = some false := by decide
  have hfirst : Requirement.lease.FirstUnmet Wiki.sublet ⟨"acme"⟩ ⟨"wiki"⟩
      (.disabled "lease of application 'wiki' in tenant 'acme'") :=
    ⟨List.forall_mem_singleton.2 htenant, .disabled hlease⟩
  refine ⟨store, store', hstore, hstore', (hrefused _).2 ⟨.lease, hfirst⟩, ?_⟩
  refine (hsame Wiki.unbuilt store' hstore' _ store'.serves_reply ()).1 .lease ?_ ?_
  · rw [hlease]
    decide
  · have htenant' : Requirement.tenant.Alike Wiki.sublet ⟨"acme"⟩ ⟨"wiki"⟩ Wiki.unbuilt :=
      ⟨by decide, rfl⟩
    have hlease' : Requirement.lease.Alike Wiki.sublet ⟨"acme"⟩ ⟨"wiki"⟩ Wiki.unbuilt :=
      ⟨by decide, rfl⟩
    rintro q (rfl | hq)
    · exact hlease'
    · rw [List.mem_singleton.1 hq]
      exact htenant'

end TenantAccess
