import TenantAccess.Proofs.Origin

/-!
# Decisions agree

Whether an account holds a permission can be found out in three ways: from the list of its
permissions, from an explanation, and by demanding the permission. Each works the decision out anew.
Against a backend, which gives the same reply to the same read, they come to the same: an
explanation `Explanation.Reports` the roles and the permissions that the lookups list, and it fails
as they do; a demand is met when the explanation for the application grants the permission. The main
statement is `decisions_agree`.
-/

namespace TenantAccess

/-! ## What decides about a subject -/

namespace Subject

variable {subject : Subject}

/-- There is no account exactly when the rule that decides says so. -/
theorem basis_eq_noAccount_iff : subject.basis = .noAccount ↔ subject = .absent := by
  cases subject with
  | absent => exact iff_of_true rfl rfl
  | inactive | supervisor | member => exact iff_of_false nofun nofun
  | officer a entry =>
    refine iff_of_false ?_ nofun
    cases entry with
    | none => exact nofun
    | some entry =>
      rw [basis]
      split <;> exact nofun

/-- The state of an account is left out exactly when there is no account. -/
theorem state?_eq_none_iff {tenant : TenantCode} {roles held : List String} :
    subject.state? tenant roles held = none ↔ subject = .absent := by
  cases subject with
  | absent => exact iff_of_true rfl rfl
  | inactive | supervisor | officer | member => exact iff_of_false nofun nofun

/-- The rules under which permissions are held at all. -/
theorem basis_of_permissionsOf_ne_nil {roles : List Role} {scope : Option ApplicationId}
    {tenant : TenantCode} (h : Resolver.permissionsOf subject roles scope tenant ≠ .answer []) :
    subject.basis = .supervisor ∨ subject.basis = .officer ∨ subject.basis = .roles := by
  cases subject with
  | absent | inactive => exact absurd rfl h
  | supervisor => exact .inl rfl
  | member => exact .inr (.inr rfl)
  | officer a entry =>
    cases entry with
    | none => exact absurd rfl h
    | some entry =>
      cases henabled : entry.enabled with
      | true => exact .inr (.inl (by simp [basis, henabled]))
      | false => exact absurd (by simp [Resolver.permissionsOf, henabled]) h

end Subject

/-- Whatever decides, there is something to suggest. -/
theorem Basis.suggestions_ne_nil (code : String) (basis : Basis) : basis.suggestions code ≠ [] := by
  cases basis <;> exact List.cons_ne_nil _ _

/-! ## Explanations -/

/-- An explanation of a decision about a permission code reports the roles and the permissions of an
account. -/
structure Explanation.Reports (e : Explanation) (code : String) (roles : List Role)
    (permissions : List Permission) : Prop where
  code_eq : e.code = code
  granted_iff : e.granted ↔ ∃ p ∈ permissions, p.code = code
  roles_eq : ∀ state ∈ e.account, state.roles = roles.map Role.code
  permissions_eq : ∀ state ∈ e.account, state.permissions = permissions.map Permission.code
  account_eq_none_iff : e.account = none ↔ e.basis = .noAccount
  basis_of_granted : e.granted →
    e.basis = .supervisor ∨ e.basis = .officer ∨ e.basis = .roles
  suggestions_eq_nil_iff : e.suggestions = [] ↔ e.granted

namespace Resolver

variable (R : Resolver) {backend : Query.Backend} {tenant : TenantCode} {code : String}

/-- An explanation that is made of a subject, its roles and its permissions reports them. -/
theorem reports_of_eq {e : Explanation} {subject : Subject} {roles : List Role}
    {ps : List Permission} {scope : Option ApplicationId}
    (hps : (permissionsOf subject roles scope tenant).run backend = .answered ps)
    (hcode : e.code = code) (hgranted : e.granted = (ps.map Permission.code).contains code)
    (hbasis : e.basis = subject.basis)
    (haccount : e.account =
      subject.state? tenant (roles.map Role.code) (ps.map Permission.code))
    (hsuggestions : e.suggestions = if e.granted then [] else subject.basis.suggestions code) :
    e.Reports code roles ps where
  code_eq := hcode
  granted_iff := by simp [hgranted, eq_comm]
  roles_eq state h := by
    rw [haccount] at h
    obtain ⟨a, -, -, -, hroles, -⟩ := Subject.of_mem_state? h
    exact hroles
  permissions_eq state h := by
    rw [haccount] at h
    obtain ⟨a, -, -, -, -, hheld⟩ := Subject.of_mem_state? h
    exact hheld
  account_eq_none_iff := by
    rw [haccount, hbasis, Subject.state?_eq_none_iff, Subject.basis_eq_noAccount_iff]
  basis_of_granted h := by
    have hne : permissionsOf subject roles scope tenant ≠ .answer [] := fun hnil => by
      rw [hnil] at hps
      obtain rfl : [] = ps := Outcome.answered.inj hps
      rw [hgranted] at h
      cases h
    rw [hbasis]
    exact Subject.basis_of_permissionsOf_ne_nil hne
  suggestions_eq_nil_iff := by
    rw [hsuggestions]
    split
    · rename_i h
      exact iff_of_true rfl h
    · rename_i h
      exact iff_of_false (Basis.suggestions_ne_nil code subject.basis) h

/-- An explanation fails with the error with which the listing of the permissions fails; otherwise
it reports what the lookups list. -/
theorem explain_agrees (backend : Query.Backend) (account : AccountId)
    (scope : Option ApplicationId) (tenant : TenantCode) (code : String) :
    (∃ e, (R.permissions account scope tenant).run backend = .refused e ∧
        (R.explain account scope tenant code).run backend = .refused e) ∨
      ∃ roles ps ex, (R.roles account scope tenant).run backend = .answered roles ∧
        (R.permissions account scope tenant).run backend = .answered ps ∧
        (R.explain account scope tenant code).run backend = .answered ex ∧
        ex.Reports code roles ps := by
  have hT : Query.Terms.Admit {} tenant := .default tenant
  rcases (R.subject_ensures hT account).answered_or_refused backend with
    ⟨e, he⟩ | ⟨subject, hsubject⟩
  · exact .inl ⟨e, Query.run_bind_of_refused he _, Query.run_bind_of_refused he _⟩
  rcases (R.rolesOf_ensures hT subject scope).answered_or_refused backend with
    ⟨e, he⟩ | ⟨held, hheld⟩
  · refine .inl ⟨e, ?_, ?_⟩
    · exact (Query.run_bind_of_answered hsubject _).trans (Query.run_bind_of_refused he _)
    · exact (Query.run_bind_of_answered hsubject _).trans (Query.run_bind_of_refused he _)
  rcases (permissionsOf_ensures hT subject held scope).answered_or_refused backend with
    ⟨e, he⟩ | ⟨ps, hps⟩
  · refine .inl ⟨e, ?_, ?_⟩
    · exact (Query.run_bind_of_answered hsubject _).trans
        ((Query.run_bind_of_answered hheld _).trans he)
    · exact (Query.run_bind_of_answered hsubject _).trans
        ((Query.run_bind_of_answered hheld _).trans (Query.run_bind_of_refused he _))
  · refine .inr ⟨held, ps, _, ?_, ?_, (Query.run_bind_of_answered hsubject _).trans
      ((Query.run_bind_of_answered hheld _).trans (Query.run_bind_of_answered hps _)), ?_⟩
    · exact (Query.run_bind_of_answered hsubject _).trans hheld
    · exact (Query.run_bind_of_answered hsubject _).trans
        ((Query.run_bind_of_answered hheld _).trans hps)
    · exact reports_of_eq hps rfl rfl rfl rfl rfl

/-- A demand is refused with the error of the check of the application if there is one, then with
the error of the listing of the permissions; otherwise an explanation for the application decides.
-/
theorem authorize_agrees (backend : Query.Backend) (account : AccountId)
    (application : ApplicationId) (tenant : TenantCode) (code : String) :
    (∃ e, (validateApplication application tenant).run backend = .refused e ∧
        (R.authorize account application tenant code).run backend = .refused e) ∨
      (validateApplication application tenant).run backend = .answered () ∧
        ((∃ e, (R.permissions account (some application) tenant).run backend = .refused e ∧
            (R.authorize account application tenant code).run backend = .refused e) ∨
          ∃ ex, (R.explain account (some application) tenant code).run backend = .answered ex ∧
            (R.authorize account application tenant code).run backend =
              if ex.granted then .answered () else .refused (.forbidden code)) := by
  have hT : Query.Terms.Admit {} tenant := .default tenant
  rcases (validateApplication_ensures hT application).answered_or_refused backend with
    ⟨e, he⟩ | ⟨⟨⟩, hvalid⟩
  · exact .inl ⟨e, he, Query.run_bind_of_refused he _⟩
  refine .inr ⟨hvalid, ?_⟩
  rcases R.explain_agrees backend account (some application) tenant code with
    ⟨e, he, -⟩ | ⟨roles, ps, ex, -, hps, hex, hreports⟩
  · exact .inl ⟨e, he, (Query.run_bind_of_answered hvalid _).trans (Query.run_bind_of_refused he _)⟩
  · refine .inr ⟨ex, hex, ((Query.run_bind_of_answered hvalid _).trans
      (Query.run_bind_of_answered hps _)).trans ?_⟩
    have hany : ps.any (·.code = code) = ex.granted := by
      rw [Bool.eq_iff_iff, hreports.granted_iff]
      simp
    rw [hany]
    split <;> rfl

end Resolver

/-- The three ways to a decision agree, whatever a backend replies. An explanation fails with the
error with which the listing of the permissions fails, and otherwise reports the listed roles and
permissions. A demand is refused with the error of the check of the application, then with the error
of the listing of the permissions, and is otherwise met if and only if an explanation for the
application grants the permission. -/
theorem decisions_agree (R : Resolver) (backend : Query.Backend) (account : AccountId)
    (tenant : TenantCode) (code : String) :
    (∀ scope,
      (∃ e, (R.permissions account scope tenant).run backend = .refused e ∧
          (R.explain account scope tenant code).run backend = .refused e) ∨
        ∃ roles ps ex, (R.roles account scope tenant).run backend = .answered roles ∧
          (R.permissions account scope tenant).run backend = .answered ps ∧
          (R.explain account scope tenant code).run backend = .answered ex ∧
          ex.Reports code roles ps) ∧
    ∀ application,
      (∃ e, (validateApplication application tenant).run backend = .refused e ∧
          (R.authorize account application tenant code).run backend = .refused e) ∨
        (validateApplication application tenant).run backend = .answered () ∧
          ((∃ e, (R.permissions account (some application) tenant).run backend = .refused e ∧
              (R.authorize account application tenant code).run backend = .refused e) ∨
            ∃ ex, (R.explain account (some application) tenant code).run backend = .answered ex ∧
              (R.authorize account application tenant code).run backend =
                if ex.granted then .answered () else .refused (.forbidden code)) :=
  ⟨fun scope => R.explain_agrees backend account scope tenant code,
    fun application => R.authorize_agrees backend account application tenant code⟩

end TenantAccess
