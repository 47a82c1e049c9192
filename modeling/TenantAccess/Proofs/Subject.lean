import Mathlib.Tactic.SplitIfs
import TenantAccess.Proofs.LabelMap
import TenantAccess.Proofs.Query
import TenantAccess.Resolver.Subject

/-!
# Whom a question is about

Officers are looked up by username over a map that is ordered by labels. `AdminSettings.Appoints`
says which entry counts, the one under the least label, and `AdminSettings.officer?_eq_some_iff`
that the look-up finds it. Two entries are never under one label, so at most one entry counts. The
lemmas about `AdminSettings.classify` say what an account is, and
`Resolver.subject_of_owns` and `Resolver.subject_of_not_owns` how it is looked up.
-/

namespace TenantAccess

namespace AdminSettings

/-! ## Officers -/

variable {s : AdminSettings} {username : String} {entry entry' : OfficerSettings}

/-- The officer entry that counts for a username: of the entries with that username, the one under
the least label. -/
def Appoints (s : AdminSettings) (username : String) (entry : OfficerSettings) : Prop :=
  ∃ label, (label, entry) ∈ s.officers.entries ∧ entry.username = username ∧
    ∀ other ∈ s.officers.entries, other.2.username = username → label ≤ other.1

/-- At most one entry counts for a username. -/
theorem Appoints.unique (h : s.Appoints username entry) (h' : s.Appoints username entry') :
    entry = entry' := by
  obtain ⟨label, he, hu, hleast⟩ := h
  obtain ⟨label', he', hu', hleast'⟩ := h'
  have hlabel : label = label' := String.le_antisymm (hleast _ he' hu') (hleast' _ he hu)
  exact (Prod.mk.inj (LabelMap.entry_inj he he' hlabel)).2

/-- What the look-up of a username finds counts for it. -/
theorem appoints_of_officer? (h : s.officer? username = some entry) :
    s.Appoints username entry := by
  rw [officer?, LabelMap.values, List.find?_map] at h
  obtain ⟨⟨label, _⟩, hfind, rfl⟩ := Option.map_eq_some_iff.1 h
  obtain ⟨hu, before, later, heq, hbefore⟩ := List.find?_eq_some_iff_append.1 hfind
  refine ⟨label, List.mem_of_find?_eq_some hfind, of_decide_eq_true hu, fun other hother hou => ?_⟩
  refine String.not_lt.1 fun hlt => ?_
  have hfront : other ∈ before := (LabelMap.mem_before_iff heq hother).2 hlt
  exact absurd hou (by simpa using hbefore other hfront)

/-- The officer that the look-up of a username finds is the one that counts. -/
theorem officer?_eq_some_iff : s.officer? username = some entry ↔ s.Appoints username entry := by
  refine ⟨appoints_of_officer?, fun h => ?_⟩
  cases hfind : s.officer? username with
  | none =>
    obtain ⟨label, he, hu, -⟩ := h
    have hmem : entry ∈ s.officers.values := List.mem_map_of_mem he
    exact absurd (decide_eq_true hu) (List.find?_eq_none.1 hfind entry hmem)
  | some found => rw [(appoints_of_officer? hfind).unique h]

/-! ## Classification -/

variable {a : Account}

/-- An account that is switched off or deleted is inactive, whatever it would be otherwise. -/
theorem classify_of_not_active (h : ¬ (a.enabled ∧ ¬ a.deleted)) :
    s.classify a = .inactive a (s.kindOf a) := by
  have hactive : a.isActive = false := by simpa [Account.isActive] using h
  rw [classify, hactive]
  rfl

/-- An active account without the mark of an administrator is a member. -/
theorem classify_of_not_admin (h : a.enabled ∧ ¬ a.deleted) (hadmin : ¬ a.admin) :
    s.classify a = .member a := by
  simp [classify, kindOf, Account.isActive, h, hadmin]

/-- An active administrator other than the supervisor is an officer. -/
theorem classify_of_admin (h : a.enabled ∧ ¬ a.deleted) (hadmin : a.admin)
    (hid : s.supervisor.username ≠ a.id.text) :
    s.classify a = .officer a (s.officer? a.username) := by
  simp [classify, kindOf, Account.isActive, SupervisorSettings.owns, h, hadmin, hid]

/-- The account made from the settings is the supervisor when it is switched on. -/
theorem classify_toAccount (tenant : TenantCode) :
    s.classify (s.supervisor.toAccount tenant) =
      if s.supervisor.enabled then .supervisor (s.supervisor.toAccount tenant)
      else .inactive (s.supervisor.toAccount tenant) .supervisor := by
  cases henabled : s.supervisor.enabled <;>
    simp [classify, kindOf, Account.isActive, SupervisorSettings.toAccount, SupervisorSettings.owns,
      henabled]

variable {b : Account} {found : Option OfficerSettings}

/-- What is classified as a member is an active account that is no administrator. -/
theorem classify_eq_member (h : s.classify a = .member b) :
    a = b ∧ a.isActive ∧ ¬ a.admin := by
  rw [classify, kindOf] at h
  split_ifs at h
  all_goals simp_all

/-- What is classified as the supervisor is an active administrator with the supervisor's id. -/
theorem classify_eq_supervisor (h : s.classify a = .supervisor b) :
    a = b ∧ a.isActive ∧ a.admin ∧ s.supervisor.owns a.id := by
  rw [classify, kindOf] at h
  split_ifs at h
  all_goals simp_all

/-- What is classified as an officer is an active administrator, and the entry the one of its
username. -/
theorem classify_eq_officer (h : s.classify a = .officer b found) :
    a = b ∧ a.isActive ∧ a.admin ∧ s.officer? a.username = found := by
  rw [classify, kindOf] at h
  split_ifs at h
  obtain ⟨rfl, rfl⟩ := Subject.officer.inj h
  simp_all

end AdminSettings

/-- A subject whose permissions come from the settings: the supervisor, or an officer with an entry
that is switched on. -/
def Subject.IsRanged : Subject → Prop
  | .supervisor _ => True
  | .officer _ (some entry) => entry.enabled
  | .absent | .inactive .. | .officer _ none | .member _ => False

/-! ## Looking up a subject -/

namespace Resolver

variable (R : Resolver) {tenant : TenantCode}

/-- The supervisor is found without a read. -/
theorem subject_of_owns {id : AccountId} (h : R.settings.supervisor.owns id) :
    R.subject id tenant =
      .answer (R.settings.classify (R.settings.supervisor.toAccount tenant)) := by
  have hown : ∀ a ∈ [R.settings.supervisor.toAccount tenant], TenantScoped.tenantOf a = tenant := by
    intro a ha
    rw [List.mem_singleton.1 ha]
    rfl
  rw [subject, SupervisorSettings.lookUp, if_pos h, Query.bind_eq_bind, Query.bind]
  simp only [Query.ownRows_of_own hown, Query.bind_eq_bind, Query.bind, Query.pure_eq_answer]

/-- Any other account is read, and its owner is checked before it is classified. -/
theorem subject_of_not_owns {id : AccountId} (h : ¬ R.settings.supervisor.owns id) :
    R.subject id tenant = .ask (.account id tenant) fun (reply : Option Account) =>
      (Query.ownRows "account" tenant reply.toList).bind fun _ =>
        .answer (reply.elim .absent R.settings.classify) := by
  rw [subject, SupervisorSettings.lookUp, if_neg h]
  refine congrArg (Query.ask (.account id tenant)) (funext fun reply => ?_)
  cases reply <;> rfl

end Resolver

end TenantAccess
