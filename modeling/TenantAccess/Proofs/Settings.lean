import Mathlib.Data.List.Nodup
import TenantAccess.Proofs.Subject

/-!
# Accepted and refused settings

`AdminSettings.validate` goes through the officers and keeps the usernames it has met.
`AdminSettings.validate_eq_ok_iff` says which settings it accepts, without a walk: no username is
blank, none has white space at an end, none is the supervisor's, and no two are equal. So an
accepted entry never stands under the supervisor's username (`AdminSettings.officer?_supervisor`).

`AdminSettings.Refuses` says for which fault other settings are refused. The rules can be asked of
the officers up to a label (`AdminSettings.SoundUpTo`), and the officers stop satisfying them at one
label only (`AdminSettings.StopsAt`); `OfficerFault` is the fault of the officer there. The main
statement is `AdminSettings.validate_reports_first`.
-/

namespace TenantAccess

/-- The fault of an officer when `taken` are the usernames of the officers with lesser labels: the
first of the four that there is. -/
inductive OfficerFault (supervisor : String) (taken : String → Prop) (label : String)
    (officer : OfficerSettings) : SettingsFault → Prop
  | blank (h : Text.isBlank officer.username) :
      OfficerFault supervisor taken label officer (.blankOfficer label)
  | padded (hblank : ¬ Text.isBlank officer.username) (h : ¬ Text.IsTrimmed officer.username) :
      OfficerFault supervisor taken label officer (.paddedUsername officer.username)
  | supervisor (hblank : ¬ Text.isBlank officer.username)
      (htrimmed : Text.IsTrimmed officer.username) (h : officer.username = supervisor) :
      OfficerFault supervisor taken label officer (.officerIsSupervisor label)
  | duplicate (hblank : ¬ Text.isBlank officer.username)
      (htrimmed : Text.IsTrimmed officer.username) (hother : officer.username ≠ supervisor)
      (h : taken officer.username) :
      OfficerFault supervisor taken label officer (.duplicateOfficer officer.username)

section
variable {supervisor label : String} {taken taken' : String → Prop} {officer : OfficerSettings}
  {fault fault' : SettingsFault}

theorem OfficerFault.mono (h : OfficerFault supervisor taken label officer fault)
    (htaken : ∀ u, taken u → taken' u) : OfficerFault supervisor taken' label officer fault := by
  cases h with
  | blank h => exact .blank h
  | padded hblank h => exact .padded hblank h
  | supervisor hblank htrimmed h => exact .supervisor hblank htrimmed h
  | duplicate hblank htrimmed hother h => exact .duplicate hblank htrimmed hother (htaken _ h)

/-- An officer has one fault at most. -/
theorem OfficerFault.unique (h : OfficerFault supervisor taken label officer fault)
    (h' : OfficerFault supervisor taken label officer fault') : fault = fault' := by
  cases h <;> cases h' <;> trivial

end

namespace AdminSettings

variable {s : AdminSettings} {supervisor : String} {taken : List String}
  {entries : List (String × OfficerSettings)} {label label' : String}
  {officer officer' : OfficerSettings} {fault fault' : SettingsFault}

/-! ## Accepted settings -/

/-- A walk over officers finds no fault if no username is blank, padded, the supervisor's or taken,
and no two are equal. -/
theorem firstOfficerFault_eq_none_iff :
    firstOfficerFault supervisor taken entries = none ↔
      (∀ e ∈ entries, (¬ Text.isBlank e.2.username ∧ Text.IsTrimmed e.2.username) ∧
        e.2.username ≠ supervisor ∧ e.2.username ∉ taken) ∧
      (entries.map fun e => e.2.username).Nodup := by
  induction entries generalizing taken with
  | nil => simp [firstOfficerFault]
  | cons e rest ih =>
    obtain ⟨label, officer⟩ := e
    rw [firstOfficerFault]
    simp only [List.forall_mem_cons, List.map_cons, List.nodup_cons]
    split_ifs with hblank hpadded hsupervisor htaken
    · simp [hblank]
    · simp [Text.isPadded_iff.1 hpadded]
    · simp [hsupervisor]
    · simp [List.contains_iff_mem.1 htaken]
    · rw [ih]
      have htrimmed : Text.IsTrimmed officer.username := by
        simpa [Text.isPadded_iff] using hpadded
      have hnot : officer.username ∉ taken := fun h => htaken (List.contains_iff_mem.2 h)
      simp only [List.mem_cons, not_or, List.mem_map, not_exists, not_and]
      grind

/-- Settings are accepted if the supervisor's username and those of the officers are neither blank
nor padded, and they are all different. -/
theorem validate_eq_ok_iff : s.validate = .ok () ↔
    (¬ Text.isBlank s.supervisor.username ∧ Text.IsTrimmed s.supervisor.username) ∧
    (∀ e ∈ s.officers.entries, (¬ Text.isBlank e.2.username ∧ Text.IsTrimmed e.2.username) ∧
      e.2.username ≠ s.supervisor.username) ∧
    (s.officers.entries.map fun e => e.2.username).Nodup := by
  have hfault : s.validate = .ok () ↔ s.fault? = none := by
    rw [validate]
    cases s.fault? <;> simp
  rw [hfault, fault?]
  split_ifs with hblank hpadded
  · simp [hblank]
  · simp [Text.isPadded_iff.1 hpadded]
  · rw [firstOfficerFault_eq_none_iff]
    have htrimmed : Text.IsTrimmed s.supervisor.username := by
      simpa [Text.isPadded_iff] using hpadded
    simp [hblank, htrimmed]

/-- Accepted settings have no officer with the supervisor's username. -/
theorem officer?_supervisor (h : s.validate = .ok ()) :
    s.officer? s.supervisor.username = none := by
  cases hfind : s.officer? s.supervisor.username with
  | none => rfl
  | some entry =>
    obtain ⟨label, he, hu, -⟩ := appoints_of_officer? hfind
    exact absurd hu ((validate_eq_ok_iff.1 h).2.1 _ he).2

/-! ## Refused settings -/

/-- The rules for the officers with labels up to a given one. -/
structure SoundUpTo (s : AdminSettings) (label : String) : Prop where
  clean : ∀ e ∈ s.officers.entries, e.1 ≤ label →
    ¬ Text.isBlank e.2.username ∧ Text.IsTrimmed e.2.username
  other : ∀ e ∈ s.officers.entries, e.1 ≤ label → e.2.username ≠ s.supervisor.username
  distinct : ∀ e ∈ s.officers.entries, ∀ e' ∈ s.officers.entries, e.1 ≤ label → e'.1 ≤ label →
    e.2.username = e'.2.username → e = e'

/-- The officers up to a label do not satisfy the rules, and it is the least such label. -/
structure StopsAt (s : AdminSettings) (label : String) (officer : OfficerSettings) : Prop where
  mem : (label, officer) ∈ s.officers.entries
  before : ∀ e ∈ s.officers.entries, e.1 < label → s.SoundUpTo e.1
  unsound : ¬ s.SoundUpTo label

/-- An officer with a lesser label has the username. -/
def TakenBefore (s : AdminSettings) (label username : String) : Prop :=
  ∃ e ∈ s.officers.entries, e.1 < label ∧ e.2.username = username

/-- The settings are refused for a fault: for the supervisor's, or else for that of the officer at
whose label the officers stop satisfying the rules. -/
inductive Refuses (s : AdminSettings) : SettingsFault → Prop
  | blankSupervisor (h : Text.isBlank s.supervisor.username) : Refuses s .blankSupervisor
  | paddedSupervisor (hblank : ¬ Text.isBlank s.supervisor.username)
      (h : ¬ Text.IsTrimmed s.supervisor.username) :
      Refuses s (.paddedUsername s.supervisor.username)
  | officer {label : String} {officer : OfficerSettings} {fault : SettingsFault}
      (hblank : ¬ Text.isBlank s.supervisor.username)
      (htrimmed : Text.IsTrimmed s.supervisor.username) (hstops : s.StopsAt label officer)
      (h : OfficerFault s.supervisor.username (s.TakenBefore label) label officer fault) :
      Refuses s fault

/-- The officers stop satisfying the rules at one label only. -/
theorem StopsAt.unique (h : s.StopsAt label officer) (h' : s.StopsAt label' officer') :
    label = label' ∧ officer = officer' := by
  have hle : label ≤ label' := String.not_lt.1 fun hlt => h'.unsound (h.before _ h'.mem hlt)
  have hge : label' ≤ label := String.not_lt.1 fun hlt => h.unsound (h'.before _ h.mem hlt)
  exact Prod.mk.inj (LabelMap.entry_inj h.mem h'.mem (String.le_antisymm hle hge))

/-- Settings are refused for one fault at most. -/
theorem Refuses.unique (h : s.Refuses fault) (h' : s.Refuses fault') : fault = fault' := by
  cases h with
  | blankSupervisor h =>
    cases h' with
    | blankSupervisor => rfl
    | paddedSupervisor hblank | officer hblank => exact absurd h hblank
  | paddedSupervisor hblank h =>
    cases h' with
    | blankSupervisor h' => exact absurd h' hblank
    | paddedSupervisor => rfl
    | officer _ htrimmed => exact absurd htrimmed h
  | officer hblank htrimmed hstops h =>
    cases h' with
    | blankSupervisor h' => exact absurd h' hblank
    | paddedSupervisor _ h' => exact absurd htrimmed h'
    | officer _ _ hstops' h' =>
      obtain ⟨rfl, rfl⟩ := hstops.unique hstops'
      exact h.unique h'

/-- Where a walk over officers finds a fault, it is the fault of an officer, and the walk finds none
in the officers in front of it. -/
theorem exists_of_firstOfficerFault (h : firstOfficerFault supervisor taken entries = some fault) :
    ∃ before label officer later, entries = before ++ (label, officer) :: later ∧
      firstOfficerFault supervisor taken before = none ∧
      OfficerFault supervisor (fun u => u ∈ taken ∨ ∃ e ∈ before, e.2.username = u) label officer
        fault := by
  induction entries generalizing taken with
  | nil => cases h
  | cons e rest ih =>
    obtain ⟨label, officer⟩ := e
    rw [firstOfficerFault] at h
    split_ifs at h with hblank hpadded hsupervisor htaken
    · cases h
      exact ⟨[], label, officer, rest, rfl, rfl, .blank hblank⟩
    · cases h
      exact ⟨[], label, officer, rest, rfl, rfl, .padded hblank (Text.isPadded_iff.1 hpadded)⟩
    · cases h
      have htrimmed : Text.IsTrimmed officer.username := by
        simpa [Text.isPadded_iff] using hpadded
      exact ⟨[], label, officer, rest, rfl, rfl, .supervisor hblank htrimmed hsupervisor⟩
    · cases h
      have htrimmed : Text.IsTrimmed officer.username := by
        simpa [Text.isPadded_iff] using hpadded
      exact ⟨[], label, officer, rest, rfl, rfl,
        .duplicate hblank htrimmed hsupervisor (.inl (List.contains_iff_mem.1 htaken))⟩
    · obtain ⟨before, label', officer', later, rfl, hnone, hfault⟩ := ih h
      refine ⟨(label, officer) :: before, label', officer', later, rfl, ?_, hfault.mono fun u hu => ?_⟩
      · rw [firstOfficerFault, if_neg hblank, if_neg hpadded, if_neg hsupervisor, if_neg htaken,
          hnone]
      · simpa [or_assoc, or_left_comm, eq_comm] using hu

/-- So it is found where the officers stop satisfying the rules. -/
theorem exists_stopsAt
    (hfound : firstOfficerFault s.supervisor.username [] s.officers.entries = some fault) :
    ∃ label officer, s.StopsAt label officer ∧
      OfficerFault s.supervisor.username (s.TakenBefore label) label officer fault := by
  obtain ⟨before, label, officer, later, hsplit, hnone, hfault⟩ := exists_of_firstOfficerFault hfound
  obtain ⟨hclean, hnodup⟩ := firstOfficerFault_eq_none_iff.1 hnone
  have hbefore : ∀ e ∈ s.officers.entries, e ∈ before ↔ e.1 < label := fun e he =>
    LabelMap.mem_before_iff hsplit he
  have hmem : (label, officer) ∈ s.officers.entries := by
    rw [hsplit]
    exact List.mem_append_right _ List.mem_cons_self
  have hsub : before ⊆ s.officers.entries := by
    rw [hsplit]
    exact List.subset_append_left _ _
  have htaken : OfficerFault s.supervisor.username (s.TakenBefore label) label officer fault := by
    refine hfault.mono fun u hu => ?_
    obtain hu | ⟨e, he, rfl⟩ := hu
    · cases hu
    · exact ⟨e, hsub he, (hbefore e (hsub he)).1 he, rfl⟩
  refine ⟨label, officer, ⟨hmem, fun e he hlt => ?_, fun hsound => ?_⟩, htaken⟩
  · -- up to a lesser label there are only officers in front
    have hfront : ∀ e' ∈ s.officers.entries, e'.1 ≤ e.1 → e' ∈ before := fun e' he' hle =>
      (hbefore e' he').2 (Std.lt_of_le_of_lt hle hlt)
    refine ⟨fun e' he' hle => (hclean e' (hfront e' he' hle)).1,
      fun e' he' hle => (hclean e' (hfront e' he' hle)).2.1, fun e₁ he₁ e₂ he₂ hle₁ hle₂ heq => ?_⟩
    exact List.inj_on_of_nodup_map hnodup (hfront e₁ he₁ hle₁) (hfront e₂ he₂ hle₂) heq
  · obtain ⟨hblank, htrimmed⟩ := hsound.clean _ hmem (String.le_refl label)
    have hother := hsound.other _ hmem (String.le_refl label)
    cases htaken with
    | blank h => exact hblank h
    | padded _ h => exact h htrimmed
    | supervisor _ _ h => exact hother h
    | duplicate _ _ _ h =>
      obtain ⟨e, he, hlt, heq⟩ := h
      have hsame := hsound.distinct e he _ hmem (Std.le_of_lt hlt) (String.le_refl label) heq
      rw [hsame] at hlt
      exact String.lt_irrefl _ hlt

/-- The officers of accepted settings satisfy the rules up to every label. -/
theorem soundUpTo_of_validate (h : s.validate = .ok ()) (label : String) : s.SoundUpTo label := by
  obtain ⟨-, hofficers, hnodup⟩ := validate_eq_ok_iff.1 h
  exact ⟨fun e he _ => (hofficers e he).1, fun e he _ => (hofficers e he).2,
    fun e he e' he' _ _ heq => List.inj_on_of_nodup_map hnodup he he' heq⟩

/-- Settings that there is a fault to refuse for are not accepted. -/
theorem Refuses.validate_ne_ok (h : s.Refuses fault) : s.validate ≠ .ok () := by
  intro hvalid
  obtain ⟨⟨hblank, htrimmed⟩, -⟩ := validate_eq_ok_iff.1 hvalid
  cases h with
  | blankSupervisor h => exact hblank h
  | paddedSupervisor _ h => exact h htrimmed
  | officer _ _ hstops => exact hstops.unsound (soundUpTo_of_validate hvalid _)

/-- Settings are refused for the fault that there is to refuse for. -/
theorem refuses_of_validate (h : s.validate = .error fault) : s.Refuses fault := by
  have hfault : s.fault? = some fault := by
    rw [validate] at h
    cases hfind : s.fault? with
    | none => rw [hfind] at h; cases h
    | some found => rw [hfind] at h; cases h; rfl
  rw [fault?] at hfault
  split_ifs at hfault with hblank hpadded
  · cases hfault
    exact .blankSupervisor hblank
  · cases hfault
    exact .paddedSupervisor hblank (Text.isPadded_iff.1 hpadded)
  · have htrimmed : Text.IsTrimmed s.supervisor.username := by
      simpa [Text.isPadded_iff] using hpadded
    obtain ⟨label, officer, hstops, hofficer⟩ := exists_stopsAt hfault
    exact .officer hblank htrimmed hstops hofficer

theorem validate_eq_error_iff : s.validate = .error fault ↔ s.Refuses fault := by
  refine ⟨refuses_of_validate, fun h => ?_⟩
  cases hvalidate : s.validate with
  | ok => exact absurd hvalidate h.validate_ne_ok
  | error found => rw [(refuses_of_validate hvalidate).unique h]

/-! ## The order in which officers are added -/

/-- Officers that are added one after the other are put into the map one after the other. -/
theorem foldl_withOfficer (added : List (String × OfficerSettings)) :
    added.foldl (fun s e => s.withOfficer e.1 e.2) s =
      { s with officers := s.officers.insertAll added } := by
  induction added generalizing s with
  | nil => rfl
  | cons e rest ih => exact ih

/-- Settings are accepted if the supervisor's username and those of the officers are neither blank
nor padded, and they are all different. Otherwise they are refused: for the fault of the
supervisor's username if it has one, and else for that of the officer at whose label the officers,
from the least label on, stop satisfying these rules. In which order officers with different labels
were added makes no difference. -/
theorem validate_reports_first (s : AdminSettings) :
    (s.validate = .ok () ↔
      (¬ Text.isBlank s.supervisor.username ∧ Text.IsTrimmed s.supervisor.username) ∧
      (∀ e ∈ s.officers.entries, (¬ Text.isBlank e.2.username ∧ Text.IsTrimmed e.2.username) ∧
        e.2.username ≠ s.supervisor.username) ∧
      (s.officers.entries.map fun e => e.2.username).Nodup) ∧
    (∀ fault, s.validate = .error fault ↔ s.Refuses fault) ∧
    ∀ added added' : List (String × OfficerSettings), added.Perm added' →
      (added.map Prod.fst).Nodup →
      added.foldl (fun s e => s.withOfficer e.1 e.2) s =
        added'.foldl (fun s e => s.withOfficer e.1 e.2) s := by
  refine ⟨validate_eq_ok_iff, fun _ => validate_eq_error_iff, fun added added' h hnodup => ?_⟩
  rw [foldl_withOfficer, foldl_withOfficer, LabelMap.insertAll_perm h hnodup]

/-- Officers of which the first has a blank username and the others share one. -/
def clashing : List (String × OfficerSettings) :=
  [("c", { username := " ", name := "Gone" }), ("b", { username := "secadm", name := "Security" }),
    ("a", { username := "secadm", name := "Audit" })]

/-- The username that is met twice is at a lesser label than the blank one, so it is the one that is
reported, also when the officers are added the other way round. -/
theorem validate_reports_first_clashing :
    let s := clashing.foldl (fun s e => s.withOfficer e.1 e.2) ({} : AdminSettings)
    clashing.Perm clashing.reverse ∧ (clashing.map Prod.fst).Nodup ∧
      s = clashing.reverse.foldl (fun s e => s.withOfficer e.1 e.2) {} ∧
      s.validate = .error (.duplicateOfficer "secadm") ∧ s.Refuses (.duplicateOfficer "secadm") := by
  have hperm : clashing.Perm clashing.reverse := (List.reverse_perm clashing).symm
  have hnodup : (clashing.map Prod.fst).Nodup := by decide
  have hrefused : (clashing.foldl (fun s e => s.withOfficer e.1 e.2) ({} : AdminSettings)).validate =
      .error (.duplicateOfficer "secadm") := by decide +kernel
  exact ⟨hperm, hnodup, (validate_reports_first {}).2.2 _ _ hperm hnodup, hrefused,
    ((validate_reports_first _).2.1 _).1 hrefused⟩

end AdminSettings

end TenantAccess
