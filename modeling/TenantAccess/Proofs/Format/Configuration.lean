import TenantAccess.Proofs.Execution
import TenantAccess.Proofs.Format.Fields

/-!
# Reading a written configuration back

A configuration is written with all of its fields and read with any of those absent that something
stands in for. `Configuration.defaults` lists what that is, for the configuration and for all that
it is made of, the settings of the administrators and of the supervisor as a whole among them. The
codecs agree with the list, and every one of them restores what it has written. So a configuration
comes back unchanged, and with it the verdict on its settings, which is the only thing that may still
stop it. The main statement is `ofText_of_configuration_omits`.
-/

namespace TenantAccess

open Json

/-! ## Parts of a configuration -/

/-- The supervisor that stands in for one that is absent, as it is written. -/
def SupervisorSettings.standIn : Value :=
  .object [("username", .text "syssa"), ("email", .null), ("name", .text "Supervisor"),
    ("enabled", .bool true)]

/-- What stands in for the fields of a configuration and of its parts that may be absent. -/
def Configuration.defaults : List (String × Value) :=
  [("admin", .object [("supervisor", SupervisorSettings.standIn), ("officers", .object []),
      ("role_binding", .text "principal")]),
    ("log_format", .text "json"), ("supervisor", SupervisorSettings.standIn),
    ("officers", .object []), ("role_binding", .text "principal"), ("email", .null),
    ("enabled", .bool true),
    ("permissions", .object [("includes", .array []), ("excludes", .array [])]),
    ("includes", .array []), ("excludes", .array [])]

theorem PermissionRange.restores :
    PermissionRange.codec.Restores (Spares Configuration.defaults) fun r => r := by
  refine Layout.Restores.codec ?_ _ (by decide)
  exact Layout.Restores.map PermissionRange.mk (restores_plainList .text rfl)
    |>.seq (restores_plainList .text rfl)

theorem RoleBinding.restores {spare : String → Value → Prop} :
    RoleBinding.codec.Restores spare fun b => b :=
  .named fun b => by cases b <;> rfl

theorem SupervisorSettings.restores :
    SupervisorSettings.codec.Restores (Spares Configuration.defaults) fun s => s := by
  refine Layout.Restores.codec ?_ _ (by decide)
  exact Layout.Restores.map SupervisorSettings.mk (restores_required .text rfl)
    |>.seq (restores_optional .text nofun rfl)
    |>.seq (restores_required .text rfl)
    |>.seq (restores_standIn .bool rfl)

theorem OfficerSettings.restores :
    OfficerSettings.codec.Restores (Spares Configuration.defaults) fun o => o := by
  refine Layout.Restores.codec ?_ _ (by decide)
  exact Layout.Restores.map OfficerSettings.mk (restores_required .text rfl)
    |>.seq (restores_optional .text nofun rfl)
    |>.seq (restores_required .text rfl)
    |>.seq (restores_standIn .bool rfl)
    |>.seq (restores_standIn PermissionRange.restores rfl)

/-- Nothing that may be left out is written with the fields of an officer, so no officer may be left
out, whatever its label. -/
theorem OfficerSettings.not_spares (label : String) (o : OfficerSettings) :
    ¬ Spares Configuration.defaults label (OfficerSettings.codec.write o) := by
  intro hspare
  obtain ⟨before, later, hsplit, -⟩ := List.lookup_eq_some_iff.1 hspare
  have hmem : (label, OfficerSettings.codec.write o) ∈ Configuration.defaults := by
    rw [hsplit]
    exact List.mem_append_right _ List.mem_cons_self
  simp [Configuration.defaults, SupervisorSettings.standIn, OfficerSettings.codec, optionalText,
    trueByDefault] at hmem

theorem AdminSettings.restores :
    AdminSettings.codec.Restores (Spares Configuration.defaults) fun s => s := by
  refine Layout.Restores.codec ?_ _ (by decide)
  have hofficers := OfficerSettings.restores.labelMap OfficerSettings.not_spares
  exact Layout.Restores.map AdminSettings.mk (restores_standIn SupervisorSettings.restores rfl)
    |>.seq (restores_standIn hofficers rfl)
    |>.seq (restores_standIn RoleBinding.restores rfl)

theorem LogFormat.restores {spare : String → Value → Prop} :
    LogFormat.codec.Restores spare fun f => f :=
  .named fun f => by cases f <;> rfl

/-! ## Configurations -/

namespace Configuration

variable {c : Configuration} {text : String} {fault : SettingsFault}

theorem restores : Configuration.codec.Restores (Spares defaults) fun c => c := by
  refine Layout.Restores.codec ?_ _ (by decide)
  exact Layout.Restores.map Configuration.mk (restores_standIn AdminSettings.restores rfl)
    |>.seq (restores_standIn LogFormat.restores rfl)

/-- A text that is read as a configuration whose settings break a rule is refused for the fault. -/
theorem ofText_eq_error (hread : Configuration.codec.read.ofText text = .ok c)
    (hfault : c.admin.validate = .error fault) :
    ofText text = .error { contexts := ["invalid admin settings"], cause := .settings fault } := by
  rw [ofText, hread]
  show (c.admin.validate.mapError _ >>= fun _ => _) = _
  rw [hfault]
  rfl

/-- A configuration that was written, and from which members with the values that stand in for them
were left out at any depth, is read back, from the compact text and from every other text that is
read as the same document, if its settings break no rule. If they break one, the text is refused for
this fault. No text and no file brings in settings that break a rule. -/
theorem ofText_eq_of_omits (c : Configuration) {v : Value}
    (hv : (Configuration.codec.write c).Omits (Spares defaults) v) :
    (∀ text, text = v.compact ∨ Doc.ofText text = (v.toDoc, false) →
      (c.admin.validate = .ok () → ofText text = .ok c) ∧
      ∀ fault, c.admin.validate = .error fault →
        ofText text = .error { contexts := ["invalid admin settings"], cause := .settings fault }) ∧
    (∀ text c', ofText text = .ok c' → c'.admin.validate = .ok ()) ∧
    ∀ files path c', load files path = .ok c' → c'.admin.validate = .ok () := by
  refine ⟨fun text htext => ?_, fun text c' h => (ofText_eq_ok_iff.1 h).2,
    fun files path c' h => (load_eq_ok_iff.1 h).2⟩
  have hdoc : Doc.ofText text = (v.toDoc, false) := by
    obtain rfl | hdoc := htext
    · exact Doc.ofText_compact v
    · exact hdoc
  have hread : Configuration.codec.read.ofText text = .ok c :=
    Reader.ofText_eq_ok hdoc (restores c v hv)
  exact ⟨fun hvalid => ofText_eq_ok_iff.2 ⟨hread, hvalid⟩, fun fault => ofText_eq_error hread⟩

/-- A configuration with one officer, under the label of a field. -/
def single (username : String) : Configuration where
  admin := AdminSettings.withOfficer {} "enabled" { username, name := "Paul" }

/-- What is left of it when all that may be left out is. -/
def terse (username : String) : Value :=
  .object [("admin", .object [("officers", .object [("enabled",
    .object [("username", .text username), ("name", .text "Paul")])])])]

theorem omits_terse (username : String) :
    (Configuration.codec.write (single username)).Omits (Spares defaults) (terse username) := by
  have hofficer : (OfficerSettings.codec.write { username, name := "Paul" }).Omits (Spares defaults)
      (.object [("username", .text username), ("name", .text "Paul")]) :=
    .object <| .keep (.text _) <| .leave rfl <| .keep (.text _) <| .leave rfl <| .leave rfl .nil
  exact .object <| .keep (.object <| .leave rfl <| .keep (.object <| .keep hofficer .nil) <|
    .leave rfl .nil) <| .leave rfl .nil

/-- The officer is read back from the shortest text, unless it takes the supervisor's username. -/
theorem ofText_eq_of_omits_terse :
    (Configuration.codec.write (single "paul")).Omits (Spares defaults) (terse "paul") ∧
    ofText (terse "paul").compact = .ok (single "paul") ∧
    ofText (terse "syssa").compact = .error
      { contexts := ["invalid admin settings"],
        cause := .settings (.officerIsSupervisor "enabled") } := by
  have hpaul := (ofText_eq_of_omits _ (omits_terse "paul")).1 _ (.inl rfl)
  have hsyssa := (ofText_eq_of_omits _ (omits_terse "syssa")).1 _ (.inl rfl)
  exact ⟨omits_terse "paul", hpaul.1 (by decide), hsyssa.2 _ (by decide)⟩

end Configuration

end TenantAccess
