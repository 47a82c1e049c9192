import TenantAccess.Account
import TenantAccess.LabelMap
import TenantAccess.PermissionRange

/-!
# Administrator settings

The settings name one supervisor, who holds every permission of every tenant, and officers, each with
a range of permissions. They also say how ordinary accounts come by roles. Usernames are looked up
verbatim, so `AdminSettings.validate` refuses white space around them rather than trimming it.
-/

namespace TenantAccess

/-- How ordinary accounts come by roles. -/
inductive RoleBinding where
  /-- An account holds the roles that are assigned to it. -/
  | principal
  /-- Every account holds every enabled role of the application. -/
  | application
  deriving DecidableEq, Repr

/-- The supervisor: an account that exists in the settings only. -/
structure SupervisorSettings where
  username : String := "syssa"
  email : Option String := none
  name : String := "Supervisor"
  enabled : Bool := true
  deriving DecidableEq, Repr

namespace SupervisorSettings

/-- Whether an account id is the supervisor's, which is the supervisor's username. -/
def owns (s : SupervisorSettings) (id : AccountId) : Bool :=
  s.username = id.text

/-- The supervisor as an account of a tenant. -/
def toAccount (s : SupervisorSettings) (tenant : TenantCode) : Account where
  id := ⟨s.username⟩
  username := s.username
  email := s.email
  name := s.name
  admin := true
  enabled := s.enabled
  deleted := false
  tenant := tenant

end SupervisorSettings

/-- An officer: an administrator whose rights are a range of permissions. -/
structure OfficerSettings where
  username : String
  email : Option String := none
  name : String
  enabled : Bool := true
  permissions : PermissionRange := {}
  deriving DecidableEq, Repr

/-- The settings of all administrators. -/
structure AdminSettings where
  supervisor : SupervisorSettings := {}
  /-- The officers under their labels. A label is a name for people and carries no authority. -/
  officers : LabelMap OfficerSettings := ∅
  roleBinding : RoleBinding := .principal
  deriving DecidableEq

/-- A rule that settings break. -/
inductive SettingsFault where
  /-- The supervisor's username is blank. -/
  | blankSupervisor
  /-- The username of the officer under this label is blank. -/
  | blankOfficer (label : String)
  /-- Two officers have this username. -/
  | duplicateOfficer (username : String)
  /-- The officer under this label has the supervisor's username. -/
  | officerIsSupervisor (label : String)
  /-- White space stands around this username. -/
  | paddedUsername (username : String)
  deriving DecidableEq, Repr

/-- The fault in words. -/
def SettingsFault.message : SettingsFault → String
  | .blankSupervisor => "supervisor username must not be blank"
  | .blankOfficer label => s!"officer '{label}' has a blank username"
  | .duplicateOfficer username => s!"officer username '{username}' is configured more than once"
  | .officerIsSupervisor label => s!"officer '{label}' reuses the supervisor username"
  | .paddedUsername username => s!"username '{username}' has surrounding whitespace"

namespace AdminSettings

/-- The settings with an officer under a label. -/
def withOfficer (s : AdminSettings) (label : String) (officer : OfficerSettings) : AdminSettings :=
  { s with officers := s.officers.insert label officer }

/-- The settings with another way of coming by roles. -/
def withRoleBinding (s : AdminSettings) (binding : RoleBinding) : AdminSettings :=
  { s with roleBinding := binding }

/-- The officer with a username: the first in the order of the labels. -/
def officer? (s : AdminSettings) (username : String) : Option OfficerSettings :=
  s.officers.values.find? (·.username = username)

/-- The first rule that the officers break, when those before them have the usernames `taken`. -/
def firstOfficerFault (supervisor : String) (taken : List String) :
    List (String × OfficerSettings) → Option SettingsFault
  | [] => none
  | (label, officer) :: rest =>
    if Text.isBlank officer.username then some (.blankOfficer label)
    else if Text.isPadded officer.username then some (.paddedUsername officer.username)
    else if officer.username = supervisor then some (.officerIsSupervisor label)
    else if taken.contains officer.username then some (.duplicateOfficer officer.username)
    else firstOfficerFault supervisor (officer.username :: taken) rest

/-- The first rule that the settings break: the supervisor's before any officer's, the officers' in
the order of their labels. -/
def fault? (s : AdminSettings) : Option SettingsFault :=
  if Text.isBlank s.supervisor.username then some .blankSupervisor
  else if Text.isPadded s.supervisor.username then some (.paddedUsername s.supervisor.username)
  else firstOfficerFault s.supervisor.username [] s.officers.entries

/-- Accepts the settings that break no rule. -/
def validate (s : AdminSettings) : Except SettingsFault Unit :=
  match s.fault? with
  | some fault => .error fault
  | none => .ok ()

end AdminSettings

end TenantAccess
