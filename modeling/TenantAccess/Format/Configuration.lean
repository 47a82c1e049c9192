import TenantAccess.Configuration
import TenantAccess.Format.Rows

/-!
# The JSON form of configurations

Every part of a configuration may be left out, and what is left out has the value that the
configuration without any settings has.
-/

namespace TenantAccess

open Json

/-- The JSON form of permission ranges. -/
def PermissionRange.codec : Codec PermissionRange := Layout.codec "PermissionRange" <|
  PermissionRange.mk <$> .field "includes" (.list .text) PermissionRange.includes (some [])
    <*> .field "excludes" (.list .text) PermissionRange.excludes (some [])

/-- The written name of the mode of a range. -/
def RangeMode.name : RangeMode → String
  | .allowList => "allow_list"
  | .denyList => "deny_list"

/-- The written name of a way of coming by roles. -/
def RoleBinding.name : RoleBinding → String
  | .principal => "principal"
  | .application => "application"

/-- The JSON form of the ways of coming by roles: their names. -/
def RoleBinding.codec : Codec RoleBinding := .named RoleBinding.name [.principal, .application]

/-- The JSON form of the supervisor. -/
def SupervisorSettings.codec : Codec SupervisorSettings := Layout.codec "SupervisorSettings" <|
  SupervisorSettings.mk <$> .field "username" .text SupervisorSettings.username
    <*> optionalText "email" SupervisorSettings.email
    <*> .field "name" .text SupervisorSettings.name
    <*> trueByDefault "enabled" SupervisorSettings.enabled

/-- The JSON form of officers. -/
def OfficerSettings.codec : Codec OfficerSettings := Layout.codec "OfficerSettings" <|
  OfficerSettings.mk <$> .field "username" .text OfficerSettings.username
    <*> optionalText "email" OfficerSettings.email
    <*> .field "name" .text OfficerSettings.name
    <*> trueByDefault "enabled" OfficerSettings.enabled
    <*> .field "permissions" PermissionRange.codec OfficerSettings.permissions (some {})

/-- The JSON form of the settings of administrators. -/
def AdminSettings.codec : Codec AdminSettings := Layout.codec "AdminSettings" <|
  AdminSettings.mk <$> .field "supervisor" SupervisorSettings.codec AdminSettings.supervisor (some {})
    <*> .field "officers" (.labelMap OfficerSettings.codec) AdminSettings.officers (some ∅)
    <*> .field "role_binding" RoleBinding.codec AdminSettings.roleBinding (some .principal)

/-- The JSON form of log formats: their names. -/
def LogFormat.codec : Codec LogFormat := .named LogFormat.name LogFormat.all

/-- The JSON form of configurations. -/
def Configuration.codec : Codec Configuration := Layout.codec "WardenConfig" <|
  Configuration.mk <$> .field "admin" AdminSettings.codec Configuration.admin (some {})
    <*> .field "log_format" LogFormat.codec Configuration.logFormat (some default)

end TenantAccess
