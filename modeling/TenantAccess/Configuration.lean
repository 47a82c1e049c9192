import TenantAccess.LogFormat
import TenantAccess.Settings

/-!
# Configurations

A configuration holds the settings of the administrators and the form of the log.
-/

namespace TenantAccess

/-- What a configuration file says. -/
structure Configuration where
  admin : AdminSettings := {}
  logFormat : LogFormat := default
  deriving DecidableEq

end TenantAccess
