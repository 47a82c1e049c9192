import TenantAccess.Json.Reader
import TenantAccess.Settings

/-!
# Failures of a run

A failure has a cause, and around it the contexts in which it arose, the outermost first. It is
written as the contexts and the cause in that order.
-/

namespace TenantAccess

/-- Why a file is not read. -/
inductive ReadFault where
  | notFound
  | isDirectory
  | notDirectory
  /-- A name in the path, or the whole path, is longer than the system allows. -/
  | nameTooLong
  /-- The path holds a NUL, which no path does. -/
  | nulInPath
  /-- Anything else, in the words of the system. -/
  | other (message : String)
  deriving DecidableEq, Repr

/-- The fault in words. -/
def ReadFault.message : ReadFault → String
  | .notFound => "No such file or directory (os error 2)"
  | .isDirectory => "Is a directory (os error 21)"
  | .notDirectory => "Not a directory (os error 20)"
  | .nameTooLong => "File name too long (os error 36)"
  | .nulInPath => "file name contained an unexpected NUL byte"
  | .other message => message

/-- What a failure goes back to. -/
inductive Cause where
  | unreadable (fault : ReadFault)
  | undecodable (fault : Json.DecodeFault)
  | settings (fault : SettingsFault)
  | store (fault : StoreFault)
  /-- A walk through the menus did not end within its bound. -/
  | stalled

/-- The cause in words. -/
def Cause.message : Cause → String
  | .unreadable fault => fault.message
  | .undecodable fault => fault.message
  | .settings fault => fault.message
  | .store fault => fault.message
  | .stalled => "menu walk exceeded its bound"

/-- A failure: its contexts, the outermost first, and its cause. -/
structure Failure where
  contexts : List String := []
  cause : Cause

namespace Failure

/-- The failure within one more context. -/
def within (context : String) (f : Failure) : Failure :=
  { f with contexts := context :: f.contexts }

/-- The failure in words. -/
def message (f : Failure) : String :=
  String.intercalate ": " (f.contexts ++ [f.cause.message])

end Failure

end TenantAccess
