import TenantAccess.Failure
import TenantAccess.Format.Configuration

/-!
# Loading configurations and datasets

Both are JSON files. A configuration is accepted only when its settings break no rule, so no file
brings in settings that `AdminSettings.validate` refuses. Where the files are is left open: loading
takes the function that reads a file.
-/

namespace TenantAccess

/-- How a file is read, by its path. -/
abbrev Files := String → Except ReadFault String

/-- Reads a file. A path with a NUL in it is refused without looking. -/
def Files.read (files : Files) (path : String) : Except ReadFault String :=
  if path.toList.contains '\x00' then .error .nulInPath else files path

namespace Configuration

/-- Reads a configuration and checks its settings. -/
def ofText (text : String) : Except Failure Configuration := do
  let c ← (Configuration.codec.read.ofText text).mapError fun fault =>
    { contexts := ["failed to parse config JSON"], cause := .undecodable fault }
  c.admin.validate.mapError fun fault =>
    { contexts := ["invalid admin settings"], cause := .settings fault }
  return c

/-- Loads the configuration at a path. -/
def load (files : Files) (path : String) : Except Failure Configuration := do
  let text ← (files.read path).mapError fun fault =>
    { contexts := [s!"failed to read config at {path}"], cause := .unreadable fault }
  (ofText text).mapError (Failure.within s!"invalid config at {path}")

/-- The name of the environment variable that holds the path of the configuration. -/
def pathVariable : String := "WARDEN_CONFIG"

/-- The path that the environment variable names: its value without white space around it, unless
that is empty. -/
def pathOfVariable (value : Option String) : Option String :=
  (value.map Text.trim).filter fun path => !path.isEmpty

/-- Loads the configuration that the environment variable names; the configuration without any
settings when it names none. -/
def loadFromVariable (files : Files) (value : Option String) : Except Failure Configuration :=
  match pathOfVariable value with
  | some path => load files path
  | none => .ok {}

end Configuration

namespace Dataset

/-- Reads a dataset. -/
def ofText (text : String) : Except Failure Dataset :=
  (Dataset.codec.read.ofText text).mapError fun fault =>
    { contexts := ["failed to parse dataset JSON"], cause := .undecodable fault }

/-- Loads the dataset at a path. -/
def load (files : Files) (path : String) : Except Failure Dataset := do
  let text ← (files.read path).mapError fun fault =>
    { contexts := [s!"failed to read dataset at {path}"], cause := .unreadable fault }
  (ofText text).mapError (Failure.within s!"invalid dataset at {path}")

end Dataset

end TenantAccess
