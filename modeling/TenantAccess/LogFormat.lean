import TenantAccess.Text.Blank

/-!
# Log formats

The program logs either as JSON, one object a line, or in a form made for reading.
-/

namespace TenantAccess

/-- The form of the log. -/
inductive LogFormat where
  | json | pretty
  deriving DecidableEq, Repr

namespace LogFormat

/-- JSON, unless something else is asked for. -/
instance : Inhabited LogFormat := ⟨.json⟩

/-- Every format, in the order in which they are named in messages. -/
def all : List LogFormat := [.json, .pretty]

/-- The written name of the format. -/
def name : LogFormat → String
  | .json => "json"
  | .pretty => "pretty"

/-- A text as it is compared with the names: without white space around it and with the ASCII
letters in lower case. -/
def normalize (s : String) : String :=
  String.ofList ((Text.trim s).toList.map Char.toLower)

/-- The format with a name. A text that names none is given back as it was compared. -/
def parse (s : String) : Except String LogFormat :=
  let wanted := normalize s
  match all.find? (·.name = wanted) with
  | some format => .ok format
  | none => .error wanted

/-- What is said of a text that names no format. -/
def unknownMessage (wanted : String) : String :=
  s!"unknown log format '{wanted}' (expected 'json' or 'pretty')"

end LogFormat

end TenantAccess
