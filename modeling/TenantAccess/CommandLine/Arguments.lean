/-!
# Arguments of a command line

Options are written `--name value`, `--name=value`, `-n value`, `-nvalue` or `-n=value`. A value that
stands by itself must not begin with a hyphen, except for the hyphen alone. Arguments are taken in
from the left. A value that is part of its option's argument is checked at once; one that stands by
itself is kept until the next option or the end of its level, and only then checked. `--` ends the
options: all that follows are plain words.
-/

namespace TenantAccess.CommandLine

/-- Why a command line is not carried out. Requests for help and for the version are among the
reasons. -/
inductive UsageFault where
  | missingRequiredArgument
  | missingSubcommand
  | invalidSubcommand
  | unknownArgument
  /-- A value is missing, or it is empty and must not be. -/
  | invalidValue
  /-- A value is not one of those that the option takes. -/
  | valueValidation
  /-- An option is given twice. -/
  | argumentConflict
  /-- A value is given to an option that takes none. -/
  | tooManyValues
  /-- Nothing was asked for. -/
  | helpForNothing
  | help
  | version
  deriving DecidableEq, Repr

/-- The exit status: what was asked for and is shown is no failure. -/
def UsageFault.exitStatus : UsageFault → Nat
  | .help | .version => 0
  | _ => 2

/-- An option that takes a value. -/
structure OptionSpec where
  name : String
  short : Option Char := none
  /-- What is wrong with a value, if anything. -/
  check : String → Option UsageFault := fun _ => none

/-- The options at one level of the command line, and the words that lead to the next. -/
structure Level where
  options : List OptionSpec
  hasVersion : Bool := false
  subcommands : List String := []

/-- The options that have been taken in. -/
structure Taken where
  /-- The values by the names of their options. -/
  values : List (String × String) := []
  /-- The option that was met last and is not checked, with its value if that has come. -/
  pending : Option (OptionSpec × Option String) := none

namespace Taken

/-- Takes in a value of an option. -/
def accept (t : Taken) (o : OptionSpec) (value : String) : Except UsageFault Taken :=
  if t.values.any (·.1 = o.name) then .error .argumentConflict
  else match o.check value with
    | some fault => .error fault
    | none => .ok { values := (o.name, value) :: t.values }

/-- Checks the option that was met last. -/
def settle (t : Taken) : Except UsageFault Taken :=
  match t.pending with
  | none => .ok t
  | some (_, none) => .error .invalidValue
  | some (o, some value) => { t with pending := none }.accept o value

/-- Meets an option, with the value that is part of its argument if there is one. -/
def meet (t : Taken) (o : OptionSpec) (attached : Option String) : Except UsageFault Taken := do
  let t ← t.settle
  match attached with
  | some value => t.accept o value
  | none => return { t with pending := some (o, none) }

/-- Whether the last option waits for its value. -/
def awaitsValue (t : Taken) : Bool :=
  t.pending.any (·.2.isNone)

/-- Gives a plain word to the option that waits for its value. -/
def give (t : Taken) (value : String) : Taken :=
  { t with pending := t.pending.map fun p => (p.1, some value) }

/-- The value of an option. -/
def value? (t : Taken) (name : String) : Option String := t.values.lookup name

end Taken

/-- An argument as it is written. -/
inductive Argument where
  /-- `--` -/
  | stop
  /-- `--name` or `--name=value` -/
  | long (name : String) (value : Option String)
  /-- `-n` and the characters behind it -/
  | short (letter : Char) (rest : List Char)
  | word (text : String)

/-- Splits the characters at the first equals sign. -/
def splitValue (cs : List Char) : List Char × Option String :=
  match cs.dropWhile (· ≠ '=') with
  | [] => (cs, none)
  | _ :: value => (cs.takeWhile (· ≠ '='), some (String.ofList value))

/-- Tells the forms of arguments apart. -/
def Argument.ofText (text : String) : Argument :=
  match text.toList with
  | ['-', '-'] => .stop
  | '-' :: '-' :: cs => .long (String.ofList (splitValue cs).1) (splitValue cs).2
  | '-' :: letter :: rest => .short letter rest
  | _ => .word text

/-- The value that is part of the argument of a short option. -/
def attachedValue : List Char → Option String
  | [] => none
  | '=' :: rest => some (String.ofList rest)
  | rest => some (String.ofList rest)

namespace Level

/-- Meets `--name` or `--name=value`. -/
def meetLong (l : Level) (t : Taken) (name : String) (value : Option String) :
    Except UsageFault Taken :=
  match l.options.find? (·.name = name) with
  | some o => t.meet o value
  | none =>
    if name = "help" ∨ (name = "version" ∧ l.hasVersion) then
      if value.isSome then .error .tooManyValues
      else t.settle.bind fun _ => .error (if name = "help" then .help else .version)
    else .error .unknownArgument

/-- Meets `-n` with the characters behind it. -/
def meetShort (l : Level) (t : Taken) (letter : Char) (rest : List Char) : Except UsageFault Taken :=
  match l.options.find? (·.short = some letter) with
  | some o => t.meet o (attachedValue rest)
  | none =>
    if letter = 'h' then t.settle.bind fun _ => .error .help
    else if letter = 'V' ∧ l.hasVersion then t.settle.bind fun _ => .error .version
    else .error .unknownArgument

/-- What is wrong with a plain word that nobody waits for. A subcommand must not stand behind
`--`. -/
def strayWord (l : Level) (stopped : Bool) (word : String) : UsageFault :=
  if l.subcommands.isEmpty || (stopped && l.subcommands.contains word) then .unknownArgument
  else .invalidSubcommand

/-- Takes in the arguments of a level up to a subcommand or the end. Gives what was taken in, and the
subcommand with the arguments behind it; the last option may still be pending. -/
def take (l : Level) (t : Taken) : List String →
    Except UsageFault (Taken × Option (String × List String))
  | [] => .ok (t, none)
  | text :: rest =>
    if !t.awaitsValue && l.subcommands.contains text then .ok (t, some (text, rest))
    else match Argument.ofText text with
      | .stop =>
        match rest with
        | [] => .ok (t, none)
        | word :: _ => .error (l.strayWord true word)
      | .long name value => do l.take (← l.meetLong t name value) rest
      | .short letter behind => do l.take (← l.meetShort t letter behind) rest
      | .word word =>
        if t.awaitsValue then l.take (t.give word) rest else .error (l.strayWord false word)

end Level

end TenantAccess.CommandLine
