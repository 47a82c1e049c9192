import TenantAccess.CommandLine.Arguments
import TenantAccess.LogFormat

/-!
# Commands

A command line names a dataset, a tenant, perhaps a configuration and a log format, and one command.
The options of the program stand before the command, those of the command behind it. What is wrong
with a command is reported before anything that is still to be checked in front of it.
-/

namespace TenantAccess.CommandLine

/-- The account a question is about and the application it is restricted to. -/
structure AccountScope where
  account : String
  application : Option String := none
  deriving DecidableEq, Repr

/-- What is asked for. The ids are the texts that were typed. -/
inductive Command where
  | permissions (scope : AccountScope)
  | roles (scope : AccountScope)
  | ranges (scope : AccountScope)
  | menus (scope : AccountScope) (menuType : Option String)
  | applications (account menuType : String)
  | validate (application : String)
  | authorize (account application permission : String)
  | explain (scope : AccountScope) (permission : String)
  | credentials (code secret : String)
  deriving DecidableEq, Repr

/-- A command line. -/
structure Invocation where
  config : Option String := none
  dataset : String
  tenant : String := "master"
  logFormat : Option LogFormat := none
  command : Command
  deriving DecidableEq, Repr

/-! ## The commands and their options -/

/-- A subcommand: its name, its options, and the command that they make up, unless one that is
required is missing. -/
structure Subcommand where
  name : String
  options : List OptionSpec
  command? : Taken → Option Command

/-- The option that names an account. -/
def accountOption : OptionSpec := { name := "account", short := some 'a' }

/-- The option that names an application. -/
def applicationOption : OptionSpec := { name := "application" }

/-- The option that names a permission. -/
def permissionOption : OptionSpec := { name := "permission", short := some 'p' }

/-- The option that names a menu type. -/
def menuTypeOption : OptionSpec := { name := "menu-type" }

/-- The options of a question about an account. -/
def scopeOptions : List OptionSpec := [accountOption, applicationOption]

/-- The account a question is about and the application it is restricted to. -/
def Taken.scope? (t : Taken) : Option AccountScope := do
  return { account := ← t.value? "account", application := t.value? "application" }

/-- Every subcommand. -/
def subcommands : List Subcommand := [
  { name := "permissions", options := scopeOptions,
    command? := fun t => t.scope?.map .permissions },
  { name := "roles", options := scopeOptions,
    command? := fun t => t.scope?.map .roles },
  { name := "ranges", options := scopeOptions,
    command? := fun t => t.scope?.map .ranges },
  { name := "menus", options := scopeOptions ++ [menuTypeOption],
    command? := fun t => t.scope?.map fun s => .menus s (t.value? "menu-type") },
  { name := "applications", options := [accountOption, menuTypeOption],
    command? := fun t => (t.value? "account").map fun account =>
      .applications account ((t.value? "menu-type").getD "BACKEND") },
  { name := "validate", options := [applicationOption],
    command? := fun t => (t.value? "application").map .validate },
  { name := "authorize", options := [accountOption, applicationOption, permissionOption],
    command? := fun t => do
      return .authorize (← t.value? "account") (← t.value? "application") (← t.value? "permission") },
  { name := "explain", options := scopeOptions ++ [permissionOption],
    command? := fun t => do return .explain (← t.scope?) (← t.value? "permission") },
  { name := "credentials", options := [{ name := "code" }, { name := "secret" }],
    command? := fun t => do return .credentials (← t.value? "code") (← t.value? "secret") }]

/-- Refuses the empty text, which is no path. -/
def checkPath (path : String) : Option UsageFault :=
  if path.isEmpty then some .invalidValue else none

/-- Refuses a text that names no log format. -/
def checkLogFormat (text : String) : Option UsageFault :=
  match LogFormat.parse text with
  | .ok _ => none
  | .error _ => some .valueValidation

/-- The options of the program. -/
def programLevel : Level where
  options := [
    { name := "config", short := some 'c', check := checkPath },
    { name := "dataset", short := some 'd', check := checkPath },
    { name := "tenant", short := some 't' },
    { name := "log-format", check := checkLogFormat }]
  hasVersion := true
  subcommands := subcommands.map Subcommand.name ++ ["help"]

/-! ## Parsing -/

/-- Asks for help on what the words name: the program, or one of its subcommands. -/
def helpOn : List String → UsageFault
  | [] => .help
  | [word] => if programLevel.subcommands.contains word then .help else .invalidSubcommand
  | _ :: _ :: _ => .invalidSubcommand

/-- The command that a subcommand and the arguments behind it make up. -/
def Subcommand.parse (s : Subcommand) (args : List String) : Except UsageFault Command := do
  let level : Level := { options := s.options }
  let (taken, _) ← level.take {} args
  let taken ← taken.settle
  match s.command? taken with
  | some command => return command
  | none => throw .missingRequiredArgument

/-- The command line that arguments make up. -/
def Invocation.parse (args : List String) : Except UsageFault Invocation := do
  let (taken, sub) ← programLevel.take {} args
  match sub with
  | none =>
    let taken ← taken.settle
    throw (if taken.values.isEmpty then .helpForNothing else .missingSubcommand)
  | some (name, rest) =>
    match subcommands.find? (·.name = name) with
    | none => throw (helpOn rest)
    | some s =>
      let command ← s.parse rest
      let taken ← taken.settle
      match taken.value? "dataset" with
      | none => throw .missingRequiredArgument
      | some dataset =>
        return {
          config := taken.value? "config"
          dataset
          tenant := (taken.value? "tenant").getD "master"
          logFormat := (taken.value? "log-format").bind fun text => (LogFormat.parse text).toOption
          command }

end TenantAccess.CommandLine
