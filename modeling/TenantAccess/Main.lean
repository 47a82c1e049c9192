import Std.Time
import TenantAccess.CommandLine.Execution

/-!
# The program

Reads the arguments, the environment and the files, hands them to `Invocation.run`, and prints what
comes of it: the report on the standard output, or a failure on the standard error.
-/

namespace TenantAccess.CommandLine

/-- The number of a fault of the system, which some calls give with a minus sign. -/
def faultNumber (code : UInt32) : UInt32 := if code < 2147483648 then code else 0 - code

/-- Reads a file. -/
def readFile (path : String) : IO (Except ReadFault String) := do
  try
    return .ok (← IO.FS.readFile path)
  catch
    | .noFileOrDirectory .. => return .error .notFound
    | .inappropriateType _ code _ =>
      return .error (if faultNumber code = 21 then .isDirectory else .notDirectory)
    | .invalidArgument _ code details =>
      return .error (if faultNumber code = 36 then .nameTooLong else .other details)
    | e => return .error (.other (toString e))

/-- The files that a command line may ask for, read beforehand: those at the given paths. -/
def readFiles (paths : List String) : IO Files := do
  let texts ← paths.mapM fun path => return (path, ← readFile path)
  return fun path => (texts.lookup path).getD (.error .notFound)

/-- The time of day as it is written in explanations. -/
def timeText : IO String := do
  let now ← Std.Time.Timestamp.now
  return (Std.Time.DateTime.ofTimestamp now Std.Time.TimeZone.ZoneRules.UTC).format
    "uuuu-MM-dd'T'HH:mm:ss.SSSSSSSSS'Z'"

/-- How the program is called. -/
def usage : String :=
  "Usage: warden [OPTIONS] --dataset <DATASET> <COMMAND>\n\nCommands: "
    ++ String.intercalate ", " programLevel.subcommands

/-- Prints what is to be said of a command line that is not carried out, and gives the exit
status. -/
def explainUsage (fault : UsageFault) : IO UInt32 := do
  match fault with
  | .help => IO.println usage
  | .version => IO.println "warden 0.1.0"
  | _ => IO.eprintln usage
  return fault.exitStatus.toUInt32

/-- Carries out a command line and gives the exit status. -/
def perform (args : List String) : IO UInt32 := do
  match Invocation.parse args with
  | .error fault => explainUsage fault
  | .ok i =>
    let configVariable ← IO.getEnv Configuration.pathVariable
    let paths := i.config.toList ++ (Configuration.pathOfVariable configVariable).toList
    let files ← readFiles (i.dataset :: paths)
    let exit := Exit.ofResult (i.run files configVariable (← timeText))
    IO.print exit.stdout
    unless exit.stderr.isEmpty do IO.eprintln exit.stderr
    return exit.status.toUInt32

end TenantAccess.CommandLine

/-- The program. -/
def main (args : List String) : IO UInt32 := TenantAccess.CommandLine.perform args
