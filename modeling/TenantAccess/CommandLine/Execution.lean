import TenantAccess.CommandLine.Command
import TenantAccess.Format.Answer
import TenantAccess.Loading
import TenantAccess.Store.Memory

/-!
# Carrying out commands

A command is a question to the resolver whose answer is written as JSON. A refusal is an answer too,
with its own exit status; what fails is a typed id that is blank, a file that is not accepted, and a
store that fails. Nothing is written to the standard output unless the question was put and came back
with an answer or a refusal. What is logged on the way is left out, so the form of the log is taken
in and decides nothing.
-/

namespace TenantAccess.CommandLine

open Json

/-- What a command comes to. -/
inductive Report where
  | answer (v : Value)
  /-- The question was refused: a check of the directory, of credentials or of a permission. -/
  | refusal (v : Value)
  deriving Repr

namespace Report

/-- What is written to the standard output. -/
def document : Report → Value
  | .answer v => v
  | .refusal v => v

/-- The text on the standard output. -/
def stdout (r : Report) : String := r.document.pretty ++ "\n"

/-- Whether the question was answered. -/
def isAnswer : Report → Bool
  | .answer _ => true
  | .refusal _ => false

/-- The exit status. -/
def exitStatus (r : Report) : Nat := if r.isAnswer then 0 else 2

/-- The refusal that an error is reported as. -/
def ofError (e : AccessError) : Report :=
  .refusal (.object [("error", .text e.message), ("status", .integer e.status)])

/-- The report of what came of a question. A fault of the store is a failure and no refusal. -/
def ofOutcome : Outcome Value → Except Failure Report
  | .answered v => .ok (.answer v)
  | .refused (.store fault) => .error { contexts := ["storage failure"], cause := .store fault }
  | .refused e => .ok (ofError e)
  | .stalled => .error { cause := .stalled }

end Report

/-- The id that a typed text stands for; `context` says what was typed. -/
def typedId {kind : IdKind} (context text : String) : Except Failure (Identifier kind) :=
  (Identifier.parse text).mapError fun fault => { contexts := [context], cause := .store fault }

/-- The account that was typed. -/
def typedAccount (text : String) : Except Failure AccountId := typedId "invalid account id" text

/-- The application that was typed. -/
def typedApplication (text : String) : Except Failure ApplicationId :=
  typedId "invalid application id" text

/-- The account and the application that were typed; the application is looked at first. -/
def AccountScope.typed (s : AccountScope) : Except Failure (AccountId × Option ApplicationId) := do
  let application ← s.application.mapM typedApplication
  return (← typedAccount s.account, application)

/-- The question that a command puts, about the ids that were typed. -/
def Command.question : Command → Except Failure Question
  | .permissions s => do
    let (account, scope) ← s.typed
    return .permissions account scope
  | .roles s => do
    let (account, scope) ← s.typed
    return .roles account scope
  | .ranges s => do
    let (account, scope) ← s.typed
    return .ranges account scope
  | .menus s menuType => do
    let (account, scope) ← s.typed
    return .menus account menuType scope
  | .applications account menuType => return .applications (← typedAccount account) menuType
  | .validate application => return .validate (← typedApplication application)
  | .authorize account application permission =>
    return .authorize (← typedAccount account) (← typedApplication application) permission
  | .explain s permission => do
    let (account, scope) ← s.typed
    return .explain account scope permission
  | .credentials code secret => return .credentials code secret

/-- Carries out a command against a server. `time` is the time that explanations carry. -/
def Command.execute {σ : Type} (command : Command) (R : Resolver) (tenant : TenantCode)
    (time : String) (server : Query.Server σ) (s : σ) : Except Failure Report := do
  let q ← command.question
  Report.ofOutcome (((R.ask tenant q).serve server s).1.map (q.toValue tenant time))

/-- The tenant that was typed. -/
def typedTenant (text : String) : Except Failure TenantCode := typedId "invalid tenant code" text

/-- How a run goes through what has no order of its own: the tables of the store, which others reply
from, and the collections of the resolver. -/
structure Traversal (σ : Type) where
  /-- Those who reply to reads from a store. -/
  serve : MemoryStore → Query.Server σ
  rangeOrder : Arrangement RoleRange := {}
  menuOrder : Arrangement Menu := {}

namespace Traversal

/-- Everything comes out in the order in which it went in. -/
def inOrder : Traversal Unit where
  serve store := store.reply.toServer

/-- The resolver that puts questions to a store, under given settings. -/
def resolver {σ : Type} (walk : Traversal σ) (settings : AdminSettings) (store : MemoryStore) :
    Resolver where
  settings := settings
  levels := store.levels
  rangeOrder := walk.rangeOrder
  menuOrder := walk.menuOrder

end Traversal

/-- Carries out a command line: loads the configuration, takes in the tenant, loads the dataset, and
puts the question to a store that holds it. `configVariable` is the value of the environment variable
that names the configuration when the command line does not. -/
def Invocation.runWith {σ : Type} (i : Invocation) (walk : Traversal σ) (files : Files)
    (configVariable : Option String) (time : String) (s : σ) : Except Failure Report := do
  let config ← match i.config with
    | some path => Configuration.load files path
    | none => Configuration.loadFromVariable files configVariable
  let tenant ← typedTenant i.tenant
  let dataset ← Dataset.load files i.dataset
  let store ← dataset.toStore.mapError fun fault =>
    { contexts := ["failed to populate the in-memory store"], cause := .store fault }
  i.command.execute (walk.resolver config.admin store) tenant time (walk.serve store) s

/-- Carries out a command line with a store that replies in its own order. -/
def Invocation.run (i : Invocation) (files : Files) (configVariable : Option String)
    (time : String) : Except Failure Report :=
  i.runWith .inOrder files configVariable time ()

/-- What a run leaves behind: its exit status and what it has written. -/
structure Exit where
  status : Nat
  stdout : String := ""
  /-- A line on the standard error. -/
  stderr : String := ""
  deriving DecidableEq, Repr

/-- A report goes to the standard output; a failure to the standard error, under a status of its
own. -/
def Exit.ofResult : Except Failure Report → Exit
  | .ok report => { status := report.exitStatus, stdout := report.stdout }
  | .error failure => { status := 1, stderr := s!"error: {failure.message}" }

end TenantAccess.CommandLine
