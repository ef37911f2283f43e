import TriggerCompose.Cli.Arguments
import TriggerCompose.Cli.Host
import TriggerCompose.Cli.Path
import TriggerCompose.Cli.Trace
import TriggerCompose.Log.Filter

/-!
# The program

A run of the program on a host: the arguments are read, then the configuration, then the
log is opened, and then the command runs. The first failure ends the run.

## Main definitions

* `Program.Fault`: why a run fails.
* `Program.Sink`: where log records go.
* `Program.logPath`: the path of the log file.
* `Program.run`: a run, with its exit code.
-/

namespace TriggerCompose.Program

open Arguments (Request Verb)
open Log (Record)

/-- Why a run fails. -/
inductive Fault where
  | configPath (path : String)
  | unreadableConfig (path : String) (fault : Host.Fault)
  | refusedConfig (refusal : Settings.Refusal)
  | logFilter (directives : String) (fault : Log.DirectiveFault)
  | logWithoutDirectory
  | logWithoutName
  | logDirectory (fault : Host.Fault)
  | logFile (fault : Host.Fault)
  | input
  | file (path : String)
  | command (error : Command.Error)

/-- What is said of a failed run. -/
def Fault.message : Fault → String
  | configPath path => s!"config path '{path}'"
  | unreadableConfig path fault => s!"failed to read {path}: {fault.message}"
  | refusedConfig .malformed => "TOML parse error"
  | refusedConfig (.fault fault) => fault.message
  | logFilter directives fault => s!"invalid log filter '{directives}': {fault.message}"
  | logWithoutDirectory => "log file path has no parent directory"
  | logWithoutName => "log file path has no file name"
  | logDirectory fault => fault.message
  | logFile fault => fault.message
  | input => "reading stdin"
  | file path => s!"reading {path}"
  | command error => error.message

/-- The exit code of a failed run. A log file that cannot be opened ends the program more
    harshly than other failures. -/
def Fault.exitCode : Fault → UInt32
  | logFile _ => 101
  | _ => 1

/-- The report of a failed run. -/
def Fault.report : Fault → String
  | logFile fault => s!"log file: {fault.message}\n"
  | fault => s!"Error: {fault.message}\n"

/-- The path of a log file: from the top, or from the directory of the configuration. -/
def logPath (file directory : String) : String :=
  Path.join directory file

/-- Where log records go: the records that pass the filter are written to the error
    output, and to a file if there is one. -/
structure Sink where
  filter : Log.Filter
  format : Log.Format
  file? : Option String

variable {m : Type → Type} [Monad m]

/-- Runs an operation of the host that may fail. -/
def attempt {α : Type} (fault : Host.Fault → Fault) (operation : m (Except Host.Fault α)) :
    ExceptT Fault m α := do
  match ← operation with
  | .ok a => return a
  | .error e => throw (fault e)

/-! ### Settings and log -/

/-- The settings of a configuration file, and the directory of that file. -/
def readConfig (host : Host m) (path : String) : ExceptT Fault m (Settings × String) := do
  let some absolute ← (host.absolute? path : m _) | throw (.configPath path)
  let text ← attempt (.unreadableConfig absolute) (host.readFile absolute)
  match Settings.ofText text with
  | .ok settings => return (settings, (Path.parent? absolute).getD ".")
  | .error refusal => throw (.refusedConfig refusal)

/-- The settings of a run, and the directory from which they take paths. -/
def loadSettings (host : Host m) (config? : Option String) :
    ExceptT Fault m (Settings × String) := do
  match config? with
  | some path => readConfig host path
  | none => return (.standard, ← (host.workingDirectory : m _))

/-- Makes the file of a log and the directories above it. Gives its path. -/
def openLogFile (host : Host m) (path : String) : ExceptT Fault m String := do
  let some directory := Path.parent? path | throw .logWithoutDirectory
  let some name := Path.fileName? path | throw .logWithoutName
  attempt .logDirectory (host.makeDirectories directory)
  let path := Path.join directory name
  attempt .logFile (host.makeFile path)
  return path

/-- Opens the log. -/
def openLog (host : Host m) (logging : Log.Settings) (directory : String) :
    ExceptT Fault m Sink := do
  let filter ← match Log.Filter.parse logging.directives with
    | .ok filter => pure filter
    | .error fault => throw (.logFilter logging.directives fault)
  let file? ← match logging.file? with
    | some file => some <$> openLogFile host (logPath file directory)
    | none => pure none
  return { filter, format := logging.format, file? }

/-- Writes a record to a sink. Colors are for the error output and the plain format. -/
def emit (host : Host m) (sink : Sink) (record : Record) : m Unit := do
  if sink.filter.passes record then
    let time? ← host.stamp?
    host.writeError (record.line sink.format true time?)
    match sink.file? with
    | some path => host.append path (record.line sink.format false time?)
    | none => pure ()

/-- Writes records to a sink. -/
def emitAll (host : Host m) (sink : Sink) : List Record → m Unit
  | [] => pure ()
  | record :: rest => do
    emit host sink record
    emitAll host sink rest

/-! ### Commands -/

/-- The path that stands for the input of the program. -/
def inputMark : String := "-"

/-- The text at a path. -/
def readText (host : Host m) (path : String) : ExceptT Fault m String := do
  if path == inputMark then
    let some text ← (host.readInput : m _) | throw .input
    return text
  else attempt (fun _ => .file path) (host.readFile path)

/-- What a command does: it logs, and then prints a text or fails. -/
def finish (host : Host m) (sink : Sink) (records : List Record)
    (result : Except Command.Error String) : ExceptT Fault m Unit := do
  (emitAll host sink records : m Unit)
  match result with
  | .ok text => host.writeOutput (text ++ "\n")
  | .error error => throw (.command error)

/-- Parses a fragment, and prints the predicate or its canonical fragment. -/
def printPredicate (fragment : String) (canonical : Bool) : Except Command.Error String := do
  let predicate ← Command.parsePredicate fragment
  if canonical then Command.renderPredicate predicate else return predicate.toJson.pretty

/-- The time that a command takes as the present one. -/
def presentTime (host : Host m) (now? : Option Int64) : ExceptT Fault m Int64 := do
  match now? with
  | some now =>
    match Command.checkNow now with
    | .ok now => return now
    | .error error => throw (.command error)
  | none => (host.now : m _)

/-- Runs a command. -/
def execute (host : Host m) (settings : Settings) (sink : Sink) :
    Verb → ExceptT Fault m Unit
  | .decompile path => do
    let text ← readText host path
    finish host sink (Trace.decompile settings text) <|
      (Command.decompile settings text).map fun form => form.toJson.pretty
  | .compile path => do
    let text ← readText host path
    finish host sink (Trace.compile settings text) <|
      (Command.compile settings text).map fun selector => selector.toJson.pretty
  | .decompileFilters path => do
    let text ← readText host path
    finish host sink [] <|
      (Command.decompileFilters text).map fun clauses =>
        (Json.array (clauses.map FilterClause.toJson)).pretty
  | .compileFilters path => do
    let text ← readText host path
    finish host sink (Trace.compileFilters text) <|
      (Command.compileFilters text).map fun map => (FilterMap.toJson map).pretty
  | .predicate fragment canonical =>
    finish host sink (Trace.predicate fragment) (printPredicate fragment canonical)
  | .query base field? =>
    finish host sink (Trace.query settings base field?) <|
      (Command.query settings base field?).map (·.text)
  | .normalize path now? synthesize => do
    let text ← readText host path
    let now ← presentTime host now?
    finish host sink (Trace.normalize settings synthesize now text) <|
      (Command.normalize settings synthesize now text).map fun series => series.toJson.pretty

/-- Serves a request. -/
def serve (host : Host m) (request : Request) : ExceptT Fault m Unit := do
  let (settings, directory) ← loadSettings host request.config?
  let sink ← openLog host settings.logging directory
  match request.config? with
  | some path => (emit host sink (Trace.configuration path) : m Unit)
  | none => pure ()
  execute host settings sink request.verb

/-- How the program is used. -/
def usage : String :=
  "Trigger condition compiler and histogram preview normalizer\n\n" ++
  "Usage: trigger-compose [--config <FILE>] <COMMAND>\n\n" ++
  "Commands:\n" ++
  "  decompile <FILE>                                  bucket selector to condition form\n" ++
  "  compile <FILE>                                    clause list to bucket selector\n" ++
  "  filters decompile <FILE>                          filter map to filter clauses\n" ++
  "  filters compile <FILE>                            filter clauses to filter map\n" ++
  "  predicate [--render] <FRAGMENT>                   query predicate of a fragment\n" ++
  "  query [--timestamp-field <FIELD>] <QUERY>         histogram query of a base query\n" ++
  "  normalize [--now <MS>] [--no-synthesize] <FILE>   histogram series of a query result\n"

/-- A run of the program, with its exit code. -/
def run (host : Host m) (arguments : List String) : m UInt32 := do
  match Arguments.parse arguments with
  | .error .help =>
    host.writeOutput usage
    return 0
  | .error .misuse =>
    host.writeError usage
    return 2
  | .ok request =>
    match ← (serve host request).run with
    | .ok () => return 0
    | .error fault =>
      host.writeError fault.report
      return fault.exitCode

end TriggerCompose.Program
