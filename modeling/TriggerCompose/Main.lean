import Std.Time.Format
import TriggerCompose.Cli.Program

/-!
# The executable

The host of a machine, and the program on it.

## Main definitions

* `machine`: the host.
* `main`: the program.
-/

namespace TriggerCompose

/-- The fault of a failed operation on a file. -/
def faultOf : IO.Error → Host.Fault
  | .noFileOrDirectory .. => .missing
  | .alreadyExists .. => .alreadyExists
  | .inappropriateType .. => .notDirectory
  | e => .other (toString e)

/-- The outcome of an operation on a file. -/
def outcome {α : Type} (action : IO α) : BaseIO (Except Host.Fault α) := do
  match ← action.toBaseIO with
  | .ok a => return .ok a
  | .error e => return .error (faultOf e)

/-- The value of an operation, if it succeeds. -/
def success? {α : Type} (action : IO α) : BaseIO (Option α) := do
  match ← action.toBaseIO with
  | .ok a => return some a
  | .error _ => return none

/-- The text of all bytes of a stream, if they are text. -/
partial def readAll (input : IO.FS.Stream) (bytes : ByteArray) : IO (Option String) := do
  let more ← input.read 65536
  if more.isEmpty then return String.fromUTF8? bytes else readAll input (bytes ++ more)

/-- The text of a file. -/
def readText (path : String) : IO (Except Host.Fault String) := do
  match ← success? (IO.FS.realPath path) with
  | some found =>
    if ← found.isDir then return .error .isDirectory
    else outcome (IO.FS.readFile found)
  | none => return .error .missing

/-- The present time in milliseconds since the epoch. -/
def presentTime : IO Int64 := do
  return Int64.ofInt (← Std.Time.Timestamp.now).toMillisecondsSinceUnixEpoch.val

/-- The present time as records show it. -/
def presentStamp : IO String := do
  let now ← Std.Time.Timestamp.now
  let time := Std.Time.DateTime.ofTimestamp now .UTC
  return time.format "uuuu-MM-dd'T'HH:mm:ss.SSSSSS'Z'"

/-- The host of a machine. -/
def machine : Host IO where
  readInput := do readAll (← IO.getStdin) .empty
  readFile := readText
  absolute? := fun path => do return (← success? (IO.FS.realPath path)).map toString
  workingDirectory := do return toString (← IO.currentDir)
  makeDirectories := fun path => outcome (IO.FS.createDirAll path)
  makeFile := fun path => outcome do let _ ← IO.FS.Handle.mk path .append
  append := fun path text => do (← IO.FS.Handle.mk path .append).putStr text
  writeOutput := IO.print
  writeError := IO.eprint
  now := presentTime
  stamp? := some <$> presentStamp

end TriggerCompose

/-- Runs the program with the arguments of the command line. -/
def main (arguments : List String) : IO UInt32 :=
  TriggerCompose.Program.run TriggerCompose.machine arguments
