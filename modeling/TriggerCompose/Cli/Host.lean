/-!
# Hosts

What the program needs of its surroundings: streams, files, a clock. The program is
written for any host, so that it runs on a machine and in memory alike.

## Main definitions

* `Host.Fault`: why a file cannot be had.
* `Host`: the operations.
-/

namespace TriggerCompose

/-- Why a file or a directory cannot be had. -/
inductive Host.Fault where
  | missing
  | alreadyExists
  | notDirectory
  | isDirectory
  | other (description : String)
  deriving DecidableEq, Repr

/-- What is said of a file or a directory that cannot be had. -/
def Host.Fault.message : Host.Fault → String
  | missing => "No such file or directory (os error 2)"
  | alreadyExists => "File exists (os error 17)"
  | notDirectory => "Not a directory (os error 20)"
  | isDirectory => "Is a directory (os error 21)"
  | other description => description

/-- The surroundings of the program: its input, which may be no text; files by their
    paths; the absolute path of an existing file; directories; the file of a log, which
    is made if it is missing; text appended to a file; the two outputs; the present time
    in milliseconds since the epoch, and the same time as records show it. -/
structure Host (m : Type → Type) where
  readInput : m (Option String)
  readFile : (path : String) → m (Except Host.Fault String)
  absolute? : (path : String) → m (Option String)
  workingDirectory : m String
  makeDirectories : (path : String) → m (Except Host.Fault Unit)
  makeFile : (path : String) → m (Except Host.Fault Unit)
  append : (path text : String) → m Unit
  writeOutput : (text : String) → m Unit
  writeError : (text : String) → m Unit
  now : m Int64
  stamp? : m (Option String)

end TriggerCompose
