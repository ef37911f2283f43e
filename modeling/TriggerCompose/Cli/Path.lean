/-!
# Paths

Paths of files as texts, with slashes between the names.

## Main definitions

* `Path.join`: a path taken from a directory.
* `Path.names`: the names on a path.
* `Path.parent?`, `Path.fileName?`: a path split before its last name.
-/

namespace TriggerCompose.Path

/-- A path that starts at the top. -/
def isAbsolute (path : String) : Bool :=
  path.toList.head? == some '/'

/-- A path taken from a directory: an absolute path stands for itself, and any other is
    appended as it is, after a slash if the directory does not end with one. -/
def join (directory path : String) : String :=
  if isAbsolute path || directory.isEmpty then path
  else if directory.toList.getLast? == some '/' then directory ++ path
  else directory ++ "/" ++ path

/-- The names on a path. A single dot stands for the directory before it and is left
    out. -/
def names (path : String) : List String :=
  ((path.toList.splitOnP (· == '/')).map String.ofList).filter fun name =>
    ! name.isEmpty && name != "."

/-- The absolute path of names. -/
def ofNames (names : List String) : String :=
  "/" ++ "/".intercalate names

/-- The directory of an absolute path; the top has none. -/
def parent? (path : String) : Option String :=
  match names path with
  | [] => none
  | names => some (ofNames names.dropLast)

/-- The last name of a path, if it names a file and not a directory further up. -/
def fileName? (path : String) : Option String :=
  (names path).getLast?.filter (· != "..")

end TriggerCompose.Path
