import TriggerCompose.Cli.Host
import TriggerCompose.Cli.Path

/-!
# Workspaces

A host in memory: a working directory with some files below it, an input, and what was
written. There is no clock.

## Main definitions

* `Workspace`: the state of the host.
* `Workspace.locate?`: where a path leads.
* `Workspace.host`: the host.
-/

namespace TriggerCompose

/-- Files and directories by the names on their paths from the top, the working directory
    among the directories, an input, and what was written to the two outputs. -/
structure Workspace where
  root : List String
  directories : List (List String)
  files : List (List String × String)
  input : String
  output : String
  errors : String
  deriving Inhabited

namespace Workspace

/-- A workspace with some files, by their paths from the working directory. -/
def ofFiles (root : String) (files : List (String × String)) (input : String) : Workspace where
  root := Path.names root
  directories := []
  files := files.map fun (path, text) => (Path.names root ++ Path.names path, text)
  input := input
  output := ""
  errors := ""

/-- A directory that exists: one that was made, or one above something that exists. -/
def isDirectory (w : Workspace) (place : List String) : Bool :=
  place.isPrefixOf w.root || w.directories.any place.isPrefixOf ||
    w.files.any fun (file, _) => place.isPrefixOf file && place != file

/-- The text of a file. -/
def text? (w : Workspace) (place : List String) : Option String :=
  w.files.lookup place

/-- Where a name leads from a place, which has to be a directory. -/
def step? (w : Workspace) (place : List String) (name : String) : Option (List String) :=
  if ! w.isDirectory place then none
  else if name == ".." then some place.dropLast
  else some (place ++ [name])

/-- Where a path leads. The last name need not exist, but a path that ends with a slash
    leads to a directory. -/
def locate? (w : Workspace) (path : String) : Option (List String) := do
  let start := if Path.isAbsolute path then [] else w.root
  let place ← (Path.names path).foldlM w.step? start
  if path.toList.getLast? == some '/' && ! w.isDirectory place then none else return place

/-- The text of the file to which a path leads. -/
def readFile (w : Workspace) (path : String) : Except Host.Fault String :=
  if path.isEmpty then .error .missing
  else
    match w.locate? path with
    | none => .error .missing
    | some place =>
      if w.isDirectory place then .error .isDirectory
      else
        match w.text? place with
        | some text => .ok text
        | none => .error .missing

/-- The text of the file to which a path leads, if there is one. -/
def contents? (w : Workspace) (path : String) : Option String :=
  (w.readFile path).toOption

/-- The absolute path of a file or directory that exists. -/
def absolute? (w : Workspace) (path : String) : Option String := do
  if path.isEmpty then none
  else
    let place ← w.locate? path
    if w.isDirectory place || (w.text? place).isSome then return Path.ofNames place else none

/-- Makes the directories on the way along some names, as far as they are missing. -/
def makeDirectoriesAt (w : Workspace) (place : List String) :
    List String → Except Host.Fault Workspace
  | [] => .ok w
  | name :: names =>
    let next := if name == ".." then place.dropLast else place ++ [name]
    if w.isDirectory next then makeDirectoriesAt w next names
    else if (w.text? next).isSome then
      .error (if names.isEmpty then .alreadyExists else .notDirectory)
    else makeDirectoriesAt { w with directories := next :: w.directories } next names

/-- Makes the directories of an absolute path. -/
def makeDirectories (w : Workspace) (path : String) : Except Host.Fault Workspace :=
  w.makeDirectoriesAt [] (Path.names path)

/-- A workspace with text appended to the file at a place, which is made if it is
    missing. -/
def appendAt (w : Workspace) (place : List String) (text : String) : Workspace :=
  match w.text? place with
  | some before =>
    { w with files := (place, before ++ text) :: w.files.filter (·.1 != place) }
  | none => { w with files := (place, text) :: w.files }

/-- Text appended to the file to which a path leads. -/
def append (w : Workspace) (path text : String) : Workspace :=
  match w.locate? path with
  | some place => w.appendAt place text
  | none => w

/-- Makes an empty file where a path leads, unless there is one. -/
def makeFile (w : Workspace) (path : String) : Except Host.Fault Workspace :=
  match w.locate? path with
  | some place => if w.isDirectory place then .error .isDirectory else .ok (w.appendAt place "")
  | none => .error .missing

/-- A change that may fail, as an action. -/
def attempt (change : Workspace → Except Host.Fault Workspace) :
    StateM Workspace (Except Host.Fault Unit) := do
  match change (← get) with
  | .ok w =>
    set w
    return .ok ()
  | .error fault => return .error fault

/-- The host of a workspace. -/
def host : Host (StateM Workspace) where
  readInput := do return some (← get).input
  readFile := fun path => do return (← get).readFile path
  absolute? := fun path => do return (← get).absolute? path
  workingDirectory := do return Path.ofNames (← get).root
  makeDirectories := fun path => attempt (·.makeDirectories path)
  makeFile := fun path => attempt (·.makeFile path)
  append := fun path text => modify (·.append path text)
  writeOutput := fun text => modify fun w => { w with output := w.output ++ text }
  writeError := fun text => modify fun w => { w with errors := w.errors ++ text }
  now := pure 0
  stamp? := pure none

end Workspace

end TriggerCompose
