import TriggerCompose.Toml.Value

/-!
# The logging section of a configuration

Which records are logged, in which form, and whether a file gets them as well.

## Main definitions

* `Log.Format`: the two forms of records.
* `Log.Settings`: the settings of the log.
* `Log.Settings.directives`: the filter that the settings stand for.
-/

namespace TriggerCompose.Log

/-- How records are written: as text, or as JSON. -/
inductive Format where
  | plain
  | json
  deriving DecidableEq, Repr, Inhabited

namespace Format

/-- The name of a format in configurations. -/
def name : Format → String
  | plain => "plain"
  | json => "json"

/-- The names of the formats. -/
def names : List (String × Format) :=
  [plain, json].map fun format => (format.name, format)

end Format

/-- The settings of the log: the level for all targets, the levels of single targets,
    the file that gets the records besides the error output, and their format. -/
structure Settings where
  level : String
  modules : SortedMap String
  file? : Option String
  format : Format

namespace Settings

/-- The settings that hold where none are set. -/
def standard : Settings where
  level := "info"
  modules := .empty
  file? := none
  format := .plain

instance : Inhabited Settings := ⟨standard⟩

/-- The settings of a table. Other entries are passed over. -/
def ofToml? (value : Toml) : Option Settings := do
  let fields ← value.fields? .ignored ["level", "modules", "file", "format"]
  return {
    level := ← Toml.field? fields "level" Toml.string? standard.level
    modules := ← Toml.field? fields "modules" (Toml.map? Toml.string?) standard.modules
    file? := ← Toml.field? fields "file" (fun v => v.string?.map some) standard.file?
    format := ← Toml.field? fields "format" (Toml.name? Format.names) standard.format }

/-- The filter of the settings: the level, then the levels of single targets in
    ascending order of the targets. -/
def directives (s : Settings) : String :=
  ",".intercalate (s.level :: s.modules.entries.map fun (target, level) => s!"{target}={level}")

end Settings

end TriggerCompose.Log
