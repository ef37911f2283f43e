import TriggerCompose.Condition.Selector
import TriggerCompose.Toml.Value

/-!
# The condition section of a configuration

The options of selectors as a configuration file gives them. The connector is still
a text there, and an empty gap policy stands for none.

## Main definitions

* `Condition.Section`: the entries of the section.
* `Condition.Section.ofToml?`: the section of a table.
* `Condition.Section.options?`: the options that the section stands for.
-/

namespace TriggerCompose.Condition

/-- The entries of the condition section. -/
structure Section where
  defaultConnector : String
  scriptLanguage : String
  parentBucketPath : String
  gapPolicy? : Option String
  deriving DecidableEq, Repr

namespace Section

/-- The entries that hold where none are set. -/
def standard : Section where
  defaultConnector := "and"
  scriptLanguage := Options.standard.scriptLanguage
  parentBucketPath := Options.standard.parentBucketPath
  gapPolicy? := Options.standard.gapPolicy?

instance : Inhabited Section := ⟨standard⟩

/-- The section of a table. Other entries are refused. -/
def ofToml? (value : Toml) : Option Section := do
  let fields ← value.fields? .refused
    ["default_connector", "script_lang", "parent_bucket_path", "gap_policy"]
  return {
    defaultConnector :=
      ← Toml.field? fields "default_connector" Toml.string? standard.defaultConnector
    scriptLanguage := ← Toml.field? fields "script_lang" Toml.string? standard.scriptLanguage
    parentBucketPath :=
      ← Toml.field? fields "parent_bucket_path" Toml.string? standard.parentBucketPath
    gapPolicy? :=
      ← Toml.field? fields "gap_policy" (fun v => v.string?.map some) standard.gapPolicy? }

/-- The options of a section, if its connector is one. -/
def options? (s : Section) : Option Options :=
  (Connector.ofText? s.defaultConnector).map fun defaultConnector => {
    defaultConnector
    scriptLanguage := s.scriptLanguage
    parentBucketPath := s.parentBucketPath
    gapPolicy? := s.gapPolicy?.filter (! ·.isEmpty) }

end Section

end TriggerCompose.Condition
