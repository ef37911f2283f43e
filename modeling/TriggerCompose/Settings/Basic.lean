import TriggerCompose.Condition.Section
import TriggerCompose.Log.Settings
import TriggerCompose.Preview.Settings
import TriggerCompose.Toml.Document

/-!
# Settings

The settings of the program, and the configuration texts that give them. A text is
first decoded into its sections; the sections then have to satisfy requirements,
which are checked in a fixed order.

## Main definitions

* `Settings`: the settings.
* `Settings.Sections`: the sections of a configuration.
* `Settings.Sections.ofText?`: the sections of a text.
* `Settings.Sections.resolve`: the settings of sections that satisfy the
  requirements.
* `Settings.ofText`: the settings of a text.
-/

namespace TriggerCompose

/-- The settings of the program. -/
structure Settings where
  condition : Condition.Options
  preview : Preview.Settings
  logging : Log.Settings

namespace Settings

/-- The settings that hold without a configuration. -/
def standard : Settings where
  condition := .standard
  preview := .standard
  logging := .standard

instance : Inhabited Settings := ⟨standard⟩

/-- The sections of a configuration. -/
structure Sections where
  condition : Condition.Section
  preview : Preview.Settings
  logging : Log.Settings
  deriving Inhabited

/-- The sections of a table. Each may be absent, and there are no others. -/
def Sections.ofToml? (value : Toml) : Option Sections := do
  let fields ← value.fields? .refused ["condition", "preview", "logging"]
  return {
    condition := ← Toml.field? fields "condition" Condition.Section.ofToml? .standard
    preview := ← Toml.field? fields "preview" Preview.Settings.ofToml? .standard
    logging := ← Toml.field? fields "logging" Log.Settings.ofToml? .standard }

/-- The sections of a configuration text. -/
def Sections.ofText? (text : String) : Option Sections :=
  (Toml.ofText? text).bind Sections.ofToml?

/-- A requirement that a configuration violates. -/
inductive Fault where
  | unknownConnector (text : String)
  | preview (fault : Preview.Settings.Fault)
  | blankLanguage
  | blankLevel
  deriving DecidableEq, Repr

/-- What is said of a violated requirement. -/
def Fault.message : Fault → String
  | unknownConnector text =>
    s!"condition.default_connector: {Condition.Connector.unknownMessage text}"
  | preview fault => fault.message
  | blankLanguage => "condition.script_lang must not be empty"
  | blankLevel => "logging.level must not be empty"

/-- The settings of sections, or the first requirement that they violate. -/
def Sections.resolve (s : Sections) : Except Fault Settings :=
  match s.condition.options? with
  | none => .error (.unknownConnector s.condition.defaultConnector)
  | some condition =>
    match s.preview.fault? with
    | some fault => .error (.preview fault)
    | none =>
      if Text.isBlankText condition.scriptLanguage then .error .blankLanguage
      else if Text.isBlankText s.logging.level then .error .blankLevel
      else .ok { condition, preview := s.preview, logging := s.logging }

/-- Why a text gives no settings: it has no sections, or they violate a requirement. -/
inductive Refusal where
  | malformed
  | fault (fault : Fault)
  deriving DecidableEq, Repr

/-- The settings of a configuration text. -/
def ofText (text : String) : Except Refusal Settings :=
  match Sections.ofText? text with
  | none => .error .malformed
  | some sections => sections.resolve.mapError .fault

end Settings

end TriggerCompose
