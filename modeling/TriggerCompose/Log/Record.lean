import TriggerCompose.Json.Printer
import TriggerCompose.Log.Settings
import TriggerCompose.Log.Target
import TriggerCompose.Text.Quoted

/-!
# Log records

What the program says about its work, and the lines in which it says so. A record of
a command belongs to a domain; one of the parts that commands are built from has none
and shows its target instead.

## Main definitions

* `Log.Level`: how important a record is.
* `Log.Record`: a message with its fields.
* `Log.Record.plain`, `Log.Record.toJson`: the two forms of a record.
* `Log.Record.line`: the line of a record.
-/

namespace TriggerCompose.Log

/-- The importance of a record, the most important first. -/
inductive Level where
  | error
  | warn
  | info
  | debug
  | trace
  deriving DecidableEq, Repr

namespace Level

/-- The place of a level in the order of importance, from one on. -/
def rank : Level → Nat
  | error => 1
  | warn => 2
  | info => 3
  | debug => 4
  | trace => 5

/-- The name of a level. -/
def name : Level → String
  | error => "ERROR"
  | warn => "WARN"
  | info => "INFO"
  | debug => "DEBUG"
  | trace => "TRACE"

/-- The number of the terminal color of a level. -/
def color : Level → String
  | error => "31"
  | warn => "33"
  | info => "32"
  | debug => "34"
  | trace => "35"

/-- The name of a level, as long as the longest. -/
def padded (level : Level) : String :=
  String.ofList (List.replicate (5 - level.name.length) ' ') ++ level.name

end Level

/-- The value of a field of a record. -/
inductive Value where
  | text (value : String)
  | number (value : Nat)
  | flag (value : Bool)
  deriving DecidableEq, Repr

namespace Value

/-- The plain form of a value. -/
def plain : Value → String
  | text s => s
  | number n => toString n
  | flag b => toString b

/-- The JSON of a value. -/
def toJson : Value → Json
  | text s => .string s
  | number n => .ofNat n
  | flag b => .boolean b

end Value

/-- A log record: its level, the target that filters know it by, the domain of a
    command's record, and what it says. -/
structure Record where
  level : Level
  target : Target
  domain? : Option String
  message : String
  fields : List (String × Value)
  deriving DecidableEq, Repr

namespace Record

/-- A record without a domain: it has no fields of its own. -/
def part (level : Level) (target : Target) (message : String) : Record where
  level := level
  target := target
  domain? := none
  message := message
  fields := []

/-- A record of a command in a domain. -/
def ofCommand (level : Level) (target : Target) (domain message : String)
    (fields : List (String × Value)) : Record where
  level := level
  target := target
  domain? := some domain
  message := message
  fields := fields

/-- The name under which the target of a record without a domain is shown. -/
def targetName : String := "log.target"

/-- The name under which the module of a record without a domain is shown. -/
def moduleName : String := "log.module_path"

/-- The names of all that a record holds. -/
def names (r : Record) : List String :=
  match r.domain? with
  | some _ => "domain" :: "message" :: r.fields.map (·.1)
  | none => ["message", targetName, moduleName, "log.file", "log.line"]

/-- A text between two terminal codes: one that sets a style and one that ends it. -/
def styled (style text : String) : String :=
  s!"\x1b[{style}m{text}\x1b[0m"

/-- A text with a style, if styles are wanted. -/
def styledIf (colored : Bool) (style text : String) : String :=
  if colored then styled style text else text

/-- What stands between the level and the message: the domain, or a word for none. -/
def heading (colored : Bool) (r : Record) : String :=
  match r.domain? with
  | some domain => styledIf colored "1;36" s!"[{domain}]"
  | none => "log:"

/-- The fields of a record in plain form. -/
def plainFields (r : Record) : List String :=
  match r.domain? with
  | some _ => r.fields.map fun (name, value) => s!"{name}={value.plain}"
  | none => [targetName, moduleName].map fun name => s!"{name}={Text.quoted r.target.name}"

/-- A record in plain form. -/
def plain (colored : Bool) (r : Record) : String :=
  " ".intercalate <|
    [styledIf colored r.level.color r.level.padded, r.heading colored, r.message] ++ r.plainFields

/-- What the JSON of a record lists as its fields. -/
def jsonFields (r : Record) : List (String × Json) :=
  ("message", .string r.message) ::
    match r.domain? with
    | some domain =>
      ("domain", .string domain) :: r.fields.map fun (name, value) => (name, value.toJson)
    | none => [targetName, moduleName].map fun name => (name, .string r.target.name)

/-- A record as JSON. -/
def toJson (time? : Option String) (r : Record) : Json :=
  .object <|
    (match time? with
      | some time => [("timestamp", Json.string time)]
      | none => []) ++
    [("level", .string r.level.name), ("fields", .object r.jsonFields)]

/-- The line of a record, with the time in front if the time is known. -/
def line (format : Format) (colored : Bool) (time? : Option String) (r : Record) : String :=
  match format with
  | .plain =>
    (match time? with
      | some time => time ++ " "
      | none => "") ++ r.plain colored ++ "\n"
  | .json => (r.toJson time?).compact ++ "\n"

end Record

end TriggerCompose.Log
