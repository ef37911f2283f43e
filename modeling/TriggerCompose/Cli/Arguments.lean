import TriggerCompose.Number.Word

/-!
# Command line arguments

What the program is asked to do. Arguments name a command, give it an operand and set
options. The option for the configuration may stand before or after the names of
commands, once at each of these places, and the last place counts.

## Main definitions

* `Arguments.Verb`: a command with its operand and options.
* `Arguments.Request`: a verb, and perhaps a configuration.
* `Arguments.Stop`: why there is no request.
* `Arguments.parse`: the request of a list of arguments.
-/

namespace TriggerCompose.Arguments

/-- A command with its operand and options. -/
inductive Verb where
  | decompile (input : String)
  | compile (input : String)
  | decompileFilters (input : String)
  | compileFilters (input : String)
  | predicate (fragment : String) (canonical : Bool)
  | query (base : String) (field? : Option String)
  | normalize (input : String) (now? : Option Int64) (synthesize : Bool)
  deriving DecidableEq, Repr

/-- What the program is asked to do. -/
structure Request where
  config? : Option String
  verb : Verb
  deriving DecidableEq, Repr

/-- Why arguments make no request: they ask for help, or they are not understood. -/
inductive Stop where
  | help
  | misuse
  deriving DecidableEq, Repr

/-- What an option or an operand takes: nothing, a path, any text, or an integer. -/
inductive Kind where
  | nothing
  | path
  | text
  | integer
  deriving DecidableEq, Repr

/-- A value that is taken. A path is not empty. -/
def Kind.takes (value : String) : Kind → Bool
  | nothing => false
  | path => ! value.isEmpty
  | text => true
  | integer => (Number.signed? value.toList).isSome

/-- An option: its long name, perhaps a letter, and what it takes. -/
structure Switch where
  name : String
  letter? : Option Char
  kind : Kind
  deriving DecidableEq, Repr

namespace Switch

/-- The option for the configuration. -/
def config : Switch where
  name := "config"
  letter? := some 'c'
  kind := .path

/-- The option for the canonical form of a predicate. -/
def render : Switch where
  name := "render"
  letter? := none
  kind := .nothing

/-- The option for the timestamp field. -/
def timestampField : Switch where
  name := "timestamp-field"
  letter? := some 't'
  kind := .text

/-- The option for the present time. -/
def now : Switch where
  name := "now"
  letter? := none
  kind := .integer

/-- The option against synthesized series. -/
def noSynthesize : Switch where
  name := "no-synthesize"
  letter? := none
  kind := .nothing

end Switch

/-! ### Single arguments -/

/-- What an argument is by its form: an operand, the mark after which all are operands,
    a question for help, an option with a value that may be attached, or unknown. -/
inductive Form where
  | operand
  | mark
  | help
  | option (switch : Switch) (attached? : Option String)
  | unknown
  deriving DecidableEq, Repr

/-- An option by its long name, with what stands after an equals sign. -/
def longForm (switches : List Switch) (text : List Char) : Form :=
  let name := String.ofList (text.takeWhile (· != '='))
  let attached? := (text.dropWhile (· != '=')).tail?.map String.ofList
  if name == "help" then if attached?.isNone then .help else .unknown
  else
    match switches.find? (·.name == name) with
    | some switch =>
      if switch.kind = .nothing ∧ attached?.isSome then .unknown else .option switch attached?
    | none => .unknown

/-- What is attached to the letter of an option, after an equals sign or without one. -/
def attachedToLetter? : List Char → Option String
  | [] => none
  | '=' :: value => some (String.ofList value)
  | value => some (String.ofList value)

/-- An option by its letter, with what stands after the letter. -/
def shortForm (switches : List Switch) (letter : Char) (rest : List Char) : Form :=
  if letter == 'h' then .help
  else
    match switches.find? (·.letter? == some letter) with
    | some switch => .option switch (attachedToLetter? rest)
    | none => .unknown

/-- What an argument is by its form. A single hyphen is an operand. -/
def form (switches : List Switch) (argument : String) : Form :=
  match argument.toList with
  | ['-', '-'] => .mark
  | '-' :: '-' :: text => longForm switches text
  | '-' :: letter :: rest => shortForm switches letter rest
  | _ => .operand

/-- An argument that has the form of an option and so is no value of one. -/
def isOptionLike (argument : String) : Bool :=
  match argument.toList with
  | '-' :: _ :: _ => true
  | _ => false

/-! ### The arguments of one place -/

/-- The options given at one place, each by its name with its value. -/
structure Given where
  options : List (String × String)
  deriving DecidableEq, Repr

namespace Given

/-- No options. -/
def none : Given where
  options := []

/-- The value of an option. -/
def value? (given : Given) (switch : Switch) : Option String :=
  given.options.lookup switch.name

/-- An option without a value was given. -/
def has (given : Given) (switch : Switch) : Bool :=
  (given.value? switch).isSome

/-- Adds an option. It may not be there yet, and it has to take the value. -/
def add (given : Given) (switch : Switch) (value : String) : Except Stop Given :=
  if given.has switch then .error .misuse
  else if switch.kind = .nothing ∨ switch.kind.takes value then
    .ok { options := (switch.name, value) :: given.options }
  else .error .misuse

/-- Adds an option whose value is the next argument. What has the form of an option is
    no value. -/
def addNext (given : Given) (switch : Switch) (value : String) : Except Stop Given :=
  if isOptionLike value then .error .misuse else given.add switch value

end Given

/-- Reads the options in front of the name of a command. Gives the name and the
    arguments after it. -/
def readName (switches : List Switch) : Given → List String →
    Except Stop (Given × String × List String)
  | _, [] => .error .misuse
  | given, argument :: rest =>
    match form switches argument with
    | .operand => .ok (given, argument, rest)
    | .mark | .unknown => .error .misuse
    | .help => .error .help
    | .option switch (some value) => do readName switches (← given.add switch value) rest
    | .option switch none =>
      match switch.kind, rest with
      | .nothing, rest => do readName switches (← given.add switch "") rest
      | _, value :: rest => do readName switches (← given.addNext switch value) rest
      | _, [] => .error .misuse

/-- Reads the options and the only operand of a command. -/
def readOperand (switches : List Switch) (kind : Kind) : Given → Option String → List String →
    Except Stop (Given × String)
  | _, none, [] => .error .misuse
  | given, some operand, [] => .ok (given, operand)
  | given, operand?, argument :: rest =>
    match form switches argument with
    | .operand =>
      if operand?.isNone && kind.takes argument then
        readOperand switches kind given (some argument) rest
      else .error .misuse
    | .mark =>
      match operand?.toList ++ rest with
      | [operand] => if kind.takes operand then .ok (given, operand) else .error .misuse
      | _ => .error .misuse
    | .unknown => .error .misuse
    | .help => .error .help
    | .option switch (some value) => do
      readOperand switches kind (← given.add switch value) operand? rest
    | .option switch none =>
      match switch.kind, rest with
      | .nothing, rest => do readOperand switches kind (← given.add switch "") operand? rest
      | _, value :: rest => do
        readOperand switches kind (← given.addNext switch value) operand? rest
      | _, [] => .error .misuse

/-! ### Commands -/

/-- The names of the commands that read one document. -/
def documentCommands : List (String × (String → Verb)) :=
  [("decompile", .decompile), ("compile", .compile)]

/-- The names of the commands for filters. -/
def filterCommands : List (String × (String → Verb)) :=
  [("decompile", .decompileFilters), ("compile", .compileFilters)]

/-- The names that help can be asked about. -/
def isTopic : List String → Bool
  | [] => true
  | ["filters", name] => name == "help" || (filterCommands.lookup name).isSome
  | [name] =>
    ["decompile", "compile", "filters", "predicate", "query", "normalize", "help"].contains name
  | _ => false

/-- The request for help about a list of names. -/
def helpAbout (topic : List String) : Stop :=
  if isTopic topic then .help else .misuse

/-- The request of a command with options of one place or none set outside it. -/
def request (outer : Option String) (given : Given) (verb : Verb) : Request where
  config? := (given.value? .config).or outer
  verb := verb

/-- A command that reads one document. -/
def readDocumentCommand (outer : Option String) (verb : String → Verb) (rest : List String) :
    Except Stop Request := do
  let (given, input) ← readOperand [.config] .path .none none rest
  return request outer given (verb input)

/-- A command for filters, after the options in front of its name. -/
def readFilterCommand (outer : Option String) (rest : List String) : Except Stop Request := do
  let (given, name, rest) ← readName [.config] .none rest
  if name == "help" then .error (helpAbout ("filters" :: rest))
  else
    match filterCommands.lookup name with
    | some verb => readDocumentCommand ((given.value? .config).or outer) verb rest
    | none => .error .misuse

/-- The request of a command that is known by its name. -/
def readCommand (outer : Option String) (name : String) (rest : List String) :
    Except Stop Request :=
  match name with
  | "help" => .error (helpAbout rest)
  | "filters" => readFilterCommand outer rest
  | "predicate" => do
    let (given, fragment) ← readOperand [.config, .render] .text .none none rest
    return request outer given (.predicate fragment (given.has .render))
  | "query" => do
    let (given, base) ← readOperand [.config, .timestampField] .text .none none rest
    return request outer given (.query base (given.value? .timestampField))
  | "normalize" => do
    let (given, input) ← readOperand [.config, .now, .noSynthesize] .path .none none rest
    let now? := (given.value? .now).bind fun value => Number.signed? value.toList
    return request outer given (.normalize input now? (! given.has .noSynthesize))
  | _ =>
    match documentCommands.lookup name with
    | some verb => readDocumentCommand outer verb rest
    | none => .error .misuse

/-- The request of a list of arguments. -/
def parse (arguments : List String) : Except Stop Request := do
  let (given, name, rest) ← readName [.config] .none arguments
  readCommand (given.value? .config) name rest

end TriggerCompose.Arguments
