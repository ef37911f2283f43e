import TriggerCompose.Condition.Script
import TriggerCompose.SortedMap

/-!
# Bucket selectors

The condition object that the rule engine evaluates, and the editable form of it.
A selector binds every variable of its script to a bucket path.

## Main definitions

* `Condition.Selector`: script, bindings and metadata.
* `Condition.Form`: a selector with its script read into clauses.
* `Condition.Options`: what a selector takes besides its clauses.
* `Condition.build`: the selector of a clause list.
* `Condition.Selector.form`: the form of a selector.
-/

namespace TriggerCompose.Condition

/-- A script with the language it is written in. -/
structure Script where
  source : String
  language : String
  deriving DecidableEq, Repr, Inhabited

/-- The language of a script that names none. -/
def Script.defaultLanguage : String := "painless"

/-- A condition object of the rule engine. -/
structure Selector where
  bucketsPath : SortedMap String
  parentBucketPath : String
  script : Script
  gapPolicy? : Option String
  deriving Inhabited

/-- The editable form of a selector: the clauses of its script, and the selector's
    members as they are. -/
structure Form where
  clauses : List Clause
  bucketsPath : SortedMap String
  parentBucketPath : String
  script : Script
  gapPolicy? : Option String
  deriving Inhabited

/-- What a selector takes besides its clauses. -/
structure Options where
  defaultConnector : Connector
  scriptLanguage : String
  parentBucketPath : String
  gapPolicy? : Option String
  deriving DecidableEq, Repr

/-- The options that hold where none are set. -/
def Options.standard : Options where
  defaultConnector := .and
  scriptLanguage := Script.defaultLanguage
  parentBucketPath := "composite_agg"
  gapPolicy? := some "skip"

instance : Inhabited Options := ⟨Options.standard⟩

/-- The bindings of a clause list: every field is bound to itself. -/
def bindings (clauses : List Clause) : SortedMap String :=
  SortedMap.ofList (clauses.map fun c => (c.field, c.field))

/-- The selector of a clause list. -/
def build (clauses : List Clause) (options : Options) : Except ScriptError Selector := do
  let source ← compile clauses options.defaultConnector
  return {
    bucketsPath := bindings clauses
    parentBucketPath := options.parentBucketPath
    script := { source, language := options.scriptLanguage }
    gapPolicy? := options.gapPolicy? }

/-- The form of a selector. -/
def Selector.form (s : Selector) (fallback : Connector) : Form where
  clauses := decompile s.script.source fallback
  bucketsPath := s.bucketsPath
  parentBucketPath := s.parentBucketPath
  script := s.script
  gapPolicy? := s.gapPolicy?

end TriggerCompose.Condition
