import TriggerCompose.Toml.Value

/-!
# Tables under construction

A TOML text builds its tables from headers and dotted keys, in any order that
defines nothing twice. While the text is read, a table remembers how it came about,
because that decides what may still be added to it.

## Main definitions

* `Toml.Node`: a finished value, a table, or an array of tables.
* `Toml.assign?`: sets a dotted key in a table.
* `Toml.openTable?`, `Toml.openItem?`: what the two kinds of header do.
* `Toml.within?`: a change to the table that a header opened.
* `Toml.ofNodes`: the finished table.
-/

namespace TriggerCompose.Toml

/-- How a table came about: on the way to another one, by its header, or on the way
    to the last part of a dotted key. -/
inductive Origin where
  | implied
  | header
  | dotted
  deriving DecidableEq

/-- An entry of a table under construction: a value to which nothing can be added, a
    table, or an array of tables with the latest one first. -/
inductive Node where
  | value (value : Toml)
  | table (origin : Origin) (entries : List (String × Node))
  | tables (items : List (List (String × Node)))

/-- The entries of a table under construction. -/
abbrev Entries := List (String × Node)

/-- Changes the entry of a key, which may be absent before. -/
def update? (key : String) (change : Option Node → Option Node) : Entries → Option Entries
  | [] => (change none).map fun node => [(key, node)]
  | (key', node) :: rest =>
    if key' = key then (change (some node)).map fun node => (key', node) :: rest
    else (update? key change rest).map ((key', node) :: ·)

/-- Adds a key, which has to be new. -/
def add? (key : String) (value : Toml) (entries : Entries) : Option Entries :=
  update? key (fun node? => if node?.isNone then some (.value value) else none) entries

/-- Changes what is in the table that an entry holds, or creates that table. The
    latest table stands for an array of tables. A dotted key does not go through a
    table that has its own header. -/
def descend? (origin : Origin) (change : Entries → Option Entries) : Option Node → Option Node
  | none => (change []).map (.table origin)
  | some (.table origin' entries) =>
    if origin = .dotted ∧ origin' = .header then none
    else (change entries).map (.table origin')
  | some (.tables (latest :: earlier)) =>
    (change latest).map fun latest => .tables (latest :: earlier)
  | some _ => none

/-- Sets a dotted key: the parts before the last one, and the last one. The table
    that gets the value is one of dotted keys only. -/
def assign? (key : String) (value : Toml) : List String → Entries → Option Entries
  | [], entries => add? key value entries
  | [parent], entries =>
    update? parent (fun
      | none => some (.table .dotted [(key, .value value)])
      | some (.table .dotted inner) => (add? key value inner).map (.table .dotted)
      | some _ => none) entries
  | part :: parts, entries =>
    update? part (descend? .dotted fun inner => assign? key value parts inner) entries

/-- A change to the table at the end of a path of keys, where tables missing on the
    way are implied. -/
def within? (change : Entries → Option Entries) : List String → Entries → Option Entries
  | [], entries => change entries
  | part :: parts, entries =>
    update? part (descend? .implied fun inner => within? change parts inner) entries

/-- What the header of a table does: it defines the table, which may have been
    implied before, but not defined. -/
def openTable? (key : String) (entries : Entries) : Option Entries :=
  update? key (fun
    | none => some (.table .header [])
    | some (.table .implied inner) => some (.table .header inner)
    | some _ => none) entries

/-- What the header of an array of tables does: it appends a table. -/
def openItem? (key : String) (entries : Entries) : Option Entries :=
  update? key (fun
    | none => some (.tables [[]])
    | some (.tables items) => some (.tables ([] :: items))
    | some _ => none) entries

mutual

/-- The value of an entry. -/
def Node.toToml : Node → Toml
  | .value v => v
  | .table _ entries => .table (ofEntries entries)
  | .tables items => .array (ofTables items).reverse

/-- The values of entries. -/
def ofEntries : Entries → List (String × Toml)
  | [] => []
  | (key, node) :: rest => (key, node.toToml) :: ofEntries rest

/-- The values of the tables of an array. -/
def ofTables : List Entries → List Toml
  | [] => []
  | entries :: rest => .table (ofEntries entries) :: ofTables rest

end

/-- The finished table of its entries. -/
def ofNodes (entries : Entries) : Toml :=
  .table (ofEntries entries)

end TriggerCompose.Toml
