import CommandShell.Text.Basic

/-!
# Tables of settings

A settings file in the TOML format, version 1.0, is a tree of tables.  While it is read, each
table remembers how it came about, as that decides whether it may be named again: a table with
a header of its own may not, one that only lies on the way to another header may get a header
later, and one that dotted keys have made may get more dotted keys.

## Main definitions

* `Value`, `Table` — what a file says.
* `TableKind`, `Node`, `Nodes` — a table while it is read.
* `Nodes.descend` — a change at the end of a path of headers.
* `Nodes.openTable`, `Nodes.openItem` — a header.
* `Nodes.insert` — a value under a dotted key.
* `Nodes.table` — what has been read.
-/

namespace CommandShell.Toml

/-- A value. -/
inductive Value where
  /-- A text. -/
  | string (t : Text)
  /-- A truth value. -/
  | boolean (b : Bool)
  /-- A number, of no further interest. -/
  | number
  /-- A date, a time or both, of no further interest. -/
  | moment
  /-- A row of values. -/
  | array (items : List Value)
  /-- Values by their names. -/
  | table (entries : List (Text × Value))

/-- Values by their names. -/
abbrev Table := List (Text × Value)

/-- How a table came about. -/
inductive TableKind where
  /-- It has a header. -/
  | headed
  /-- It lies on the way to the header of another table. -/
  | implied
  /-- Dotted keys have made it. -/
  | dotted
  deriving DecidableEq, Repr

/-- A value while the file is read. -/
inductive Node where
  /-- A value that is complete. -/
  | value (v : Value)
  /-- A table. -/
  | table (kind : TableKind) (entries : List (Text × Node))
  /-- A row of tables, each with a header of its own, the latest first. -/
  | tables (items : List (List (Text × Node)))

/-- The values of a table while it is read. -/
abbrev Nodes := List (Text × Node)

namespace Nodes

/-- Change what stands under a name; `f` may refuse. -/
def update (key : Text) (f : Option Node → Option Node) : Nodes → Option Nodes
  | [] => (f none).map fun node => [(key, node)]
  | (name, node) :: rest =>
      if name = key then (f (some node)).map fun node => (name, node) :: rest
      else (update key f rest).map ((name, node) :: ·)

/-- A change at the end of a path of headers.  Missing tables are made; of a row of tables the
latest is meant. -/
def descend (f : Nodes → Option Nodes) : List Text → Nodes → Option Nodes
  | [], nodes => f nodes
  | key :: rest, nodes =>
      nodes.update key fun
        | none => (descend f rest []).map (.table .implied)
        | some (.table kind entries) => (descend f rest entries).map (.table kind)
        | some (.tables (last :: others)) =>
            (descend f rest last).map fun last => .tables (last :: others)
        | some (.tables []) | some (.value _) => none

/-- The header of a table, given by the names on the way to it and its own. -/
def openTable (path : List Text) (key : Text) : Nodes → Option Nodes :=
  descend (update key fun
    | none => some (.table .headed [])
    | some (.table .implied entries) => some (.table .headed entries)
    | some _ => none) path

/-- The header of a further table in a row of them. -/
def openItem (path : List Text) (key : Text) : Nodes → Option Nodes :=
  descend (update key fun
    | none => some (.tables [[]])
    | some (.tables items) => some (.tables ([] :: items))
    | some _ => none) path

/-- A value under a name that is free. -/
def insertHere (key : Text) (v : Value) : Nodes → Option Nodes :=
  update key fun
    | none => some (.value v)
    | some _ => none

/-- A value under a dotted key, given by the names on the way and the last one.  The tables on
the way may not have headers, and the last of them must be made by dotted keys. -/
def insert (key : Text) (v : Value) : List Text → Nodes → Option Nodes
  | [], nodes => nodes.insertHere key v
  | name :: rest, nodes =>
      nodes.update name fun
        | none => (insert key v rest []).map (.table .dotted)
        | some (.table kind entries) =>
            if kind = .headed ∨ (rest = [] ∧ kind ≠ .dotted) then none
            else (insert key v rest entries).map (.table kind)
        | some (.tables (last :: others)) =>
            if rest = [] then none
            else (insert key v rest last).map fun last => .tables (last :: others)
        | some (.tables []) | some (.value _) => none

mutual

/-- What has been read under a name. -/
def value : Node → Value
  | .value v => v
  | .table _ entries => .table (values entries)
  | .tables items => .array (rows items).reverse

/-- What has been read of a table. -/
def values : List (Text × Node) → Table
  | [] => []
  | (key, node) :: rest => (key, value node) :: values rest

/-- What has been read of a row of tables. -/
def rows : List (List (Text × Node)) → List Value
  | [] => []
  | entries :: rest => .table (values entries) :: rows rest

end

end Nodes

/-- What a table says under a name. -/
def Table.get? (t : Table) (key : String) : Option Value :=
  (t.find? fun entry => entry.1 = key.toList).map Prod.snd

end CommandShell.Toml
