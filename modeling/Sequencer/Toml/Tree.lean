import Sequencer.Toml.Basic
import Sequencer.Table

/-!
# Building TOML tables

Tables come about by a header, as a step on the way to another table, or by a dotted key, and how one
came about decides what may still be added to it.
-/

namespace Sequencer.Toml

inductive Birth where
  | header
  /-- On the way to a table that has a header. -/
  | implied
  | dotted
deriving DecidableEq

inductive Node where
  | value (value : Toml)
  | table (birth : Birth) (entries : List (String × Node))
  /-- An array of tables, of which the last is open. -/
  | tables (elements : List (List (String × Node)))

abbrev Entries := List (String × Node)

/-! ## Paths -/

/--
Changes the table at the end of a path, and makes the tables on the way that are missing. A dotted path
may not lead through a table with a header.
-/
def changeAt (isDotted : Bool) (change : Birth → Entries → Option Entries) :
    (path : List String) → Birth → Entries → Option Entries
  | [], birth, entries => change birth entries
  | key :: path, _, entries =>
    match Table.find? key entries with
    | none =>
      let birth := if isDotted then .dotted else .implied
      (changeAt isDotted change path birth []).map fun sub => Table.upsert key (.table birth sub) entries
    | some (.value _) => none
    | some (.table birth sub) =>
      if isDotted && birth = .header then none
      else (changeAt isDotted change path birth sub).map fun sub =>
        Table.upsert key (.table birth sub) entries
    | some (.tables elements) =>
      match elements.getLast? with
      | none => none
      | some sub => (changeAt isDotted change path .header sub).map fun sub =>
        Table.upsert key (.tables (elements.dropLast ++ [sub])) entries

/-- Adds a value under a key that may be dotted. -/
def insertAt (path : List String) (key : String) (value : Toml) : Entries → Option Entries :=
  changeAt true (fun birth entries =>
    if (birth == .dotted) == path.isEmpty then none
    else match Table.find? key entries with
      | some _ => none
      | none => some (Table.upsert key (.value value) entries)) path .header

/-- A table gets its header, which it may get once; its key then is the last of the table around it. -/
def openTable (path : List String) (key : String) : Entries → Option Entries :=
  changeAt false (fun _ entries =>
    match Table.find? key entries with
    | none => some (Table.upsert key (.table .header []) entries)
    | some (.table .implied sub) =>
      some (entries.filter (fun entry => entry.1 ≠ key) ++ [(key, .table .header sub)])
    | some _ => none) path .header

/-- An array of tables gets another element. -/
def openElement (path : List String) (key : String) : Entries → Option Entries :=
  changeAt false (fun _ entries =>
    match Table.find? key entries with
    | none => some (Table.upsert key (.tables [[]]) entries)
    | some (.tables elements) => some (Table.upsert key (.tables (elements ++ [[]])) entries)
    | some _ => none) path .header

/-! ## Finished tables -/

mutual

def Node.toToml : Node → Toml
  | .value value => value
  | .table _ entries => .table (entriesToToml entries)
  | .tables elements => .list (elementsToToml elements)

def entriesToToml : List (String × Node) → List (String × Toml)
  | [] => []
  | (key, node) :: rest => (key, node.toToml) :: entriesToToml rest

def elementsToToml : List (List (String × Node)) → List Toml
  | [] => []
  | entries :: rest => .table (entriesToToml entries) :: elementsToToml rest

end

end Sequencer.Toml
