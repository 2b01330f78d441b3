import CalendarSync.Data.Value

/-!
# TOML tables

The tables of a document under construction. A table is defined once: by its own header, or by the
dotted names of one section. A header may still define a table that only its subtables have implied.
-/

namespace CalendarSync.Data.Toml
set_option autoImplicit false

/-- How a table came about. -/
inductive Origin where
  /-- As the parent of another table's header. -/
  | implied
  | header
  | dotted
deriving DecidableEq

/-- What a name stands for. -/
inductive Node where
  /-- A value that cannot grow. -/
  | value (v : Value)
  | table (origin : Origin) (entries : List (String × Node))
  /-- A list of tables, of which the last can grow. -/
  | tables (earlier : List Value) (last : List (String × Node))

/-- The entries of a table. -/
abbrev Entries := List (String × Node)

mutual

/-- The finished value of a node. -/
def Node.toValue : Node → Value
  | .value v => v
  | .table _ entries => .record (fieldsOf entries)
  | .tables earlier last => .list (earlier ++ [.record (fieldsOf last)])

/-- The fields of a finished table. -/
def fieldsOf : List (String × Node) → List (String × Value)
  | [] => []
  | (name, node) :: rest => (name, node.toValue) :: fieldsOf rest

end

namespace Entries

/-- Changes what a name stands for, or adds it at the end. -/
def alter (name : String) (f : Option Node → Option Node) : Entries → Option Entries
  | [] => (f none).map fun node => [(name, node)]
  | (key, node) :: rest =>
    if key = name then (f (some node)).map fun changed => (key, changed) :: rest
    else (alter name f rest).map ((key, node) :: ·)

/-- Changes the entries of the table at a path; missing tables are implied. -/
def within (f : Entries → Option Entries) : List String → Entries → Option Entries
  | [], entries => f entries
  | name :: path, entries =>
    entries.alter name fun
      | none => (within f path []).map (.table .implied)
      | some (.table origin inner) => (within f path inner).map (.table origin)
      | some (.tables earlier last) => (within f path last).map (.tables earlier)
      | some (.value _) => none

/-- Defines the table of a header. -/
def define (path : List String) (entries : Entries) : Option Entries := do
  let name ← path.getLast?
  let step (inner : Entries) := inner.alter name fun
    | none => some (.table .header [])
    | some (.table .implied inside) => some (.table .header inside)
    | some _ => none
  within step path.dropLast entries

/-- Adds an empty table to the list of tables of a header. -/
def extend (path : List String) (entries : Entries) : Option Entries := do
  let name ← path.getLast?
  let step (inner : Entries) := inner.alter name fun
    | none => some (.tables [] [])
    | some (.tables earlier last) => some (.tables (earlier ++ [.record (fieldsOf last)]) [])
    | some _ => none
  within step path.dropLast entries

/-- Gives a value to a dotted name, which must be new. The parts before the last one name tables
that dotted names or subtables have brought about, or lists of tables, whose last one is meant; what
holds the last part must be a table of dotted names. -/
def assign (v : Value) : List String → Entries → Option Entries
  | [], _ => none
  | [name], entries =>
    entries.alter name fun
      | none => some (.value v)
      | some _ => none
  | name :: path, entries =>
    entries.alter name fun
      | none => (assign v path []).map (.table .dotted)
      | some (.table .dotted inner) => (assign v path inner).map (.table .dotted)
      | some (.table .implied inner) =>
        if path.length = 1 then none else (assign v path inner).map (.table .implied)
      | some (.tables earlier last) =>
        if path.length = 1 then none else (assign v path last).map (.tables earlier)
      | some (.table .header _) | some (.value _) => none

end Entries
end CalendarSync.Data.Toml
