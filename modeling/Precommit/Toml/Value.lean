/-!
# TOML values and tables

A document is a table. Each table remembers how it came about, because that decides
who may still add to it: a header may define a table once, dotted keys may only
extend what dotted keys began, and inline tables are complete when they are written.
-/

namespace Precommit

namespace Toml

/-- How a table came about. -/
inductive TableOrigin
  /-- As the parent of a table that has a header. -/
  | parent
  /-- By a header of its own. -/
  | header
  /-- By a dotted key. -/
  | dotted
  /-- Between braces. -/
  | inline
deriving DecidableEq, Repr

/-- A value of a document; what floats and dates say is not kept. -/
inductive Value
  | string (text : String)
  | integer (value : Int)
  /-- An integer by its form, with characters in it that are no digits, or with no digits. -/
  | malformed
  | boolean (value : Bool)
  | float
  | datetime
  | array (items : List Value)
  /-- An array that headers in double brackets extend; its items are tables. -/
  | tables (items : List Value)
  | table (origin : TableOrigin) (entries : List (String × Value))
deriving Inhabited, Repr

/-- The entries of a table in the order they were written. -/
abbrev Table := List (String × Value)

namespace Table

def get? (table : Table) (key : String) : Option Value :=
  table.lookup key

/-- Change the value of a key, or add the key. -/
def update? (table : Table) (key : String) (change : Option Value → Option Value) :
    Option Table :=
  match table with
  | [] => (change none).map fun value => [(key, value)]
  | (name, value) :: rest =>
      if name == key then (change (some value)).map fun value => (name, value) :: rest
      else (update? rest key change).map ((name, value) :: ·)

end Table

namespace Value

/-- Change the table that a header leads into through this value. -/
def enter? (value : Value) (change : Table → Option Table) : Option Value :=
  match value with
  | .table .inline _ => none
  | .table origin entries => (change entries).map (.table origin)
  | .tables items =>
      match items.getLast? with
      | some (.table origin entries) =>
          (change entries).map fun entries => .tables (items.dropLast ++ [.table origin entries])
      | _ => none
  | _ => none

end Value

namespace Table

/-- Change what the last key of a header names; the tables on the way are made as needed. -/
def reach? (table : Table) (path : List String) (change : Option Value → Option Value) :
    Option Table :=
  match path with
  | [] => none
  | [key] => table.update? key change
  | key :: rest =>
      table.update? key fun
        | none => (reach? [] rest change).map (.table .parent)
        | some value => value.enter? fun entries => reach? entries rest change

def define? (table : Table) (path : List String) : Option Table :=
  table.reach? path fun
    | none => some (.table .header [])
    | some (.table .parent entries) => some (.table .header entries)
    | some _ => none

/-- Append a table to the array that a header in double brackets names. -/
def append? (table : Table) (path : List String) : Option Table :=
  table.reach? path fun
    | none => some (.tables [.table .header []])
    | some (.tables items) => some (.tables (items ++ [.table .header []]))
    | some _ => none

/--
Set a new key; the tables of a dotted key are made as needed. The key may lead through
a table that has no header yet and through the last table of an array, but may not put
anything directly into them.
-/
def assign? (table : Table) (path : List String) (value : Value) : Option Table :=
  match path with
  | [] => none
  | [key] =>
      table.update? key fun
        | none => some value
        | some _ => none
  | key :: rest =>
      table.update? key fun
        | none => (assign? [] rest value).map (.table .dotted)
        | some (.table .dotted entries) => (assign? entries rest value).map (.table .dotted)
        | some (.table .parent entries) =>
            if rest.length = 1 then none else (assign? entries rest value).map (.table .parent)
        | some (.tables items) =>
            if rest.length = 1 then none
            else (Value.tables items).enter? fun entries => assign? entries rest value
        | some _ => none

/-- Set a new key in the table that the last header names. -/
def assignUnder? (table : Table) (header path : List String) (value : Value) : Option Table :=
  match header with
  | [] => table.assign? path value
  | key :: rest =>
      table.update? key fun
        | none => none
        | some inner => inner.enter? fun entries => assignUnder? entries rest path value

end Table

end Toml

end Precommit
