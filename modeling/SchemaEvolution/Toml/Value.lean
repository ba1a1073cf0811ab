import SchemaEvolution.Catalog

/-! # Values of TOML
A value is a scalar, a list, or a table of named values. A table knows how it came about, because
that decides how it may be extended later on. -/

namespace SchemaEvolution.Toml

/-- How a table came about. -/
inductive Origin where
  /-- It has a header of its own. -/
  | header
  /-- It is on the path of a header. -/
  | implied
  /-- It is on the path of a dotted key. -/
  | dotted
  /-- It is written between braces. -/
  | inline
  deriving DecidableEq, Repr

/-- A value of a TOML document. -/
inductive Value where
  /-- A text. -/
  | text (content : String)
  /-- An integer. -/
  | integer (n : Int)
  /-- A floating-point number. -/
  | float (x : Float)
  /-- A truth value. -/
  | bool (b : Bool)
  /-- A date, a time of day or both. -/
  | moment
  /-- A list written between brackets. -/
  | array (items : List Value)
  /-- A list of tables, each with a header of its own. -/
  | tables (items : List Value)
  /-- A table. -/
  | table (origin : Origin) (entries : List (String × Value))
  deriving Inhabited

namespace Value

/-- The table without entries. -/
def emptyTable (origin : Origin) : Value := .table origin []

/-- Apply a change at the end of a path of keys below a table. Tables missing on the path are made.
A path goes through the last table of a list of tables. The path of a dotted key may go neither
through a table with a header of its own nor through one written between braces; the path of a
header may not go through the latter. -/
def changeAt (made : Origin) (change : Value → Option Value) : List String → Value → Option Value
  | [], value => change value
  | key :: path, .table origin entries => do
    let child := (Catalog.lookup key entries).getD (emptyTable made)
    let changed ←
      match child with
      | .table .inline _ => none
      | .table .header _ => if made = .dotted then none else changeAt made change path child
      | .table _ _ => changeAt made change path child
      | .tables items =>
        match items.getLast? with
        | some last =>
          (changeAt made change path last).map fun next => .tables (items.dropLast ++ [next])
        | none => none
      | _ => none
    return .table origin (Catalog.insertEntry key changed entries)
  | _ :: _, _ => none

/-- Enter a value under a new key of a table. -/
def enter (key : String) (value : Value) (table : Value) : Option Value :=
  match table with
  | .table origin entries =>
    if (Catalog.lookup key entries).isSome then none
    else some (.table origin (Catalog.insertEntry key value entries))
  | _ => none

/-- Whether a value is a table on the path of a dotted key. -/
def isDotted : Value → Bool
  | .table .dotted _ => true
  | _ => false

/-- Enter a value below a table under a dotted key, given as the path to the last key and that key.
The table that takes the value must be one made by dotted keys exactly when there is a path. -/
def assign (path : List String) (key : String) (value : Value) (table : Value) : Option Value :=
  changeAt .dotted
    (fun target => if target.isDotted = path.isEmpty then none else enter key value target)
    path table

/-- Open a table under a key: a new one, or one that so far was only implied. -/
def openTable (key : String) (table : Value) : Option Value :=
  match table with
  | .table origin entries =>
    match Catalog.lookup key entries with
    | none => some (.table origin (Catalog.insertEntry key (emptyTable .header) entries))
    | some (.table .implied inner) =>
      some (.table origin (Catalog.insertEntry key (.table .header inner) entries))
    | some _ => none
  | _ => none

/-- Open one more table of a list of tables under a key. -/
def openListed (key : String) (table : Value) : Option Value :=
  match table with
  | .table origin entries =>
    match Catalog.lookup key entries with
    | none => some (.table origin (Catalog.insertEntry key (.tables [emptyTable .header]) entries))
    | some (.tables items) =>
      some (.table origin
        (Catalog.insertEntry key (.tables (items ++ [emptyTable .header])) entries))
    | some _ => none
  | _ => none

end Value

end SchemaEvolution.Toml
