/-! # Why a schema text cannot be read
Each constructor is a cause; `ReadError.message` is the text shown for it. -/

namespace SchemaEvolution

/-- The causes for which a schema text is refused. -/
inductive ReadError where
  /-- The parentheses of the text do not balance. -/
  | unbalanced (opening closing : Nat)
  /-- A type declaration has no readable form. -/
  | malformedType (statement : List Char)
  /-- An enumeration lists no values. -/
  | emptyEnumeration (name : String)
  /-- A table declaration has no readable form. -/
  | malformedTable (statement : List Char)
  /-- A table has nothing between its parentheses. -/
  | noColumns (table : String)
  /-- A table declares constraints only. -/
  | onlyConstraints (table : String)
  /-- A column clause has fewer than two words. -/
  | malformedColumn (table : String) (clause : String)
  /-- A column has qualifiers where its type should stand. -/
  | missingType (table column : String)
  /-- The word that announces a default is the last one of its clause. -/
  | missingDefault (table column : String)
  deriving DecidableEq, Repr

namespace ReadError

/-- The number of characters of a statement that a message repeats. -/
def excerptLength : Nat := 50

/-- The start of a statement as a message repeats it; three dots stand for what is left out. -/
def excerpt (statement : List Char) : String :=
  if excerptLength < statement.length then
    String.ofList (statement.take excerptLength) ++ "..."
  else String.ofList statement

/-- The text shown for a cause. -/
def message : ReadError → String
  | .unbalanced opening closing =>
    "Unbalanced parentheses: " ++ toString opening ++ " opening, " ++ toString closing ++ " closing"
  | .malformedType statement => "Invalid CREATE TYPE syntax: " ++ excerpt statement
  | .emptyEnumeration name => "ENUM type '" ++ name ++ "' has no values"
  | .malformedTable statement =>
    "Incomplete or invalid CREATE TABLE statement: " ++ excerpt statement
  | .noColumns table => "Table '" ++ table ++ "' has no columns defined"
  | .onlyConstraints table => "Table '" ++ table ++ "' has no valid column definitions"
  | .malformedColumn table clause =>
    "Invalid column definition in table '" ++ table ++ "': " ++ clause
  | .missingType table column =>
    "Column '" ++ column ++ "' in table '" ++ table ++ "' has no type specified"
  | .missingDefault table column =>
    "Column '" ++ column ++ "' in table '" ++ table ++
      "' has DEFAULT keyword but no value specified"

end ReadError

end SchemaEvolution
