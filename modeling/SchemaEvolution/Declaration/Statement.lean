import SchemaEvolution.Declaration.ColumnClause
import SchemaEvolution.Schema
import SchemaEvolution.Text.Literal
import SchemaEvolution.Text.Nesting

/-! # Statements
A statement declares a type, declares a table, or is of another kind and says nothing about the
schema. Statements are given with their words one space apart. -/

namespace SchemaEvolution

/-- A statement of a schema text. -/
inductive Statement where
  /-- The declaration of a type. -/
  | createType (name : String) (definition : TypeDefinition)
  /-- The declaration of a table. -/
  | createTable (name : String) (columns : List Column)
  /-- A statement without a declaration. -/
  | other
  deriving DecidableEq, Repr

namespace Statement

/-! ## Headers -/

/-- Whether a character can stand in the name of a type or table. -/
def isNameChar (c : Char) : Bool := isAlphanumeric c || c == '_' || c == '.' || c == '$'

/-- The name at the front of a text, and what follows it. -/
def name? (cs : List Char) : Option (List Char × List Char) :=
  let name := cs.takeWhile isNameChar
  if name.isEmpty then none else some (name, cs.dropWhile isNameChar)

/-- What follows the blanks at the front of a text; `none` when it has no blank there. -/
def afterBlanks? : List Char → Option (List Char)
  | [] => none
  | c :: cs => if isBlank c then some (trimStart cs) else none

/-- What follows a keyword and the blanks after it. -/
def afterWord? (keyword : String) (cs : List Char) : Option (List Char) :=
  (afterKeyword? keyword cs).bind afterBlanks?

/-- What follows an opening parenthesis at the front of a text, blanks before it passed over. -/
def afterOpening? (cs : List Char) : Option (List Char) :=
  match trimStart cs with
  | [] => none
  | c :: rest => if c = '(' then some rest else none

/-- The name in `CREATE TYPE name AS`, and what follows. -/
def typeHeader? (statement : List Char) : Option (List Char × List Char) := do
  let rest ← afterWord? "CREATE" statement
  let rest ← afterWord? "TYPE" rest
  let (name, rest) ← name? rest
  let rest ← afterBlanks? rest
  let rest ← afterKeyword? "AS" rest
  return (name, rest)

/-- What follows `IF NOT EXISTS` and the blanks after it. -/
def afterExistenceTest? (cs : List Char) : Option (List Char) := do
  let rest ← afterWord? "IF" cs
  let rest ← afterWord? "NOT" rest
  afterWord? "EXISTS" rest

/-- The name in `CREATE TABLE [IF NOT EXISTS] name (`, and what follows. -/
def tableHeader? (statement : List Char) : Option (List Char × List Char) := do
  let rest ← afterWord? "CREATE" statement
  let rest ← afterWord? "TABLE" rest
  let (name, rest) ← name? ((afterExistenceTest? rest).getD rest)
  let rest ← afterOpening? rest
  return (name, rest)

/-! ## Types -/

/-- What follows `ENUM (`, blanks before the word passed over. -/
def afterEnumeration? (cs : List Char) : Option (List Char) :=
  (afterKeyword? "ENUM" (trimStart cs)).bind afterOpening?

/-- A text up to the parenthesis at its end, blanks after it passed over. -/
def beforeClosing? (cs : List Char) : Option (List Char) :=
  let text := trimEnd cs
  if text.getLast? = some ')' then some text.dropLast else none

/-- The type that `CREATE TYPE` declares. -/
def ofTypeText (statement : List Char) : Except ReadError Statement :=
  match typeHeader? statement with
  | none => .error (.malformedType statement)
  | some (name, rest) =>
    match afterEnumeration? rest with
    | some body =>
      match beforeClosing? body with
      | none => .error (.malformedType statement)
      | some items =>
        match (literalValues items).map String.ofList with
        | [] => .error (.emptyEnumeration (String.ofList name))
        | values => .ok (.createType (String.ofList name) (.enumeration values))
    | none =>
      let definition := trim rest
      if definition.head? = some '(' ∧ definition.getLast? = some ')' then
        .ok (.createType (String.ofList name) (.composite (String.ofList definition)))
      else .error (.malformedType statement)

/-! ## Tables -/

/-- The columns that the text between the parentheses of a table declares. -/
def columnsOf (table : String) (body : List Char) : Except ReadError (List Column) :=
  if (trim body).isEmpty then .error (.noColumns table)
  else
    match (splitOutside ',' body).filter fun clause => !isTableConstraint clause with
    | [] => .error (.onlyConstraints table)
    | clauses => clauses.mapM (Column.ofClause table)

/-- The table that `CREATE TABLE` declares. What follows its columns is passed over. -/
def ofTableText (statement : List Char) : Except ReadError Statement :=
  match tableHeader? statement with
  | none => .error (.malformedTable statement)
  | some (name, rest) =>
    match insideParens? 0 rest with
    | none => .error (.malformedTable statement)
    | some body =>
      let table := String.ofList name
      (columnsOf table body).map (.createTable table)

/-! ## Statements of all kinds -/

/-- The statement of a text. -/
def ofText (statement : List Char) : Except ReadError Statement :=
  if startsWithKeywords ["CREATE", "TYPE"] (words statement) then ofTypeText statement
  else if startsWithKeywords ["CREATE", "TABLE"] (words statement) then ofTableText statement
  else .ok .other

end Statement

/-- A schema after a statement. -/
def Schema.declare (schema : Schema) : Statement → Schema
  | .createType name definition => schema.addType name definition
  | .createTable name columns => schema.addTable name columns
  | .other => schema

/-- A statement that declares nothing leaves the schema as it is. -/
@[simp] theorem Schema.declare_other (schema : Schema) : schema.declare .other = schema := rfl

end SchemaEvolution
