import SchemaEvolution.Text.Blank
import SchemaEvolution.Text.Keyword

/-! # Columns
A column has a name, a type text, a default expression or none, and a flag that forbids null. The
type text may end in the words `PRIMARY KEY`, which mark the key of the table; what stands before
them is the **base type**. -/

namespace SchemaEvolution

/-- A column of a table. -/
structure Column where
  /-- The name of the column. -/
  name : String
  /-- The type text as written, the key qualifier included. -/
  dataType : String
  /-- Whether null is forbidden. -/
  notNull : Bool
  /-- The default expression, if there is one. -/
  defaultValue : Option String
  deriving DecidableEq, Repr, Inhabited

namespace Column

/-- The qualifier at the end of a type text that marks a primary key. -/
def keyQualifier : String := "PRIMARY KEY"

/-- Whether a text ends in the key qualifier, in any case of its letters. -/
def endsInKey (cs : List Char) : Bool := keyQualifier.toList.isSuffixOf (upper cs)

/-- A type text without blanks at its end and without the key qualifier that it may end in. -/
def baseText (cs : List Char) : List Char :=
  let text := trimEnd cs
  if endsInKey text then trimEnd (text.take (text.length - keyQualifier.toList.length)) else text

/-- The **base type**: the type text without a key qualifier at its end. -/
def baseType (column : Column) : String := String.ofList (baseText column.dataType.toList)

/-- Whether the type text ends in the key qualifier. -/
def isPrimaryKey (column : Column) : Bool := endsInKey (trimEnd column.dataType.toList)

/-- The column as the clause that declares it: name, type, default and the ban on null. -/
def definition (column : Column) : String :=
  column.name ++ " " ++ column.dataType ++
    (match column.defaultValue with
      | some value => " DEFAULT " ++ value
      | none => "") ++
    (if column.notNull then " NOT NULL" else "")

/-- The column of a list that has a given name; the first one, if the name is repeated. -/
def find? (columns : List Column) (name : String) : Option Column :=
  columns.find? fun column => column.name == name

/-- Whether a list of columns has one of a given name. -/
def declares (columns : List Column) (name : String) : Bool :=
  columns.any fun column => column.name == name

/-- No column is found among none. -/
@[simp] theorem find?_nil (name : String) : find? [] name = none := rfl

/-- Nothing is declared by no columns. -/
@[simp] theorem declares_nil (name : String) : declares [] name = false := rfl

/-- The declared names are the names of the columns. -/
theorem declares_iff (columns : List Column) (name : String) :
    declares columns name = true ↔ name ∈ columns.map Column.name := by
  simp [declares]

/-- A list has a column of a name exactly when looking for it finds one. -/
theorem isSome_find? (columns : List Column) (name : String) :
    (find? columns name).isSome = declares columns name := by
  rw [Bool.eq_iff_iff]
  simp [find?, declares, List.find?_isSome]

end Column

end SchemaEvolution
