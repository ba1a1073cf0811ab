import SchemaEvolution.Plan.Step

/-! # Changes of the columns of a table
A table that stays first gets its new columns, then the columns it keeps are changed, then the
columns it loses are dropped. A new column that forbids null and has no default cannot be filled in
the rows that are there; the comparison fails on the first one. -/

namespace SchemaEvolution

/-! ## Conversion to Boolean -/

/-- The families of types that matter for a conversion to Boolean. -/
inductive TypeFamily where
  /-- Truth values. -/
  | boolean
  /-- Numbers. -/
  | numeric
  /-- Texts. -/
  | text
  /-- All other types. -/
  | other
  deriving DecidableEq, Repr

namespace TypeFamily

/-- The names of the types of truth values. -/
def booleanNames : List String := ["BOOLEAN", "BOOL"]

/-- The names of the types of numbers. -/
def numericNames : List String :=
  ["SMALLINT", "INTEGER", "INT", "BIGINT", "INT2", "INT4", "INT8", "SERIAL", "SMALLSERIAL",
    "BIGSERIAL", "DECIMAL", "NUMERIC", "REAL", "FLOAT", "FLOAT4", "FLOAT8", "DOUBLE PRECISION"]

/-- The names of the types of texts. -/
def textNames : List String :=
  ["TEXT", "VARCHAR", "CHAR", "CHARACTER", "CHARACTER VARYING", "BPCHAR", "CITEXT"]

/-- The family of a type text: its name ends at the first parenthesis, and its case does not
matter. -/
def ofTypeText (dataType : String) : TypeFamily :=
  let name := trim (dataType.toList.takeWhile fun c => c != '(')
  if isAnyKeyword booleanNames name then .boolean
  else if isAnyKeyword numericNames name then .numeric
  else if isAnyKeyword textNames name then .text
  else .other

end TypeFamily

/-- The expression that converts a column to a Boolean type; `none` where the new type is not
Boolean or the old one already is. -/
def booleanConversion (oldType newType column : String) : Option String :=
  match TypeFamily.ofTypeText newType with
  | .boolean =>
    match TypeFamily.ofTypeText oldType with
    | .boolean => none
    | .numeric => some (column ++ " <> 0")
    | .text => some ("CASE WHEN " ++ column ++ " = 'true' THEN TRUE ELSE FALSE END")
    | .other => some (column ++ "::boolean")
  | _ => none

/-! ## One column -/

/-- The steps for the type and the default of a column. A default is taken away before the type
changes and set again after it. -/
def typeAndDefaultChanges (table : String) (old new : Column) : List Step :=
  let restored :=
    match new.defaultValue with
    | some value => [Step.setDefault table new.name value]
    | none => []
  if old.baseType ≠ new.baseType then
    (if old.defaultValue.isSome then [.dropDefault table new.name] else []) ++
      [.alterType table new.name new.baseType
        (booleanConversion old.baseType new.baseType new.name)] ++ restored
  else if old.defaultValue ≠ new.defaultValue then
    match new.defaultValue with
    | some _ => restored
    | none => [.dropDefault table new.name]
  else []

/-- The step for a column that becomes or ceases to be the primary key. -/
def keyChanges (table : String) (old new : Column) : List Step :=
  match old.isPrimaryKey, new.isPrimaryKey with
  | true, false => [.dropPrimaryKey table]
  | false, true => [.addPrimaryKey table new.name]
  | _, _ => []

/-- The step for a column that begins or ceases to forbid null. -/
def nullChanges (table : String) (old new : Column) : List Step :=
  match old.notNull, new.notNull with
  | true, false => [.dropNotNull table new.name]
  | false, true => [.setNotNull table new.name]
  | _, _ => []

/-- The steps that make a column what it is to be. -/
def columnChanges (table : String) (old new : Column) : List Step :=
  typeAndDefaultChanges table old new ++ keyChanges table old new ++ nullChanges table old new

/-! ## One table -/

/-- A new column of an existing table that no row can fill. -/
structure UnfillableColumn where
  /-- The table. -/
  table : String
  /-- The column. -/
  column : String
  deriving DecidableEq, Repr

/-- The text shown for an unfillable column. -/
def UnfillableColumn.message (cause : UnfillableColumn) : String :=
  "New column " ++ cause.table ++ "." ++ cause.column ++ " is NOT NULL without default"

/-- Whether a column forbids null and has no default. -/
def Column.isUnfillable (column : Column) : Bool := column.notNull && column.defaultValue.isNone

/-- The columns of a list whose names another list lacks. -/
def columnsMissingFrom (columns others : List Column) : List Column :=
  columns.filter fun column => !Column.declares others column.name

/-- The steps for the columns that a table keeps, in the new order. -/
def keptColumnChanges (table : String) (old new : List Column) : List Step :=
  new.flatMap fun column =>
    match Column.find? old column.name with
    | some former => columnChanges table former column
    | none => []

/-- The **steps from one list of columns to another**, under the name that the table has at the
end. -/
def tableChanges (table : String) (old new : List Column) : Except UnfillableColumn (List Step) :=
  let added := columnsMissingFrom new old
  match added.find? Column.isUnfillable with
  | some column => .error ⟨table, column.name⟩
  | none =>
    .ok (added.map (.addColumn table) ++ keptColumnChanges table old new ++
      (columnsMissingFrom old new).map fun column => .dropColumn table column.name)

end SchemaEvolution
