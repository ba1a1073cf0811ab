import SchemaEvolution.Column
import SchemaEvolution.Text.Literal

/-! # Steps of a migration
A **step** is a statement of a migration or a remark in it. `Step.sql` is its text: remarks are
comment lines, statements end in a semicolon. -/

namespace SchemaEvolution

/-- One entry of a migration. -/
inductive Step where
  /-- A change that cannot be made. -/
  | error (text : String)
  /-- A warning before a statement that destroys data. -/
  | caution (text : String)
  /-- A remark. -/
  | note (text : String)
  /-- Add a value at the end of an enumeration. -/
  | addEnumValue (typeName value : String)
  /-- Declare an enumeration. -/
  | createEnum (name : String) (values : List String)
  /-- Give a table another name. -/
  | renameTable (source target : String)
  /-- Declare a table. -/
  | createTable (name : String) (columns : List Column)
  /-- Copy the listed columns of all rows of one table into another. -/
  | copyData (source target : String) (columns : List String)
  /-- Remove a table. -/
  | dropTable (name : String)
  /-- Add a column to a table. -/
  | addColumn (table : String) (column : Column)
  /-- Remove a column from a table. -/
  | dropColumn (table column : String)
  /-- Give a column another type, with an expression for the values where one is needed. -/
  | alterType (table column newType : String) (conversion : Option String)
  /-- Give a column a default. -/
  | setDefault (table column value : String)
  /-- Take the default of a column away. -/
  | dropDefault (table column : String)
  /-- Forbid null in a column. -/
  | setNotNull (table column : String)
  /-- Allow null in a column. -/
  | dropNotNull (table column : String)
  /-- Make a column the primary key of its table. -/
  | addPrimaryKey (table column : String)
  /-- Take the primary key of a table away. -/
  | dropPrimaryKey (table : String)
  deriving DecidableEq, Repr

/-- The mark that starts a comment line. -/
def commentMark : String := "--"

namespace Step

/-- The start of a statement about a column. -/
def alterColumn (table column : String) : String :=
  "ALTER TABLE " ++ table ++ " ALTER COLUMN " ++ column

/-- Texts with a comma and a space between neighbours. -/
def commaList (items : List String) : String := String.intercalate ", " items

/-- The **text** of a step. -/
def sql : Step → String
  | .error text => commentMark ++ " ERROR: " ++ text
  | .caution text => commentMark ++ " CAUTION: " ++ text
  | .note text => commentMark ++ " " ++ text
  | .addEnumValue typeName value =>
    "ALTER TYPE " ++ typeName ++ " ADD VALUE " ++ quote value ++ ";"
  | .createEnum name values =>
    "CREATE TYPE " ++ name ++ " AS ENUM (" ++ commaList (values.map quote) ++ ");"
  | .renameTable source target => "ALTER TABLE " ++ source ++ " RENAME TO " ++ target ++ ";"
  | .createTable name columns =>
    "CREATE TABLE " ++ name ++ " (\n" ++
      String.intercalate ",\n" (columns.map fun column => "  " ++ column.definition) ++ "\n);"
  | .copyData source target columns =>
    "INSERT INTO " ++ target ++ " (" ++ commaList columns ++ ") SELECT " ++ commaList columns ++
      " FROM " ++ source ++ ";"
  | .dropTable name => "DROP TABLE " ++ name ++ ";"
  | .addColumn table column =>
    "ALTER TABLE " ++ table ++ " ADD COLUMN " ++ column.definition ++ ";"
  | .dropColumn table column => "ALTER TABLE " ++ table ++ " DROP COLUMN " ++ column ++ ";"
  | .alterType table column newType conversion =>
    alterColumn table column ++ " TYPE " ++ newType ++
      (match conversion with
        | some expression => " USING " ++ expression
        | none => "") ++ ";"
  | .setDefault table column value =>
    alterColumn table column ++ " SET DEFAULT " ++ value ++ ";"
  | .dropDefault table column => alterColumn table column ++ " DROP DEFAULT;"
  | .setNotNull table column => alterColumn table column ++ " SET NOT NULL;"
  | .dropNotNull table column => alterColumn table column ++ " DROP NOT NULL;"
  | .addPrimaryKey table column =>
    "ALTER TABLE " ++ table ++ " ADD PRIMARY KEY (" ++ column ++ ");"
  | .dropPrimaryKey table =>
    "ALTER TABLE " ++ table ++ " DROP CONSTRAINT " ++ table ++ "_pkey;"

end Step

end SchemaEvolution
