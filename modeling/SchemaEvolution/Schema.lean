import SchemaEvolution.Catalog
import SchemaEvolution.Column

/-! # Schemas
A **schema** is a catalog of types and a catalog of tables. A type is an enumeration of values, in
order, or a composite, known by its text only. -/

namespace SchemaEvolution

/-- A type declared by a schema. -/
inductive TypeDefinition where
  /-- An **enumeration** of values; their order matters. -/
  | enumeration (values : List String)
  /-- A **composite** type, known by the text of its definition. -/
  | composite (definition : String)
  deriving DecidableEq, Repr, Inhabited

namespace TypeDefinition

/-- The word for the kind of a type. -/
def kindName : TypeDefinition → String
  | .enumeration _ => "ENUM"
  | .composite _ => "composite"

end TypeDefinition

/-- The types and tables that a schema declares. -/
structure Schema where
  /-- The declared types. -/
  types : Catalog TypeDefinition
  /-- The declared tables with their columns. -/
  tables : Catalog (List Column)
  deriving DecidableEq

namespace Schema

/-- The schema that declares nothing. -/
def empty : Schema := ⟨.empty, .empty⟩

instance : Inhabited Schema := ⟨empty⟩

/-- Whether a schema declares nothing. -/
def isEmpty (schema : Schema) : Bool := schema.types.isEmpty && schema.tables.isEmpty

/-- Declare a type. An earlier type of that name is replaced in its place. -/
def addType (schema : Schema) (name : String) (definition : TypeDefinition) : Schema :=
  { schema with types := schema.types.insert name definition }

/-- Declare a table. An earlier table of that name is replaced in its place; columns are not
merged. -/
def addTable (schema : Schema) (name : String) (columns : List Column) : Schema :=
  { schema with tables := schema.tables.insert name columns }

/-- Whether two schemas declare the same, in whatever order of types and of tables. -/
def sameDeclarations (left right : Schema) : Bool :=
  left.types.sameEntries right.types && left.tables.sameEntries right.tables

/-- The empty schema is empty. -/
@[simp] theorem isEmpty_empty : empty.isEmpty = true := rfl

/-- A schema is empty when it is the one that declares neither types nor tables. -/
theorem isEmpty_iff (schema : Schema) : schema.isEmpty = true ↔ schema = empty := by
  cases schema with
  | mk types tables => simp [isEmpty, empty, Catalog.isEmpty_iff]

/-- A declared type is inserted among the types. -/
@[simp] theorem types_addType (schema : Schema) (name : String) (definition : TypeDefinition) :
    (schema.addType name definition).types = schema.types.insert name definition := rfl

/-- A declared type leaves the tables as they are. -/
@[simp] theorem tables_addType (schema : Schema) (name : String) (definition : TypeDefinition) :
    (schema.addType name definition).tables = schema.tables := rfl

/-- A declared table leaves the types as they are. -/
@[simp] theorem types_addTable (schema : Schema) (name : String) (columns : List Column) :
    (schema.addTable name columns).types = schema.types := rfl

/-- A declared table is inserted among the tables. -/
@[simp] theorem tables_addTable (schema : Schema) (name : String) (columns : List Column) :
    (schema.addTable name columns).tables = schema.tables.insert name columns := rfl

end Schema

end SchemaEvolution
