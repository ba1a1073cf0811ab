import SchemaEvolution.Plan.Rounds
import SchemaEvolution.Plan.TableChanges
import SchemaEvolution.Plan.TypeChanges

/-! # The plan of a migration
The **plan** from one schema to another lists, in this order, the changes of types, the renames of
tables, the changes of the tables that stay, the new enumerations, the new tables with hints for
copying data into them, and the dropped tables. -/

namespace SchemaEvolution

/-! ## Tables that stay -/

/-- The steps that rename tables. -/
def renameSteps (matching : Matching) : List Step :=
  matching.renames.map fun pair => .renameTable pair.1 pair.2

/-- The columns that a table of the new schema had in the old one, under its own name or under the
one it is renamed from; `none` for a table that is created. -/
def formerColumns? (matching : Matching) (old : Schema) (table : String) : Option (List Column) :=
  old.tables.get? ((matching.renamedFrom? table).getD table)

/-- The steps for the columns of all tables that stay, in the order of the new schema. -/
def keptTableChanges (matching : Matching) (old : Schema) :
    List NamedTable → Except UnfillableColumn (List Step)
  | [] => .ok []
  | (table, columns) :: rest =>
    match formerColumns? matching old table with
    | none => keptTableChanges matching old rest
    | some former => do
      let changes ← tableChanges table former columns
      let others ← keptTableChanges matching old rest
      return changes ++ others

/-! ## Tables that come -/

/-- The names of the columns of a new table that the replaced table also has, in the new order. -/
def sharedColumnNames (former columns : List Column) : List String :=
  (columns.filter fun column => Column.declares former column.name).map Column.name

/-- The hint to copy the data of a replaced table into the new one. -/
def copyHint (source target : String) (shared : List String) : List Step :=
  if shared.isEmpty then []
  else
    [.note ("Migrate data from " ++ source ++ " to " ++ target ++ " (similar columns detected)"),
      .copyData source target shared]

/-- The steps that create a table and fill it from the table that it replaces. -/
def tableCreation (matching : Matching) (old : Schema) (table : NamedTable) : List Step :=
  .createTable table.1 table.2 ::
    match matching.replacedBy? table.1 with
    | none => []
    | some source =>
      match old.tables.get? source with
      | none => []
      | some former => copyHint source table.1 (sharedColumnNames former table.2)

/-- The steps for all tables that come, in the order of the new schema. -/
def tableCreations (matching : Matching) (old new : Schema) : List Step :=
  (new.tables.entries.filter fun table => (formerColumns? matching old table.1).isNone).flatMap
    (tableCreation matching old)

/-! ## Tables that go -/

/-- Whether an old table stays, under its name or another one. -/
def isKept (matching : Matching) (new : Schema) (table : String) : Bool :=
  new.tables.contains table || matching.renames.any fun pair => pair.1 == table

/-- The steps that drop a table, with a warning before. -/
def tableDrop (table : String) : List Step :=
  [.caution ("Dropping table " ++ table ++ " will permanently delete its data"), .dropTable table]

/-- The steps for all tables that go, in the order of the old schema. -/
def tableDrops (matching : Matching) (old new : Schema) : List Step :=
  (old.tables.names.filter fun table => !isKept matching new table).flatMap tableDrop

/-! ## The plan -/

/-- The **plan** from an old schema to a new one. -/
def plan (options : MatchOptions) (old new : Schema) : Except UnfillableColumn (List Step) := do
  let matching := Matching.ofSchemas options old new
  let changes ← keptTableChanges matching old new.tables.entries
  return typeChanges old.types new.types.entries ++ renameSteps matching ++ changes ++
    typeCreations old new ++ tableCreations matching old new ++ tableDrops matching old new

end SchemaEvolution
