import SchemaEvolution.Plan.Step
import SchemaEvolution.Report.Timestamp

/-! # Migration files
A migration file holds the lines of a migration below a header that gives its name and the instant
at which it was made. -/

namespace SchemaEvolution

/-- A migration with a name and the instant at which it was made. -/
structure MigrationFile where
  /-- The name that the user gave. -/
  name : String
  /-- The instant at which the migration was made. -/
  created : Instant
  /-- The lines. -/
  lines : List String

namespace MigrationFile

/-- The stamp and the name, which identify the migration. -/
def stem (file : MigrationFile) : String := file.created.stamp ++ "_" ++ file.name

/-- The name of the file. -/
def fileName (file : MigrationFile) : String := file.stem ++ ".sql"

/-- The two comment lines at the top and the empty line after them. -/
def header (file : MigrationFile) : String :=
  commentMark ++ " @name: " ++ file.stem ++ "\n" ++
    commentMark ++ " @created: " ++ file.created.full ++ "\n\n"

/-- The **content of the file**: the header, then every line. -/
def render (file : MigrationFile) : String :=
  file.header ++ String.join (file.lines.map fun line => line ++ "\n")

end MigrationFile

end SchemaEvolution
