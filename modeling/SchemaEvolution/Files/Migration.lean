import SchemaEvolution.Files.Access
import SchemaEvolution.Report.MigrationFile

/-! # Writing migration files
A migration file is written below a directory, which is made if it is not there. -/

namespace SchemaEvolution

variable {m : Type → Type} [Monad m] [FileAccess m]

/-- Write a migration file into a directory; the path of the file. -/
def MigrationFile.writeInto (file : MigrationFile) (directory : String) :
    m (Except FileError String) := do
  match ← FileAccess.makeDirectories (m := m) directory with
  | .error cause => return .error cause
  | .ok () =>
    let path := joinPath directory file.fileName
    match ← FileAccess.writeText (m := m) path file.render with
    | .error cause => return .error cause
    | .ok () => return .ok path

end SchemaEvolution
