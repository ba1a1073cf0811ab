/-! # Access to files
What the program does with files, for any monad that can do it. Failures are causes. -/

namespace SchemaEvolution

/-- Why an operation on a file fails. -/
inductive FileError where
  /-- There is no such file or directory. -/
  | notFound
  /-- There already is something of that name. -/
  | alreadyExists
  /-- Something on the path is no directory. -/
  | notADirectory
  /-- A directory stands where a file is needed. -/
  | isADirectory
  /-- A name is too long. -/
  | nameTooLong
  /-- A path holds the null character. -/
  | nullInName
  /-- The content of a file is no text in UTF-8. -/
  | notText
  /-- Any other cause, with its text. -/
  | other (text : String)
  deriving DecidableEq, Repr

/-- The text shown for a failure. -/
def FileError.message : FileError → String
  | .notFound => "No such file or directory (os error 2)"
  | .alreadyExists => "File exists (os error 17)"
  | .notADirectory => "Not a directory (os error 20)"
  | .isADirectory => "Is a directory (os error 21)"
  | .nameTooLong => "File name too long (os error 36)"
  | .nullInName => "file name contained an unexpected NUL byte"
  | .notText => "stream did not contain valid UTF-8"
  | .other text => text

/-- The operations on files that the program needs. Paths are texts, with a slash between names. -/
class FileAccess (m : Type → Type) where
  /-- The text in a file. -/
  readText : String → m (Except FileError String)
  /-- Whether there is a file at a path. -/
  isFile : String → m Bool
  /-- Make a directory and all directories that it lies in. -/
  makeDirectories : String → m (Except FileError Unit)
  /-- Make a text the content of a file, which is created if it is not there. -/
  writeText : String → String → m (Except FileError Unit)

/-- A name below a directory; the empty path is the directory in which the program runs. -/
def joinPath (directory name : String) : String :=
  if directory.isEmpty then name
  else if directory.toList.getLast? = some '/' then directory ++ name
  else directory ++ "/" ++ name

end SchemaEvolution
