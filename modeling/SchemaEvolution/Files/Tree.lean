import SchemaEvolution.Files.Access

/-! # Trees of files in memory
A **tree** says what stands at each location: a directory or a file with its bytes. Paths are walked
from the root or from the directory in which the program runs, one step at a time. -/

namespace SchemaEvolution

/-- The names that lead from the root to a place. -/
abbrev Location := List String

/-- What can stand at a location. -/
inductive Entry where
  /-- A directory. -/
  | directory
  /-- A file with its content. -/
  | file (content : ByteArray)

/-- A tree of files. The root is always a directory. -/
structure Tree where
  /-- The directory in which the program runs. -/
  workingDirectory : Location
  /-- The entries below the root; the first one at a location counts. -/
  entries : List (Location × Entry)

namespace Tree

/-- The number of bytes at which a name is too long. -/
def nameLimit : Nat := 256

/-- The number of bytes at which a path is too long. -/
def pathLimit : Nat := 4096

/-- What stands at a location. -/
def entryAt? (tree : Tree) : Location → Option Entry
  | [] => some .directory
  | location => (tree.entries.find? fun entry => entry.1 == location).map Prod.snd

/-- The tree with an entry put at a location. -/
def put (tree : Tree) (location : Location) (entry : Entry) : Tree :=
  { tree with entries := (location, entry) :: tree.entries }

/-- Whether a directory stands at a location. -/
def isDirectoryAt (tree : Tree) (location : Location) : Bool :=
  match tree.entryAt? location with
  | some .directory => true
  | _ => false

/-! ## Paths -/

/-- The steps of a path. A slash at its end is a step that stays where it is. -/
def steps (path : String) : List String :=
  let names := (path.toList.splitOn '/').filter fun name => !name.isEmpty
  let last := if path.toList.getLast? = some '/' then [['.']] else []
  (names ++ last).map String.ofList

/-- Where a path starts. -/
def start (tree : Tree) (path : String) : Location :=
  if path.toList.head? = some '/' then [] else tree.workingDirectory

/-- Walk steps from a location. All steps start from directories and lead to what is there. -/
def walk (tree : Tree) : Location → List String → Except FileError Location
  | location, [] => .ok location
  | location, step :: rest =>
    if !tree.isDirectoryAt location then .error .notADirectory
    else if step = "." then walk tree location rest
    else if step = ".." then walk tree location.dropLast rest
    else if nameLimit ≤ step.utf8ByteSize then .error .nameTooLong
    else
      match tree.entryAt? (location ++ [step]) with
      | none => .error .notFound
      | some _ => walk tree (location ++ [step]) rest

/-- A path, if it can be looked up at all. -/
def checkPath (path : String) : Except FileError Unit :=
  if path.toList.contains '\x00' then .error .nullInName
  else if path.isEmpty then .error .notFound
  else if pathLimit ≤ path.utf8ByteSize then .error .nameTooLong
  else .ok ()

/-- The location of a path that leads somewhere. -/
def locate (tree : Tree) (path : String) : Except FileError Location := do
  checkPath path
  walk tree (tree.start path) (steps path)

/-- The location at which the last step of a path can create something: its directory and its
name. -/
def locateNew (tree : Tree) (path : String) (steps : List String) :
    Except FileError (Location × String) := do
  let directory ← walk tree (tree.start path) steps.dropLast
  let name := steps.getLastD "."
  if !tree.isDirectoryAt directory then throw .notADirectory
  if nameLimit ≤ name.utf8ByteSize then throw .nameTooLong
  return (directory, name)

/-- Whether a step does not name anything. -/
def isRelativeStep (step : String) : Bool := step == "." || step == ".."

/-! ## Operations -/

/-- The text in a file. -/
def readText (tree : Tree) (path : String) : Except FileError String := do
  match tree.entryAt? (← tree.locate path) with
  | some (.file content) =>
    match String.fromUTF8? content with
    | some text => return text
    | none => throw .notText
  | some .directory => throw .isADirectory
  | none => throw .notFound

/-- Whether there is a file at a path. -/
def isFile (tree : Tree) (path : String) : Bool :=
  match tree.locate path with
  | .ok location => !tree.isDirectoryAt location
  | .error _ => false

/-- Whether there is a directory at a path. -/
def isDirectory (tree : Tree) (path : String) : Bool :=
  match tree.locate path with
  | .ok location => tree.isDirectoryAt location
  | .error _ => false

/-- A path without slashes at its end. -/
def withoutSlash (path : String) : String :=
  String.ofList (path.toList.reverse.dropWhile fun c => c == '/').reverse

/-- The tree with one more directory. -/
def makeDirectory (tree : Tree) (path : String) : Except FileError Tree := do
  checkPath path
  let (directory, name) ← tree.locateNew path (steps (withoutSlash path))
  if isRelativeStep name then throw .alreadyExists
  match tree.entryAt? (directory ++ [name]) with
  | some _ => throw .alreadyExists
  | none => return tree.put (directory ++ [name]) .directory

/-- The path of the directory in which a path lies. -/
def parentPath (path : String) : String :=
  let names := (steps (withoutSlash path)).filter fun step => step != "."
  let text := String.intercalate "/" names.dropLast
  if path.toList.head? = some '/' then "/" ++ text else text

/-- The tree with a directory made unless it is there. -/
def ensureDirectory (tree : Tree) (path : String) : Except FileError Tree :=
  match tree.makeDirectory path with
  | .ok next => .ok next
  | .error cause => if tree.isDirectory path then .ok tree else .error cause

/-- The tree with a directory and as many of the directories it lies in as a bound allows. -/
def ensureUpTo : Nat → Tree → String → Except FileError Tree
  | 0, tree, path => tree.ensureDirectory path
  | bound + 1, tree, path =>
    if path.isEmpty then .ok tree
    else
      match tree.ensureDirectory path with
      | .error .notFound => do
        let next ← ensureUpTo bound tree (parentPath path)
        next.ensureDirectory path
      | result => result

/-- The tree with a directory and all directories that it lies in. -/
def makeDirectories (tree : Tree) (path : String) : Except FileError Tree :=
  ensureUpTo ((steps path).length + 1) tree path

/-- The tree with a text as the content of a file. -/
def writeText (tree : Tree) (path content : String) : Except FileError Tree := do
  checkPath path
  let (directory, name) ← tree.locateNew path (steps path)
  if isRelativeStep name || tree.isDirectoryAt (directory ++ [name]) then throw .isADirectory
  return tree.put (directory ++ [name]) (.file content.toUTF8)

end Tree

/-- Keep the tree that an operation gives; a failed operation leaves the tree as it is. -/
def updateTree (change : Tree → Except FileError Tree) : StateM Tree (Except FileError Unit) := do
  match change (← get) with
  | .ok tree =>
    set tree
    return .ok ()
  | .error cause => return .error cause

instance : FileAccess (StateM Tree) where
  readText path := do return (← get).readText path
  isFile path := do return (← get).isFile path
  makeDirectories path := updateTree fun tree => tree.makeDirectories path
  writeText path content := updateTree fun tree => tree.writeText path content

end SchemaEvolution
