import SchemaEvolution.CommandLine.Options
import SchemaEvolution.Decimal.Reading

/-! # Invocations
What a command line asks for: a command with its options, or a text about the program. A request for
such a text is met when what comes before it is in order, whatever comes after it and whatever the
command still lacks. -/

namespace SchemaEvolution

/-- The forms in which results are printed. -/
inductive OutputFormat where
  /-- Lines for people. -/
  | text
  /-- A JSON document. -/
  | json
  deriving DecidableEq, Repr

/-- A request to compare two schema files. -/
structure DiffRequest where
  /-- The file of the schema as it is. -/
  oldFile : String
  /-- The file of the schema as it is to be. -/
  newFile : String
  /-- The form of the result. -/
  format : OutputFormat
  /-- The directory for a migration file. -/
  outputDirectory : Option String
  /-- The name of the migration. -/
  migrationName : String
  /-- Whether a reported error makes the run fail. -/
  isStrict : Bool
  /-- The settings file, if one is named. -/
  settingsFile : Option String
  /-- The threshold for renames, if one is given. -/
  renameThreshold : Option Float
  /-- The threshold for replacements, if one is given. -/
  replacementThreshold : Option Float

/-- What a command line can ask for. -/
inductive Command where
  /-- A short text about the program. -/
  | banner
  /-- The version of the program. -/
  | version
  /-- A text about the use of the program. -/
  | help
  /-- The migration between two schema files. -/
  | diff (request : DiffRequest)
  /-- The types and tables of a schema file. -/
  | parse (file : String) (format : OutputFormat)

/-- A command with what holds for all commands. -/
structure Invocation where
  /-- Whether the log is verbose. -/
  isVerbose : Bool
  /-- The command. -/
  command : Command

namespace Invocation

/-! ## The options of each command -/

/-- The options that every command knows. -/
def commonOptions : List OptionSpec :=
  [⟨"verbose", some 'v', .flag⟩, ⟨"help", some 'h', .request⟩]

/-- The options before a command. -/
def globalOptions : List OptionSpec := commonOptions ++ [⟨"version", some 'V', .request⟩]

/-- The options of the command that shows a schema. -/
def parseOptions : List OptionSpec := commonOptions ++ [⟨"format", some 'f', .setting⟩]

/-- The options of the command that compares schemas. -/
def diffOptions : List OptionSpec :=
  parseOptions ++
    [⟨"output", some 'o', .setting⟩, ⟨"name", some 'n', .setting⟩, ⟨"strict", none, .flag⟩,
      ⟨"config", some 'c', .setting⟩, ⟨"rename-threshold", none, .setting⟩,
      ⟨"replace-threshold", none, .setting⟩]

/-- The names of the commands. -/
def commandNames : List String := ["diff", "parse", "help"]

/-! ## Values -/

/-- A path, which must not be empty. -/
def readPath (name path : String) : Except UsageError String :=
  if path.isEmpty then .error (.invalidValue name path) else .ok path

/-- The form that a word stands for. -/
def readFormat : Option String → Except UsageError OutputFormat
  | none => .ok .text
  | some "text" => .ok .text
  | some "json" => .ok .json
  | some other => .error (.invalidValue "format" other)

/-- A threshold. -/
def readThreshold (name : String) : Option String → Except UsageError (Option Float)
  | none => .ok none
  | some text =>
    match floatOfText? text with
    | some x => .ok (some x)
    | none => .error (.invalidValue name text)

/-- A path that need not be given. -/
def readOptionalPath (name : String) : Option String → Except UsageError (Option String)
  | none => .ok none
  | some path => (readPath name path).map some

/-- The paths that words name. There may be fewer words than names, but not more. -/
def readPaths (names words : List String) : Except UsageError (List String) :=
  if names.length < words.length then .error (.wordCount names.length words.length)
  else (names.zip words).mapM fun (name, word) => readPath name word

/-- The value that items give to an option. -/
def valueOf (items : List Item) (name : String) : Option String :=
  items.findSome? (Item.value? name)

/-! ## Commands -/

/-- The command that shows a schema. -/
def readParse (items : List Item) : Except UsageError Command := do
  let format ← readFormat (valueOf items "format")
  let paths ← readPaths ["FILE"] (items.filterMap Item.word?)
  if items.any Item.isRequest then return .help
  match paths with
  | [file] => return .parse file format
  | _ => throw (.wordCount 1 paths.length)

/-- The command that compares schemas. The settings file may also be named outside the command
line. -/
def readDiff (namedSettings : Option String) (items : List Item) : Except UsageError Command := do
  let format ← readFormat (valueOf items "format")
  let output ← readOptionalPath "output" (valueOf items "output")
  let settings ← readOptionalPath "config" (valueOf items "config")
  let rename ← readThreshold "rename-threshold" (valueOf items "rename-threshold")
  let replacement ← readThreshold "replace-threshold" (valueOf items "replace-threshold")
  let paths ← readPaths ["OLD", "NEW"] (items.filterMap Item.word?)
  if items.any Item.isRequest then return .help
  match paths with
  | [old, new] =>
    return .diff
      { oldFile := old
        newFile := new
        format := format
        outputDirectory := output
        migrationName := (valueOf items "name").getD "migration"
        isStrict := items.contains (.flag "strict")
        settingsFile := ← readOptionalPath "config" (settings.or namedSettings)
        renameThreshold := rename
        replacementThreshold := replacement }
  | _ => throw (.wordCount 2 paths.length)

/-- The command that tells about the use of the program, or of the command that it names. -/
def readHelp : List String → Except UsageError Command
  | [] => .ok .help
  | [name] => if commandNames.contains name then .ok .help else .error (.unknownCommand name)
  | _ :: extra :: _ => .error (.unknownCommand extra)

/-- The invocation of a command with its arguments. -/
def readCommand (namedSettings : Option String) (isVerbose : Bool) (name : String)
    (arguments : List String) : Except UsageError Invocation := do
  let finish (specs : List OptionSpec) (read : List Item → Except UsageError Command) :
      Except UsageError Invocation := do
    let items ← readUniqueItems specs arguments
    return ⟨isVerbose || items.contains (.flag "verbose"), ← read items⟩
  if name = "diff" then finish diffOptions (readDiff namedSettings)
  else if name = "parse" then finish parseOptions readParse
  else if name = "help" then return ⟨isVerbose, ← readHelp arguments⟩
  else throw (.unknownCommand name)

/-- What the options before a command ask for: a text about the program, or a verbose log. -/
def readGlobalFlags : Bool → List Item → Except UsageError (Bool × Option Command)
  | isVerbose, [] => .ok (isVerbose, none)
  | isVerbose, item :: items =>
    if item = .request "version" then .ok (isVerbose, some .version)
    else if item = .request "help" then .ok (isVerbose, some .help)
    else if isVerbose then .error (.repeatedOption "verbose")
    else readGlobalFlags true items

/-- The **invocation that a command line states**. Options before the command come first; the first
word is the command. -/
def ofArguments (namedSettings : Option String) : Bool → List String →
    Except UsageError Invocation
  | isVerbose, [] => .ok ⟨isVerbose, .banner⟩
  | isVerbose, argument :: rest =>
    if argument = "--" then
      match rest with
      | [] => .ok ⟨isVerbose, .banner⟩
      | word :: _ => .error (.unknownCommand word)
    else if isOption argument then do
      let reading ← readArgument globalOptions argument
      match ← readGlobalFlags isVerbose reading.items with
      | (_, some command) => return ⟨isVerbose, command⟩
      | (verbose, none) => ofArguments namedSettings verbose rest
    else readCommand namedSettings isVerbose argument rest

end Invocation

end SchemaEvolution
