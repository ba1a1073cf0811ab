import SchemaEvolution.CommandLine.Display
import SchemaEvolution.Files.Migration
import SchemaEvolution.Log.Filter
import SchemaEvolution.Log.Generation
import SchemaEvolution.Settings

/-! # Running a command line
A run reads files, and at most writes one migration file. What it prints and its exit code are its
**outcome**. -/

namespace SchemaEvolution

/-- What a run ends with. -/
structure Outcome where
  /-- The exit code: zero for success. -/
  exitCode : Nat
  /-- What is printed as the result. -/
  output : String
  /-- What is printed about the run. -/
  messages : String
  deriving DecidableEq, Repr

/-- What a run finds around it. -/
structure Environment where
  /-- The instant of the run. -/
  now : Instant
  /-- Whether styles are shown. -/
  stylesShown : Bool
  /-- The log filter that is stated, if any. -/
  logFilter : Option String
  /-- The settings file that is named, if any. -/
  settingsFile : Option String
  /-- The directory of the user's settings, if there is one. -/
  userSettings : Option String

/-- Why a run fails. -/
inductive RunError where
  /-- A schema file cannot be read. -/
  | unreadable (path : String) (cause : FileError)
  /-- The settings are refused. -/
  | settings (cause : SettingsError)
  /-- Another operation on a file fails. -/
  | file (cause : FileError)

/-- The text shown for a failed operation on a file. -/
def fileFailure (cause : FileError) : String := "IO error: " ++ cause.message

/-- The text shown for a failed run. A failed operation on a file is shown with its cause. -/
def RunError.message : RunError → String
  | .unreadable path cause => "Failed to read " ++ path ++ ": " ++ cause.message
  | .settings cause => cause.message
  | .file cause => fileFailure cause ++ ": " ++ cause.message

section

variable {m : Type → Type} [Monad m] [FileAccess m]

/-! ## Settings -/

/-- The settings file of a project. -/
def projectSettings : String := "schemashift.toml"

/-- The places where settings are looked for, in order. -/
def settingsPlaces (environment : Environment) : List String :=
  projectSettings ::
    match environment.userSettings with
    | some directory => [joinPath (joinPath directory "schemashift") "config.toml"]
    | none => []

/-- The first file among some paths. -/
def firstFile? : List String → m (Option String)
  | [] => return none
  | path :: paths => do if ← FileAccess.isFile path then return some path else firstFile? paths

/-- The settings file of a run: the named one, or the first that is there. -/
def findSettings (environment : Environment) (named : Option String) : m (Option String) :=
  match named with
  | some path => return some path
  | none => firstFile? (settingsPlaces environment)

/-- The options that a settings file states. -/
def loadSettings (path : String) : m (Except RunError MatchOptions) := do
  match ← FileAccess.readText path with
  | .error cause => return .error (.file cause)
  | .ok text => return (MatchOptions.ofSettings text).mapError .settings

/-- The event of loading a settings file. -/
def loadingEvent (path : String) : LogEvent :=
  ⟨.debug, partTarget "config", "loading config", [("path", path)]⟩

/-! ## Comparing -/

/-- The options of a request on top of those of the settings. -/
def DiffRequest.override (request : DiffRequest) (options : MatchOptions) : MatchOptions :=
  { options with
    renameThreshold := request.renameThreshold.getD options.renameThreshold
    replacementThreshold := request.replacementThreshold.getD options.replacementThreshold }

/-- The text of a schema file. -/
def readSchemaFile (path : String) : ExceptT RunError m String := do
  match ← (FileAccess.readText path : m _) with
  | .ok text => return text
  | .error cause => throw (.unreadable path cause)

/-- The options of a run, from its settings file and its request. -/
def requestedOptions (settings : Option String) (request : DiffRequest) :
    ExceptT RunError m MatchOptions := do
  let options ←
    match settings with
    | some path => ExceptT.mk (loadSettings path)
    | none => pure MatchOptions.standard
  match (request.override options).check with
  | .ok checked => return checked
  | .error cause => throw (.settings (.outOfRange cause))

/-- The options and the two texts of a comparison, in the order in which they are needed. -/
def prepareDiff (settings : Option String) (request : DiffRequest) :
    ExceptT RunError m (MatchOptions × String × String) := do
  let options ← requestedOptions settings request
  let old ← readSchemaFile request.oldFile
  let new ← readSchemaFile request.newFile
  return (options, old, new)

/-- The message about a failed run. -/
def failureMessage (shown : Bool) (failure : RunError) : String :=
  Style.paint shown .boldRed "Error:" ++ " " ++ failure.message ++ "\n"

/-- Write the migration file that a request asks for, if it asks for one; the message about it. -/
def saveMigration (environment : Environment) (request : DiffRequest) (lines : List String) :
    m (Except RunError String) := do
  let shown := environment.stylesShown
  match request.outputDirectory with
  | none => return .ok ""
  | some directory =>
    if lines.isEmpty then
      return .ok (withNewline (Style.paint shown .dimmed "No changes; migration file not written"))
    else
      let file : MigrationFile := ⟨request.migrationName, environment.now, lines⟩
      match ← file.writeInto directory with
      | .error cause => return .error (.file cause)
      | .ok path =>
        return .ok (Style.paint shown .green "✓" ++ " Wrote migration to " ++
          Style.paint shown .cyan path ++ "\n")

/-- The lines of the events that a filter shows. -/
def logText (environment : Environment) (filter : LogFilter) (events : List LogEvent) : String :=
  String.join
    ((events.filter filter.shows).map (LogEvent.line environment.stylesShown environment.now))

/-- Run the command that compares schemas. -/
def runDiff (environment : Environment) (filter : LogFilter) (request : DiffRequest) :
    m Outcome := do
  let shown := environment.stylesShown
  let settings ← findSettings environment request.settingsFile
  let loading := settings.toList.map loadingEvent
  match ← (prepareDiff settings request).run with
  | .error failure =>
    return ⟨1, "", logText environment filter loading ++ failureMessage shown failure⟩
  | .ok (options, old, new) =>
    let lines := migrationLines options old new
    let log := logText environment filter (loading ++ comparisonEvents options old new)
    let output := showLines shown request.format lines
    match ← saveMigration environment request lines with
    | .error failure => return ⟨1, output, log ++ failureMessage shown failure⟩
    | .ok message =>
      return ⟨if request.isStrict && hasErrors lines then 1 else 0, output, log ++ message⟩

/-! ## Showing -/

/-- Run the command that shows a schema. -/
def runParse (environment : Environment) (filter : LogFilter) (file : String)
    (format : OutputFormat) : m Outcome := do
  let shown := environment.stylesShown
  match ← (readSchemaFile file).run with
  | .error failure => return ⟨1, "", failureMessage shown failure⟩
  | .ok text =>
    let log := logText environment filter (readingEvents text)
    match Schema.ofText text with
    | .error cause =>
      return ⟨1, "",
        log ++ Style.paint shown .boldRed "Parse Error:" ++ " " ++ cause.message ++ "\n"⟩
    | .ok schema => return ⟨0, showSchema shown format file schema, log⟩

/-! ## Any command -/

/-- The exit code of a refused command line. -/
def usageExitCode : Nat := 2

/-- Run a command. -/
def runCommand (environment : Environment) (invocation : Invocation) : m Outcome :=
  let filter := LogFilter.choose invocation.isVerbose environment.logFilter
  match invocation.command with
  | .banner => return ⟨0, bannerText environment.stylesShown, ""⟩
  | .version => return ⟨0, versionText, ""⟩
  | .help => return ⟨0, helpText, ""⟩
  | .diff request => runDiff environment filter request
  | .parse file format => runParse environment filter file format

/-- **Run a command line.** -/
def runArguments (environment : Environment) (arguments : List String) : m Outcome :=
  match Invocation.ofArguments environment.settingsFile false arguments with
  | .error cause => return ⟨usageExitCode, "", cause.message ++ "\n"⟩
  | .ok invocation => runCommand environment invocation

end

end SchemaEvolution
