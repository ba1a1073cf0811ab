import SchemaEvolution.CommandLine.Run
import Std.Time.Zoned.Database

/-! # The program
The outermost layer: files, environment, clock and terminal. All decisions are made by
`runArguments`. -/

namespace SchemaEvolution

/-! ## Files -/

/-- The cause of a failure, from the code and the text that the system gives. -/
def FileError.ofCode (code : UInt32) (text : String) : FileError :=
  match code with
  | 2 => .notFound
  | 17 => .alreadyExists
  | 20 => .notADirectory
  | 21 => .isADirectory
  | 36 => .nameTooLong
  | _ => .other text

/-- The cause of a failure that the system reports. -/
def FileError.ofSystem ( failure : IO.Error) : FileError :=
  match failure with
  | .noFileOrDirectory _ code text => .ofCode code text
  | .alreadyExists _ code text => .ofCode code text
  | .inappropriateType _ code text => .ofCode code text
  | .invalidArgument _ code text => .ofCode code text
  | .permissionDenied _ code text => .ofCode code text
  | unknown => .other (toString unknown)

/-- An operation on files with its failures as values. -/
def attempt {α : Type} (operation : IO α) : IO (Except FileError α) := do
  try return .ok (← operation)
  catch failure => return .error (.ofSystem failure)

instance : FileAccess IO where
  readText path := do
    match ← attempt (IO.FS.readBinFile path) with
    | .error cause => return .error cause
    | .ok bytes =>
      match String.fromUTF8? bytes with
      | some text => return .ok text
      | none => return .error .notText
  isFile path := do return (← attempt (IO.FS.readBinFile path)).isOk
  makeDirectories path :=
    if path.isEmpty then return .ok () else attempt (IO.FS.createDirAll path)
  writeText path content := attempt (IO.FS.writeBinFile path content.toUTF8)

/-! ## The clock -/

/-- The seconds by which the local clock is ahead at some time; zero where the rules of the local
time zone cannot be read. -/
def localOffset (time : Std.Time.Timestamp) : IO Int := do
  try
    let rules ← Std.Time.Database.defaultGetLocalZoneRules
    return (rules.timezoneAt time).offset.second.val
  catch _ => return 0

/-- The present instant. -/
def Instant.now : IO Instant := do
  let time ← Std.Time.Timestamp.now
  let nanoseconds := time.toNanosecondsSinceUnixEpoch.val
  return {
    seconds := nanoseconds / 1000000000
    nanoseconds := (nanoseconds % 1000000000).toNat
    offset := ← localOffset time }

/-! ## The run -/

/-- The directory of the user's settings. -/
def userSettingsDirectory : IO (Option String) := do
  match ← IO.getEnv "XDG_CONFIG_HOME" with
  | some directory => if directory.startsWith "/" then return some directory else homeSettings
  | none => homeSettings
where
  /-- The directory of settings below the user's own one. -/
  homeSettings : IO (Option String) := do
    return (← IO.getEnv "HOME").map fun home => joinPath home ".config"

/-- What the run finds around it. -/
def currentEnvironment : IO Environment := do
  let isPlain := (← IO.getEnv "NO_COLOR").isSome
  return {
    now := ← Instant.now
    stylesShown := !isPlain && (← (← IO.getStdout).isTty)
    logFilter := ← IO.getEnv "SCHEMASHIFT_LOG"
    settingsFile := ← IO.getEnv "SCHEMASHIFT_CONFIG"
    userSettings := ← userSettingsDirectory }

end SchemaEvolution

/-- Run the program. -/
def main (arguments : List String) : IO UInt32 := do
  let environment ← SchemaEvolution.currentEnvironment
  let outcome ← SchemaEvolution.runArguments environment arguments
  ( ← IO.getStdout).putStr outcome.output
  ( ← IO.getStderr).putStr outcome.messages
  return outcome.exitCode.toUInt32
