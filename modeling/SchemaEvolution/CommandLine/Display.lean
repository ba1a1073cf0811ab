import SchemaEvolution.CommandLine.Invocation
import SchemaEvolution.Report.Json
import SchemaEvolution.Report.Style

/-! # What the commands print
The texts that the commands print for people, with styles or without, and the JSON documents. -/

namespace SchemaEvolution

open Style (paint)

/-- A text with a line end. -/
def withNewline (text : String) : String := text ++ "\n"

/-! ## Lines of a migration -/

/-- The style of a line. -/
def LineKind.style : LineKind → Style
  | .command => .plain
  | .error => .boldRed
  | .caution => .boldYellow
  | .note => .dimmed

/-- The lines of a migration for people. -/
def linesText (shown : Bool) (lines : List String) : String :=
  if lines.isEmpty then withNewline (paint shown .green "✓ No changes - schemas are identical")
  else String.join (lines.map fun line => withNewline (paint shown (classify line).style line))

/-- The lines of a migration in a form. -/
def showLines (shown : Bool) (format : OutputFormat) (lines : List String) : String :=
  match format with
  | .text => linesText shown lines
  | .json => withNewline ((Json.ofLines lines).indented 0)

/-! ## Schemas -/

/-- A type on one line. -/
def typeLine (shown : Bool) (entry : String × TypeDefinition) : String :=
  "  " ++ paint shown .cyan entry.1 ++ " " ++
    match entry.2 with
    | .enumeration values =>
      paint shown .dimmed "ENUM" ++ " (" ++ Step.commaList values ++ ")\n"
    | .composite definition => paint shown .dimmed "AS" ++ " " ++ definition ++ "\n"

/-- The ban on null and the default of a column. -/
def columnFlags (column : Column) : String :=
  let null := if column.notNull then ["NOT NULL"] else []
  let value :=
    match column.defaultValue with
    | some text => ["DEFAULT " ++ text]
    | none => []
  String.intercalate " " (null ++ value)

/-- A column on one line. -/
def columnLine (shown : Bool) (column : Column) : String :=
  "    • " ++ paint shown .white column.name ++ " " ++ paint shown .yellow column.dataType ++ " " ++
    paint shown .dimmed (columnFlags column) ++ "\n"

/-- A table with a line for each column. -/
def tableLines (shown : Bool) (entry : String × List Column) : String :=
  "  " ++ paint shown .boldCyan entry.1 ++ "\n" ++ String.join (entry.2.map (columnLine shown))

/-- The types of a schema under a heading, and an empty line; nothing if there are none. -/
def typesText (shown : Bool) (schema : Schema) : String :=
  if schema.types.isEmpty then ""
  else
    withNewline (paint shown .boldGreen "Types:") ++
      String.join (schema.types.entries.map (typeLine shown)) ++ "\n"

/-- The tables of a schema under a heading; nothing if there are none. -/
def tablesText (shown : Bool) (schema : Schema) : String :=
  if schema.tables.isEmpty then ""
  else
    withNewline (paint shown .boldGreen "Tables:") ++
      String.join (schema.tables.entries.map (tableLines shown))

/-- The schema of a file for people. -/
def schemaText (shown : Bool) (file : String) (schema : Schema) : String :=
  paint shown .dimmed "Schema:" ++ " " ++ paint shown .yellow file ++ "\n\n" ++
    typesText shown schema ++ tablesText shown schema ++
    if schema.isEmpty then withNewline (paint shown .dimmed "(no types or tables)") else ""

/-- The schema of a file in a form. -/
def showSchema (shown : Bool) (format : OutputFormat) (file : String) (schema : Schema) : String :=
  match format with
  | .text => schemaText shown file schema
  | .json => withNewline ((Json.ofSchema schema).indented 0)

/-! ## Texts about the program -/

/-- The name and version of the program. -/
def versionText : String := "schemashift 0.1.0\n"

/-- The short text about the program. -/
def bannerText (shown : Bool) : String :=
  withNewline (paint shown .boldCyan "schemashift — schema diff & migration generator") ++
    "\nUsage: schemashift diff <OLD> <NEW> [OPTIONS]\n\nTry: schemashift --help\n"

/-- The text about the use of the program. -/
def helpText : String :=
  "Diff two SQL schema definitions into migration statements\n\n" ++
    "Usage: schemashift [OPTIONS] [COMMAND]\n\n" ++
    "Commands:\n" ++
    "  diff <OLD> <NEW>  Generate migration statements from OLD to NEW\n" ++
    "  parse <FILE>      Parse a schema file and show its types and tables\n\n" ++
    "Options of diff:\n" ++
    "  -f, --format <FORMAT>          Output format: text or json\n" ++
    "  -o, --output <DIR>             Directory for a timestamped migration file\n" ++
    "  -n, --name <NAME>              Migration name used in the file name\n" ++
    "      --strict                   Exit with status 1 when any ERROR line is produced\n" ++
    "  -c, --config <FILE>            Config file (defaults to ./schemashift.toml)\n" ++
    "      --rename-threshold <X>     Similarity needed to treat a missing table as renamed\n" ++
    "      --replace-threshold <X>    Similarity needed to suggest copying data\n\n" ++
    "Options of parse:\n" ++
    "  -f, --format <FORMAT>          Output format: text or json\n\n" ++
    "Options:\n" ++
    "  -v, --verbose  Verbose logging (same as SCHEMASHIFT_LOG=debug)\n" ++
    "  -h, --help     Print help\n" ++
    "  -V, --version  Print version\n"

end SchemaEvolution
