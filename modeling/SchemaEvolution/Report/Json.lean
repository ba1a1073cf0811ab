import SchemaEvolution.Report.Line
import SchemaEvolution.Schema

/-! # JSON documents
The JSON values that reports are made of, and their two layouts: **compact**, without any blank, and
**indented**, with one item to a line and two blanks for each level. Fields keep their order. -/

namespace SchemaEvolution

/-- A JSON value without numbers. -/
inductive Json where
  /-- The value `null`. -/
  | null
  /-- A truth value. -/
  | bool (value : Bool)
  /-- A text. -/
  | text (value : String)
  /-- A list of values. -/
  | list (items : List Json)
  /-- A record of named values, in order. -/
  | record (fields : List (String × Json))

namespace Json

/-! ## Texts -/

/-- A character inside a JSON text. -/
def escape (c : Char) : List Char :=
  if c = '\x22' then ['\\', '\x22']
  else if c = '\\' then ['\\', '\\']
  else if c = '\x08' then ['\\', 'b']
  else if c = '\t' then ['\\', 't']
  else if c = '\n' then ['\\', 'n']
  else if c = '\x0c' then ['\\', 'f']
  else if c = '\r' then ['\\', 'r']
  else if c.toNat < 0x20 then
    ['\\', 'u', '0', '0', Nat.digitChar (c.toNat / 16), Nat.digitChar (c.toNat % 16)]
  else [c]

/-- A text between double quotes. -/
def quoted (value : String) : String :=
  "\x22" ++ String.ofList (value.toList.flatMap escape) ++ "\x22"

/-- The text of a truth value. -/
def boolText (value : Bool) : String := if value then "true" else "false"

/-! ## Compact layout -/

mutual

/-- A value in **compact** layout. -/
def compact : Json → String
  | .null => "null"
  | .bool value => boolText value
  | .text value => quoted value
  | .list items => "[" ++ String.intercalate "," (compactItems items) ++ "]"
  | .record fields => "\x7b" ++ String.intercalate "," (compactFields fields) ++ "\x7d"

/-- The items of a list in compact layout. -/
def compactItems : List Json → List String
  | [] => []
  | item :: items => compact item :: compactItems items

/-- The fields of a record in compact layout. -/
def compactFields : List (String × Json) → List String
  | [] => []
  | (name, value) :: fields => (quoted name ++ ":" ++ compact value) :: compactFields fields

end

/-! ## Indented layout -/

/-- A line break and the blanks of a level. -/
def lineBreak (level : Nat) : String := "\n" ++ String.ofList (List.replicate (2 * level) ' ')

/-- Items between brackets, each on a line of its own one level in; nothing between the brackets
when there are no items. -/
def block (level : Nat) (opening closing : String) (items : List String) : String :=
  if items.isEmpty then opening ++ closing
  else
    opening ++ lineBreak (level + 1) ++ String.intercalate ("," ++ lineBreak (level + 1)) items ++
      lineBreak level ++ closing

mutual

/-- A value in **indented** layout at a level. -/
def indented (level : Nat) : Json → String
  | .null => "null"
  | .bool value => boolText value
  | .text value => quoted value
  | .list items => block level "[" "]" (indentedItems (level + 1) items)
  | .record fields => block level "\x7b" "\x7d" (indentedFields (level + 1) fields)

/-- The items of a list in indented layout. -/
def indentedItems (level : Nat) : List Json → List String
  | [] => []
  | item :: items => indented level item :: indentedItems level items

/-- The fields of a record in indented layout. -/
def indentedFields (level : Nat) : List (String × Json) → List String
  | [] => []
  | (name, value) :: fields =>
    (quoted name ++ ": " ++ indented level value) :: indentedFields level fields

end

/-! ## Reports -/

/-- A column as a record. -/
def ofColumn (column : Column) : Json :=
  .record
    [("name", .text column.name), ("data_type", .text column.dataType),
      ("not_null", .bool column.notNull),
      ("default",
        match column.defaultValue with
        | some value => .text value
        | none => .null)]

/-- A type as a record. -/
def ofType : TypeDefinition → Json
  | .enumeration values => .record [("kind", .text "enum"), ("values", .list (values.map .text))]
  | .composite definition =>
    .record [("kind", .text "composite"), ("definition", .text definition)]

/-- A schema as a record. -/
def ofSchema (schema : Schema) : Json :=
  .record
    [("types", .record (schema.types.entries.map fun entry => (entry.1, ofType entry.2))),
      ("tables",
        .record (schema.tables.entries.map fun entry => (entry.1, .list (entry.2.map ofColumn))))]

/-- Lines with their kinds. -/
def ofLines (lines : List String) : Json :=
  .list (lines.map fun line =>
    .record [("kind", .text (classify line).label), ("text", .text line)])

end Json

end SchemaEvolution
