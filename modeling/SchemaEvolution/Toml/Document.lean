import SchemaEvolution.Toml.Scalar

/-! # TOML documents
A document is a sequence of lines. A header opens a table, or one more table of a list of tables; an
assignment enters a value into the table opened last. No key can be given twice, and no table can be
opened twice. -/

namespace SchemaEvolution.Toml

/-- The number of levels at which a document is refused: brackets within brackets, or parts of a
key. -/
def nestingLimit : Nat := 80

/-! ## Keys -/

/-- Whether a character may stand in a key without quotes. -/
def isBareKeyChar (c : Char) : Bool := c.isAlphanum || c == '_' || c == '-'

/-- One part of a key, with the spaces around it. -/
def keyPart : Scan String := do
  let _ ← spaces
  let part ← basicText <|> literalText <|> Scan.run1 isBareKeyChar
  let _ ← spaces
  return String.ofList part

/-- A key: parts with points between them. The path to the last part, and that. -/
def key : Scan (List String × String) := do
  let first ← keyPart
  let rest ← Scan.items (do Scan.char '.'; keyPart)
  let parts := first :: rest
  if nestingLimit ≤ parts.length then Scan.refuse
  else return (parts.dropLast, parts.getLastD first)

/-! ## Lists and tables within a line -/

/-- A key, an equals sign, and what follows. -/
def pair (value : Scan Value) : Scan ((List String × String) × Value) := do
  let name ← key
  Scan.char '='
  let _ ← spaces
  return (name, ← value)

/-- A list between brackets. It may run over several lines, and a comma may follow the last item. -/
def array (value : Scan Value) : Scan Value := do
  Scan.char '['
  let item : Scan Value := do
    gap
    let x ← value
    gap
    Scan.char ',' <|> Scan.ahead (Scan.char ']')
    return x
  let stop : Scan Unit := do
    gap
    Scan.char ']'
  let (xs, _) ← Scan.itemsUntil item stop
  return .array xs

/-- A table with the given entries, if they can be entered one after the other. -/
def inlineTableOf (pairs : List ((List String × String) × Value)) : Option Value :=
  pairs.foldlM (fun table entry => Value.assign entry.1.1 entry.1.2 entry.2 table)
    (Value.emptyTable .inline)

/-- A table between braces. -/
def inlineTable (value : Scan Value) : Scan Value := do
  Scan.char '\x7b'
  let entry : Scan ((List String × String) × Value) := do
    let p ← pair value
    let _ ← spaces
    return p
  let noEntries : Scan (List ((List String × String) × Value)) := do
    let _ ← spaces
    Scan.char '\x7d'
    return []
  let someEntries : Scan (List ((List String × String) × Value)) := do
    let first ← entry
    let (rest, _) ← Scan.itemsUntil (do Scan.char ','; entry) (Scan.char '\x7d')
    return first :: rest
  let pairs ← noEntries <|> someEntries
  match inlineTableOf pairs with
  | some table => return table
  | none => Scan.refuse

/-- A value with at most the given number of levels of brackets and braces. -/
def value : Nat → Scan Value
  | 0 => scalar
  | levels + 1 => scalar <|> array (value levels) <|> inlineTable (value levels)

/-! ## Lines -/

/-- What a line of a document says. -/
inductive Line where
  /-- Nothing. -/
  | blank
  /-- Open a table. -/
  | header (path : List String) (key : String)
  /-- Open one more table of a list. -/
  | listHeader (path : List String) (key : String)
  /-- Enter a value. -/
  | assignment (path : List String) (key : String) (value : Value)

/-- A line with its end, spaces at its start passed over. -/
def line : Scan Line := do
  let _ ← spaces
  let blankLine : Scan Line := do
    newline
    return .blank
  let commentLine : Scan Line := do
    comment
    newline <|> Scan.atEnd
    return .blank
  let listHeader : Scan Line := do
    Scan.exactly "[["
    let (path, last) ← key
    Scan.exactly "]]"
    lineRest
    return .listHeader path last
  let header : Scan Line := do
    Scan.char '['
    let (path, last) ← key
    Scan.char ']'
    lineRest
    return .header path last
  let assignment : Scan Line := do
    let ((path, last), x) ← pair (value (nestingLimit - 1))
    lineRest
    return .assignment path last x
  blankLine <|> commentLine <|> listHeader <|> header <|> assignment

/-- The lines of a document, which may start with a byte order mark. -/
def documentLines : Scan (List Line) := do
  let _ ← Scan.optional (Scan.char '\ufeff')
  let stop : Scan Unit := do
    let _ ← spaces
    Scan.atEnd
  let (lines, _) ← Scan.itemsUntil line stop
  return lines

/-! ## Documents -/

/-- A document up to some line: its table, and the path of the table opened last. -/
structure Document where
  /-- The table of the whole document. -/
  root : Value
  /-- The path to the table that takes assignments. -/
  current : List String

namespace Document

/-- The document without lines. -/
def empty : Document := ⟨Value.emptyTable .header, []⟩

/-- The document after one more line. -/
def add (document : Document) : Line → Option Document
  | .blank => some document
  | .header path key => do
    let root ← Value.changeAt .implied (Value.openTable key) path document.root
    return ⟨root, path ++ [key]⟩
  | .listHeader path key => do
    let root ← Value.changeAt .implied (Value.openListed key) path document.root
    return ⟨root, path ++ [key]⟩
  | .assignment path key value => do
    let root ← Value.changeAt .implied (Value.assign path key value) document.current document.root
    return { document with root := root }

/-- The table of a text, if the text is a TOML document. -/
def read? (text : String) : Option Value := do
  let (lines, _) ← documentLines text.toList
  let document ← lines.foldlM add empty
  return document.root

end Document

end SchemaEvolution.Toml
