/-! # Scans
A **scan** reads a value off the front of a text and leaves the rest, or refuses. Alternatives are
tried in order, each on the same text. Repetition is bounded by the length of the text that is left,
which no repetition of a scan that reads something exceeds. -/

namespace SchemaEvolution.Toml

/-- A reading of a value off the front of a text. -/
abbrev Scan (α : Type) := StateT (List Char) Option α

namespace Scan

variable {α β : Type}

/-- The scan that reads nothing successfully. -/
def refuse : Scan α := fun _ => none

/-- The next character, if it satisfies a test. -/
def satisfy (p : Char → Bool) : Scan Char
  | [] => none
  | c :: cs => if p c then some (c, cs) else none

/-- A given character. -/
def char (c : Char) : Scan Unit
  | [] => none
  | d :: cs => if d = c then some ((), cs) else none

/-- A given text. -/
def exactly (text : String) : Scan Unit := fun cs =>
  if text.toList.isPrefixOf cs then some ((), cs.drop text.toList.length) else none

/-- The longest run of characters that satisfy a test. -/
def run (p : Char → Bool) : Scan (List Char) := fun cs => some (cs.takeWhile p, cs.dropWhile p)

/-- The longest run of characters that satisfy a test, which must not be empty. -/
def run1 (p : Char → Bool) : Scan (List Char) := do
  let c ← satisfy p
  let cs ← run p
  return c :: cs

/-- The end of the text. -/
def atEnd : Scan Unit
  | [] => some ((), [])
  | _ :: _ => none

/-- A scan that is tried without reading what it reads. -/
def ahead (scan : Scan α) : Scan Unit := fun cs => (scan cs).map fun _ => ((), cs)

/-- What a scan reads, or nothing where it refuses. -/
def optional (scan : Scan α) : Scan (Option α) := (some <$> scan) <|> pure none

/-- At most the given number of items. -/
def itemsUpTo (item : Scan α) : Nat → Scan (List α)
  | 0 => pure []
  | limit + 1 => (do
      let first ← item
      let rest ← itemsUpTo item limit
      return first :: rest) <|> pure []

/-- As many items as there are. -/
def items (item : Scan α) : Scan (List α) := fun cs => itemsUpTo item cs.length cs

/-- At most the given number of items, and what ends them. -/
def untilUpTo (item : Scan α) (stop : Scan β) : Nat → Scan (List α × β)
  | 0 => do return ([], ← stop)
  | limit + 1 => (do return ([], ← stop)) <|> (do
      let first ← item
      let (rest, last) ← untilUpTo item stop limit
      return (first :: rest, last))

/-- Items up to what ends them, and that. -/
def itemsUntil (item : Scan α) (stop : Scan β) : Scan (List α × β) := fun cs =>
  untilUpTo item stop cs.length cs

end Scan

/-! ## Blanks, comments and line ends -/

/-- Whether a character separates within a line: a space or a tab. -/
def isSpace (c : Char) : Bool := c == ' ' || c == '\t'

/-- Whether a character may stand in a comment: a tab, or any character that is no control character
of ASCII. -/
def isCommentChar (c : Char) : Bool := c == '\t' || (0x20 ≤ c.toNat && c != '\x7f')

/-- Spaces and tabs, if there are any. -/
def spaces : Scan (List Char) := Scan.run isSpace

/-- A comment, without the end of its line. -/
def comment : Scan Unit := do
  Scan.char '#'
  let _ ← Scan.run isCommentChar

/-- The end of a line: a line feed, which a carriage return may precede. -/
def newline : Scan Unit := Scan.exactly "\n" <|> Scan.exactly "\r\n"

/-- The rest of a line after what counts on it: spaces and a comment. -/
def lineRest : Scan Unit := do
  let _ ← spaces
  let _ ← Scan.optional comment
  newline <|> Scan.atEnd

/-- Spaces, line ends and whole comments, if there are any. -/
def gap : Scan Unit := do
  let space : Scan Unit := do let _ ← Scan.satisfy isSpace
  let commentLine : Scan Unit := do
    comment
    newline
  let _ ← Scan.items (space <|> newline <|> commentLine)

end SchemaEvolution.Toml
