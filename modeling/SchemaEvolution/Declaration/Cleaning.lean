import SchemaEvolution.Text.Blank

/-! # Cleaning a schema text
Before a schema text is read, each of its lines ends at the first comment mark `--`, and the
characters that delimit quoted names are deleted. Cutting comes first: two dashes that only a
delimiter kept apart do not start a comment. -/

namespace SchemaEvolution

/-- The physical lines of a text: its pieces between line feeds. -/
def textLines (cs : List Char) : List (List Char) := cs.splitOn '\n'

/-- A line without the carriage return at its end, if it has one there. -/
def dropReturn (line : List Char) : List Char :=
  if line.getLast? = some '\r' then line.dropLast else line

/-- The lines that are told by the pieces of a text between line feeds. A carriage return before a
line feed belongs to the line break; one at the end of the text does not. Where nothing stands
behind the last line feed, no line starts there. -/
def linesOfPieces : List (List Char) → List (List Char)
  | [] => []
  | [last] => if last.isEmpty then [] else [last]
  | piece :: next :: rest => dropReturn piece :: linesOfPieces (next :: rest)

/-- The **source lines** of a text, without their line breaks: a line feed, or a carriage return and
a line feed. -/
def sourceLines (cs : List Char) : List (List Char) := linesOfPieces (textLines cs)

/-- A line up to its first comment mark `--`. -/
def beforeComment : List Char → List Char
  | [] => []
  | [c] => [c]
  | c :: d :: cs => if c = '-' ∧ d = '-' then [] else c :: beforeComment (d :: cs)

/-- A **name delimiter**: a double quote or a backtick. -/
def isNameDelimiter (c : Char) : Bool := c == '\x22' || c == '\x60'

/-- A text without name delimiters. -/
def removeDelimiters (cs : List Char) : List Char := cs.filter fun c => !isNameDelimiter c

/-- The **cleaned** text: comments cut, name delimiters deleted, blanks at both ends dropped. -/
def clean (cs : List Char) : List Char :=
  trim (removeDelimiters (joinWith ['\n'] ((sourceLines cs).map beforeComment)))

/-- A carriage return at the end of a line is dropped. -/
@[simp] theorem dropReturn_concat (line : List Char) : dropReturn (line ++ ['\r']) = line := by
  simp [dropReturn]

/-- A line without a carriage return at its end is kept. -/
theorem dropReturn_eq_self {line : List Char} (h : line.getLast? ≠ some '\r') :
    dropReturn line = line := if_neg h

/-- In an empty line there is nothing to cut. -/
@[simp] theorem beforeComment_nil : beforeComment [] = [] := rfl

/-- A line that starts with a comment mark is cut entirely. -/
@[simp] theorem beforeComment_dashes (cs : List Char) : beforeComment ('-' :: '-' :: cs) = [] := rfl

/-- In an empty text there is nothing to delete. -/
@[simp] theorem removeDelimiters_nil : removeDelimiters [] = [] := rfl

/-- Name delimiters are deleted from the two parts of a text separately. -/
@[simp] theorem removeDelimiters_append (cs ds : List Char) :
    removeDelimiters (cs ++ ds) = removeDelimiters cs ++ removeDelimiters ds := by
  simp [removeDelimiters]

/-- The empty text is clean. -/
@[simp] theorem clean_nil : clean [] = [] := rfl

end SchemaEvolution
