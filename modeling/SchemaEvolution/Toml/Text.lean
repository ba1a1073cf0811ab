import SchemaEvolution.Toml.Scan

/-! # Texts of TOML
A text stands between quotation marks, where a backslash starts an escape, or between apostrophes,
where every character stands for itself. With three marks on either side it may run over several
lines. -/

namespace SchemaEvolution.Toml

/-- The quotation mark. -/
def quotationMark : Char := '\x22'

/-- The apostrophe. -/
def apostrophe : Char := '\x27'

/-- Whether a character stands for itself between apostrophes. -/
def isLiteralChar (c : Char) : Bool := isCommentChar c && c != apostrophe

/-- Whether a character stands for itself between quotation marks. -/
def isBasicChar (c : Char) : Bool := isCommentChar c && c != quotationMark && c != '\\'

/-! ## Escapes -/

/-- The value of a hexadecimal digit. -/
def hexValue (c : Char) : Nat :=
  if c.isDigit then c.toNat - '0'.toNat else c.toUpper.toNat - 'A'.toNat + 10

/-- Whether a character is a hexadecimal digit. -/
def isHexDigit (c : Char) : Bool :=
  c.isDigit || ('A' ≤ c.toUpper && c.toUpper ≤ 'F')

/-- The character with the code given by so many hexadecimal digits. -/
def codePoint (width : Nat) : Scan Char := fun cs =>
  let digits := cs.take width
  let n := digits.foldl (fun n c => 16 * n + hexValue c) 0
  if digits.length = width ∧ digits.all isHexDigit ∧ n.isValidChar then
    some (Char.ofNat n, cs.drop width)
  else none

/-- The character that a single letter after a backslash stands for. -/
def escapedChar? (c : Char) : Option Char :=
  if c = 'b' then some '\x08'
  else if c = 't' then some '\t'
  else if c = 'n' then some '\n'
  else if c = 'f' then some '\x0c'
  else if c = 'r' then some '\r'
  else if c = quotationMark then some quotationMark
  else if c = '\\' then some '\\'
  else none

/-- An escape. -/
def escape : Scan Char := do
  Scan.char '\\'
  let c ← Scan.satisfy fun _ => true
  if c = 'u' then codePoint 4
  else if c = 'U' then codePoint 8
  else
    match escapedChar? c with
    | some d => return d
    | none => Scan.refuse

/-! ## Texts on one line -/

/-- A text between quotation marks. -/
def basicText : Scan (List Char) := do
  Scan.char quotationMark
  let (content, _) ← Scan.itemsUntil (escape <|> Scan.satisfy isBasicChar) (Scan.char quotationMark)
  return content

/-- A text between apostrophes. -/
def literalText : Scan (List Char) := do
  Scan.char apostrophe
  let content ← Scan.run isLiteralChar
  Scan.char apostrophe
  return content

/-! ## Texts on several lines -/

/-- The whole run of marks at the front, if their number lies in a range. -/
def markRun (mark : Char) (least most : Nat) : Scan (List Char) := do
  let marks ← Scan.run fun c => c == mark
  if least ≤ marks.length ∧ marks.length ≤ most then return marks else Scan.refuse

/-- The three marks that end a text on several lines. Up to two more before them belong to the
text. -/
def closingMarks (mark : Char) : Scan (List Char) := do
  let marks ← markRun mark 3 5
  return marks.drop 3

/-- A line end inside a text, which always reads as a line feed. -/
def innerNewline : Scan (List Char) := do
  newline
  return ['\n']

/-- A backslash at the end of a line, which takes away the blanks and line ends that follow. -/
def lineContinuation : Scan (List Char) := do
  Scan.char '\\'
  let _ ← spaces
  newline
  let space : Scan Unit := do let _ ← Scan.satisfy isSpace
  let _ ← Scan.items (space <|> newline)
  return []

/-- A text on several lines between three marks on either side, made of the given pieces. -/
def longText (mark : Char) (piece : Scan (List Char)) : Scan (List Char) := do
  Scan.char mark
  Scan.char mark
  Scan.char mark
  let _ ← Scan.optional newline
  let (pieces, last) ← Scan.itemsUntil (piece <|> innerNewline <|> markRun mark 1 2)
    (closingMarks mark)
  return pieces.flatten ++ last

/-- A text on several lines between quotation marks. -/
def longBasicText : Scan (List Char) :=
  longText quotationMark
    (lineContinuation <|> (List.singleton <$> (escape <|> Scan.satisfy isBasicChar)))

/-- A text on several lines between apostrophes. -/
def longLiteralText : Scan (List Char) :=
  longText apostrophe (List.singleton <$> Scan.satisfy isLiteralChar)

/-- A text of any form. -/
def anyText : Scan (List Char) := longBasicText <|> basicText <|> longLiteralText <|> literalText

end SchemaEvolution.Toml
