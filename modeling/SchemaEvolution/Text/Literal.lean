import SchemaEvolution.Text.Blank

/-! # String literals
A **literal** is a value between single quotes in which each single quote is written twice. Lists of
literals are cut at the commas that stand outside quotes. -/

namespace SchemaEvolution

/-- The quote that opens and closes a literal. -/
def quoteMark : Char := '\x27'

/-- The content of a literal as written: each quote doubled. -/
def doubleQuotes : List Char → List Char
  | [] => []
  | c :: cs => if c = quoteMark then c :: c :: doubleQuotes cs else c :: doubleQuotes cs

/-- In an empty text there is no quote to double. -/
@[simp] theorem doubleQuotes_nil : doubleQuotes [] = [] := rfl

/-- A quote is doubled. -/
@[simp] theorem doubleQuotes_quote (cs : List Char) :
    doubleQuotes (quoteMark :: cs) = quoteMark :: quoteMark :: doubleQuotes cs := by
  simp [doubleQuotes]

/-- Any other character is kept. -/
theorem doubleQuotes_cons_of_ne {c : Char} (h : c ≠ quoteMark) (cs : List Char) :
    doubleQuotes (c :: cs) = c :: doubleQuotes cs := by
  simp [doubleQuotes, h]

/-- The text with two adjacent quotes read as one, from left to right. -/
def halveQuotes : List Char → List Char
  | [] => []
  | [c] => [c]
  | c :: d :: cs =>
    if c = quoteMark ∧ d = quoteMark then quoteMark :: halveQuotes cs
    else c :: halveQuotes (d :: cs)

/-- Halving undoes doubling. -/
@[simp] theorem halveQuotes_doubleQuotes (cs : List Char) : halveQuotes (doubleQuotes cs) = cs := by
  induction cs with
  | nil => rfl
  | cons c cs ih =>
    by_cases h : c = quoteMark
    · subst h; simp [halveQuotes, ih]
    · rw [doubleQuotes_cons_of_ne h]
      cases hd : doubleQuotes cs with
      | nil => simp_all [halveQuotes]
      | cons d ds => simp_all [halveQuotes]

/-- A value as a **literal**. -/
def quote (value : String) : String :=
  String.ofList (quoteMark :: doubleQuotes value.toList ++ [quoteMark])

/-- The text between an opening and a closing quote; `none` when one of the two is missing. A single
quote is not both. -/
def betweenQuotes? : List Char → Option (List Char)
  | [] => none
  | c :: cs => if c = quoteMark ∧ cs.getLast? = some quoteMark then some cs.dropLast else none

/-- The value that a written item stands for: the content of a literal, or the item itself when it
is no literal. -/
def unquote (item : List Char) : List Char :=
  match betweenQuotes? item with
  | some content => halveQuotes content
  | none => item

/-- The pieces of a text between the commas that stand outside quotes; `quoted` tells whether the
text starts inside a literal. -/
def literalPieces : Bool → List Char → List (List Char)
  | _, [] => [[]]
  | quoted, c :: cs =>
    if c = quoteMark then (literalPieces (!quoted) cs).modifyHead (c :: ·)
    else if c = ',' ∧ quoted = false then [] :: literalPieces quoted cs
    else (literalPieces quoted cs).modifyHead (c :: ·)

/-- The values of a comma-separated list of literals. Items are trimmed and unquoted, and empty
values are dropped. -/
def literalValues (cs : List Char) : List (List Char) :=
  ((literalPieces false cs).map fun piece => unquote (trim piece)).filter fun value =>
    !value.isEmpty

end SchemaEvolution
