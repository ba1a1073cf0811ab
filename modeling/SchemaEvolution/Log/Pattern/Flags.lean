import SchemaEvolution.Text.Blank

/-! # Flags of patterns
The **flags** in force at a place of a pattern say which characters count, whether the case of
letters matters, and whether blanks and comments between the items of the pattern are passed
over. -/

namespace SchemaEvolution.Pattern

/-- The flags in force at a place of a pattern. -/
structure Flags where
  /-- Whether characters beyond ASCII count. -/
  unicode : Bool
  /-- Whether the case of letters is ignored. -/
  ignoresCase : Bool
  /-- Whether blanks and comments are passed over. -/
  spaced : Bool
  deriving DecidableEq, Repr

/-- A text without the blanks and comments at its front, from inside a comment or not. A comment
starts with a number sign and ends with its line. -/
def dropSpace : Bool → List Char → List Char
  | _, [] => []
  | true, c :: cs => dropSpace (c != '\n') cs
  | false, c :: cs =>
    if isBlank c then dropSpace false cs
    else if c = '#' then dropSpace true cs
    else c :: cs

/-- There is no space to drop in an empty pattern. -/
@[simp] theorem dropSpace_nil (inComment : Bool) : dropSpace inComment [] = [] := by
  cases inComment <;> rfl

namespace Flags

/-- The flags at the start of a pattern. -/
def standard : Flags := ⟨true, false, false⟩

/-- The flags after those of a list are set to a value. Other flags have no part in what is a
pattern. -/
def set (flags : Flags) (value : Bool) (letters : List Char) : Flags where
  unicode := if letters.contains 'u' then value else flags.unicode
  ignoresCase := if letters.contains 'i' then value else flags.ignoresCase
  spaced := if letters.contains 'x' then value else flags.spaced

/-- The flags after a change: letters of flags to set, and after a dash letters of flags to clear.
No letter and no dash stands twice, and a dash does not stand last. -/
def change? (flags : Flags) (letters : List Char) : Option Flags :=
  if letters.all ("imsUuRx-".toList.contains ·) ∧ letters.Nodup ∧ letters.getLast? ≠ some '-' then
    let raised := letters.takeWhile fun c => c != '-'
    let cleared := letters.dropWhile fun c => c != '-'
    some ((flags.set true raised).set false cleared)
  else none

/-- Whether texts can be compared under the flags. -/
def comparesText (flags : Flags) : Bool := !(flags.unicode && flags.ignoresCase)

/-- Whether a character can stand for itself. -/
def allows (flags : Flags) (c : Char) : Bool := flags.comparesText && (flags.unicode || c.val < 128)

/-- A text from its next item on. -/
def skip (flags : Flags) (cs : List Char) : List Char :=
  if flags.spaced then dropSpace false cs else cs

/-- The character that decides what a dash before a text means: the first one that is neither a
blank nor the sign that starts a comment, if blanks are passed over and there is such a one. -/
def following (flags : Flags) (cs : List Char) : Option Char :=
  if flags.spaced then
    let visible :=
      match cs.dropWhile isBlank with
      | '#' :: rest => rest.dropWhile isBlank
      | rest => rest
    visible.head? <|> cs.head?
  else cs.head?

/-- Under the flags at the start of a pattern nothing is skipped. -/
@[simp] theorem skip_standard (cs : List Char) : standard.skip cs = cs := rfl

end Flags

end SchemaEvolution.Pattern
