/-! # Blank characters, trimming and words
A character is **blank** when Unicode gives it the property `White_Space`. A **word** is a maximal
run of characters that are not blank. Texts are lists of characters here; `collapse` gives the
normal form in which words stand one space apart. -/

namespace SchemaEvolution

/-- The **blank** characters: the 25 characters with the Unicode property `White_Space`. -/
def isBlank (c : Char) : Bool :=
  let n := c.toNat
  (9 ≤ n && n ≤ 13) || n == 0x20 || n == 0x85 || n == 0xA0 || n == 0x1680 ||
    (0x2000 ≤ n && n ≤ 0x200A) || n == 0x2028 || n == 0x2029 || n == 0x202F || n == 0x205F ||
    n == 0x3000

/-! ## Trimming -/

/-- A text without its leading blanks. -/
def trimStart (cs : List Char) : List Char := cs.dropWhile isBlank

/-- A text without its trailing blanks. -/
def trimEnd (cs : List Char) : List Char := (cs.reverse.dropWhile isBlank).reverse

/-- A text without the blanks at both ends. -/
def trim (cs : List Char) : List Char := trimEnd (trimStart cs)

/-- At the start of an empty text there is nothing to trim. -/
@[simp] theorem trimStart_nil : trimStart [] = [] := rfl

/-- At the end of an empty text there is nothing to trim. -/
@[simp] theorem trimEnd_nil : trimEnd [] = [] := rfl

/-- In an empty text there is nothing to trim. -/
@[simp] theorem trim_nil : trim [] = [] := rfl

/-- A blank at the start is dropped, and anything else ends the trimming. -/
theorem trimStart_cons (c : Char) (cs : List Char) :
    trimStart (c :: cs) = if isBlank c then trimStart cs else c :: cs := by
  simp only [trimStart, List.dropWhile_cons]

/-- Trailing blanks go first at the end of a text that grows on the right. -/
theorem trimEnd_concat (cs : List Char) (c : Char) :
    trimEnd (cs ++ [c]) = if isBlank c then trimEnd cs else cs ++ [c] := by
  by_cases h : isBlank c <;> simp [trimEnd, h]

/-! ## Words -/

/-- The **words** of a text: its maximal runs of characters that are not blank, in order. -/
def words (cs : List Char) : List (List Char) :=
  (cs.splitOnP isBlank).filter (fun w => !w.isEmpty)

/-- Texts joined with a separator between neighbours. -/
def joinWith (separator : List Char) : List (List Char) → List Char
  | [] => []
  | [piece] => piece
  | piece :: next :: rest => piece ++ separator ++ joinWith separator (next :: rest)

/-- No pieces are joined to an empty text. -/
@[simp] theorem joinWith_nil (separator : List Char) : joinWith separator [] = [] := rfl

/-- A single piece is joined to itself. -/
@[simp] theorem joinWith_singleton (separator piece : List Char) :
    joinWith separator [piece] = piece := rfl

/-- A separator stands between the first piece and the others. -/
@[simp] theorem joinWith_cons_cons (separator piece next : List Char) (rest : List (List Char)) :
    joinWith separator (piece :: next :: rest) =
      piece ++ separator ++ joinWith separator (next :: rest) := rfl

/-- Words one space apart. -/
def unwords (ws : List (List Char)) : List Char := joinWith [' '] ws

/-- The normal form of a text up to blanks: its words, one space apart. -/
def collapse (cs : List Char) : List Char := unwords (words cs)

end SchemaEvolution
