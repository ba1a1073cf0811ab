import SchemaEvolution.Text.Blank

/-! # Text nested in parentheses
A separator counts only where no parenthesis is open. `splitOutside` cuts a text at such separators
and `insideParens?` finds the text up to the parenthesis that closes an open one. A closing
parenthesis without a partner leaves the depth at zero. -/

namespace SchemaEvolution

/-- The number of open parentheses after a character, from the number before it. -/
def depthAfter (depth : Nat) (c : Char) : Nat :=
  if c = '(' then depth + 1 else if c = ')' then depth - 1 else depth

/-- An opening parenthesis leads one level further in. -/
@[simp] theorem depthAfter_open (depth : Nat) : depthAfter depth '(' = depth + 1 := rfl

/-- A closing parenthesis leads one level out, and stays outside where none is open. -/
@[simp] theorem depthAfter_close (depth : Nat) : depthAfter depth ')' = depth - 1 := rfl

/-- Any other character stays on its level. -/
theorem depthAfter_of_ne {c : Char} (hopen : c ≠ '(') (hclose : c ≠ ')') (depth : Nat) :
    depthAfter depth c = depth := by
  simp [depthAfter, hopen, hclose]

/-! ## Cutting at separators -/

/-- The **pieces** of a text between the separators that stand outside parentheses, when `depth`
parentheses are open at its start. -/
def piecesOutside (separator : Char) : Nat → List Char → List (List Char)
  | _, [] => [[]]
  | depth, c :: cs =>
    if c = separator ∧ depth = 0 then [] :: piecesOutside separator depth cs
    else (piecesOutside separator (depthAfter depth c) cs).modifyHead (c :: ·)

/-- An empty text is its only piece. -/
@[simp] theorem piecesOutside_nil (separator : Char) (depth : Nat) :
    piecesOutside separator depth [] = [[]] := rfl

/-- A separator outside parentheses starts a new piece, and any other character continues one. -/
theorem piecesOutside_cons (separator : Char) (depth : Nat) (c : Char) (cs : List Char) :
    piecesOutside separator depth (c :: cs) =
      if c = separator ∧ depth = 0 then [] :: piecesOutside separator depth cs
      else (piecesOutside separator (depthAfter depth c) cs).modifyHead (c :: ·) := rfl

/-- Every text has a piece. -/
theorem piecesOutside_ne_nil (separator : Char) (depth : Nat) (cs : List Char) :
    piecesOutside separator depth cs ≠ [] := by
  induction cs generalizing depth with
  | nil => simp
  | cons c cs ih =>
    rw [piecesOutside_cons]
    split
    · simp
    · cases h : piecesOutside separator (depthAfter depth c) cs with
      | nil => exact absurd h (ih _)
      | cons => simp

/-- The **fragments** of a text: its pieces between the separators outside parentheses, trimmed,
without those that are empty. -/
def splitOutside (separator : Char) (cs : List Char) : List (List Char) :=
  ((piecesOutside separator 0 cs).map trim).filter fun piece => !piece.isEmpty

/-! ## Finding the partner of a parenthesis -/

/-- The text up to the parenthesis that closes the outermost of `depth + 1` open ones; `none` when
it is never closed. -/
def insideParens? : Nat → List Char → Option (List Char)
  | _, [] => none
  | depth, c :: cs =>
    if c = '(' then (insideParens? (depth + 1) cs).map (c :: ·)
    else if c = ')' then
      match depth with
      | 0 => some []
      | depth + 1 => (insideParens? depth cs).map (c :: ·)
    else (insideParens? depth cs).map (c :: ·)

end SchemaEvolution
