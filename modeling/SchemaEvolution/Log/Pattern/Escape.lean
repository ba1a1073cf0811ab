import SchemaEvolution.Log.Pattern.Flags

/-! # Escapes in patterns
A backslash and what follows it stand for a character, for a set of characters, or for a place
between characters. -/

namespace SchemaEvolution.Pattern

/-- What an escape stands for. -/
inductive Escape where
  /-- A character. -/
  | char (c : Char)
  /-- A set of characters. -/
  | set
  /-- A place between characters. -/
  | place
  deriving DecidableEq, Repr

/-- The value of a hexadecimal digit. -/
def hexDigit? (c : Char) : Option Nat :=
  if c.isDigit then some (c.toNat - '0'.toNat)
  else if 'a' ≤ c ∧ c ≤ 'f' then some (c.toNat - 'a'.toNat + 10)
  else if 'A' ≤ c ∧ c ≤ 'F' then some (c.toNat - 'A'.toNat + 10)
  else none

/-- The number that so many hexadecimal digits denote after those of `n`, and what follows them. -/
def hexNumber? (flags : Flags) : Nat → Nat → List Char → Option (Nat × List Char)
  | 0, n, cs => some (n, cs)
  | width + 1, n, cs =>
    match flags.skip cs with
    | [] => none
    | c :: rest =>
      match hexDigit? c with
      | some digit => hexNumber? flags width (16 * n + digit) rest
      | none => none

/-- The character whose code is written in so many digits, and what follows it. -/
def coded? (flags : Flags) (width : Nat) (cs : List Char) : Option (Escape × List Char) :=
  match hexNumber? flags width 0 cs with
  | some (n, rest) => if n.isValidChar then some (.char (Char.ofNat n), rest) else none
  | none => none

/-- The control character that a letter stands for after a backslash. -/
def control? (c : Char) : Option Char :=
  if c = 'a' then some '\x07'
  else if c = 'f' then some '\x0c'
  else if c = 'n' then some '\n'
  else if c = 'r' then some '\r'
  else if c = 't' then some '\t'
  else if c = 'v' then some '\x0b'
  else none

/-- Whether a character stands for itself after a backslash: an ASCII character that is no letter,
no digit and no angle bracket. -/
def standsForItself (c : Char) : Bool :=
  c.val < 128 && !c.isAlphanum && c != '<' && c != '>'

/-- The set or the place that a character stands for after a backslash. Digits, blanks, word
characters and the ends of words are told apart in ASCII only. -/
def special? (flags : Flags) (c : Char) : Option Escape :=
  if c = 'A' ∨ c = 'z' then some .place
  else if flags.unicode then none
  else if c = 'd' ∨ c = 's' ∨ c = 'w' then some .set
  else if c = 'b' ∨ c = 'B' ∨ c = '<' ∨ c = '>' then some .place
  else none

/-- The **escape** at the front of a text that follows a backslash, and what follows it. -/
def escape? (flags : Flags) : List Char → Option (Escape × List Char)
  | [] => none
  | c :: cs =>
    if c = 'x' then coded? flags 2 cs
    else if c = 'u' then coded? flags 4 cs
    else if c = 'U' then coded? flags 8 cs
    else if standsForItself c then some (.char c, cs)
    else
      match control? c with
      | some control => some (.char control, cs)
      | none => (special? flags c).map (·, cs)

end SchemaEvolution.Pattern
