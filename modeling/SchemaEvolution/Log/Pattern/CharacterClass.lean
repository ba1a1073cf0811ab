import SchemaEvolution.Log.Pattern.Escape

/-! # Classes of characters
A **class** stands between brackets. It lists characters, ranges, named classes and other classes,
and combines such lists: what both have, what only the first has, what exactly one has. A class that
starts with a circumflex is negated. Where only ASCII counts, no class may reach beyond it; a class
is therefore read together with whether it has characters beyond ASCII. It does so for all of them
or for none, because there they come from negation only. -/

namespace SchemaEvolution.Pattern

/-! ## Depth -/

/-- The depth of a list of things with the given depths: a list of several is one level deeper than
the deepest of them. -/
def listDepth : List Nat → Nat
  | [] => 0
  | [depth] => depth
  | depth :: next :: rest => (next :: rest).foldl max depth + 1

/-- A list of nothing has no depth. -/
@[simp] theorem listDepth_nil : listDepth [] = 0 := rfl

/-- A list of one thing is as deep as that thing. -/
@[simp] theorem listDepth_singleton (depth : Nat) : listDepth [depth] = depth := rfl

/-! ## Items -/

/-- The item of a class at the front of a text, and what follows it. -/
def classItem? (flags : Flags) : List Char → Option (Escape × List Char)
  | [] => none
  | c :: cs =>
    match (if c = '\\' then escape? flags cs else some (.char c, cs)) with
    | some (.char d, rest) => if flags.allows d then some (.char d, rest) else none
    | some (.set, rest) => some (.set, rest)
    | some (.place, _) => none
    | none => none

/-- What follows an item of a class or a range of characters at the front of a text. A dash before a
bracket or before another dash makes no range. -/
def afterRange? (flags : Flags) (cs : List Char) : Option (List Char) :=
  match classItem? flags cs with
  | none => none
  | some (first, rest) =>
    match flags.skip rest with
    | '-' :: more =>
      if flags.following more = some ']' ∨ flags.following more = some '-' then some ('-' :: more)
      else
        match first, classItem? flags (flags.skip more) with
        | .char low, some (.char high, rest) => if low ≤ high then some rest else none
        | _, _ => none
    | rest => some rest

/-- The names of the classes that stand between colons. -/
def classNames : List String :=
  ["alnum", "alpha", "ascii", "blank", "cntrl", "digit", "graph", "lower", "print", "punct",
    "space", "upper", "word", "xdigit"]

/-- A class name between colons and its bracket, at the front of a text that follows an opening
bracket: whether it is negated, and what follows it. -/
def namedClass? : List Char → Option (Bool × List Char)
  | ':' :: cs =>
    let negated := cs.head? == some '^'
    let named := if negated then cs.drop 1 else cs
    let name := String.ofList (named.takeWhile fun c => c != ':')
    match named.dropWhile fun c => c != ':' with
    | ':' :: ']' :: rest => if classNames.contains name then some (negated, rest) else none
    | _ => none
  | _ => none

/-! ## Open classes -/

/-- How two lists of characters are combined. -/
inductive SetOperation where
  /-- The characters that both have. -/
  | intersection
  /-- The characters that only the first has. -/
  | difference
  /-- The characters that exactly one has. -/
  | symmetricDifference
  deriving DecidableEq, Repr

namespace SetOperation

/-- The operation that a doubled mark stands for. -/
def ofMark? (c : Char) : Option SetOperation :=
  if c = '&' then some .intersection
  else if c = '-' then some .difference
  else if c = '~' then some .symmetricDifference
  else none

/-- Whether the combination has an element, from whether the two lists have it. -/
def combine : SetOperation → Bool → Bool → Bool
  | .intersection, left, right => left && right
  | .difference, left, right => left && !right
  | .symmetricDifference, left, right => left != right

end SetOperation

/-- A class that is not closed yet. -/
structure OpenClass where
  /-- Whether it is negated. -/
  negated : Bool
  /-- Whether nothing but dashes has been read of it, so that a dash stands for itself. -/
  atStart : Bool
  /-- What comes before the last operation: the operation, whether there are characters beyond ASCII
  before it, and the depth. -/
  left : Option (SetOperation × Bool × Nat)
  /-- Whether the items after the last operation have characters beyond ASCII. -/
  beyondAscii : Bool
  /-- The depths of the items after the last operation. -/
  depths : List Nat
  deriving DecidableEq, Repr

namespace OpenClass

/-- A class of which its opening bracket and its negation have been read. -/
def start (negated : Bool) : OpenClass := ⟨negated, true, none, false, []⟩

/-- The class with one more item. -/
def add (chars : OpenClass) (beyondAscii : Bool) (depth : Nat) : OpenClass :=
  { chars with
    beyondAscii := chars.beyondAscii || beyondAscii
    depths := depth :: chars.depths }

/-- Whether the items so far have characters beyond ASCII, and their depth. -/
def total (chars : OpenClass) : Bool × Nat :=
  let depth := listDepth chars.depths
  match chars.left with
  | some (operation, left, leftDepth) =>
    (operation.combine left chars.beyondAscii, max leftDepth depth + 1)
  | none => (chars.beyondAscii, depth)

/-- The class after an operation. -/
def operate (chars : OpenClass) (operation : SetOperation) : OpenClass :=
  { chars with left := some (operation, chars.total), beyondAscii := false, depths := [] }

/-- The class as an item: whether it has characters beyond ASCII, and its depth. -/
def close? (chars : OpenClass) (flags : Flags) : Option (Bool × Nat) :=
  let beyondAscii := chars.total.1 != chars.negated
  if beyondAscii && !flags.unicode then none else some (beyondAscii, chars.total.2 + 1)

end OpenClass

/-! ## Reading -/

/-- The class that starts at the front of a text that follows its bracket, and what follows. -/
def openClass (flags : Flags) (cs : List Char) : OpenClass × List Char :=
  match flags.skip cs with
  | '^' :: rest => (.start true, rest)
  | rest => (.start false, rest)

/-- The depth of a class and what follows it, from the innermost open class and those around it. -/
def readClass? (flags : Flags) :
    Nat → OpenClass → List OpenClass → List Char → Option (Nat × List Char)
  | 0, _, _, _ => none
  | fuel + 1, inner, outer, cs =>
    match flags.skip cs with
    | [] => none
    | c :: rest =>
      if inner.atStart ∧ c = '-' then readClass? flags fuel (inner.add false 0) outer rest
      else if inner.atStart ∧ inner.depths.isEmpty ∧ c = ']' then
        readClass? flags fuel { inner.add false 0 with atStart := false } outer rest
      else
        let inner := { inner with atStart := false }
        if c = '[' then
          match namedClass? rest with
          | some (negated, rest) => readClass? flags fuel (inner.add negated 0) outer rest
          | none =>
            let (nested, rest) := openClass flags rest
            readClass? flags fuel nested (inner :: outer) rest
        else if c = ']' then
          match inner.close? flags, outer with
          | some (_, depth), [] => some (depth, rest)
          | some (beyondAscii, depth), next :: outer =>
            readClass? flags fuel (next.add beyondAscii depth) outer rest
          | none, _ => none
        else
          match SetOperation.ofMark? c, rest.head? == some c with
          | some operation, true =>
            readClass? flags fuel (inner.operate operation) outer (rest.drop 1)
          | _, _ =>
            match afterRange? flags (c :: rest) with
            | some rest => readClass? flags fuel (inner.add false 0) outer rest
            | none => none

/-- The depth of a class and what follows it, at the front of a text that follows its bracket. -/
def class? (flags : Flags) (cs : List Char) : Option (Nat × List Char) :=
  if flags.comparesText then
    let (inner, rest) := openClass flags cs
    readClass? flags (cs.length + 1) inner [] rest
  else none

end SchemaEvolution.Pattern
