import SchemaEvolution.Log.Pattern.CharacterClass
import SchemaEvolution.Text.Alphabetic

/-! # Patterns
A **pattern** is a regular expression that describes the values of a field. This module tells which
texts are patterns. Characters stand for themselves; groups, alternatives, repetitions, classes of
characters and escapes have their usual forms, and there are no references to groups and no
conditions on what follows. Patterns stand between braces and hold no closing brace, so nothing that
needs one is ever complete: counted repetitions, codes of any length, and Unicode properties.

Letters are compared exactly and no class is taken from the Unicode tables. So the classes of
digits, blanks and word characters, the ends of words, and texts in which case is ignored are only
there where a flag confines a pattern to ASCII. -/

namespace SchemaEvolution

namespace Pattern

/-- The greatest depth of a pattern. Groups, repetitions and classes are one level deeper than what
they hold, and so are lists of several items and of several alternatives. -/
def depthLimit : Nat := 250

/-! ## Groups -/

/-- What has been read of the pattern or of a group in it. -/
structure Group where
  /-- The flags in force. -/
  flags : Flags
  /-- The depths of the alternatives that are complete. -/
  alternatives : List Nat
  /-- The depths of the items of the alternative that is not, from the last one. -/
  items : List Nat
  /-- Whether the last item can be repeated. -/
  repeatable : Bool
  deriving DecidableEq, Repr

namespace Group

/-- A group of which nothing has been read. -/
def start (flags : Flags) : Group := ⟨flags, [], [], false⟩

/-- The group after one more item. -/
def add (group : Group) (depth : Nat) : Group :=
  { group with items := depth :: group.items, repeatable := true }

/-- The group after a change of flags, which is an item that cannot be repeated. -/
def change (group : Group) (flags : Flags) : Group :=
  { group with flags := flags, items := 0 :: group.items, repeatable := false }

/-- The group at the start of its next alternative. -/
def next (group : Group) : Group :=
  { group with
    alternatives := listDepth group.items :: group.alternatives
    items := []
    repeatable := false }

/-- The group with its last item repeated. -/
def again? (group : Group) : Option Group :=
  match group.repeatable, group.items with
  | true, depth :: items => some { group with items := (depth + 1) :: items }
  | _, _ => none

/-- The depth of all alternatives. -/
def depth (group : Group) : Nat := listDepth group.next.alternatives

end Group

/-! ## States -/

/-- What has been read of a pattern. -/
structure State where
  /-- The innermost open group; the whole pattern, if none is open. -/
  inner : Group
  /-- The groups around it, from the inside. -/
  outer : List Group
  /-- The names of groups. -/
  names : List (List Char)
  deriving DecidableEq, Repr

namespace State

/-- The state at the start of a pattern. -/
def start : State := ⟨.start .standard, [], []⟩

/-- The flags in force. -/
def flags (state : State) : Flags := state.inner.flags

/-- The state after one more item. -/
def add (state : State) (depth : Nat) : State := { state with inner := state.inner.add depth }

/-- The state inside a new group, under the given flags. -/
def enter (state : State) (flags : Flags) : State :=
  { state with inner := .start flags, outer := state.inner :: state.outer }

/-- The state after the innermost open group. -/
def leave? (state : State) : Option State :=
  match state.outer with
  | [] => none
  | group :: outer =>
    some { state with inner := group.add (state.inner.depth + 1), outer := outer }

/-- Whether a text can name a group. -/
def isName : List Char → Bool
  | [] => false
  | c :: cs =>
    (c == '_' || isAlphabetic c) && cs.all fun d => isAlphanumeric d || "_.[]".toList.contains d

/-- The state inside a group with a name, and what follows the angle bracket after the name. -/
def named? (state : State) (cs : List Char) : Option (State × List Char) :=
  let name := cs.takeWhile fun c => c != '>'
  match cs.dropWhile fun c => c != '>' with
  | '>' :: rest =>
    if isName name && !state.names.contains name then
      some ({ state.enter state.flags with names := name :: state.names }, rest)
    else none
  | _ => none

/-- The state after a change of flags, for the group that it opens or for the rest of the group in
which it stands, and what follows it. -/
def flagged? (state : State) (cs : List Char) : Option (State × List Char) :=
  let letters := cs.takeWhile fun c => c != ':' && c != ')'
  match state.flags.change? letters, cs.dropWhile fun c => c != ':' && c != ')' with
  | some flags, ':' :: rest => some (state.enter flags, rest)
  | some flags, ')' :: rest =>
    if letters.isEmpty then none else some ({ state with inner := state.inner.change flags }, rest)
  | _, _ => none

/-- The state after an opening parenthesis, and what follows the marks that belong to it. -/
def opened? (state : State) (cs : List Char) : Option (State × List Char) :=
  match state.flags.skip cs with
  | '?' :: 'P' :: '<' :: rest => state.named? rest
  | '?' :: '<' :: rest => state.named? rest
  | '?' :: rest => state.flagged? rest
  | rest => some (state.enter state.flags, rest)

/-! ## Reading -/

/-- The state after the escape at the front of a text, and what follows it. -/
def escaped? (state : State) (cs : List Char) : Option (State × List Char) :=
  match escape? state.flags cs with
  | some (.char c, rest) => if state.flags.allows c then some (state.add 0, rest) else none
  | some (_, rest) => some (state.add 0, rest)
  | none => none

/-- The state after a repetition mark, and what follows it and the mark that makes it lazy. -/
def repeated? (state : State) (cs : List Char) : Option (State × List Char) :=
  let rest := if cs.head? == some '?' then cs.drop 1 else cs
  state.inner.again?.map fun group => ({ state with inner := group }, rest)

/-- Whether a character alone is an item of a pattern: a place, any character, or itself. -/
def isItem (flags : Flags) (c : Char) : Bool :=
  if c = '^' ∨ c = '$' then true
  else if c = '.' then flags.unicode
  else if c = '\x7b' then false
  else flags.allows c

/-- The state after the part of a pattern that a character starts, and what follows it. -/
def step? (state : State) (c : Char) (cs : List Char) : Option (State × List Char) :=
  if c = '(' then state.opened? cs
  else if c = ')' then state.leave?.map (·, cs)
  else if c = '|' then some ({ state with inner := state.inner.next }, cs)
  else if c = '[' then (class? state.flags cs).map fun (depth, rest) => (state.add depth, rest)
  else if c = '?' ∨ c = '*' ∨ c = '+' then state.repeated? cs
  else if c = '\\' then state.escaped? cs
  else if isItem state.flags c then some (state.add 0, cs)
  else none

/-- Whether what has been read is a pattern. -/
def isComplete (state : State) : Bool := state.outer.isEmpty && state.inner.depth ≤ depthLimit

/-- Whether a text makes a pattern together with what has been read before it. -/
def accepts : Nat → State → List Char → Bool
  | 0, state, cs => (state.flags.skip cs).isEmpty && state.isComplete
  | fuel + 1, state, cs =>
    match state.flags.skip cs with
    | [] => state.isComplete
    | c :: rest =>
      match state.step? c rest with
      | some (next, rest) => accepts fuel next rest
      | none => false

end State

end Pattern

/-- Whether a text is a **pattern**. -/
def isPattern (cs : List Char) : Bool := Pattern.State.accepts cs.length .start cs

end SchemaEvolution
