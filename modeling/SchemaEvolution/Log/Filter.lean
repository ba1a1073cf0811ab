import SchemaEvolution.Decimal.Reading
import SchemaEvolution.Log.Event
import SchemaEvolution.Log.Pattern
import SchemaEvolution.Text.Alphanumeric
import SchemaEvolution.Text.Blank
import SchemaEvolution.Text.Keyword

/-! # Log filters
A filter is a list of **directives**, each of which sets the verbosity of some events. A directive
applies to all targets or to those that start with a given text, and to all events or to those that
have a given field; or it is about spans of work, of which there are none here, and then it shows
nothing. Of the directives that apply to an event the most specific one counts: the one with the
longest text, then the one that asks for a field, and of equally specific ones the last.

A directive is written `target[span{field=value}]=level`, and all parts may be left out. -/

namespace SchemaEvolution

/-- What a directive is about. -/
inductive Scope where
  /-- All events. -/
  | events
  /-- The events that have a field of a given name. -/
  | eventsWith (field : String)
  /-- Spans of work with a given name or with given values of their fields. -/
  | spans
  deriving DecidableEq, Repr

/-- One rule of a log filter. -/
structure Directive where
  /-- The start of the targets it applies to; it applies to all if there is none. -/
  target : Option String
  /-- What it is about. -/
  scope : Scope
  /-- The greatest rank of the levels that are shown. -/
  verbosity : Nat
  deriving DecidableEq, Repr

/-- The rules by which events are shown. -/
abbrev LogFilter := List Directive

namespace Directive

/-! ## Levels -/

/-- The number that a text of digits denotes, an optional plus sign before it. -/
def number? (cs : List Char) : Option Nat :=
  let ds :=
    match cs with
    | '+' :: rest => rest
    | _ => cs
  if !ds.isEmpty ∧ ds.all Char.isDigit then some (natOfDigits ds) else none

/-- The verbosity that a word stands for. -/
def verbosity? (cs : List Char) : Option Nat :=
  match number? cs with
  | some n => if n ≤ 5 then some n else none
  | none =>
    if isKeyword "off" cs then some 0
    else if isKeyword "error" cs then some 1
    else if isKeyword "warn" cs then some 2
    else if isKeyword "info" cs then some 3
    else if isKeyword "debug" cs then some 4
    else if isKeyword "trace" cs then some 5
    else none

/-- The verbosity of a directive that states no level. -/
def fullVerbosity : Nat := LogLevel.trace.rank

/-! ## Parts of a directive -/

/-- A place in a directive. The parts of a directive end where the text without the blanks around it
says; they are read at the same place of the text as it was given. -/
structure Place where
  /-- What is left of the text without the blanks around it. -/
  marks : List Char
  /-- What is left of the text as it was given. -/
  text : List Char
  deriving DecidableEq, Repr

namespace Place

/-- The place at the start of a directive. -/
def start (cs : List Char) : Place := ⟨trim cs, cs⟩

/-- The place so many characters later. -/
def skip (place : Place) (n : Nat) : Place := ⟨place.marks.drop n, place.text.drop n⟩

/-- The part up to the first of some marks, and the place of that mark. -/
def upTo (place : Place) (isMark : Char → Bool) : List Char × Place :=
  let n := (place.marks.takeWhile fun c => !isMark c).length
  (place.text.take n, place.skip n)

end Place

/-- The directive whose level stands at a place. -/
def withLevel? (target : Option String) (scope : Scope) (place : Place) : Option Directive :=
  if place.text.isEmpty then some ⟨target, scope, fullVerbosity⟩
  else (verbosity? place.text).map fun verbosity => ⟨target, scope, verbosity⟩

/-- The directive that ends at a place, or has an equals sign and its level there. -/
def closed? (target : Option String) (scope : Scope) (place : Place) : Option Directive :=
  match place.marks with
  | [] => some ⟨target, scope, fullVerbosity⟩
  | c :: _ => if c = '=' then withLevel? target scope (place.skip 1) else none

/-- What a directive with a field is about: a field alone can be asked of events, a field with a
value or below the name of a span cannot. A value is a number or a pattern. -/
def fieldScope? (isNamed : Bool) (field : List Char) : Option Scope :=
  match field.splitOn '=' with
  | _ :: value :: _ =>
    if (floatOfText? (String.ofList value)).isSome ∨ isPattern value then some .spans else none
  | _ =>
    if field.isEmpty then none
    else if isNamed then some .spans
    else some (.eventsWith (String.ofList field))

/-- The directive whose field stands at a place, after the name of a span or without one. -/
def withField? (target : Option String) (isNamed : Bool) (place : Place) : Option Directive :=
  let (field, next) := place.upTo fun c => c == '\x7d'
  match next.marks with
  | '\x7d' :: ']' :: _ =>
    (fieldScope? isNamed field).bind fun scope => closed? target scope (next.skip 2)
  | _ => none

/-- The directive whose span stands at a place. -/
def withSpan? (target : Option String) (place : Place) : Option Directive :=
  let (name, next) := place.upTo fun c => c == ']' || c == '\x7b'
  match next.marks with
  | [] => none
  | c :: _ =>
    if c = ']' then closed? target .spans (next.skip 1)
    else withField? target (!name.isEmpty) (next.skip 1)

/-- Whether a directive can start with a character. -/
def isStart (c : Char) : Bool := isAlphanumeric c || c == '-' || c == ':' || c == '_'

/-- The directive of a single word: a level, or else a target that is shown in full. -/
def ofWord (word : List Char) : Directive :=
  match verbosity? word with
  | some verbosity => ⟨none, .events, verbosity⟩
  | none => ⟨some (String.ofList word), .events, fullVerbosity⟩

/-- The directive that starts with a target or a level. -/
def ofTarget? (place : Place) : Option Directive :=
  let (name, next) := place.upTo fun c => c == '=' || c == '['
  let target := some (String.ofList name)
  match next.marks with
  | [] => some (ofWord place.text)
  | c :: _ =>
    if c = '=' then withLevel? target .events (next.skip 1) else withSpan? target (next.skip 1)

/-- The **directive that a text states**. -/
def ofText? (cs : List Char) : Option Directive :=
  let place := Place.start cs
  match place.marks with
  | [] => none
  | c :: _ =>
    if c = '[' then withSpan? none (place.skip 1)
    else if isStart c then ofTarget? place
    else none

/-! ## Events -/

/-- Whether what a directive is about includes an event. Every event has a message. -/
def concerns (scope : Scope) (event : LogEvent) : Bool :=
  match scope with
  | .events => true
  | .eventsWith field => field == "message" || event.fields.any fun entry => entry.1 == field
  | .spans => false

/-- Whether a directive applies to an event. -/
def applies (directive : Directive) (event : LogEvent) : Bool :=
  (match directive.target with
    | some start => start.toList.isPrefixOf event.target.toList
    | none => true) && concerns directive.scope event

/-- How specific the target of a directive is. -/
def weight (directive : Directive) : Nat :=
  match directive.target with
  | some start => start.utf8ByteSize + 1
  | none => 0

/-- The field that a directive asks for; the empty text if it asks for none. -/
def fieldName (directive : Directive) : String :=
  match directive.scope with
  | .eventsWith field => field
  | _ => ""

/-- Whether a directive is less specific than another one: its target says less, or its target says
as much and its field comes before the other's. -/
def isLessSpecific (directive other : Directive) : Bool :=
  directive.weight < other.weight ||
    (directive.weight == other.weight && directive.fieldName < other.fieldName)

end Directive

namespace LogFilter

/-- The filter that holds where nothing else is said. -/
def standard : LogFilter := [⟨none, .events, LogLevel.warn.rank⟩]

/-- The filter of a verbose run. -/
def verbose : LogFilter := [⟨none, .events, LogLevel.debug.rank⟩]

/-- The filter that a comma-separated list of directives states; a list of none shows errors
only. -/
def ofText? (text : String) : Option LogFilter :=
  let pieces := (text.toList.splitOn ',').filter fun piece => !piece.isEmpty
  match pieces with
  | [] => some [⟨none, .events, LogLevel.error.rank⟩]
  | _ => pieces.mapM Directive.ofText?

/-- The filter for a run: verbose runs have their own, other runs take the stated one if it can be
read. -/
def choose (isVerbose : Bool) (stated : Option String) : LogFilter :=
  if isVerbose then verbose else (stated.bind ofText?).getD standard

/-- The more specific of two directives; the later one, if they are equally specific. -/
def moreSpecific (best : Option Directive) (next : Directive) : Option Directive :=
  match best with
  | some leader => if next.isLessSpecific leader then some leader else some next
  | none => some next

/-- Whether a filter shows an event. -/
def shows (filter : LogFilter) (event : LogEvent) : Bool :=
  match (filter.filter fun directive => directive.applies event).foldl moreSpecific none with
  | some directive => event.level.rank ≤ directive.verbosity
  | none => false

end LogFilter

end SchemaEvolution
