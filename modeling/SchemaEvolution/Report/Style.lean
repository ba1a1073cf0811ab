/-! # Styled text
A **style** is a list of codes that a terminal understands. Styled text stands between the sequence
that turns the style on and the one that turns all styles off. -/

namespace SchemaEvolution

/-- The styles in use. -/
inductive Style where
  /-- As it is. -/
  | plain
  /-- Dimmed. -/
  | dimmed
  /-- Green. -/
  | green
  /-- Yellow. -/
  | yellow
  /-- Cyan. -/
  | cyan
  /-- White. -/
  | white
  /-- Bold red. -/
  | boldRed
  /-- Bold green. -/
  | boldGreen
  /-- Bold yellow. -/
  | boldYellow
  /-- Bold cyan. -/
  | boldCyan
  deriving DecidableEq, Repr

namespace Style

/-- The codes of a style, with a semicolon between them. -/
def codes : Style → String
  | .plain => ""
  | .dimmed => "2"
  | .green => "32"
  | .yellow => "33"
  | .cyan => "36"
  | .white => "37"
  | .boldRed => "1;31"
  | .boldGreen => "1;32"
  | .boldYellow => "1;33"
  | .boldCyan => "1;36"

/-- The sequence that turns on the style of some codes. -/
def turnOn (codes : String) : String := "\x1b[" ++ codes ++ "m"

/-- The sequence that turns all styles off. -/
def turnOff : String := "\x1b[0m"

/-- The characters of a text with a text put after each sequence that turns styles off. -/
def afterTurnOffs (inserted : List Char) : List Char → List Char
  | '\x1b' :: '[' :: '0' :: 'm' :: cs => '\x1b' :: '[' :: '0' :: 'm' :: inserted ++
      afterTurnOffs inserted cs
  | c :: cs => c :: afterTurnOffs inserted cs
  | [] => []

/-- Text between a sequence that turns a style on and the one that turns it off. A sequence inside
the text that turns styles off is followed by one that turns the style on again. -/
def wrap (codes text : String) : String :=
  let on := turnOn codes
  on ++ String.ofList (afterTurnOffs on.toList text.toList) ++ turnOff

/-- A text in a style, if styles are shown at all. -/
def paint (shown : Bool) (style : Style) (text : String) : String :=
  if shown && style != .plain then wrap style.codes text else text

end Style

end SchemaEvolution
