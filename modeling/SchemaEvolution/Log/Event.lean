import SchemaEvolution.Report.Style
import SchemaEvolution.Report.Timestamp
import SchemaEvolution.Text.Combining
import SchemaEvolution.Text.Ignorable

/-! # Log events
An **event** has a level, the target it belongs to, a message and fields. It is written on one line,
after the instant at which it happened. -/

namespace SchemaEvolution

/-- The levels of events, from the least verbose to the most verbose. -/
inductive LogLevel where
  /-- Something failed. -/
  | error
  /-- Something needs attention. -/
  | warn
  /-- Something of note happened. -/
  | info
  /-- A decision was made. -/
  | debug
  /-- A detail of the work. -/
  | trace
  deriving DecidableEq, Repr

namespace LogLevel

/-- The verbosity of a level, from 1. -/
def rank : LogLevel → Nat
  | .error => 1
  | .warn => 2
  | .info => 3
  | .debug => 4
  | .trace => 5

/-- The name of a level in five columns. -/
def label : LogLevel → String
  | .error => "ERROR"
  | .warn => " WARN"
  | .info => " INFO"
  | .debug => "DEBUG"
  | .trace => "TRACE"

/-- The codes of the colour of a level. -/
def codes : LogLevel → String
  | .error => "31"
  | .warn => "33"
  | .info => "32"
  | .debug => "34"
  | .trace => "35"

end LogLevel

/-- Something that happened and may be logged. -/
structure LogEvent where
  /-- How verbose a log must be to show the event. -/
  level : LogLevel
  /-- What the event belongs to. -/
  target : String
  /-- What happened. -/
  message : String
  /-- Names and texts of the details. -/
  fields : List (String × String)
  deriving DecidableEq, Repr

namespace LogEvent

/-- A character inside a quoted field: one that would not be seen on its own is written as its
code. -/
def escapeField (c : Char) : List Char :=
  if c = '\x22' ∨ c = '\\' then ['\\', c]
  else if isCombining c || isIgnorable c then
    ['\\', 'u', '\x7b'] ++ Nat.toDigits 16 c.toNat ++ ['\x7d']
  else [c]

/-- A field between double quotes, so that every character of it is seen. -/
def quotedField (text : String) : String :=
  "\x22" ++ String.ofList (text.toList.flatMap escapeField) ++ "\x22"

/-- The instant of an event in Coordinated Universal Time, in microseconds. -/
def time (instant : Instant) : String :=
  instant.utcTime.text ++ "." ++ padded 6 (instant.utcTime.nanosecond / 1000) ++ "Z"

/-- A text between sequences for the given codes, if styles are shown at all. -/
def styled (shown : Bool) (codes text : String) : String :=
  if shown then Style.turnOn codes ++ text ++ Style.turnOff else text

/-- A field with its name. -/
def fieldText (shown : Bool) (field : String × String) : String :=
  " " ++ styled shown "3" field.1 ++ styled shown "2" "=" ++ field.2

/-- The **line of an event**. -/
def line (shown : Bool) (instant : Instant) (event : LogEvent) : String :=
  styled shown "2" (time instant) ++ " " ++ styled shown event.level.codes event.level.label ++
    " " ++ styled shown "2" event.target ++ styled shown "2" ":" ++ " " ++ event.message ++
    String.join (event.fields.map (fieldText shown)) ++ "\n"

end LogEvent

end SchemaEvolution
