import SchemaEvolution.Decimal.Reading
import SchemaEvolution.Toml.Text
import SchemaEvolution.Toml.Value

/-! # Scalars of TOML
Truth values, integers, floating-point numbers, dates and times, and texts. Underscores may stand
between digits. Integers have 64 bits. -/

namespace SchemaEvolution.Toml

/-! ## Digits -/

/-- Digits of which each but the first may follow an underscore, and what is left. -/
def digitRun (isDigit : Char → Bool) : List Char → List Char × List Char
  | [] => ([], [])
  | [c] => if isDigit c then ([c], []) else ([], [c])
  | c :: d :: cs =>
    if isDigit c then
      let (digits, rest) := digitRun isDigit (d :: cs)
      (c :: digits, rest)
    else if c = '_' ∧ isDigit d then
      let (digits, rest) := digitRun isDigit cs
      (d :: digits, rest)
    else ([], c :: d :: cs)

/-- A digit and the run of digits after it. -/
def digits (isDigit : Char → Bool) : Scan (List Char) := do
  let first ← Scan.satisfy isDigit
  let rest : List Char ← fun cs => some (digitRun isDigit cs)
  return first :: rest

/-- The digits of a decimal integer, which start with a zero only if that is all. -/
def wholeDigits : Scan (List Char) := do
  let first ← Scan.satisfy Char.isDigit
  if first = '0' then return [first]
  let rest : List Char ← fun cs => some (digitRun Char.isDigit cs)
  return first :: rest

/-- A sign, if there is one: whether it makes the number negative. -/
def sign : Scan Bool :=
  (do Scan.char '-'; return true) <|> (do Scan.char '+'; return false) <|> pure false

/-! ## Numbers -/

/-- The bound of the absolute value of an integer. -/
def integerBound : Int := Int.pow 2 63

/-- An integer, if it has at most 64 bits. -/
def boundedInteger (n : Int) : Scan Value :=
  if -integerBound ≤ n ∧ n < integerBound then return .integer n else Scan.refuse

/-- An integer to another base than ten, which a mark after a zero announces. -/
def basedInteger (mark : Char) (base : Nat) : Scan Value := do
  Scan.char '0'
  Scan.char mark
  let ds ← digits fun c => isHexDigit c && hexValue c < base
  boundedInteger (Int.ofNat (ds.foldl (fun n c => base * n + hexValue c) 0))

/-- A power of ten, after the letter that announces it. -/
def exponent : Scan Int := do
  let _ ← Scan.satisfy fun c => c == 'e' || c == 'E'
  let negative ← sign
  let n := Int.ofNat (natOfDigits (← digits Char.isDigit))
  return if negative then -n else n

/-- A decimal number: a floating-point number if it has a fraction or a power of ten, an integer
otherwise. A positive number that is too large is refused. -/
def decimalNumber : Scan Value := do
  let negative ← sign
  let whole ← wholeDigits
  let fraction ← Scan.optional (do Scan.char '.'; digits Char.isDigit)
  let power ← Scan.optional exponent
  if fraction.isNone && power.isNone then
    let n := Int.ofNat (natOfDigits whole)
    boundedInteger (if negative then -n else n)
  else
    let x := floatOfParts negative whole (fraction.getD []) (power.getD 0)
    if x == floatInfinity then Scan.refuse else return .float x

/-- The infinities and the number that is none. -/
def specialNumber : Scan Value := do
  let negative ← sign
  let x ← (do Scan.exactly "inf"; return floatInfinity) <|>
    (do Scan.exactly "nan"; return 0.0 / 0.0)
  return .float (if negative then -x else x)

/-- A number. -/
def number : Scan Value :=
  basedInteger 'x' 16 <|> basedInteger 'o' 8 <|> basedInteger 'b' 2 <|> decimalNumber <|>
    specialNumber

/-! ## Dates and times -/

/-- A number of exactly so many digits within bounds. -/
def field (width least most : Nat) : Scan Nat := fun cs =>
  let ds := cs.take width
  let n := natOfDigits ds
  if ds.length = width ∧ ds.all Char.isDigit ∧ least ≤ n ∧ n ≤ most then some (n, cs.drop width)
  else none

/-- The number of days of a month. -/
def daysInMonth (year month : Nat) : Nat :=
  if month = 2 then
    if year % 4 = 0 ∧ (year % 100 ≠ 0 ∨ year % 400 = 0) then 29 else 28
  else if month = 4 ∨ month = 6 ∨ month = 9 ∨ month = 11 then 30
  else 31

/-- A date. -/
def date : Scan Unit := do
  let year ← field 4 0 9999
  Scan.char '-'
  let month ← field 2 1 12
  Scan.char '-'
  let _ ← field 2 1 (daysInMonth year month)

/-- A time of day. -/
def timeOfDay : Scan Unit := do
  let _ ← field 2 0 23
  Scan.char ':'
  let _ ← field 2 0 59
  Scan.char ':'
  let _ ← field 2 0 60
  let _ ← Scan.optional (do Scan.char '.'; Scan.run1 Char.isDigit)

/-- The offset of a time. -/
def offset : Scan Unit := do
  let utc : Scan Unit := do let _ ← Scan.satisfy fun c => c == 'Z' || c == 'z'
  let hours : Scan Unit := do
    let _ ← Scan.satisfy fun c => c == '+' || c == '-'
    let _ ← field 2 0 23
    Scan.char ':'
    let _ ← field 2 0 59
  utc <|> hours

/-- A date with or without a time, or a time. -/
def moment : Scan Value := do
  let dateAndTime : Scan Unit := do
    date
    let _ ← Scan.optional (do
      let _ ← Scan.satisfy fun c => c == 'T' || c == 't' || c == ' '
      timeOfDay
      Scan.optional offset)
  dateAndTime <|> timeOfDay
  return .moment

/-! ## Scalars -/

/-- A truth value. -/
def truthValue : Scan Value :=
  (do Scan.exactly "true"; return .bool true) <|> (do Scan.exactly "false"; return .bool false)

/-- A scalar. -/
def scalar : Scan Value :=
  ((fun cs => Value.text (String.ofList cs)) <$> anyText) <|> moment <|> number <|> truthValue

end SchemaEvolution.Toml
