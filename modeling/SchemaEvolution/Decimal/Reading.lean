/-! # Reading decimals
A decimal is read as the nearest floating-point number. Exponents far beyond the range of the format
are settled first, so that no huge power is ever formed. -/

namespace SchemaEvolution

/-- The value of a decimal digit. -/
def digitValue (c : Char) : Nat := c.toNat - '0'.toNat

/-- The number that a text of decimal digits denotes. -/
def natOfDigits (cs : List Char) : Nat := cs.foldl (fun n c => 10 * n + digitValue c) 0

/-- The positive infinity. -/
def floatInfinity : Float := 1.0 / 0.0

/-- The floating-point number nearest to `significand · 10 ^ exponent`. -/
def nearestFloat (significand : Nat) (exponent : Int) : Float :=
  let top := Int.ofNat (Nat.toDigits 10 significand).length + exponent
  if significand = 0 then 0.0
  else if top > 400 then floatInfinity
  else if top < -400 then 0.0
  else
    match exponent with
    | .ofNat n => Float.ofScientific significand false n
    | .negSucc n => Float.ofScientific significand true (n + 1)

/-- The floating-point number that is nearest to a decimal written as digits before the point,
digits after it and a power of ten. -/
def floatOfParts (negative : Bool) (whole fraction : List Char) (power : Int) : Float :=
  let x := nearestFloat (natOfDigits (whole ++ fraction)) (power - Int.ofNat fraction.length)
  if negative then -x else x

/-! ## Numbers as text -/

/-- A sign at the front of a text: whether it makes a number negative, and what follows it. -/
def splitSign : List Char → Bool × List Char
  | [] => (false, [])
  | c :: cs => if c = '-' then (true, cs) else if c = '+' then (false, cs) else (false, c :: cs)

/-- The power of ten that a text states: nothing, or a letter, an optional sign and digits. -/
def powerOfText? : List Char → Option Int
  | [] => some 0
  | c :: cs =>
    let (negative, ds) := splitSign cs
    if c.toLower = 'e' ∧ !ds.isEmpty ∧ ds.all Char.isDigit then
      let n := Int.ofNat (natOfDigits ds)
      some (if negative then -n else n)
    else none

/-- The positive number that a text of digits with an optional point and an optional power of ten
states. There must be a digit before the point or after it. -/
def unsignedOfText? (negative : Bool) (cs : List Char) : Option Float :=
  let whole := cs.takeWhile Char.isDigit
  let rest := cs.dropWhile Char.isDigit
  let (fraction, rest) :=
    match rest with
    | '.' :: more => (more.takeWhile Char.isDigit, more.dropWhile Char.isDigit)
    | _ => ([], rest)
  if whole.isEmpty && fraction.isEmpty then none
  else (powerOfText? rest).map fun power => floatOfParts negative whole fraction power

/-- The **floating-point number that a text states**: a decimal number, `inf`, `infinity` or `nan`,
in any case, after an optional sign. -/
def floatOfText? (text : String) : Option Float :=
  let (negative, cs) := splitSign text.toList
  let word := String.ofList (cs.map Char.toLower)
  let withSign (x : Float) : Float := if negative then -x else x
  if word = "inf" ∨ word = "infinity" then some (withSign floatInfinity)
  else if word = "nan" then some (withSign (0.0 / 0.0))
  else unsignedOfText? negative cs

end SchemaEvolution
