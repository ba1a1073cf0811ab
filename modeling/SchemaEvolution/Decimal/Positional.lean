import SchemaEvolution.Decimal.Shortest

/-! # Positional notation
Floating-point numbers are written with their shortest decimal in **positional notation**: digits,
and a point where there are digits after it, never an exponent. -/

namespace SchemaEvolution

/-- Zeros. -/
def zeros (n : Nat) : String := String.ofList (List.replicate n '0')

namespace Decimal

/-- The decimal without zeros at the end of its significand, as long as it has a fraction. -/
def normalize (decimal : Decimal) : Decimal :=
  let digits := Nat.toDigits 10 decimal.significand
  let trailing := (digits.reverse.takeWhile fun c => c == '0').length
  let dropped := min trailing (-decimal.exponent).toNat
  ⟨decimal.significand / Nat.pow 10 dropped, decimal.exponent + Int.ofNat dropped⟩

/-- The digits before the point and those after it. -/
def positionalParts (decimal : Decimal) : String × String :=
  let normal := decimal.normalize
  let digits := toString normal.significand
  match normal.exponent with
  | .ofNat n => (if normal.significand = 0 then "0" else digits ++ zeros n, "")
  | .negSucc n =>
    let places := n + 1
    let padded := zeros (places + 1 - digits.length) ++ digits
    let cs := padded.toList
    (String.ofList (cs.take (cs.length - places)), String.ofList (cs.drop (cs.length - places)))

end Decimal

/-- How a number without a fraction is written. -/
inductive WholeStyle where
  /-- Without a point: `3`. -/
  | bare
  /-- With a point and a zero: `3.0`. -/
  | pointed
  deriving DecidableEq, Repr

/-- A floating-point number in **positional notation**. -/
def positional (style : WholeStyle) (x : Float) : String :=
  let bits := x.toBits.toNat
  let magnitude := bits % Nat.pow 2 63
  let sign := if bits = magnitude then "" else "-"
  if x.isNaN then "NaN"
  else if x.isInf then sign ++ "inf"
  else
    let decimal := if magnitude = 0 then ⟨0, 0⟩ else (BinaryValue.ofMagnitude magnitude).shortest
    let (whole, fraction) := decimal.positionalParts
    let tail :=
      if fraction.isEmpty then
        match style with
        | .bare => ""
        | .pointed => ".0"
      else "." ++ fraction
    sign ++ whole ++ tail

end SchemaEvolution
