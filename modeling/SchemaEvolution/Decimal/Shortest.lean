/-! # Shortest decimals
A binary floating-point number `m · 2 ^ q` stands for all reals that round to it. The **shortest
decimal** of the number is the decimal of fewest digits in that interval, the nearest one if there
are several, the larger one on a tie. All comparisons are made in natural numbers. -/

namespace SchemaEvolution

/-- The decimal `significand · 10 ^ exponent`. -/
structure Decimal where
  /-- The digits as a number. -/
  significand : Nat
  /-- The power of ten by which they are scaled. -/
  exponent : Int
  deriving DecidableEq, Repr

/-- The positive number `m · 2 ^ q`, with the spacing below it halved at a power of two. -/
structure BinaryValue where
  /-- The integral significand `m`. -/
  significand : Nat
  /-- The power of two `q`. -/
  exponent : Int
  /-- Whether the neighbour below is half as far away as the neighbour above. -/
  nearBelow : Bool
  deriving DecidableEq, Repr

namespace BinaryValue

/-- The finite positive number whose bits without the sign are given: 52 bits of significand below
11 bits of exponent. -/
def ofMagnitude (bits : Nat) : BinaryValue :=
  let field := bits / Nat.pow 2 52
  let fraction := bits % Nat.pow 2 52
  if field = 0 then ⟨fraction, -1074, false⟩
  else ⟨Nat.pow 2 52 + fraction, Int.ofNat field - 1075, fraction == 0 && field != 1⟩

/-- The denominator of quarter units of the number: `value = 4 · significand · quarterScale`. -/
def denominator (value : BinaryValue) : Nat := Nat.pow 2 (2 - value.exponent).toNat

/-- The factor of quarter units of the number. -/
def factor (value : BinaryValue) : Nat := Nat.pow 2 (value.exponent - 2).toNat

/-- The number as a fraction over `denominator`. -/
def numerator (value : BinaryValue) : Nat := 4 * value.significand * value.factor

/-- The lower end of the interval that rounds to the number, over `denominator`. -/
def lowerEnd (value : BinaryValue) : Nat :=
  (4 * value.significand - (if value.nearBelow then 1 else 2)) * value.factor

/-- The upper end of the interval that rounds to the number, over `denominator`. -/
def upperEnd (value : BinaryValue) : Nat := (4 * value.significand + 2) * value.factor

/-- Whether the fraction `num / den` rounds to the number. The ends of the interval belong to it
exactly when the significand is even. -/
def roundsHere (value : BinaryValue) (num den : Nat) : Bool :=
  let lower := value.lowerEnd * den
  let upper := value.upperEnd * den
  let point := num * value.denominator
  if value.significand % 2 = 0 then lower ≤ point && point ≤ upper
  else lower < point && point < upper

/-- The number of decimal digits of a natural number. -/
def digitCount (n : Nat) : Nat := (Nat.toDigits 10 n).length

/-- The number of digits before the decimal point; at most zero for numbers below a tenth. -/
def magnitude (value : BinaryValue) : Int :=
  let whole := value.numerator / value.denominator
  if whole ≠ 0 then digitCount whole
  else
    let inverse := (value.denominator + value.numerator - 1) / value.numerator
    1 - Int.ofNat (digitCount (inverse - 1))

/-- The power of ten as a fraction. -/
def powerOfTen (exponent : Int) : Nat × Nat :=
  (Nat.pow 10 exponent.toNat, Nat.pow 10 (-exponent).toNat)

/-- The decimal on the grid of a power of ten that rounds to the number, if one of the two grid
points next to the number does; the nearer one of two, the larger one on a tie. -/
def onGrid? (value : BinaryValue) (exponent : Int) : Option Decimal :=
  let (up, down) := powerOfTen exponent
  let num := value.numerator * down
  let den := value.denominator * up
  let below := num / den
  let above := below + 1
  let accepts (n : Nat) : Bool := value.roundsHere (n * up) down
  match accepts below, accepts above with
  | true, false => some ⟨below, exponent⟩
  | false, true => some ⟨above, exponent⟩
  | true, true =>
    if num - below * den < above * den - num then some ⟨below, exponent⟩
    else some ⟨above, exponent⟩
  | false, false => none

/-- The **shortest decimal** of a number. Seventeen digits are always enough. -/
def shortest (value : BinaryValue) : Decimal :=
  let grids := (List.range 17).map fun n => value.magnitude - Int.ofNat (n + 1)
  (grids.findSome? value.onGrid?).getD ⟨value.significand, value.exponent⟩

end BinaryValue

end SchemaEvolution
