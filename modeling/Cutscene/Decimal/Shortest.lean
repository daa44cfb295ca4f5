import Cutscene.Decimal.Binary
/-!
# The shortest decimal that reads back

A positive number `mantissa * 2 ^ exponent` is the nearest floating-point number to every real in
an interval around it. `shortest` looks for the decimal with the fewest digits in that interval:
for one digit, two digits, and so on it tests the two neighbours of the number on that decimal
grid. Of two hits on one grid the nearer wins, and a tie goes as the caller asks.
-/

namespace Cutscene.Decimal

/-- Which of two equally near decimals is taken. -/
inductive Tie where
  | toEven
  | up
  deriving DecidableEq, Repr

/-- The number `coefficient * 10 ^ scale`. -/
structure Scaled where
  coefficient : Nat
  scale : Int
  deriving DecidableEq, Repr

/-- The decimal digits of a natural number, the most significant first. -/
def digitsOf (n : Nat) : List Char :=
  Nat.toDigits 10 n

/-- Moves the zeros at the end of the coefficient into the scale; `fuel` bounds their number. -/
def Scaled.dropZeros (x : Scaled) : (fuel : Nat) → Scaled
  | 0 => x
  | fuel + 1 =>
    if x.coefficient % 10 = 0 ∧ x.coefficient ≠ 0 then
      dropZeros ⟨x.coefficient / 10, x.scale + 1⟩ fuel
    else x

/-- The fraction `numerator / denominator` as `numerator * 10 ^ k` and `denominator * 10 ^ k` of
integers, with the power of ten on the side where it is whole. -/
def scaleFraction (numerator denominator : Nat) (power : Int) : Nat × Nat :=
  if 0 ≤ power then (numerator * Nat.pow 10 power.toNat, denominator)
  else (numerator, denominator * Nat.pow 10 (-power).toNat)

/-- The number of zeros between the point and the first digit of a fraction below one. -/
def zerosAfterPoint (numerator denominator : Nat) : (fuel : Nat) → Nat
  | 0 => 0
  | fuel + 1 =>
    if numerator * 10 < denominator then
      zerosAfterPoint (numerator * 10) denominator fuel + 1
    else 0

/-- The power of ten just above the fraction: `10 ^ (m - 1) ≤ numerator / denominator < 10 ^ m`. -/
def magnitude (numerator denominator : Nat) : Int :=
  if denominator ≤ numerator then (digitsOf (numerator / denominator)).length
  else -(zerosAfterPoint numerator denominator (denominator.log2 + 1) : Nat)

/-- A number and the interval of reals that round to it, in quarters of its unit in the last
place and over one common denominator. -/
structure Interval where
  low : Nat
  value : Nat
  high : Nat
  denominator : Nat
  closed : Bool

/-- The interval of `mantissa * 2 ^ exponent`; its ends belong to it when the mantissa is even. -/
def Interval.ofParts (mantissa : Nat) (exponent : Int) (narrowBelow : Bool) : Interval :=
  let up := Nat.pow 2 exponent.toNat
  { low := (4 * mantissa - if narrowBelow then 1 else 2) * up
    value := 4 * mantissa * up
    high := (4 * mantissa + 2) * up
    denominator := 4 * Nat.pow 2 (-exponent).toNat
    closed := mantissa % 2 == 0 }

/-- The neighbour of the interval's number on the grid `10 ^ scale` that lies in the interval, if
one does. -/
def Interval.onGrid (i : Interval) (tie : Tie) (scale : Int) : Option Nat :=
  let (step, unit) := scaleFraction i.denominator 1 scale
  let below := i.value * unit / step
  let fits (c : Nat) : Bool :=
    if i.closed then i.low * unit ≤ c * step && c * step ≤ i.high * unit
    else i.low * unit < c * step && c * step < i.high * unit
  let toBelow := i.value * unit - below * step
  let toAbove := (below + 1) * step - i.value * unit
  let preferBelow := toBelow < toAbove ||
    toBelow == toAbove && match tie with
      | .toEven => below % 2 == 0
      | .up => false
  match fits below, fits (below + 1) with
  | true, true => some (if preferBelow then below else below + 1)
  | true, false => some below
  | false, true => some (below + 1)
  | false, false => none

/-- The coarsest grid with a hit, from the power of ten `scale` downwards. -/
def Interval.search (i : Interval) (tie : Tie) (scale : Int) : (fuel : Nat) → Scaled
  | 0 => ⟨i.value / i.denominator, 0⟩
  | fuel + 1 =>
    match i.onGrid tie scale with
    | some c => ⟨c, scale⟩
    | none => i.search tie (scale - 1) fuel

/-- The shortest decimal that rounds to `mantissa * 2 ^ exponent`, without zeros at its end.
Seventeen digits are always enough for double precision. -/
def shortest (tie : Tie) (mantissa : Nat) (exponent : Int) (narrowBelow : Bool) : Scaled :=
  if mantissa = 0 then ⟨0, 0⟩
  else
    let i := Interval.ofParts mantissa exponent narrowBelow
    (i.search tie (magnitude i.value i.denominator - 1) 18).dropZeros 20

example : shortest .toEven 1 (-1074) false = ⟨5, -324⟩ := by decide +kernel
example : shortest .toEven 5 0 false = ⟨5, 0⟩ := by decide +kernel

end Cutscene.Decimal
