import Cutscene.Decimal.Shortest
/-!
# Writing floating-point numbers

A `Layout` holds the decisions that one written form makes about the shortest digits of a number:
where positional notation ends, whether a whole number keeps `.0`, how an exponent is written and
what stands for the values that are no numbers. `Layout.float` and `Layout.float32` write a number
in a layout; `fixedPlaces` writes a number with a fixed number of decimal places.
-/

namespace Cutscene.Decimal

/-- The decisions of one written form of floating-point numbers. -/
structure Layout where
  /-- The least and the greatest power of ten of the first digit that are written positionally;
  without bounds every number is. -/
  positional : Option (Int × Int)
  /-- A whole number written positionally ends in `.0`. -/
  keepsPoint : Bool
  /-- A positive exponent has a plus sign. -/
  signsExponent : Bool
  /-- Which of two equally near decimals is written. -/
  tie : Tie
  infinity : String
  nan : String

/-- The digits of a number written out without an exponent. -/
def Scaled.positional (x : Scaled) (keepsPoint : Bool) : String :=
  let digits := digitsOf x.coefficient
  if 0 ≤ x.scale then
    let whole := digits ++ List.replicate (if x.coefficient = 0 then 0 else x.scale.toNat) '0'
    String.ofList (whole ++ if keepsPoint then ['.', '0'] else [])
  else
    let places := (-x.scale).toNat
    let padded := List.replicate (places + 1 - digits.length) '0' ++ digits
    let split := padded.length - places
    String.ofList (padded.take split ++ '.' :: padded.drop split)

/-- The digits of a number with one digit before the point and an exponent. -/
def Scaled.exponential (x : Scaled) (signsExponent : Bool) : String :=
  let digits := digitsOf x.coefficient
  let power : Int := x.scale + (digits.length - 1 : Nat)
  let fraction := digits.drop 1
  let sign := if power < 0 then ['-'] else if signsExponent then ['+'] else []
  String.ofList (digits.take 1 ++ (if fraction.isEmpty then [] else '.' :: fraction)
    ++ 'e' :: sign ++ digitsOf power.natAbs)

namespace Layout

/-- The text of a magnitude, chosen between the two notations by the power of its first digit. -/
def magnitude (l : Layout) (x : Scaled) : String :=
  let power : Int := x.scale + ((digitsOf x.coefficient).length - 1 : Nat)
  match l.positional with
  | none => x.positional l.keepsPoint
  | some (least, greatest) =>
    if x.coefficient = 0 ∨ (least ≤ power ∧ power ≤ greatest) then x.positional l.keepsPoint
    else x.exponential l.signsExponent

/-- The text of a number given by its parts; a negative zero keeps its sign. -/
def parts (l : Layout) : Parts → String
  | .nan => l.nan
  | .infinite negative => (if negative then "-" else "") ++ l.infinity
  | .finite negative mantissa exponent narrowBelow =>
    (if negative then "-" else "") ++ l.magnitude (shortest l.tie mantissa exponent narrowBelow)

/-- The text of a double-precision number. -/
def float (l : Layout) (x : Float) : String :=
  l.parts (.ofFloat x)

/-- The text of a single-precision number. -/
def float32 (l : Layout) (x : Float32) : String :=
  l.parts (.ofFloat32 x)

end Layout

/-- The plain form: the shortest digits, always written out. -/
def plain : Layout :=
  { positional := none, keepsPoint := false, signsExponent := false, tie := .up
    infinity := "inf", nan := "NaN" }

/-- The form of diagnostics: very large and very small numbers have an exponent, and a number
without one always has a point. -/
def diagnostic : Layout :=
  { positional := some (-4, 15), keepsPoint := true, signsExponent := false, tie := .up
    infinity := "inf", nan := "NaN" }

/-- The quotient rounded to the nearest whole number; a half goes to the even neighbour. -/
def roundHalfEven (numerator denominator : Nat) : Nat :=
  let below := numerator / denominator
  let twice := 2 * (numerator % denominator)
  if twice < denominator then below
  else if denominator < twice then below + 1
  else if below % 2 = 0 then below else below + 1

/-- A number with exactly `places` decimal places. The exact value is rounded once, and a half
goes to the even neighbour. -/
def fixedPlaces (places : Nat) (x : Float) : String :=
  match Parts.ofFloat x with
  | .nan => "NaN"
  | .infinite negative => (if negative then "-" else "") ++ "inf"
  | .finite negative mantissa exponent _ =>
    let hundredths := roundHalfEven (mantissa * Nat.pow 2 exponent.toNat * Nat.pow 10 places)
      (Nat.pow 2 (-exponent).toNat)
    (if negative then "-" else "")
      ++ Scaled.positional ⟨hundredths, -(places : Int)⟩ false

example : plain.float 0.1 = "0.1" := by decide +kernel
example : plain.float 1e21 = "1000000000000000000000" := by decide +kernel
example : diagnostic.float 1e16 = "1e16" := by decide +kernel
example : diagnostic.float (-0.0) = "-0.0" := by decide +kernel
example : fixedPlaces 2 0.125 = "0.12" := by decide +kernel
example : fixedPlaces 2 (-0.001) = "-0.00" := by decide +kernel

end Cutscene.Decimal
