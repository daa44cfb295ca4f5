/-!
# The exact value of a binary floating-point number

Every finite floating-point number is an integer times a power of two. `Parts.ofFloat` and
`Parts.ofFloat32` read that integer and that power off the bits, so that printing can work in
exact integer arithmetic.
-/

namespace Cutscene.Decimal

/-- What the bits of a floating-point number stand for. A finite number has the magnitude
`mantissa * 2 ^ exponent`; `narrowBelow` says that its neighbour below is only half as far away as
its neighbour above. -/
inductive Parts where
  | nan
  | infinite (negative : Bool)
  | finite (negative : Bool) (mantissa : Nat) (exponent : Int) (narrowBelow : Bool)
  deriving DecidableEq, Repr

namespace Parts

/-- Splits the bits of an interchange format with the given field widths. -/
def ofBits (fractionBits exponentBits bits : Nat) : Parts :=
  let fraction := bits % Nat.pow 2 fractionBits
  let biased := bits / Nat.pow 2 fractionBits % Nat.pow 2 exponentBits
  let negative := bits / Nat.pow 2 (fractionBits + exponentBits) % 2 == 1
  let unit : Int := 1 - (Nat.pow 2 (exponentBits - 1) - 1 : Nat) - fractionBits
  if biased + 1 = Nat.pow 2 exponentBits then
    if fraction = 0 then .infinite negative else .nan
  else if biased = 0 then
    .finite negative fraction unit false
  else
    .finite negative (Nat.pow 2 fractionBits + fraction) (unit + biased - 1)
      (fraction == 0 && 1 < biased)

/-- The parts of a double-precision number. -/
def ofFloat (x : Float) : Parts :=
  ofBits 52 11 x.toBits.toNat

/-- The parts of a single-precision number. -/
def ofFloat32 (x : Float32) : Parts :=
  ofBits 23 8 x.toBits.toNat

example : ofFloat 1.5 = .finite false (3 * 2 ^ 51) (-52) false := by decide
example : ofFloat (-0.0) = .finite true 0 (-1074) false := by decide
example : ofFloat32 2.0 = .finite false (2 ^ 23) (-22) true := by decide

end Parts

end Cutscene.Decimal
