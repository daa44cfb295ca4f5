import Cutscene.Json.Tree
import Cutscene.Text.Blank
/-!
# Reading numbers

`Numeral.scan` cuts a number off a text; `Numeral.value` says what it stands for. A whole number
of 64 bits is exact. Any other number is the quotient or the product of two floating-point numbers,
its leading digits as far as they fit 64 bits and a power of ten, and so can be one unit in the last
place away from the nearest one.
-/

namespace Cutscene.Json

open Text (byteLength)

/-- A number as it is written. -/
structure Numeral where
  negative : Bool
  whole : List Char
  fraction : Option (List Char)
  /-- The sign of the exponent, `true` for minus, and its digits. -/
  exponent : Option (Bool × List Char)
  deriving DecidableEq, Repr

/-- The digits at the start of a text and the text behind them. -/
def digitRun (cs : List Char) : List Char × List Char :=
  (cs.takeWhile Char.isDigit, cs.dropWhile Char.isDigit)

/-- The value of a digit. -/
def digitValue (c : Char) : Nat :=
  c.toNat - '0'.toNat

namespace Numeral

/-- The fault of a number that breaks off: at the end of the text a reader misses more of a value,
and one who passes over finds the number bad; anywhere else both find it bad. -/
def breakOff (rest : List Char) : Fault × Fault :=
  match rest with
  | [] => (⟨.endInValue, 0⟩, ⟨.badNumber, 0⟩)
  | rest => (⟨.badNumber, byteLength rest - 1⟩, ⟨.badNumber, byteLength rest - 1⟩)

/-- The digits before the point: a zero stands alone. -/
def scanWhole (cs : List Char) : Except (Fault × Fault) (List Char × List Char) :=
  match cs with
  | '0' :: rest =>
    match rest with
    | c :: _ => if c.isDigit then .error (breakOff rest) else .ok (['0'], rest)
    | [] => .ok (['0'], rest)
  | cs =>
    match digitRun cs with
    | ([], rest) => .error (breakOff rest)
    | (digits, rest) => .ok (digits, rest)

/-- The point and the digits behind it, if there is a point. -/
def scanFraction (cs : List Char) : Except (Fault × Fault) (Option (List Char) × List Char) :=
  match cs with
  | '.' :: cs =>
    match digitRun cs with
    | ([], rest) => .error (breakOff rest)
    | (digits, rest) => .ok (some digits, rest)
  | cs => .ok (none, cs)

/-- The digits of an exponent behind its sign. -/
def scanPower (negative : Bool) (cs : List Char) :
    Except (Fault × Fault) (Option (Bool × List Char) × List Char) :=
  match digitRun cs with
  | ([], rest) => .error (breakOff rest)
  | (digits, rest) => .ok (some (negative, digits), rest)

/-- The exponent, if there is one. -/
def scanExponent (cs : List Char) :
    Except (Fault × Fault) (Option (Bool × List Char) × List Char) :=
  match cs with
  | c :: cs' =>
    if c = 'e' ∨ c = 'E' then
      match cs' with
      | '+' :: cs => scanPower false cs
      | '-' :: cs => scanPower true cs
      | cs => scanPower false cs
    else .ok (none, cs)
  | [] => .ok (none, [])

/-- Cuts a number off a text that stands behind its sign; an error holds the fault of reading and
the fault of passing over. -/
def scan (negative : Bool) (cs : List Char) :
    Except (Fault × Fault) (Numeral × List Char) := do
  let (whole, cs) ← scanWhole cs
  let (fraction, cs) ← scanFraction cs
  let (exponent, cs) ← scanExponent cs
  return (⟨negative, whole, fraction, exponent⟩, cs)

/-- Appends digits to a number while it fits 64 bits; the digits that do not fit are left. -/
def gather (n : Nat) : List Char → Nat × List Char
  | [] => (n, [])
  | c :: cs =>
    if n * 10 + digitValue c < UInt64.size then gather (n * 10 + digitValue c) cs else (n, c :: cs)

/-- An exponent of at most 31 bits, or the digits behind the one with which it outgrows them. -/
def power (n : Nat) : List Char → Except (List Char) Nat
  | [] => .ok n
  | c :: cs =>
    if n * 10 + digitValue c < UInt32.size / 2 then power (n * 10 + digitValue c) cs else .error cs

/-- `x * 10 ^ e`, in one step where `10 ^ |e|` is a floating-point number and in steps of
`10 ^ 308` below that; without a value when it is too large. -/
def scale (x : Float) (e : Int) : (fuel : Nat) → Option Float
  | 0 => some 0
  | fuel + 1 =>
    if e.natAbs ≤ 308 then
      if 0 ≤ e then
        let y := x * Float.ofScientific 1 false e.natAbs
        if y.isInf then none else some y
      else some (x / Float.ofScientific 1 false e.natAbs)
    else if x == 0 then some x
    else if 0 ≤ e then none
    else scale (x / Float.ofScientific 1 false 308) (e + 308) fuel

/-- The floating-point number `± n * 10 ^ e`. -/
def scaled (negative : Bool) (n : Nat) (e : Int) : Option Float :=
  (scale (UInt64.ofNat n).toFloat e (e.natAbs / 308 + 1)).map
    fun x => if negative then -x else x

/-- The whole number `± n` for an `n` of 64 bits: floating point where the sign leaves the range
of 64 bits and for a negative zero. -/
def wholeNumber (negative : Bool) (n : Nat) : Number :=
  if !negative then .int n
  else if n = 0 ∨ UInt64.size / 2 < n then .float (-(UInt64.ofNat n).toFloat)
  else .int (-n)

/-- What a number stands for; `rest` is the text behind it. -/
def value (x : Numeral) (rest : List Char) : Except Fault Number :=
  let (n, excess) := gather 0 x.whole
  match x.fraction, x.exponent, excess with
  | none, none, [] => .ok (wholeNumber x.negative n)
  | fraction, exponent, excess =>
    let (n, e) : Nat × Int :=
      match fraction with
      | none => (n, excess.length)
      | some digits =>
        let (m, left) := gather n digits
        (m, excess.length - (digits.length - left.length : Nat))
    let tooLarge (unread : Nat) : Except Fault Number := .error ⟨.numberTooLarge, unread⟩
    let float (e : Int) : Except Fault Number :=
      match scaled x.negative n e with
      | some y => .ok (.float y)
      | none => tooLarge (byteLength rest)
    match exponent with
    | none => float e
    | some (below, digits) =>
      match power 0 digits with
      | .ok p => float (if below then e - p else e + p)
      | .error left =>
        if n ≠ 0 ∧ !below then tooLarge (left.length + byteLength rest)
        else .ok (.float (if x.negative then -0.0 else 0.0))

end Numeral

namespace Number

/-- The number in double precision. -/
def toFloat : Number → Float
  | .int n =>
    if 0 ≤ n then (UInt64.ofNat n.toNat).toFloat else -(UInt64.ofNat n.natAbs).toFloat
  | .float x => x

/-- The nearest number in single precision, between two of them the even one. -/
def narrow (x : Float) : Float32 :=
  let nearest := match Float.Model.UnpackedFloat.unpack .binary64 x.toBits.toBitVec with
    | .finite sign mantissa exponent _ =>
      Float.Model.UnpackedFloat.round .binary32 sign mantissa exponent
    | special => special
  .ofBits (.ofBitVec (nearest.pack .binary32))

/-- The number in single precision; a whole number is rounded once. -/
def toFloat32 : Number → Float32
  | .int n =>
    if 0 ≤ n then (UInt64.ofNat n.toNat).toFloat32 else -(UInt64.ofNat n.natAbs).toFloat32
  | .float x => narrow x

example : toFloat32 (.float 0.1) = 0.1 := by rfl

end Number

end Cutscene.Json
