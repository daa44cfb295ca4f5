/-!
# UTF-8

Reading bytes as text. Text is refused at the first byte that begins no character, and the refusal
says how many bytes were seen to be wrong, or that the bytes ended inside a character.
-/

namespace Cutscene.Text.Utf8

/-- Why bytes are no text; `start` is the index of the first byte outside the readable part. -/
inductive Fault where
  | invalid (start length : Nat)
  | incomplete (start : Nat)
  deriving DecidableEq, Repr

/-- The wording of a fault. -/
def Fault.message : Fault → String
  | .invalid start length =>
    s!"invalid utf-8 sequence of {toString length} bytes from index {toString start}"
  | .incomplete start => s!"incomplete utf-8 byte sequence from index {toString start}"

/-- A byte inside a character, after its first. -/
def isContinuation (b : UInt8) : Bool :=
  0x80 ≤ b && b ≤ 0xBF

/-- The bytes that may follow the first byte of a character of three or four bytes. -/
def secondRange (first : UInt8) : UInt8 × UInt8 :=
  if first = 0xE0 then (0xA0, 0xBF)
  else if first = 0xED then (0x80, 0x9F)
  else if first = 0xF0 then (0x90, 0xBF)
  else if first = 0xF4 then (0x80, 0x8F)
  else (0x80, 0xBF)

/-- Whether `second` may follow `first`. -/
def mayFollow (first second : UInt8) : Bool :=
  (secondRange first).1 ≤ second && second ≤ (secondRange first).2

/-- The first place where the bytes are no text; `start` counts the bytes passed so far. -/
def firstFault (start : Nat) : List UInt8 → Option Fault
  | [] => none
  | a :: rest =>
    if a < 0x80 then firstFault (start + 1) rest
    else if 0xC2 ≤ a ∧ a ≤ 0xDF then
      match rest with
      | [] => some (.incomplete start)
      | b :: rest =>
        if isContinuation b then firstFault (start + 2) rest else some (.invalid start 1)
    else if 0xE0 ≤ a ∧ a ≤ 0xEF then
      match rest with
      | [] => some (.incomplete start)
      | [b] => some (if mayFollow a b then .incomplete start else .invalid start 1)
      | b :: c :: rest =>
        if !mayFollow a b then some (.invalid start 1)
        else if isContinuation c then firstFault (start + 3) rest
        else some (.invalid start 2)
    else if 0xF0 ≤ a ∧ a ≤ 0xF4 then
      match rest with
      | [] => some (.incomplete start)
      | [b] => some (if mayFollow a b then .incomplete start else .invalid start 1)
      | [b, c] =>
        some (if !mayFollow a b then .invalid start 1
          else if isContinuation c then .incomplete start else .invalid start 2)
      | b :: c :: d :: rest =>
        if !mayFollow a b then some (.invalid start 1)
        else if !isContinuation c then some (.invalid start 2)
        else if isContinuation d then firstFault (start + 4) rest
        else some (.invalid start 3)
    else some (.invalid start 1)

/-- Reads bytes as text. -/
def decode (bytes : ByteArray) : Except Fault String :=
  match String.fromUTF8? bytes with
  | some text => .ok text
  | none => .error ((firstFault 0 bytes.toList).getD (.invalid 0 1))

example : (firstFault 0 [0x61, 0xFF]) = some (.invalid 1 1) := by decide
example : (firstFault 0 [0xE6, 0x97]) = some (.incomplete 0) := by decide
example : (firstFault 0 [0xED, 0xA0, 0x80]) = some (.invalid 0 1) := by decide

end Cutscene.Text.Utf8
