import Cutscene.Json.Tree
import Cutscene.Text.Blank
/-!
# Reading text literals

`Literal.scan` reads the characters behind an opening quote. A literal that only stands for no text
because of its surrogates still has an end, so that it can be passed over; any other fault leaves
it open.
-/

namespace Cutscene.Json

open Text (byteLength)

/-- A literal up to its closing quote, or the faults with which reading it and passing it over
stop. -/
inductive Literal where
  | closed (text : Except Fault String)
  | unclosed (reading passing : Fault)

namespace Literal

/-- The character that a backslash and a letter stand for. -/
def shortEscape : Char → Option Char
  | '"' => some '"'
  | '\\' => some '\\'
  | '/' => some '/'
  | 'b' => some '\x08'
  | 'f' => some '\x0c'
  | 'n' => some '\n'
  | 'r' => some '\r'
  | 't' => some '\t'
  | _ => none

/-- The value of a hexadecimal digit. -/
def hexValue (c : Char) : Option Nat :=
  if c.isDigit then some (c.toNat - '0'.toNat)
  else if 'a' ≤ c ∧ c ≤ 'f' then some (c.toNat - 'a'.toNat + 10)
  else if 'A' ≤ c ∧ c ≤ 'F' then some (c.toNat - 'A'.toNat + 10)
  else none

/-- The value of four hexadecimal digits. -/
def hexQuad (a b c d : Char) : Option Nat := do
  let a ← hexValue a
  let b ← hexValue b
  let c ← hexValue c
  let d ← hexValue d
  return ((a * 16 + b) * 16 + c) * 16 + d

/-- The fault of `\u` without four hexadecimal digits behind it: four bytes are taken, if the text
has as many. -/
def quadFault (rest : List Char) : Fault :=
  if byteLength rest < 4 then ⟨.endInString, 0⟩ else ⟨.badEscape, byteLength rest - 4⟩

/-- A code unit that begins a surrogate pair. -/
def isLeading (n : Nat) : Bool :=
  0xD800 ≤ n && n ≤ 0xDBFF

/-- A code unit that ends a surrogate pair. -/
def isTrailing (n : Nat) : Bool :=
  0xDC00 ≤ n && n ≤ 0xDFFF

/-- The character of a surrogate pair. -/
def pairChar (leading trailing : Nat) : Char :=
  Char.ofNat (0x10000 + (leading - 0xD800) * 0x400 + (trailing - 0xDC00))

/-- What was read so far: the characters in reverse or the first fault of reading. -/
abbrev Progress := Except Fault (List Char)

namespace Progress

/-- The literal so far ends here. -/
def close (p : Progress) : Literal :=
  .closed (p.map fun cs => String.ofList cs.reverse)

/-- The literal so far is followed by a fault; an earlier fault comes first for a reader. -/
def stop (p : Progress) (reading passing : Fault) : Literal :=
  match p with
  | .ok _ => .unclosed reading passing
  | .error earlier => .unclosed earlier passing

/-- One more character. -/
def push (p : Progress) (c : Char) : Progress :=
  p.map (c :: ·)

/-- A fault for a reader, who notices the first one only. -/
def fail (p : Progress) (fault : Fault) : Progress :=
  p.bind fun _ => .error fault

/-- One more code unit, behind a leading surrogate that still waits for its partner or not.
Returns the progress and the leading surrogate that waits now. -/
def unit (p : Progress) (waiting : Option Nat) (n unread : Nat) : Progress × Option Nat :=
  match waiting with
  | some leading =>
    if isTrailing n then (p.push (pairChar leading n), none)
    else (p.fail ⟨.loneSurrogate, unread⟩, none)
  | none =>
    if isTrailing n then (p.fail ⟨.loneSurrogate, unread⟩, none)
    else if isLeading n then (p, some n)
    else (p.push (Char.ofNat n), none)

/-- A leading surrogate that waits is not followed by an escape: a fault one byte into `rest`. -/
def abandon (p : Progress) (waiting : Option Nat) (rest : List Char) : Progress :=
  match waiting with
  | some _ => p.fail ⟨.cutSurrogatePair, byteLength rest - 1⟩
  | none => p

end Progress

/-- Reads on to the closing quote; `waiting` is a leading surrogate without its partner. Returns
the text behind the literal too. -/
def go (p : Progress) (waiting : Option Nat) : List Char → Literal × List Char
  | [] => (p.stop ⟨.endInString, 0⟩ ⟨.endInString, 0⟩, [])
  | '"' :: rest => ((p.abandon waiting ('"' :: rest)).close, rest)
  | '\\' :: rest =>
    match rest with
    | [] => (p.stop ⟨.endInString, 0⟩ ⟨.endInString, 0⟩, [])
    | 'u' :: a :: b :: c :: d :: rest =>
      match hexQuad a b c d with
      | some n =>
        let (p, waiting) := p.unit waiting n (byteLength rest)
        go p waiting rest
      | none =>
        let fault := quadFault (a :: b :: c :: d :: rest)
        (p.stop fault fault, rest)
    | 'u' :: rest => (p.stop (quadFault rest) (quadFault rest), rest)
    | e :: rest =>
      let p := p.abandon waiting (e :: rest)
      match shortEscape e with
      | some c => go (p.push c) none rest
      | none =>
        let fault : Fault := ⟨.badEscape, byteLength (e :: rest) - 1⟩
        (p.stop fault fault, rest)
  | c :: rest =>
    let p := p.abandon waiting (c :: rest)
    if c.toNat < 0x20 then
      (p.stop ⟨.controlCharacter, byteLength rest⟩ ⟨.controlCharacter, byteLength (c :: rest)⟩,
        rest)
    else go (p.push c) none rest

/-- Reads a literal behind its opening quote, and the text behind it. -/
def scan (cs : List Char) : Literal × List Char :=
  go (.ok []) none cs

example : scan "a\\u00e9\"x".toList = (.closed (.ok "aé"), ['x']) := by rfl
example : (scan "\\ud83d\\ude00\"".toList).1 = .closed (.ok "😀") := by rfl
example : (scan "\\ud83d\"".toList).1 = .closed (.error ⟨.cutSurrogatePair, 0⟩) := by rfl

end Literal

end Cutscene.Json
