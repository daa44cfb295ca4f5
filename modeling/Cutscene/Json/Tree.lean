/-!
# Documents as they were read

`Tree` is what the characters of a JSON text stand for, also when the text breaks off or goes
wrong: a tree keeps the faults at the places where they were met, so that whoever walks it from
left to right meets its faults and its own objections in the order of the text. A value that is
passed over is held to fewer rules than one that is read, so a fault may have two causes.
-/

namespace Cutscene.Json

/-- What can be wrong with the characters of a document. -/
inductive SyntaxError where
  | endInList
  | endInObject
  | endInString
  | endInValue
  | expectedColon
  | expectedListEnd
  | expectedObjectEnd
  | expectedWord
  | expectedValue
  | badEscape
  | badNumber
  | numberTooLarge
  | controlCharacter
  | keyNotText
  | loneSurrogate
  | cutSurrogatePair
  | trailingComma
  | trailingCharacters
  | tooDeep
  deriving DecidableEq, Repr

/-- The wording of a syntax error. -/
def SyntaxError.message : SyntaxError → String
  | endInList => "EOF while parsing a list"
  | endInObject => "EOF while parsing an object"
  | endInString => "EOF while parsing a string"
  | endInValue => "EOF while parsing a value"
  | expectedColon => "expected `:`"
  | expectedListEnd => "expected `,` or `]`"
  | expectedObjectEnd => "expected `,` or `\x7d`"
  | expectedWord => "expected ident"
  | expectedValue => "expected value"
  | badEscape => "invalid escape"
  | badNumber => "invalid number"
  | numberTooLarge => "number out of range"
  | controlCharacter => "control character (\\u0000-\\u001F) found while parsing a string"
  | keyNotText => "key must be a string"
  | loneSurrogate => "lone leading surrogate in hex escape"
  | cutSurrogatePair => "unexpected end of hex escape"
  | trailingComma => "trailing comma"
  | trailingCharacters => "trailing characters"
  | tooDeep => "recursion limit exceeded"

/-- A syntax error and the number of bytes of the text behind the place where it is reported. -/
structure Fault where
  cause : SyntaxError
  unread : Nat
  deriving DecidableEq, Repr

/-- A number of a document: whole numbers of 64 bits are kept exactly, all others are floating
point. -/
inductive Number where
  | int (value : Int)
  | float (value : Float)
  deriving DecidableEq

/-- How the list of a container's entries stops: at its closing bracket, or at a fault, which may
have another cause when the container is passed over. -/
inductive Stop where
  | closed
  | cut (reading passing : Fault)
  deriving DecidableEq

/-- A document as it was read. -/
inductive Tree where
  | null
  | bool (value : Bool)
  | number (value : Except Fault Number)
  | text (value : Except Fault String)
  | list (items : List Tree) (stop : Stop)
  | object (members : List (Except Fault String × Tree)) (stop : Stop)
  /-- A container below too many others to be read; it can be passed over. -/
  | buried (unread : Nat) (container : Tree)
  /-- No value, because the text ends here. -/
  | absent
  /-- No value, because the characters are none: reading stopped here. -/
  | broken (reading passing : Fault)

/-- A document without faults. -/
inductive Value where
  | null
  | bool (value : Bool)
  | number (value : Number)
  | text (value : String)
  | list (items : List Value)
  | object (members : List (String × Value))

namespace Tree

/-- Whether reading may go on behind this tree. -/
def isComplete : Tree → Bool
  | .absent => false
  | .broken _ _ => false
  | .list _ stop => stop == .closed
  | .object _ stop => stop == .closed
  | .buried _ container => container.isComplete
  | _ => true

mutual

/-- The document, or the first fault that a reader of all of it meets. -/
def read : Tree → Except Fault Value
  | .null => .ok .null
  | .bool b => .ok (.bool b)
  | .number n => n.map .number
  | .text s => s.map .text
  | .list items stop => do
    let values ← readItems items
    match stop with
    | .closed => return .list values
    | .cut fault _ => throw fault
  | .object members stop => do
    let values ← readMembers members
    match stop with
    | .closed => return .object values
    | .cut fault _ => throw fault
  | .buried unread _ => .error ⟨.tooDeep, unread⟩
  | .absent => .error ⟨.endInValue, 0⟩
  | .broken fault _ => .error fault

/-- The items of a list, up to the first fault. -/
def readItems : List Tree → Except Fault (List Value)
  | [] => .ok []
  | t :: rest => do
    let value ← t.read
    let values ← readItems rest
    return value :: values

/-- The members of an object, up to the first fault. -/
def readMembers : List (Except Fault String × Tree) → Except Fault (List (String × Value))
  | [] => .ok []
  | (key, t) :: rest => do
    let key ← key
    let value ← t.read
    let values ← readMembers rest
    return (key, value) :: values

end

/-- The fault at the end of a container that is passed over. -/
def passingStop : Stop → Option Fault
  | .closed => none
  | .cut _ fault => some fault

mutual

/-- The first fault that is met when the document is passed over: depth, the size of numbers and
surrogates do not matter then. -/
def passingFault : Tree → Option Fault
  | .list items stop => (passingItems items).or (passingStop stop)
  | .object members stop => (passingMembers members).or (passingStop stop)
  | .buried _ container => container.passingFault
  | .absent => some ⟨.endInValue, 0⟩
  | .broken _ fault => some fault
  | _ => none

/-- The first fault among the items of a list. -/
def passingItems : List Tree → Option Fault
  | [] => none
  | t :: rest => t.passingFault.or (passingItems rest)

/-- The first fault among the members of an object. A key that can be read to its end is none. -/
def passingMembers : List (Except Fault String × Tree) → Option Fault
  | [] => none
  | (_, t) :: rest => t.passingFault.or (passingMembers rest)

end

end Tree

end Cutscene.Json
