import Cutscene.Json.Reader
import Cutscene.Json.Writer
/-!
# Problems with a document

A problem has a cause and a place. Most places are given by the path of a value in the document;
`Place.unread?` finds them again in the text.
-/

namespace Cutscene.Json

open Text (byteLength)

/-- What was found where something else was expected. -/
inductive Found where
  | null
  | bool (value : Bool)
  | number (value : Number)
  | text (value : String)
  | list
  | object
  | bareName
  deriving DecidableEq

/-- The wording of what was found. -/
def Found.message : Found → String
  | null => "null"
  | bool value => "boolean `" ++ (if value then "true" else "false") ++ "`"
  | number (.int n) => "integer `" ++ toString n ++ "`"
  | number (.float x) => "floating point `" ++ floatLayout.float x ++ "`"
  | text s => "string " ++ Text.quoted s
  | list => "sequence"
  | object => "map"
  | bareName => "unit variant"

/-- Why a document is not what it should be. -/
inductive Cause where
  | malformed (error : SyntaxError)
  | wrongKind (found : Found) (expected : String)
  | wrongValue (found : Found) (expected : String)
  | wrongLength (length : Nat) (expected : String)
  | unknownName (name : String) (known : List String)
  | missingField (name : String)
  | repeatedField (name : String)
  /-- An objection of the reader's own. -/
  | refused (reason : String)
  deriving DecidableEq

/-- The wording of a choice between names. -/
def nameChoice (names : List String) : String :=
  let quote (name : String) : String := "`" ++ name ++ "`"
  match names with
  | [] => "nothing"
  | [a] => quote a
  | [a, b] => quote a ++ " or " ++ quote b
  | names => "one of " ++ ", ".intercalate (names.map quote)

/-- The wording of a cause. -/
def Cause.message : Cause → String
  | malformed error => error.message
  | wrongKind found expected => "invalid type: " ++ found.message ++ ", expected " ++ expected
  | wrongValue found expected => "invalid value: " ++ found.message ++ ", expected " ++ expected
  | wrongLength length expected =>
    "invalid length " ++ toString length ++ ", expected " ++ expected
  | unknownName name known =>
    "unknown variant `" ++ name ++ "`, expected " ++ nameChoice known
  | missingField name => "missing field `" ++ name ++ "`"
  | repeatedField name => "duplicate field `" ++ name ++ "`"
  | refused reason => reason

/-- A place at the value that a path leads to. -/
inductive Spot where
  /-- Before the value. -/
  | start
  /-- Behind the value. -/
  | stop
  /-- Behind the value, an item of a list, after a try to close the list. -/
  | settledItem
  /-- Behind the value, a member of an object, after a try to close the object. -/
  | settledMember
  /-- One byte into the item behind the value, an item of a list. -/
  | nextItem
  /-- One byte into the value. -/
  | firstByte
  /-- Behind the key of the value. -/
  | keyStop
  /-- Behind the key of the value, after a try to close the object. -/
  | settledKey
  deriving DecidableEq, Repr

/-- Where a problem is: so many bytes before the end of the text, at a spot of the value that a
path of indices leads to, or at no place of its own. -/
inductive Place where
  | unread (bytes : Nat)
  | spot (path : List Nat) (spot : Spot)
  | nowhere
  deriving DecidableEq, Repr

/-- A problem with a document. -/
structure Problem where
  cause : Cause
  place : Place
  deriving DecidableEq

namespace Problem

/-- A fault of the text. -/
def ofFault (fault : Fault) : Problem :=
  ⟨.malformed fault.cause, .unread fault.unread⟩

/-- A problem at the value under consideration. -/
def here (cause : Cause) (spot : Spot) : Problem :=
  ⟨cause, .spot [] spot⟩

/-- A problem without a place of its own. -/
def placeless (cause : Cause) : Problem :=
  ⟨cause, .nowhere⟩

/-- A problem with the `i`-th entry of a container, seen from the container. -/
def within (i : Nat) (p : Problem) : Problem :=
  match p.place with
  | .spot path spot => { p with place := .spot (i :: path) spot }
  | _ => p

/-- A problem without a place of its own gets the place that the container of the `i`-th entry has
for it. -/
def settle (i : Nat) (settled : Spot) (p : Problem) : Problem :=
  match p.place with
  | .nowhere => { p with place := .spot [i] settled }
  | _ => p.within i

/-- A problem with the `i`-th item of a list. -/
def withinItem (i : Nat) (p : Problem) : Problem :=
  p.settle i .settledItem

/-- A problem with the value of the `i`-th member of an object. -/
def withinMember (i : Nat) (p : Problem) : Problem :=
  p.settle i .settledMember

end Problem

/-- The text from the `i`-th entry of a container on, the key of a member included; `cs` is the
text behind the opening bracket. -/
def entryText (inObject : Bool) : (i : Nat) → List Char → List Char
  | 0, cs => skipSpace cs
  | i + 1, cs =>
    let value := if inObject then valueText (skipSpace cs) else cs
    entryText inObject i ((skipSpace (Tree.scan value).2).drop 1)
where
  /-- The text behind the key and the colon of a member. -/
  valueText (cs : List Char) : List Char :=
    (skipSpace (Literal.scan (cs.drop 1)).2).drop 1

namespace Place

/-- The text behind a try to close a list, and behind the comma that was found instead. -/
def afterItem (cs : List Char) : List Char :=
  match skipSpace cs with
  | ']' :: rest => rest
  | ',' :: rest => skipSpace rest
  | rest => rest

/-- The text behind a try to close an object. -/
def afterMember (cs : List Char) : List Char :=
  match skipSpace cs with
  | '}' :: rest => rest
  | rest => rest

/-- The number of bytes behind a spot of a value; `entry` is the text from the value's entry on and
`value` the text from the value on. -/
def unreadAt (spot : Spot) (entry value : List Char) : Nat :=
  let behindKey := (Literal.scan (entry.drop 1)).2
  match spot with
  | .start => byteLength (skipSpace value)
  | .stop => byteLength (Tree.scan value).2
  | .settledItem => byteLength (afterItem (Tree.scan value).2)
  | .settledMember => byteLength (afterMember (Tree.scan value).2)
  | .nextItem => byteLength (afterItem (Tree.scan value).2) - 1
  | .firstByte => byteLength (skipSpace value) - 1
  | .keyStop => byteLength behindKey
  | .settledKey => byteLength (afterMember behindKey)

/-- Follows a path down from the value at the front of `value`. -/
def follow (spot : Spot) : (path : List Nat) → (entry value : List Char) → Nat
  | [], entry, value => unreadAt spot entry value
  | i :: path, _, value =>
    match skipSpace value with
    | '{' :: rest =>
      let entry := entryText true i rest
      follow spot path entry (entryText.valueText entry)
    | _ :: rest =>
      let entry := entryText false i rest
      follow spot path entry entry
    | [] => 0

/-- The number of bytes of the text behind a place, if the place is one of the text. -/
def unread? (text : List Char) : Place → Option Nat
  | .unread bytes => some bytes
  | .spot path target => some (follow target path text text)
  | .nowhere => none

end Place

/-- A line and a column: lines count from one, and the column is the number of bytes of the line
that were read. -/
structure Location where
  line : Nat
  column : Nat
  deriving DecidableEq, Repr

/-- The location behind the first `bytes` bytes of a text. -/
def Location.after (bytes : Nat) (p : Location) : List Char → Location
  | [] => p
  | c :: cs =>
    if bytes < c.utf8Size then { p with column := p.column + bytes }
    else
      let p := if c = '\n' then ⟨p.line + 1, 0⟩ else { p with column := p.column + c.utf8Size }
      after (bytes - c.utf8Size) p cs

/-- A problem that was found in a text, with its position there if it has one. -/
structure Error where
  cause : Cause
  position : Option Location
  deriving DecidableEq

namespace Error

/-- Finds the position of a problem in a text. -/
def ofProblem (text : List Char) (p : Problem) : Error :=
  ⟨p.cause, (p.place.unread? text).map fun unread =>
    Location.after (byteLength text - unread) ⟨1, 0⟩ text⟩

/-- The line of an error, zero when it has no position. -/
def line (e : Error) : Nat :=
  e.position.elim 0 (·.line)

/-- The column of an error, zero when it has no position. -/
def column (e : Error) : Nat :=
  e.position.elim 0 (·.column)

/-- What is wrong, without the position. -/
def reason (e : Error) : String :=
  e.cause.message

/-- What is wrong and where. -/
def message (e : Error) : String :=
  match e.position with
  | none => e.reason
  | some p => s!"{e.reason} at line {toString p.line} column {toString p.column}"

end Error

end Cutscene.Json
