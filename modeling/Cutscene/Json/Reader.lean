import Cutscene.Json.Literal
import Cutscene.Json.Number
/-!
# Reading a document

`Tree.scan` reads one value off the front of a text and never fails: what goes wrong becomes part
of the tree. The reader stops at the first fault that also whoever passes over the value would meet.
-/

namespace Cutscene.Json

open Text (byteLength)

/-- The characters that may stand between the parts of a document. -/
def isSpace (c : Char) : Bool :=
  c == ' ' || c == '\t' || c == '\n' || c == '\r'

/-- A text without the space at its front. -/
def skipSpace (cs : List Char) : List Char :=
  cs.dropWhile isSpace

/-- The fault that is reported one byte into a text, or at its end when there is no more of it. -/
def peekFault (cause : SyntaxError) (rest : List Char) : Fault :=
  ⟨cause, byteLength rest - 1⟩

/-- How many containers may stand inside one another. -/
def depthLimit : Nat := 127

namespace Tree

/-- A tree for a place where a reader and one who passes over stop for the same reason. -/
def broke (fault : Fault) : Tree :=
  .broken fault fault

/-- The rest of a word that stands for the tree `t`. -/
def scanWord (t : Tree) : (word : List Char) → List Char → Tree × List Char
  | [], rest => (t, rest)
  | _ :: _, [] => (broke ⟨.endInValue, 0⟩, [])
  | w :: word, c :: rest =>
    if w = c then scanWord t word rest else (broke (peekFault .expectedWord (c :: rest)), rest)

/-- A number behind its sign. -/
def scanNumber (negative : Bool) (cs : List Char) : Tree × List Char :=
  match Numeral.scan negative cs with
  | .ok (numeral, rest) => (.number (numeral.value rest), rest)
  | .error (reading, passing) => (.broken reading passing, cs)

/-- A text behind its opening quote. -/
def scanText (cs : List Char) : Tree × List Char :=
  match Literal.scan cs with
  | (.closed content, rest) => (.text content, rest)
  | (.unclosed reading passing, rest) => (.broken reading passing, rest)

/-- A container that opens at `opening` with `depth` containers around it. The first one beyond the
limit is buried, and what it holds is buried with it. -/
def bury (depth : Nat) (opening : List Char) (container : Tree) : Tree :=
  if depth = depthLimit then .buried (byteLength opening - 1) container else container

/-- A list stops here, with the text behind it, or the next item begins. -/
def nextItem (first : Bool) (cs : List Char) : Except (Stop × List Char) (List Char) :=
  let same (fault : Fault) : Stop := .cut fault fault
  match skipSpace cs with
  | [] => .error (same ⟨.endInList, 0⟩, [])
  | ']' :: rest => .error (.closed, rest)
  | c :: rest =>
    if first then .ok (c :: rest)
    else if c = ',' then
      match skipSpace rest with
      | ']' :: rest =>
        .error (.cut (peekFault .trailingComma (']' :: rest))
          (peekFault .expectedValue (']' :: rest)), rest)
      | cs => .ok cs
    else .error (same (peekFault .expectedListEnd (c :: rest)), rest)

/-- The text behind the quote that opens a key, or an object that stops because no key begins. -/
def keyAt (cs : List Char) : Except (Stop × List Char) (List Char) :=
  match cs with
  | '"' :: rest => .ok rest
  | cs => .error (.cut (peekFault .keyNotText cs) (peekFault .keyNotText cs), cs)

/-- An object stops here, with the text behind it, or the next key begins and its quote is read. -/
def nextKey (first : Bool) (cs : List Char) : Except (Stop × List Char) (List Char) :=
  let same (fault : Fault) : Stop := .cut fault fault
  match skipSpace cs with
  | [] => .error (same ⟨.endInObject, 0⟩, [])
  | '}' :: rest => .error (.closed, rest)
  | c :: rest =>
    if first then keyAt (c :: rest)
    else if c = ',' then
      match skipSpace rest with
      | [] => .error (.cut ⟨.endInValue, 0⟩ ⟨.endInObject, 0⟩, [])
      | '}' :: rest =>
        .error (.cut (peekFault .trailingComma ('}' :: rest))
          (peekFault .keyNotText ('}' :: rest)), rest)
      | cs => keyAt cs
    else .error (same (peekFault .expectedObjectEnd (c :: rest)), rest)

/-- The value behind the colon of a member, or the fault of a colon that is missing. -/
def afterKey (cs : List Char) : Except Fault (List Char) :=
  match skipSpace cs with
  | [] => .error ⟨.endInObject, 0⟩
  | ':' :: rest => .ok rest
  | rest => .error (peekFault .expectedColon rest)

/-- A list or object that stops behind an incomplete entry. Nobody looks at this stop, because the
entry itself is met first. -/
def stopBehindBroken : Stop :=
  .cut ⟨.endInValue, 0⟩ ⟨.endInValue, 0⟩

mutual

/-- One value with `depth` containers around it, and the text behind it. -/
def scanValue (depth : Nat) : (fuel : Nat) → List Char → Tree × List Char
  | 0, cs => (.absent, cs)
  | fuel + 1, cs =>
    match skipSpace cs with
    | [] => (.absent, [])
    | c :: rest =>
      if c = 'n' then scanWord .null ['u', 'l', 'l'] rest
      else if c = 't' then scanWord (.bool true) ['r', 'u', 'e'] rest
      else if c = 'f' then scanWord (.bool false) ['a', 'l', 's', 'e'] rest
      else if c = '-' then scanNumber true rest
      else if c.isDigit then scanNumber false (c :: rest)
      else if c = '"' then scanText rest
      else if c = '[' then
        let (items, stop, left) := scanItems (depth + 1) fuel true rest
        (bury depth (c :: rest) (.list items stop), left)
      else if c = '{' then
        let (members, stop, left) := scanMembers (depth + 1) fuel true rest
        (bury depth (c :: rest) (.object members stop), left)
      else (broke (peekFault .expectedValue (c :: rest)), rest)

/-- The items of a list from here on. -/
def scanItems (depth : Nat) : (fuel : Nat) → (first : Bool) → List Char →
    List Tree × Stop × List Char
  | 0, _, cs => ([], stopBehindBroken, cs)
  | fuel + 1, first, cs =>
    match nextItem first cs with
    | .error (stop, rest) => ([], stop, rest)
    | .ok cs =>
      let (t, rest) := scanValue depth fuel cs
      if t.isComplete then
        let (items, stop, rest) := scanItems depth fuel false rest
        (t :: items, stop, rest)
      else ([t], stopBehindBroken, rest)

/-- The members of an object from here on. -/
def scanMembers (depth : Nat) : (fuel : Nat) → (first : Bool) → List Char →
    List (Except Fault String × Tree) × Stop × List Char
  | 0, _, cs => ([], stopBehindBroken, cs)
  | fuel + 1, first, cs =>
    match nextKey first cs with
    | .error (stop, rest) => ([], stop, rest)
    | .ok cs =>
      match Literal.scan cs with
      | (.unclosed reading passing, rest) => ([], .cut reading passing, rest)
      | (.closed key, rest) =>
        match afterKey rest with
        | .error fault => ([(key, broke fault)], stopBehindBroken, rest)
        | .ok cs =>
          let (t, rest) := scanValue depth fuel cs
          if t.isComplete then
            let (members, stop, rest) := scanMembers depth fuel false rest
            ((key, t) :: members, stop, rest)
          else ([(key, t)], stopBehindBroken, rest)

end

/-- A bound on the calls inside one another: a container costs two, and so does an entry. -/
def scanFuel (cs : List Char) : Nat :=
  2 * cs.length + 2

/-- Reads one value off the front of a text. Returns the text behind it too. -/
def scan (cs : List Char) : Tree × List Char :=
  scanValue 0 (scanFuel cs) cs

end Tree

end Cutscene.Json
