import Cutscene.Json.Problem
/-!
# From documents to values

Decoders in two settings. A `Tree` is walked while its text is read: what goes wrong first in the
text is reported, and where. A `Value` was read completely before, and its problems are causes
without a place. Scalars (`Found`) and records (`Record`) are described once for both.
-/

namespace Cutscene.Json

/-! ## Scalars -/

namespace Found

/-- A text. -/
def getText : Found → Except Cause String
  | .text s => .ok s
  | other => .error (.wrongKind other "a string")

/-- A truth value. -/
def getBool : Found → Except Cause Bool
  | .bool b => .ok b
  | other => .error (.wrongKind other "a boolean")

/-- A whole number below `limit`; `kind` is what such numbers are called. -/
def getNat (limit : Nat) (kind : String) : Found → Except Cause Nat
  | .number (.int n) =>
    if 0 ≤ n ∧ n < limit then .ok n.toNat else .error (.wrongValue (.number (.int n)) kind)
  | other => .error (.wrongKind other kind)

/-- A double-precision number. -/
def getFloat : Found → Except Cause Float
  | .number n => .ok n.toFloat
  | other => .error (.wrongKind other "f64")

/-- A single-precision number. -/
def getFloat32 : Found → Except Cause Float32
  | .number n => .ok n.toFloat32
  | other => .error (.wrongKind other "f32")

/-- Nothing. -/
def getNull : Found → Except Cause Unit
  | .null => .ok ()
  | other => .error (.wrongKind other "unit")

/-- A container, which no scalar is. -/
def isContainer : Found → Bool
  | .list => true
  | .object => true
  | _ => false

end Found

/-! ## Records -/

/-- A field of a record whose fields are read from `ν` and collected in `σ`: its names, the main
one first, and how its value changes what is collected. -/
structure Field (ν ε σ : Type) where
  names : List String
  read : ν → Except ε (σ → σ)

/-- The main name of a field. -/
def Field.name {ν ε σ : Type} (f : Field ν ε σ) : String :=
  f.names.headD ""

/-- A kind of record: what it is called, its fields in order, what is collected before the first
field, and the record that the collected fields make, or the index of a field that is missing. -/
structure Record (ν ε σ α : Type) where
  title : String
  fields : List (Field ν ε σ)
  initial : σ
  finish : σ → Except Nat α

namespace Record

variable {ν ε σ α : Type}

/-- The field with this name, and its index. -/
def field? (r : Record ν ε σ α) (key : String) : Option (Field ν ε σ × Nat) :=
  r.fields.zipIdx.find? fun (f, _) => f.names.contains key

/-- The wording of a number of elements. -/
def elements (n : Nat) : String :=
  if n = 1 then "1 element" else toString n ++ " elements"

/-- The cause that an object has no member for the `i`-th field. -/
def missing (r : Record ν ε σ α) (i : Nat) : Cause :=
  .missingField ((r.fields[i]?.map Field.name).getD "")

/-- The cause that a list has no item for the `i`-th field. -/
def tooShort (r : Record ν ε σ α) (i : Nat) : Cause :=
  .wrongLength i s!"{r.title} with {elements r.fields.length}"

end Record

/-! ## Variants -/

/-- What stands behind the name of a variant. -/
inductive Variant (α : Type) where
  /-- Nothing. -/
  | bare (value : α)
  /-- A value of its own; `kind` says what is missing when the name stands alone. -/
  | holds (kind : String) (decode : Tree → Except Problem α)

/-- The value of a name. -/
def lookUp {α : Type} (known : List (String × α)) (name : String) : Except Cause α :=
  match known.lookup name with
  | some value => .ok value
  | none => .error (.unknownName name (known.map (·.1)))

/-! ## While the text is read -/

/-- A way to get a value from a document while its text is read. -/
abbrev Decoder (α : Type) := Tree → Except Problem α

namespace Tree

variable {α σ : Type}

/-- What the document begins with. -/
def found : Tree → Except Fault Found
  | .null => .ok .null
  | .bool b => .ok (.bool b)
  | .number n => n.map .number
  | .text s => s.map .text
  | .list _ _ => .ok .list
  | .object _ _ => .ok .object
  | .buried _ container => container.found
  | .absent => .error ⟨.endInValue, 0⟩
  | .broken fault _ => .error fault

/-- A scalar. The wrong kind of value is reported behind a scalar and in front of a container. -/
def scalar (get : Found → Except Cause α) : Decoder α := fun t =>
  match t.found with
  | .error fault => .error (.ofFault fault)
  | .ok found =>
    (get found).mapError fun cause => .here cause (if found.isContainer then .start else .stop)

/-- The problem of a value that is no `expected`. -/
def mismatch (expected : String) (t : Tree) : Problem :=
  match t.found with
  | .error fault => .ofFault fault
  | .ok found =>
    .here (.wrongKind found expected) (if found.isContainer then .start else .stop)

/-- The container is closed here, or its fault. -/
def close : Stop → Except Problem Unit
  | .closed => .ok ()
  | .cut fault _ => .error (.ofFault fault)

/-- The items of a list, of which `i` came before. -/
def decodeItems (decode : Decoder α) (i : Nat) : List Tree → Except Problem (List α)
  | [] => .ok []
  | t :: rest => do
    let x ← (decode t).mapError (·.withinItem i)
    let xs ← decodeItems decode (i + 1) rest
    return x :: xs

/-- A list. -/
def listOf (decode : Decoder α) : Decoder (List α)
  | .buried unread _ => .error (.ofFault ⟨.tooDeep, unread⟩)
  | .list items stop => do
    let xs ← decodeItems decode 0 items
    close stop
    return xs
  | t => .error (t.mismatch "a sequence")

/-- The members of an object of which `i` came before, with their keys. -/
def decodeEntries (decode : Decoder α) (i : Nat) :
    List (Except Fault String × Tree) → Except Problem (List (String × α))
  | [] => .ok []
  | (key, t) :: rest => do
    let key ← key.mapError .ofFault
    let x ← (decode t).mapError (·.withinMember i)
    let xs ← decodeEntries decode (i + 1) rest
    return (key, x) :: xs

/-- The keys and values of an object, in written order. -/
def entriesOf (decode : Decoder α) : Decoder (List (String × α))
  | .buried unread _ => .error (.ofFault ⟨.tooDeep, unread⟩)
  | .object members stop => do
    let xs ← decodeEntries decode 0 members
    close stop
    return xs
  | t => .error (t.mismatch "a map")

/-- Passes over a value. -/
def passOver (t : Tree) : Except Problem Unit :=
  match t.passingFault with
  | some fault => .error (.ofFault fault)
  | none => .ok ()

/-- The members of a record of which `i` came before; `seen` are the fields that they named.
Unknown members are passed over. -/
def recordMembers (r : Record Tree Problem σ α) (i : Nat) (seen : List Nat) (collected : σ) :
    List (Except Fault String × Tree) → Except Problem σ
  | [] => .ok collected
  | (key, t) :: rest => do
    let key ← key.mapError .ofFault
    match r.field? key with
    | none => do
      passOver t
      recordMembers r (i + 1) seen collected rest
    | some (f, k) =>
      if seen.contains k then throw ⟨.repeatedField f.name, .spot [i] .settledKey⟩
      else do
        let set ← (f.read t).mapError (·.withinMember i)
        recordMembers r (i + 1) (k :: seen) (set collected) rest

/-- The stop of a list behind the item for the last field. -/
def closeFull : Stop → Except Problem Unit
  | .closed => .ok ()
  | .cut ⟨.expectedListEnd, unread⟩ _ => .error (.ofFault ⟨.trailingCharacters, unread⟩)
  | .cut fault _ => .error (.ofFault fault)

/-- The items of a record that is written as a list, of which `i` came before. -/
def recordItems (i : Nat) (collected : σ) (stop : Stop) :
    List (Field Tree Problem σ) → List Tree → Except Problem σ
  | [], [] => do
    closeFull stop
    return collected
  | [], _ :: _ => .error ⟨.malformed .trailingCharacters, .spot [i - 1] .nextItem⟩
  | _ :: _, [] => do
    close stop
    return collected
  | f :: fields, t :: rest => do
    let set ← (f.read t).mapError (·.withinItem i)
    recordItems (i + 1) (set collected) stop fields rest

/-- A record, written as an object or as the list of its fields. -/
def record (r : Record Tree Problem σ α) : Decoder α
  | .buried unread _ => .error (.ofFault ⟨.tooDeep, unread⟩)
  | .list items stop => do
    let collected ← recordItems 0 r.initial stop r.fields items
    (r.finish collected).mapError fun i => .here (r.tooShort i) .stop
  | .object members stop => do
    let collected ← recordMembers r 0 [] r.initial members
    close stop
    (r.finish collected).mapError fun i => .here (r.missing i) .stop
  | t => .error (t.mismatch r.title)

/-- The end of an object that holds one variant. -/
def closeVariant (others : Bool) : Stop → Except Problem Unit
  | .cut fault _ =>
    if fault.cause = .endInObject ∧ !others then .error (.ofFault fault)
    else .error ⟨.malformed .expectedValue, .spot [0] .settledMember⟩
  | .closed =>
    if others then .error ⟨.malformed .expectedValue, .spot [0] .settledMember⟩ else .ok ()

/-- The value of a variant that stands behind its name. -/
def variantContent (t : Tree) : Variant α → Except Problem α
  | .bare value => do
    t.scalar Found.getNull
    return value
  | .holds _ decode => decode t

/-- An object whose only key is the name of a variant. -/
def variantObject (known : List (String × Variant α)) (stop : Stop) :
    List (Except Fault String × Tree) → Except Problem α
  | [] =>
    match stop with
    | .closed => .error (.here (.malformed .expectedValue) .stop)
    | .cut fault _ => .error (.ofFault fault)
  | (.error fault, _) :: _ => .error (.ofFault fault)
  | (.ok name, t) :: rest => do
    let variant ← (lookUp known name).mapError fun cause => ⟨cause, .spot [0] .keyStop⟩
    let value ← (t.variantContent variant).mapError (·.within 0)
    closeVariant (!rest.isEmpty) stop
    return value

/-- Whether what broke off had begun as a word or a number. -/
def beganOther : SyntaxError → Bool
  | .expectedWord => true
  | .badNumber => true
  | .endInValue => true
  | _ => false

/-- A variant: its name alone, or an object whose only key is its name. -/
def variant (known : List (String × Variant α)) : Decoder α
  | .buried unread _ => .error (.ofFault ⟨.tooDeep, unread⟩)
  | .object members stop => variantObject known stop members
  | .text (.error fault) => .error (.ofFault fault)
  | .text (.ok name) => do
    match ← (lookUp known name).mapError (.here · .stop) with
    | .bare value => return value
    | .holds kind _ => throw (.placeless (.wrongKind .bareName kind))
  | .absent => .error (.ofFault ⟨.endInValue, 0⟩)
  | .broken fault _ =>
    if beganOther fault.cause then .error (.here (.malformed .expectedValue) .firstByte)
    else .error (.ofFault fault)
  | _ => .error (.here (.malformed .expectedValue) .firstByte)

/-- One of several names. -/
def name (known : List (String × α)) : Decoder α :=
  variant (known.map fun (name, value) => (name, .bare value))

/-- A name among those known. -/
def knownName (known : List (String × α)) : Decoder α :=
  scalar fun
    | .text name => lookUp known name
    | other => .error (.wrongKind other "variant identifier")

/-- The members of a tagged object of which `i` came before: its tag so far and its other members,
which are read completely. -/
def taggedMembers (tag : String) (known : List (String × α)) (i : Nat) (chosen : Option α) :
    List (Except Fault String × Tree) → Except Problem (Option α × List (String × Value))
  | [] => .ok (chosen, [])
  | (key, t) :: rest => do
    let key ← key.mapError .ofFault
    if key = tag then
      if chosen.isSome then throw ⟨.repeatedField tag, .spot [i] .settledKey⟩
      else do
        let x ← (t.knownName known).mapError (·.withinMember i)
        taggedMembers tag known (i + 1) (some x) rest
    else do
      let v ← t.read.mapError .ofFault
      let (chosen, members) ← taggedMembers tag known (i + 1) chosen rest
      return (chosen, (key, v) :: members)

/-- An object with a tag among its members, or a list whose first item is the tag. Returns what the
tag stands for and the rest of the document. -/
def tagged (title tag : String) (known : List (String × α)) : Decoder (α × Value)
  | .buried unread _ => .error (.ofFault ⟨.tooDeep, unread⟩)
  | .object members stop => do
    let (chosen, others) ← taggedMembers tag known 0 none members
    close stop
    match chosen with
    | some x => return (x, .object others)
    | none => throw (.here (.missingField tag) .stop)
  | .list [] stop => do
    close stop
    throw (.here (.missingField tag) .stop)
  | .list (t :: rest) stop => do
    let x ← (t.knownName known).mapError (·.withinItem 0)
    let items ← (readItems rest).mapError .ofFault
    close stop
    return (x, .list items)
  | t => .error (t.mismatch title)

end Tree

/-! ## After the text was read -/

namespace Value

variable {α σ : Type}

/-- What the document begins with. -/
def found : Value → Found
  | .null => .null
  | .bool b => .bool b
  | .number n => .number n
  | .text s => .text s
  | .list _ => .list
  | .object _ => .object

/-- A scalar. -/
def scalar (get : Found → Except Cause α) (v : Value) : Except Cause α :=
  get v.found

/-- A list. -/
def listOf (decode : Value → Except Cause α) : Value → Except Cause (List α)
  | .list items => items.mapM decode
  | v => .error (.wrongKind v.found "a sequence")

/-- A value or null. -/
def optional (decode : Value → Except Cause α) : Value → Except Cause (Option α)
  | .null => .ok none
  | v => (decode v).map some

/-- The members of a record; `seen` are the fields that were named before. Unknown members do not
matter. -/
def recordMembers (r : Record Value Cause σ α) (seen : List Nat) (collected : σ) :
    List (String × Value) → Except Cause σ
  | [] => .ok collected
  | (key, v) :: rest =>
    match r.field? key with
    | none => recordMembers r seen collected rest
    | some (f, k) =>
      if seen.contains k then .error (.repeatedField f.name)
      else do
        let set ← f.read v
        recordMembers r (k :: seen) (set collected) rest

/-- The items of a record that is written as a list; the items that are left over come back too. -/
def recordItems (collected : σ) :
    List (Field Value Cause σ) → List Value → Except Cause (σ × List Value)
  | [], items => .ok (collected, items)
  | _ :: _, [] => .ok (collected, [])
  | f :: fields, v :: rest => do
    let set ← f.read v
    recordItems (set collected) fields rest

/-- A record, written as an object or as the list of its fields. -/
def record (r : Record Value Cause σ α) : Value → Except Cause α
  | .list items => do
    let (collected, left) ← recordItems r.initial r.fields items
    let x ← (r.finish collected).mapError r.tooShort
    if left.isEmpty then return x
    else throw (.wrongLength items.length (Record.elements r.fields.length ++ " in sequence"))
  | .object members => do
    let collected ← recordMembers r [] r.initial members
    (r.finish collected).mapError r.missing
  | v => .error (.wrongKind v.found r.title)

/-- Nothing, which may also be written as an empty object here. -/
def nothing : Value → Except Cause Unit
  | .object [] => .ok ()
  | v => v.scalar Found.getNull

/-- One of several names: the name alone, or an object whose only key it is. -/
def name (known : List (String × α)) : Value → Except Cause α
  | .text name => lookUp known name
  | .object [(name, v)] => do
    let value ← lookUp known name
    v.nothing
    return value
  | .object _ => .error (.wrongValue .object "map with a single key")
  | v => .error (.wrongKind v.found "string or map")

end Value

/-! ## Whole texts -/

/-- Decodes characters that hold one document and nothing else. -/
def decodeChars {α : Type} (decode : Decoder α) (cs : List Char) : Except Error α :=
  let (t, rest) := Tree.scan cs
  let result := do
    let x ← decode t
    match skipSpace rest with
    | [] => return x
    | rest => throw (Problem.ofFault (peekFault .trailingCharacters rest))
  result.mapError (Error.ofProblem cs)

/-- Decodes a text that holds one document and nothing else. -/
def decodeText {α : Type} (decode : Decoder α) (s : String) : Except Error α :=
  decodeChars decode s.toList

end Cutscene.Json
