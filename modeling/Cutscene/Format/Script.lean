import Cutscene.Format.Place
import Cutscene.Script
/-!
# Written events and scripts

The authoring format: an event is an object with its kind under `type`, a script is an object, and
the talking entries of a character are a list of scripts.
-/

namespace Cutscene.Format

open Json

/-! ## Reading -/

/-- The fields of a choice, in both settings. -/
def choiceRecord {ν ε : Type} (getText : ν → Except ε String) :
    Record ν ε (Option String × Option String) Choice :=
  { title := "struct ChoiceOption"
    fields := [
      field ["label", "content"] getText fun label (_, flag) => (some label, flag),
      field ["flag"] getText fun flag (label, _) => (label, some flag)]
    initial := (none, none)
    finish := fun (label, flag) => do return ⟨← required 0 label, ← required 1 flag⟩ }

/-- Reads a choice. -/
def choice : Decoder Choice :=
  Tree.record (choiceRecord (Tree.scalar Found.getText))

/-- A text of an event. -/
def bufferedText : Value → Except Cause String :=
  Value.scalar Found.getText

/-- Reads a choice of an event. -/
def bufferedChoice : Value → Except Cause Choice :=
  Value.record (choiceRecord bufferedText)

/-- What is known of a message. -/
structure MessageParts where
  text : Option String := none
  facing : Facing := .keep
  required : List String := []
  choices : List Choice := []

/-- The fields of a message. -/
def messageRecord : Record Value Cause MessageParts Event :=
  { title := "struct variant ScriptEvent::TextMessage"
    fields := [
      field ["text"] bufferedText fun text m => { m with text := some text },
      field ["direction"] bufferedFacing fun facing m => { m with facing },
      field ["requiredFlags"] (Value.listOf bufferedText) fun required m => { m with required },
      field ["choices"] (Value.listOf bufferedChoice) fun choices m => { m with choices }]
    initial := {}
    finish := fun m => do
      return .message ⟨← required 0 m.text, m.facing, m.required, m.choices⟩ }

/-- What is known of a walk. -/
structure WalkParts where
  tiles : Option UInt32 := none
  direction : Option Direction := none
  actor : Option String := none

/-- The fields of a walk. -/
def walkRecord : Record Value Cause WalkParts Event :=
  { title := "struct variant ScriptEvent::Walk"
    fields := [
      field ["tileDistance"] (Value.scalar (Found.getNat UInt32.size "u32"))
        fun n w => { w with tiles := some (UInt32.ofNat n) },
      field ["direction"] bufferedDirection fun d w => { w with direction := some d },
      field ["actorRef"] (Value.optional bufferedText) fun actor w => { w with actor }]
    initial := {}
    finish := fun w => do
      return .walk ⟨← required 0 w.tiles, ← required 1 w.direction, w.actor⟩ }

/-- The fields of an event that sets a flag. -/
def addFlagRecord : Record Value Cause (Option String × Option String) Event :=
  { title := "struct variant ScriptEvent::AddFlag"
    fields := [
      field ["key", "flag"] bufferedText fun key (_, value) => (some key, value),
      field ["value"] bufferedText fun value (key, _) => (key, some value)]
    initial := (none, none)
    finish := fun (key, value) => do return .addFlag (← required 0 key) (← required 1 value) }

/-- The fields of an event that removes a flag. -/
def removeFlagRecord : Record Value Cause (Option String) Event :=
  { title := "struct variant ScriptEvent::RemoveFlag"
    fields := [field ["key", "flag"] bufferedText fun key _ => some key]
    initial := none
    finish := fun key => do return .removeFlag (← required 0 key) }

/-- The fields of a transaction. -/
def transactionRecord : Record Value Cause (Option Float) Event :=
  { title := "struct variant ScriptEvent::Transaction"
    fields := [field ["amount"] (Value.scalar Found.getFloat) fun amount _ => some amount]
    initial := none
    finish := fun amount => do return .transaction (← required 0 amount) }

/-- The names of the kinds of events. -/
def eventKinds : List (String × EventKind) :=
  [EventKind.message, .walk, .addFlag, .removeFlag, .transaction].map fun k => (k.name, k)

/-- Reads the fields of an event of a known kind. -/
def bufferedEvent (kind : EventKind) (v : Value) : Except Cause Event :=
  match kind with
  | .message => v.record messageRecord
  | .walk => v.record walkRecord
  | .addFlag => v.record addFlagRecord
  | .removeFlag => v.record removeFlagRecord
  | .transaction => v.record transactionRecord

/-- Reads an event. Its fields are looked at when all of its text has been read, so that its kind
may stand anywhere. -/
def event : Decoder Event := fun t => do
  let (kind, v) ← t.tagged "internally tagged enum ScriptEvent" "type" eventKinds
  (bufferedEvent kind v).mapError .placeless

/-- The fields of a script. -/
def scriptRecord : Record Tree Problem (List String × List Event) Script :=
  { title := "struct Script"
    fields := [
      field ["requiredFlags"] (Tree.listOf (Tree.scalar Found.getText))
        fun required (_, events) => (required, events),
      field ["events"] (Tree.listOf event) fun events (required, _) => (required, events)]
    initial := ([], [])
    finish := fun (required, events) => .ok ⟨required, events⟩ }

/-- Reads a script. -/
def script : Decoder Script :=
  Tree.record scriptRecord

/-- Reads the talking entries of a character. -/
def talking : Decoder (List Script) :=
  Tree.listOf script

/-! ## Writing -/

/-- Writes a choice. -/
def ofChoice (c : Choice) : Doc :=
  .object [("label", .text c.label), ("flag", .text c.flag)]

/-- A member that is left out when its list is empty. -/
def unlessEmpty {α : Type} (key : String) (write : α → Doc) (xs : List α) : List (String × Doc) :=
  if xs.isEmpty then [] else [(key, .list (xs.map write))]

/-- The members of an event behind its kind. -/
def eventMembers : Event → List (String × Doc)
  | .message m =>
    [("text", .text m.text), ("direction", ofFacing m.facing)]
      ++ unlessEmpty "requiredFlags" .text m.required ++ unlessEmpty "choices" ofChoice m.choices
  | .walk w =>
    [("tileDistance", .nat w.tiles.toNat), ("direction", ofDirection w.direction)]
      ++ (w.actor.map fun actor => ("actorRef", Doc.text actor)).toList
  | .addFlag key value => [("key", .text key), ("value", .text value)]
  | .removeFlag key => [("key", .text key)]
  | .transaction amount => [("amount", .float amount)]

/-- Writes an event. -/
def ofEvent (e : Event) : Doc :=
  .object (("type", .text e.kind.name) :: eventMembers e)

/-- Writes a script. -/
def ofScript (s : Script) : Doc :=
  .object [("requiredFlags", .texts s.required), ("events", .list (s.events.map ofEvent))]

/-- Writes the talking entries of a character. -/
def ofTalking (entries : List Script) : Doc :=
  .list (entries.map ofScript)

end Cutscene.Format
