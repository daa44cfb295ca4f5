import Cutscene.Format.Fields
import Cutscene.Status
/-!
# Written states of a performance
-/

namespace Cutscene.Format

open Json

/-- The field of a suspension that waits for a walk. -/
def awaitedWalkRecord : Record Tree Problem (Option String) Suspension :=
  { title := "struct variant Suspension::AwaitingWalk"
    fields := [field ["actor"] (Tree.scalar Found.getText) fun actor _ => some actor]
    initial := none
    finish := fun actor => do return .walk (← required 0 actor) }

/-- Reads what a performance waits for. -/
def suspension : Decoder Suspension :=
  Tree.variant [
    ("AwaitingConfirm", .bare .confirm),
    ("AwaitingChoice", .bare .choice),
    ("AwaitingWalk", .holds "struct variant" (Tree.record awaitedWalkRecord))]

/-- Reads where a performance stands. -/
def status : Decoder Status :=
  Tree.variant [
    ("Idle", .bare .idle),
    ("Paused", .holds "newtype variant" fun t => (suspension t).map .paused),
    ("Finished", .bare .finished)]

/-- Writes what a performance waits for. -/
def ofSuspension : Suspension → Doc
  | .confirm => .text "AwaitingConfirm"
  | .choice => .text "AwaitingChoice"
  | .walk actor => .object [("AwaitingWalk", .object [("actor", .text actor)])]

/-- Writes where a performance stands. -/
def ofStatus : Status → Doc
  | .idle => .text "Idle"
  | .paused waitsFor => .object [("Paused", ofSuspension waitsFor)]
  | .finished => .text "Finished"

end Cutscene.Format
