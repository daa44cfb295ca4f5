import Cutscene.Format.Place
import Cutscene.Progress
/-!
# Written progress
-/

namespace Cutscene.Format

open Json

/-- What is known of progress. -/
structure ProgressParts where
  map : Option String := none
  position : Option Position := none
  direction : Option Direction := none
  key : Option String := none

/-- The fields of progress. -/
def progressRecord : Record Tree Problem ProgressParts Progress :=
  { title := "struct Progress"
    fields := [
      field ["currentMap"] (Tree.scalar Found.getText) fun map p => { p with map := some map },
      field ["playerPos"] position fun position p => { p with position := some position },
      field ["playerDirection"] direction fun d p => { p with direction := some d },
      field ["saveKey"] (Tree.scalar Found.getText) fun key p => { p with key := some key }]
    initial := {}
    finish := fun p => do
      return ⟨← required 0 p.map, ← required 1 p.position, ← required 2 p.direction,
        ← required 3 p.key⟩ }

/-- Reads progress. -/
def progress : Decoder Progress :=
  Tree.record progressRecord

/-- Writes progress. -/
def ofProgress (p : Progress) : Doc :=
  .object [("currentMap", .text p.map), ("playerPos", ofPosition p.position),
    ("playerDirection", ofDirection p.direction), ("saveKey", .text p.key)]

end Cutscene.Format
