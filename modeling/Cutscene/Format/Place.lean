import Cutscene.Facing
import Cutscene.Format.Fields
/-!
# Written directions, positions and ways to turn
-/

namespace Cutscene.Format

open Json

/-- The names of the directions. -/
def directionNames : List (String × Direction) :=
  Direction.all.map fun d => (d.name, d)

/-- Reads a direction. -/
def direction : Decoder Direction :=
  Tree.name directionNames

/-- Reads a direction of an event. -/
def bufferedDirection : Value → Except Cause Direction :=
  Value.name directionNames

/-- Writes a direction. -/
def ofDirection (d : Direction) : Doc :=
  .text d.name

/-- The fields of a position. -/
def positionRecord : Record Tree Problem (Option Float32 × Option Float32) Position :=
  { title := "struct Position"
    fields := [
      field ["x"] (Tree.scalar Found.getFloat32) fun x (_, y) => (some x, y),
      field ["y"] (Tree.scalar Found.getFloat32) fun y (x, _) => (x, some y)]
    initial := (none, none)
    finish := fun (x, y) => do return ⟨← required 0 x, ← required 1 y⟩ }

/-- Reads a position. -/
def position : Decoder Position :=
  Tree.record positionRecord

/-- Writes a position. -/
def ofPosition (p : Position) : Doc :=
  .object [("x", .float32 p.x), ("y", .float32 p.y)]

/-- A way to turn by its name. -/
def facingOfName (s : String) : Except Cause Facing :=
  match Facing.ofName? s with
  | some f => .ok f
  | none => .error (.refused (Facing.unknownMessage s))

/-- Reads a way to turn. -/
def facing : Decoder Facing := fun t => do
  let s ← t.scalar Found.getText
  (facingOfName s).mapError .placeless

/-- Reads a way to turn of an event. -/
def bufferedFacing (v : Value) : Except Cause Facing := do
  facingOfName (← v.scalar Found.getText)

/-- Writes a way to turn. -/
def ofFacing (f : Facing) : Doc :=
  .text f.name

end Cutscene.Format
