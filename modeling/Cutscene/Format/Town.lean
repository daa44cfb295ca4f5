import Cutscene.Format.Script
import Cutscene.Town
/-!
# Written towns
-/

namespace Cutscene.Format

open Json

/-- What is known of a placement. -/
structure PlacementParts where
  name : Option String := none
  position : Option Position := none
  direction : Direction := .down
  talking : List Script := []

/-- The fields that an actor has in common with a resident. -/
def placementFields : List (Field Tree Problem PlacementParts) := [
  field ["name"] (Tree.scalar Found.getText) fun name p => { p with name := some name },
  field ["pos"] position fun position p => { p with position := some position },
  field ["direction"] direction fun direction p => { p with direction }]

/-- The placement that is known. -/
def PlacementParts.placement (p : PlacementParts) : Except Nat Placement := do
  return ⟨← required 0 p.name, ← required 1 p.position, p.direction⟩

/-- The fields of a placement. -/
def placementRecord : Record Tree Problem PlacementParts Placement :=
  { title := "struct ActorData"
    fields := placementFields
    initial := {}
    finish := PlacementParts.placement }

/-- Reads a placement. -/
def placement : Decoder Placement :=
  Tree.record placementRecord

/-- The fields of a resident. -/
def residentRecord : Record Tree Problem PlacementParts Resident :=
  { title := "struct NpcData"
    fields := placementFields ++ [field ["talking"] talking fun talking p => { p with talking }]
    initial := {}
    finish := fun p => do return { ← p.placement with talking := p.talking } }

/-- Reads a resident. -/
def resident : Decoder Resident :=
  Tree.record residentRecord

/-- What is known of a town. -/
structure TownParts where
  map : String := "World"
  balance : Float := 0.0
  player : Option Placement := none
  residents : List Resident := []

/-- The fields of a town. -/
def townRecord : Record Tree Problem TownParts Town :=
  { title := "struct TownData"
    fields := [
      field ["map"] (Tree.scalar Found.getText) fun map t => { t with map },
      field ["balance"] (Tree.scalar Found.getFloat) fun balance t => { t with balance },
      field ["player"] placement fun player t => { t with player := some player },
      field ["npcs"] (Tree.listOf resident) fun residents t => { t with residents }]
    initial := {}
    finish := fun t => do
      return ⟨t.map, t.balance, ← required 2 t.player, t.residents⟩ }

/-- Reads a town. -/
def town : Decoder Town :=
  Tree.record townRecord

/-- The members of a placement. -/
def placementMembers (p : Placement) : List (String × Doc) :=
  [("name", .text p.name), ("pos", ofPosition p.position), ("direction", ofDirection p.direction)]

/-- Writes a placement. -/
def ofPlacement (p : Placement) : Doc :=
  .object (placementMembers p)

/-- Writes a resident. -/
def ofResident (r : Resident) : Doc :=
  .object (placementMembers r.toPlacement ++ [("talking", ofTalking r.talking)])

/-- Writes a town. -/
def ofTown (t : Town) : Doc :=
  .object [("map", .text t.map), ("balance", .float t.balance), ("player", ofPlacement t.player),
    ("npcs", .list (t.residents.map ofResident))]

/-- The error of content that could not be read, with its position in front. -/
def contentErrorMessage (e : Json.Error) : String :=
  s!"Invalid script data at line {toString e.line}, column {toString e.column}: {e.message}"

end Cutscene.Format
