import Cutscene.Script
/-!
# Towns

A town is the content that a story plays in: the map, the player with its money, and the residents
with what they say.
-/

namespace Cutscene

/-- Where an actor starts. -/
structure Placement where
  name : String
  position : Position
  direction : Direction := .down
  deriving DecidableEq

/-- A resident, and its talking entries in the order of the author. -/
structure Resident extends Placement where
  talking : List Script := []
  deriving DecidableEq

/-- A whole town. -/
structure Town where
  map : String := "World"
  balance : Float := 0.0
  player : Placement
  residents : List Resident := []
  deriving DecidableEq

namespace Town

/-- The first resident of a name. -/
def resident? (t : Town) (name : String) : Option Resident :=
  t.residents.find? fun r => r.name == name

/-- The talking entries of a resident. -/
def talking? (t : Town) (name : String) : Option (List Script) :=
  (t.resident? name).map (·.talking)

/-- The names of all actors, the player first. -/
def actorNames (t : Town) : List String :=
  t.player.name :: t.residents.map (·.name)

end Town

end Cutscene
