import Cutscene.Direction
import Cutscene.Settings
/-!
# Progress

Where the player stands when a session ends.
-/

namespace Cutscene

/-- Where the player stands, and the slot that this is saved in. -/
structure Progress where
  map : String := "World"
  position : Position := ⟨192.0, 192.0⟩
  direction : Direction := .down
  key : String := defaultSaveKey
  deriving DecidableEq

end Cutscene
