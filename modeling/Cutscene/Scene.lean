import Cutscene.Cast
import Cutscene.Flags.Store
import Cutscene.Screen.Menu
import Cutscene.Settings
import Cutscene.Town
/-!
# The scene

All that a story can touch: the flags and the disk behind them, the cast, the money and the screen.
A `World` is a scene with its map and its player.
-/

namespace Cutscene

/-- What a performance works on. -/
structure Scene where
  store : Store := .memory .empty
  cast : Cast := {}
  wallet : Wallet := {}
  screen : Screen := .instant
  disk : Disk := {}
  deriving DecidableEq

/-- Writes the flags to their file, where there is one, and tells what kept them from it. -/
def Scene.flush (s : Scene) : Scene × Option StoreError :=
  let (disk, store, result) := s.store.flush s.disk
  ({ s with disk, store },
    match result with
    | .ok () => none
    | .error error => some error)

/-- A scene on a map, with a player. -/
structure World where
  map : String := "World"
  player : String
  scene : Scene
  deriving DecidableEq

namespace World

/-- One frame: text appears and actors walk. Returns the tickets of those who arrive. -/
def tick (w : World) (ms : Float32) : World × List Ticket :=
  let (cast, tickets) := w.scene.cast.tick ms
  ({ w with scene := { w.scene with screen := w.scene.screen.tick, cast } }, tickets)

end World

/-- The actor of a placement. -/
def Placement.actor (p : Placement) (settings : Settings) : Actor :=
  { name := p.name
    position := p.position
    direction := p.direction
    tileSize := settings.tileSize
    walkSpeed := settings.walkSpeed }

/-- Places everyone of a town, the player first. -/
def Town.world (t : Town) (settings : Settings) (store : Store) (disk : Disk) : World :=
  { map := t.map
    player := t.player.name
    scene := {
      store
      disk
      cast := ⟨t.player.actor settings :: t.residents.map fun r => r.toPlacement.actor settings⟩
      wallet := ⟨t.balance⟩
      screen := .ofSpeed settings.textSpeed } }

end Cutscene
