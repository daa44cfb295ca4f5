import Cutscene.Format.Settings
import Cutscene.Format.Town
import Cutscene.Progress.Slots
import Cutscene.Session
/-!
# Why a command fails

The errors of the commands, and the files that they begin with.
-/

namespace Cutscene.Terminal

/-- Why a command fails. -/
inductive Failure where
  | unreadTown (path : String) (failure : Disk.Failure)
  | badTown (error : Json.Error)
  | unreadSettings (path : String) (failure : Disk.Failure)
  | badSettings (path : String) (error : Format.SettingsError)
  | unknownNpc (npc town : String)
  | flags (error : StoreError)
  | session (error : SessionError)
  | endlessWalk (actor : String)
  | playerMissing (player : String)
  | progress (error : SlotError)

/-- The wording of a failure. -/
def Failure.message : Failure → String
  | unreadTown path failure =>
    s!"Failed to read {path}: {failure.message}: {failure.message}"
  | badTown error => Format.contentErrorMessage error
  | unreadSettings path failure => s!"loading config {path}: {failure.message}"
  | badSettings path error => s!"loading config {path}: {error.message}"
  | unknownNpc npc town => "No NPC named '" ++ npc ++ "' in " ++ town
  | flags error => error.message
  | session error => error.message
  | endlessWalk actor => actor ++ " never finished walking"
  | playerMissing player => "Player '" ++ player ++ "' missing from cast"
  | progress error => error.message

/-- Reads the town of a file. -/
def loadTown (d : Disk) (path : String) : Except Failure Town := do
  let text ← (d.readText path).mapError (.unreadTown path)
  (Json.decodeText Format.town text).mapError .badTown

/-- Reads the settings of a file. -/
def loadSettings (d : Disk) (path : String) : Except Failure Settings := do
  let text ← (d.readText path).mapError (.unreadSettings path)
  (Format.readSettings text).mapError (.badSettings path)

end Cutscene.Terminal
