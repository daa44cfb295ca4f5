import Cutscene.Format.Fields
import Cutscene.Settings
/-!
# Written settings

Every field of the settings may be left out. `readSettings` also refuses settings that are written
well but unfit.
-/

namespace Cutscene.Format

open Json

/-- Reads a level. -/
def level : Decoder Journal.Level :=
  Tree.name (Journal.Level.all.map fun l => (l.name, l))

/-- Reads a category. -/
def category : Decoder Journal.Category :=
  Tree.name (Journal.Category.all.map fun c => (c.name, c))

/-- The names of the fallbacks. -/
def fallbackNames : List (String × Fallback) :=
  [("PlayFirst", .playFirst), ("StayIdle", .stayIdle)]

/-- Reads a fallback. -/
def fallback : Decoder Fallback :=
  Tree.name fallbackNames

/-- Writes a fallback. -/
def ofFallback : Fallback → Doc
  | .playFirst => .text "PlayFirst"
  | .stayIdle => .text "StayIdle"

/-- The fields of a journal filter. -/
def filterRecord : Record Tree Problem Journal.Filter Journal.Filter :=
  { title := "struct DebugConfig"
    fields := [
      field ["enabled"] (Tree.scalar Found.getBool) fun enabled f => { f with enabled },
      field ["level"] level fun level f => { f with level },
      field ["categories"] (Tree.listOf category) fun categories f => { f with categories }]
    initial := {}
    finish := .ok }

/-- Reads a journal filter. -/
def filter : Decoder Journal.Filter :=
  Tree.record filterRecord

/-- The fields of the settings. -/
def settingsRecord : Record Tree Problem Settings Settings :=
  { title := "struct EngineConfig"
    fields := [
      field ["selector_fallback"] fallback fun fallback s => { s with fallback },
      field ["tile_size"] (Tree.scalar Found.getFloat32) fun tileSize s => { s with tileSize },
      field ["walk_speed"] (Tree.scalar Found.getFloat32) fun walkSpeed s => { s with walkSpeed },
      field ["text_speed"] (Tree.scalar (Found.getNat UInt64.size "usize"))
        fun textSpeed s => { s with textSpeed },
      field ["save_key"] (Tree.scalar Found.getText) fun saveKey s => { s with saveKey },
      field ["debug"] filter fun journal s => { s with journal }]
    initial := {}
    finish := .ok }

/-- Reads settings. -/
def settings : Decoder Settings :=
  Tree.record settingsRecord

/-- Why settings could not be had from a text. -/
inductive SettingsError where
  | unreadable (error : Json.Error)
  | unfit (reason : Settings.Unfit)

/-- The wording of an error. -/
def SettingsError.message : SettingsError → String
  | unreadable error => error.message
  | unfit reason => reason.message

/-- Reads settings and refuses unfit ones. -/
def readSettings (s : String) : Except SettingsError Settings := do
  let settings ← (decodeText settings s).mapError .unreadable
  match settings.unfit? with
  | some reason => throw (.unfit reason)
  | none => return settings

end Cutscene.Format
