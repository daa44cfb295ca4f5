import Cutscene.Disk
import Cutscene.Format.Progress
/-!
# Slots for progress

Progress is saved under its key, in a table (`SlotTable`) or as one file per key in a folder
(`SlotFolder`). Loading an empty slot gives nothing, and deleting one is an error.
-/

namespace Cutscene

/-- Why a slot could not be used. -/
inductive SlotError where
  | notFound (key : String)
  | folder (failure : Disk.Failure)
  | write (path : String) (failure : Disk.Failure)
  | read (path : String) (failure : Disk.Failure)
  | delete (path : String) (failure : Disk.Failure)
  | unreadable (error : Json.Error)
  deriving DecidableEq

namespace SlotError

/-- The wording of an error, around the reason that a saved text is unreadable. -/
def wording (reason : Json.Error → String) : SlotError → String
  | notFound key => "Save data not found for key: " ++ key
  | folder failure => "IO error: Failed to create save directory: " ++ failure.message
  | write path failure => s!"IO error: Failed to write save file {path}: {failure.message}"
  | read path failure => s!"IO error: Failed to read save file {path}: {failure.message}"
  | delete path failure => s!"IO error: Failed to delete save file {path}: {failure.message}"
  | unreadable error => "Serialization error: Failed to deserialize progress: " ++ reason error

/-- What is wrong, without a position in the file. -/
def reason : SlotError → String :=
  wording Json.Error.reason

/-- What is wrong and where. -/
def message : SlotError → String :=
  wording Json.Error.message

end SlotError

/-- Slots in memory. -/
structure SlotTable where
  slots : SortedMap Progress := .empty
  deriving DecidableEq

namespace SlotTable

/-- Saves progress in its slot. -/
def save (t : SlotTable) (p : Progress) : SlotTable :=
  ⟨t.slots.insert p.key p⟩

/-- The progress in a slot. -/
def load (t : SlotTable) (key : String) : Option Progress :=
  t.slots.get? key

/-- Empties a slot. -/
def delete (t : SlotTable) (key : String) : Except SlotError SlotTable :=
  if t.slots.contains key then .ok ⟨t.slots.erase key⟩ else .error (.notFound key)

end SlotTable

/-- A folder of slots. -/
structure SlotFolder where
  path : String
  deriving DecidableEq, Repr

namespace SlotFolder

/-- The file of a slot. -/
def file (f : SlotFolder) (key : String) : String :=
  Disk.Path.join f.path (key ++ ".save.json")

/-- Saves progress in its slot; the folder is made if it is missing. -/
def save (f : SlotFolder) (d : Disk) (p : Progress) : Disk × Except SlotError Unit :=
  let file := f.file p.key
  match d.makeFolders (Disk.Path.parent file) with
  | (d, .error failure) => (d, .error (.folder failure))
  | (d, .ok ()) =>
    let (d, result) := d.write file (Format.ofProgress p).pretty.toUTF8
    (d, result.mapError (.write file))

/-- The progress in a slot. -/
def load (f : SlotFolder) (d : Disk) (key : String) : Except SlotError (Option Progress) := do
  let file := f.file key
  if d.contains file then
    let text ← (d.readText file).mapError (.read file)
    return some (← (Json.decodeText Format.progress text).mapError .unreadable)
  else
    return none

/-- Empties a slot. -/
def delete (f : SlotFolder) (d : Disk) (key : String) : Disk × Except SlotError Unit :=
  let file := f.file key
  if d.contains file then
    let (d, result) := d.remove file
    (d, result.mapError (.delete file))
  else
    (d, .error (.notFound key))

end SlotFolder

end Cutscene
