import Cutscene.Format.Fields
import Cutscene.SortedMap
import Cutscene.Text.Utf8
/-!
# Written flags

A snapshot of flags is one object of texts, in key order and with one flag a line.
-/

namespace Cutscene

/-- Flags and their values. -/
abbrev FlagMap := SortedMap String

namespace Format

open Json

/-- Reads flags; the last of several values of a flag counts. -/
def flags : Decoder FlagMap := fun t => do
  return .ofList (← t.entriesOf (Tree.scalar Found.getText))

/-- Writes flags. -/
def ofFlags (m : FlagMap) : Doc :=
  .object (m.entries.map fun (key, value) => (key, .text value))

/-- The bytes of a snapshot. -/
def saveFlags (m : FlagMap) : ByteArray :=
  (ofFlags m).pretty.toUTF8

/-- Why bytes are no snapshot of flags. -/
inductive FlagsError where
  | notText (fault : Text.Utf8.Fault)
  | unreadable (error : Json.Error)
  deriving DecidableEq

/-- What is wrong, without a position. -/
def FlagsError.reason : FlagsError → String
  | notText fault => fault.message
  | unreadable error => error.reason

/-- What is wrong and where. -/
def FlagsError.message : FlagsError → String
  | notText fault => fault.message
  | unreadable error => error.message

/-- Reads a snapshot. -/
def loadFlags (bytes : ByteArray) : Except FlagsError FlagMap := do
  let s ← (Text.Utf8.decode bytes).mapError .notText
  (decodeText flags s).mapError .unreadable

end Format

end Cutscene
