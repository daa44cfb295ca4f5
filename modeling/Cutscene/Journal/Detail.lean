import Cutscene.Decimal.Layout
import Cutscene.Script
import Cutscene.Status
import Cutscene.Text.Quoted
/-!
# Details in the journal

How values are spelt out in the journal: constructors by name, their fields by name and in braces,
texts in quotes.
-/

namespace Cutscene.Journal

/-- The spelling of values of a type. -/
class Detail (α : Type) where
  detail : α → String

export Detail (detail)

/-- A constructor with named fields. -/
def withFields (constructor : String) (fields : List (String × String)) : String :=
  constructor ++ " \x7b " ++ ", ".intercalate (fields.map fun (name, text) => name ++ ": " ++ text)
    ++ " \x7d"

/-- A constructor with one field that has no name. -/
def withField (constructor field : String) : String :=
  constructor ++ "(" ++ field ++ ")"

instance : Detail String := ⟨Text.quoted⟩

instance : Detail Nat := ⟨toString⟩

instance : Detail Float := ⟨Decimal.diagnostic.float⟩

instance {α : Type} [Detail α] : Detail (Option α) where
  detail
    | some x => withField "Some" (detail x)
    | none => "None"

instance {α : Type} [Detail α] : Detail (List α) where
  detail xs := "[" ++ ", ".intercalate (xs.map detail) ++ "]"

/-- A set, by its elements. -/
def setDetail {α : Type} [Detail α] (xs : List α) : String :=
  "\x7b" ++ ", ".intercalate (xs.map detail) ++ "\x7d"

instance : Detail Direction where
  detail
    | .up => "Up"
    | .down => "Down"
    | .left => "Left"
    | .right => "Right"

instance : Detail Facing where
  detail
    | .fixed direction => withField "Toward" (detail direction)
    | .player => "FacePlayer"
    | .keep => "Keep"

instance : Detail Choice where
  detail c := withFields "ChoiceOption" [("label", detail c.label), ("flag", detail c.flag)]

instance : Detail Event where
  detail
    | .message m =>
      withFields "TextMessage" [("text", detail m.text), ("facing", detail m.facing),
        ("required_flags", detail m.required), ("choices", detail m.choices)]
    | .walk w =>
      withFields "Walk" [("tile_distance", detail w.tiles.toNat),
        ("direction", detail w.direction), ("actor_ref", detail w.actor)]
    | .addFlag key value => withFields "AddFlag" [("key", detail key), ("value", detail value)]
    | .removeFlag key => withFields "RemoveFlag" [("key", detail key)]
    | .transaction amount => withFields "Transaction" [("amount", detail amount)]

instance : Detail Suspension where
  detail
    | .confirm => "AwaitingConfirm"
    | .choice => "AwaitingChoice"
    | .walk actor => withFields "AwaitingWalk" [("actor", detail actor)]

instance : Detail Status where
  detail
    | .idle => "Idle"
    | .paused waitsFor => withField "Paused" (detail waitsFor)
    | .finished => "Finished"

instance : Detail Cue where
  detail
    | .confirm => "Confirm"
    | .choose index => withField "Choice" (detail index)
    | .arrive ticket =>
      withField "WalkFinished" (withFields "WalkCompletion" [("ticket", detail ticket)])

end Cutscene.Journal
