import Cutscene.Facing
/-!
# Scripts

A script is a list of events with the flags that it needs to be chosen. A character carries several
scripts, its talking entries.
-/

namespace Cutscene

/-- An answer that can be picked, and the flag that picking it sets. -/
structure Choice where
  label : String
  flag : String
  deriving DecidableEq, Repr

/-- A line of text. It shows only when its flags are present; with choices it waits for one of
them, without for a confirmation. -/
structure Message where
  text : String
  facing : Facing := .keep
  required : List String := []
  choices : List Choice := []
  deriving DecidableEq, Repr

/-- A straight walk of a whole number of tiles; without a name the speaker walks. -/
structure Walk where
  tiles : UInt32
  direction : Direction
  actor : Option String := none
  deriving DecidableEq, Repr

/-- One step of a script. -/
inductive Event where
  | message (m : Message)
  | walk (w : Walk)
  | addFlag (key value : String)
  | removeFlag (key : String)
  | transaction (amount : Float)
  deriving DecidableEq

/-- The kinds of events. -/
inductive EventKind where
  | message
  | walk
  | addFlag
  | removeFlag
  | transaction
  deriving DecidableEq, Repr

/-- The written form of a kind. -/
def EventKind.name : EventKind → String
  | message => "textMessage"
  | walk => "walk"
  | addFlag => "addFlag"
  | removeFlag => "removeFlag"
  | transaction => "transaction"

/-- The kind of an event. -/
def Event.kind : Event → EventKind
  | message _ => .message
  | walk _ => .walk
  | addFlag _ _ => .addFlag
  | removeFlag _ => .removeFlag
  | transaction _ => .transaction

/-- A list of events and the flags that must all be present for the script to be chosen for its
own sake. -/
structure Script where
  required : List String := []
  events : List Event := []
  deriving DecidableEq

/-- The number of events of a script. -/
def Script.length (s : Script) : Nat :=
  s.events.length

/-- The index of the last event, below zero when there is none. -/
def Script.lastIndex (s : Script) : Int :=
  (s.length : Int) - 1

end Cutscene
