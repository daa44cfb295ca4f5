import Cutscene.Direction
/-!
# How a speaker turns

A message says which way its speaker turns when it shows: a fixed way, towards the player, or not
at all. `Facing.resolve` gives the direction that comes of it.
-/

namespace Cutscene

/-- Which way a speaker turns. -/
inductive Facing where
  | fixed (direction : Direction)
  | player
  | keep
  deriving DecidableEq, Repr

namespace Facing

/-- A speaker keeps its direction unless told otherwise. -/
instance : Inhabited Facing := ⟨keep⟩

/-- The written form. -/
def name : Facing → String
  | fixed direction => direction.name
  | player => "mainChar"
  | keep => "keep"

/-- Reads the written form; the empty text is another form of `keep`. -/
def ofName? (s : String) : Option Facing :=
  if s = "mainChar" then some player
  else if s = "keep" ∨ s = "" then some keep
  else (Direction.ofName? s).map fixed

@[simp] theorem ofName?_name (f : Facing) : ofName? f.name = some f := by
  rcases f with (_ | _ | _ | _) | _ | _ <;> decide

/-- The objection to a text that says no way to turn. -/
def unknownMessage (s : String) : String :=
  "unknown facing directive '" ++ s ++ "'"

/-- The direction of a speaker that stands at `speaker` and looks in the direction `current`, once
it has turned; `target` is where the player stands, if there is one. -/
def resolve (f : Facing) (speaker : Position) (current : Direction) (target : Option Position) :
    Direction :=
  match f, target with
  | fixed direction, _ => direction
  | keep, _ => current
  | player, some q => speaker.toward q
  | player, none => current

end Facing

end Cutscene
