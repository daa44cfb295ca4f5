import Cutscene.Direction
/-!
# The cast

Actors stand somewhere, look somewhere, and walk on their own frame by frame. An actor that is sent
on a walk carries the ticket of the walk and hands it back on the frame on which it arrives.
-/

namespace Cutscene

/-- The number of a walk. Walks are counted without a bound: a counter of 64 bits is taken not to
wrap around. -/
abbrev Ticket := Nat

/-- A walk under way. -/
structure Journey where
  target : Position
  direction : Direction
  ticket : Ticket
  deriving DecidableEq

/-- What the picture of an actor shows. -/
inductive Movement where
  | idle
  | walk
  deriving DecidableEq, Repr

/-- Someone on the map. -/
structure Actor where
  name : String
  position : Position
  direction : Direction
  movement : Movement := .idle
  tileSize : Float32 := 16.0
  walkSpeed : Float32 := 0.08
  journey : Option Journey := none
  deriving DecidableEq

namespace Actor

/-- Whether the actor is on a walk. -/
def isWalking (a : Actor) : Bool :=
  a.journey.isSome

/-- Turns the actor. -/
def face (a : Actor) (direction : Direction) : Actor :=
  { a with direction }

/-- Sends the actor on a straight walk. An earlier walk is forgotten, with its ticket. -/
def walk (a : Actor) (tiles : UInt32) (direction : Direction) (ticket : Ticket) : Actor :=
  { a with
    direction
    movement := .walk
    journey := some
      ⟨a.position.offset direction (tiles.toFloat32 * a.tileSize), direction, ticket⟩ }

/-- One frame of `ms` milliseconds: the actor goes on, or arrives and hands back its ticket. -/
def tick (a : Actor) (ms : Float32) : Actor × Option Ticket :=
  match a.journey with
  | none => (a, none)
  | some j =>
    let step := a.walkSpeed * ms
    if step < a.position.distanceTo j.target then
      ({ a with position := a.position.offset j.direction step }, none)
    else ({ a with position := j.target, movement := .idle, journey := none }, some j.ticket)

end Actor

/-- The actors of a scene; a name means the first of them that has it. -/
structure Cast where
  actors : List Actor := []
  deriving DecidableEq

/-- Someone is meant who is not in the cast. -/
structure MissingActor where
  name : String
  deriving DecidableEq, Repr

/-- The wording of the error. -/
def MissingActor.message (e : MissingActor) : String :=
  "Actor '" ++ e.name ++ "' not found in scene"

namespace Cast

instance : Inhabited Cast := ⟨{}⟩

/-- The first actor of a name. -/
def get? (c : Cast) (name : String) : Option Actor :=
  c.actors.find? fun a => a.name == name

/-- The first actor of a name, or the error that there is none. -/
def require (c : Cast) (name : String) : Except MissingActor Actor :=
  match c.get? name with
  | some actor => .ok actor
  | none => .error ⟨name⟩

/-- Changes the first of the actors with a name. -/
def modifyFirst (name : String) (f : Actor → Actor) : List Actor → List Actor
  | [] => []
  | a :: rest => if a.name = name then f a :: rest else a :: modifyFirst name f rest

/-- Changes the first actor of a name. -/
def modify (c : Cast) (name : String) (f : Actor → Actor) : Cast :=
  ⟨modifyFirst name f c.actors⟩

/-- Turns an actor. -/
def face (c : Cast) (name : String) (direction : Direction) : Cast :=
  c.modify name (·.face direction)

/-- Sends an actor on a walk. -/
def walk (c : Cast) (name : String) (tiles : UInt32) (direction : Direction) (ticket : Ticket) :
    Cast :=
  c.modify name (·.walk tiles direction ticket)

/-- Whether any actor is on a walk. -/
def anyoneWalking (c : Cast) : Bool :=
  c.actors.any (·.isWalking)

/-- One frame for every actor, and the tickets of those who arrive, in the order of the cast. -/
def tick (c : Cast) (ms : Float32) : Cast × List Ticket :=
  let ticked := c.actors.map (·.tick ms)
  (⟨ticked.map (·.1)⟩, ticked.filterMap (·.2))

end Cast

end Cutscene
