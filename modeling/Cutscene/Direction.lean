/-!
# Directions and positions

The four ways an actor can face or walk, and points of the map in pixels. The second coordinate
grows downwards.
-/

namespace Cutscene

/-- One of the four ways an actor can face or walk. -/
inductive Direction where
  | up
  | down
  | left
  | right
  deriving DecidableEq, Repr

namespace Direction

/-- Actors look down unless told otherwise. -/
instance : Inhabited Direction := ⟨down⟩

/-- The written form of a direction. -/
def name : Direction → String
  | up => "up"
  | down => "down"
  | left => "left"
  | right => "right"

/-- Every direction. -/
def all : List Direction :=
  [up, down, left, right]

/-- Reads a direction. -/
def ofName? (s : String) : Option Direction :=
  all.find? fun d => d.name == s

@[simp] theorem ofName?_name (d : Direction) : ofName? d.name = some d := by
  cases d <;> decide

/-- The step of one pixel in a direction. -/
def unit : Direction → Float32 × Float32
  | up => (0.0, -1.0)
  | down => (0.0, 1.0)
  | left => (-1.0, 0.0)
  | right => (1.0, 0.0)

end Direction

/-- A point of the map. -/
structure Position where
  x : Float32
  y : Float32
  deriving DecidableEq

namespace Position

/-- The point `distance` pixels away in a direction. -/
def offset (p : Position) (d : Direction) (distance : Float32) : Position :=
  ⟨p.x + d.unit.1 * distance, p.y + d.unit.2 * distance⟩

/-- The distance between two points. -/
def distanceTo (p q : Position) : Float32 :=
  let dx := q.x - p.x
  let dy := q.y - p.y
  (dx * dx + dy * dy).sqrt

/-- The direction in which an onlooker at `p` sees the point `q`: along the axis on which they are
further apart, and up or down when both are equal. -/
def toward (p q : Position) : Direction :=
  let dx := q.x - p.x
  let dy := q.y - p.y
  if dx.abs > dy.abs then
    if dx > 0.0 then .right else .left
  else if dy > 0.0 then .down
  else .up

end Position

end Cutscene
