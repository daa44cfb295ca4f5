import Cutscene.Decimal.Layout
import Cutscene.Journal.Filter
/-!
# Settings

How fast actors walk and text appears, what happens when no script fits, and what the journal
keeps. A walk only comes to an end with a positive speed on tiles of a positive size, so other
settings are refused.
-/

namespace Cutscene

/-- What to do when no talking entry has its flags. -/
inductive Fallback where
  /-- Play the first entry all the same. -/
  | playFirst
  /-- Do not begin. -/
  | stayIdle
  deriving DecidableEq, Repr

/-- The slot that progress is saved in unless another is named. -/
def defaultSaveKey : String :=
  "Budgetville_Save1"

/-- The settings of the engine. -/
structure Settings where
  fallback : Fallback := .playFirst
  /-- The edge of a tile in pixels. -/
  tileSize : Float32 := 16.0
  /-- Pixels per millisecond. -/
  walkSpeed : Float32 := 0.08
  /-- Characters of text per frame. -/
  textSpeed : Nat := 2
  saveKey : String := defaultSaveKey
  journal : Journal.Filter := {}
  deriving DecidableEq

namespace Settings

/-- Why settings are refused. -/
inductive Unfit where
  | walkSpeed (value : Float32)
  | tileSize (value : Float32)
  deriving DecidableEq

/-- The wording of a refusal. -/
def Unfit.message : Unfit → String
  | walkSpeed value => "walk_speed must be positive, got " ++ Decimal.plain.float32 value
  | tileSize value => "tile_size must be positive, got " ++ Decimal.plain.float32 value

/-- A number that a walk can come to an end with. -/
def isUsable (x : Float32) : Bool :=
  x.isFinite && decide (x > 0.0)

/-- The first setting that a walk could not come to an end with. -/
def unfit? (s : Settings) : Option Unfit :=
  if !isUsable s.walkSpeed then some (.walkSpeed s.walkSpeed)
  else if !isUsable s.tileSize then some (.tileSize s.tileSize)
  else none

end Settings

end Cutscene
