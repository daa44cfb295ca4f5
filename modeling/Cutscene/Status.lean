/-!
# Where a performance stands

What is reported to whoever drives a performance: it has not begun, it waits for something, or it
has come to the end of its script. A `Cue` is what may come in from outside while it waits.
-/

namespace Cutscene

/-- What a performance waits for. -/
inductive Suspension where
  | confirm
  | choice
  | walk (actor : String)
  deriving DecidableEq, Repr

/-- Where a performance stands. -/
inductive Status where
  | idle
  | paused (waitsFor : Suspension)
  | finished
  deriving DecidableEq, Repr

/-- What a status waits for. -/
def Status.suspension? : Status → Option Suspension
  | paused waitsFor => some waitsFor
  | _ => none

/-- What comes in from outside. -/
inductive Cue where
  /-- The player has read the message. -/
  | confirm
  /-- The player has picked an option. -/
  | choose (index : Nat)
  /-- An actor has handed back the ticket of a walk. -/
  | arrive (ticket : Nat)
  deriving DecidableEq, Repr

end Cutscene
