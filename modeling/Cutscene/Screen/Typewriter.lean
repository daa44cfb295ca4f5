/-!
# The typewriter

The box of text at the bottom of the screen. Its text appears a few characters per frame while the
box is visible; `Typewriter.shown` is the part that has appeared.
-/

namespace Cutscene

/-- A box whose text appears `speed` characters per frame; `revealed` counts those that have. -/
structure Typewriter where
  visible : Bool := false
  text : String := ""
  revealed : Nat := 0
  speed : Nat := 0
  deriving DecidableEq, Repr

namespace Typewriter

/-- A hidden box that reveals at least one character per frame. -/
def ofSpeed (speed : Nat) : Typewriter :=
  { speed := max speed 1 }

/-- Puts in a text, of which nothing is revealed yet, and shows the box. -/
def setText (t : Typewriter) (text : String) : Typewriter :=
  { t with text := text, revealed := 0, visible := true }

/-- Empties the box. -/
def clear (t : Typewriter) : Typewriter :=
  { t with text := "", revealed := 0 }

/-- Shows the box. -/
def appear (t : Typewriter) : Typewriter :=
  { t with visible := true }

/-- Hides the box. -/
def hide (t : Typewriter) : Typewriter :=
  { t with visible := false }

/-- Whether text is still appearing. -/
def isTyping (t : Typewriter) : Bool :=
  t.visible && decide (t.revealed < t.text.length)

/-- Reveals the rest of the text. -/
def skip (t : Typewriter) : Typewriter :=
  { t with revealed := t.text.length }

/-- One frame. -/
def tick (t : Typewriter) : Typewriter :=
  if t.isTyping then { t with revealed := min (t.revealed + t.speed) t.text.length } else t

@[simp] theorem tick_visible (t : Typewriter) : t.tick.visible = t.visible := by
  unfold tick
  split <;> rfl

@[simp] theorem tick_text (t : Typewriter) : t.tick.text = t.text := by
  unfold tick
  split <;> rfl

@[simp] theorem tick_speed (t : Typewriter) : t.tick.speed = t.speed := by
  unfold tick
  split <;> rfl

theorem isTyping_of_tick {t : Typewriter} (h : t.tick.isTyping = true) : t.isTyping = true := by
  by_cases htyping : t.isTyping = true
  · exact htyping
  · have hsame : t.tick = t := if_neg htyping
    rwa [hsame] at h

/-- The part of the text that has appeared. -/
def shown (t : Typewriter) : String :=
  String.ofList (t.text.toList.take t.revealed)

end Typewriter

end Cutscene
