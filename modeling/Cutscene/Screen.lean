import Cutscene.Screen.Typewriter
import Cutscene.Script
import Cutscene.Wallet
/-!
# The screen

What the player sees: the box of text, the labels of the open choices and the label with the
balance. The screen also keeps a transcript of all that has appeared.
-/

namespace Cutscene

/-- Something that has appeared on the screen. -/
inductive ScreenEntry where
  | text (text : String)
  | choices (labels : List String)
  | balance (label : String)
  deriving DecidableEq, Repr

/-- The screen. -/
structure Screen where
  box : Typewriter
  choices : List String := []
  balance : Option String := none
  transcript : List ScreenEntry := []
  deriving DecidableEq, Repr

namespace Screen

/-- An empty screen whose text appears at a speed. -/
def ofSpeed (speed : Nat) : Screen :=
  { box := .ofSpeed speed }

/-- An empty screen whose text appears at once. -/
def instant : Screen :=
  ofSpeed (UInt64.size - 1)

instance : Inhabited Screen := ⟨instant⟩

/-- The text in the box while the box is visible. -/
def currentText (s : Screen) : Option String :=
  if s.box.visible then some s.box.text else none

/-- Whether text is still appearing. -/
def isTyping (s : Screen) : Bool :=
  s.box.isTyping

/-- Adds an entry to the transcript. -/
def write (s : Screen) (entry : ScreenEntry) : Screen :=
  { s with transcript := s.transcript ++ [entry] }

/-- Shows a text; its first characters appear at once. -/
def showText (s : Screen) (text : String) : Screen :=
  let box := (s.box.clear.setText text).appear
  let box := if box.isTyping && box.shown.isEmpty then box.tick else box
  { s with box }.write (.text text)

@[simp] theorem showText_visible (s : Screen) (text : String) :
    (s.showText text).box.visible = true := by
  unfold showText write
  dsimp only
  split
  · exact Typewriter.tick_visible _
  · rfl

@[simp] theorem showText_text (s : Screen) (text : String) : (s.showText text).box.text = text := by
  unfold showText write
  dsimp only
  split
  · exact Typewriter.tick_text _
  · rfl

@[simp] theorem showText_speed (s : Screen) (text : String) :
    (s.showText text).box.speed = s.box.speed := by
  unfold showText write
  dsimp only
  split
  · exact Typewriter.tick_speed _
  · rfl

/-- Hides the text. -/
def hideText (s : Screen) : Screen :=
  { s with box := s.box.clear.hide }

/-- Shows choices. -/
def showChoices (s : Screen) (options : List Choice) : Screen :=
  let labels := options.map (·.label)
  { s with choices := labels }.write (.choices labels)

/-- Hides the choices. -/
def hideChoices (s : Screen) : Screen :=
  { s with choices := [] }

/-- Shows a balance. -/
def showBalance (s : Screen) (amount : Float) : Screen :=
  let label := moneyText amount
  { s with balance := some label }.write (.balance label)

/-- Lets all of the text appear. -/
def skipTyping (s : Screen) : Screen :=
  { s with box := s.box.skip }

/-- One frame. -/
def tick (s : Screen) : Screen :=
  { s with box := s.box.tick }

/-- Takes the transcript off the screen. -/
def drain (s : Screen) : List ScreenEntry × Screen :=
  (s.transcript, { s with transcript := [] })

/-- The texts of the transcript. -/
def texts (s : Screen) : List String :=
  s.transcript.filterMap fun
    | .text text => some text
    | _ => none

end Screen

end Cutscene
