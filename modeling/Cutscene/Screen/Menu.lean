import Cutscene.Screen
/-!
# Menus of choices

A menu is open until one of its options is picked; whatever is picked afterwards does not count.
-/

namespace Cutscene

/-- Options of which one can be picked, and the index of the one that was. -/
structure Menu where
  options : List Choice
  picked : Option Nat := none
  deriving DecidableEq, Repr

namespace Menu

/-- Whether nothing was picked yet. -/
def isOpen (m : Menu) : Bool :=
  m.picked.isNone

/-- Picks an option. Nothing happens when one was picked before or there is none of that index. -/
def pick (m : Menu) (index : Nat) : Menu × Option Choice :=
  if m.isOpen then
    match m.options[index]? with
    | some option => ({ m with picked := some index }, some option)
    | none => (m, none)
  else (m, none)

end Menu

/-- Puts a menu of these options on the screen. -/
def Screen.openMenu (s : Screen) (options : List Choice) : Screen × Menu :=
  (s.showChoices options, ⟨options, none⟩)

/-- Picks an option of a menu; the options leave the screen with it. -/
def Screen.pick (s : Screen) (m : Menu) (index : Nat) : Screen × Menu × Option Choice :=
  match m.pick index with
  | (m, some option) => (s.hideChoices, m, some option)
  | (m, none) => (s, m, none)

end Cutscene
