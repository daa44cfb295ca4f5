import Cutscene.Terminal.Play
/-!
# Arguments of the program

The first argument names a command. `play` takes the file of a town and options, in any order;
`lint` takes the file of a town.
-/

namespace Cutscene.Terminal

/-- What the program is asked to do. -/
inductive Invocation where
  | play (options : Options)
  | lint (town : String)
  deriving DecidableEq, Repr

namespace Invocation

/-- How the program is called. -/
def usage : String :=
  "Usage:\n"
    ++ "  play TOWN --npc NPC [--config FILE] [--flags FILE] [--save-dir FOLDER] [--debug]\n"
    ++ "  lint TOWN\n"

/-- What is known of the options of `play`. -/
structure Parts where
  town : Option String := none
  npc : Option String := none
  settings : Option String := none
  flags : Option String := none
  saveFolder : Option String := none
  debug : Bool := false

/-- The options that are known, if those that must be there are. -/
def Parts.options? (p : Parts) : Option Options := do
  return ⟨← p.town, ← p.npc, p.settings, p.flags, p.saveFolder, p.debug⟩

/-- Adds arguments of `play` to what is known. -/
def Parts.add? (p : Parts) : List String → Option Parts
  | [] => some p
  | "--debug" :: rest => { p with debug := true }.add? rest
  | "--npc" :: npc :: rest => { p with npc := some npc }.add? rest
  | "--config" :: path :: rest => { p with settings := some path }.add? rest
  | "--flags" :: path :: rest => { p with flags := some path }.add? rest
  | "--save-dir" :: path :: rest => { p with saveFolder := some path }.add? rest
  | arg :: rest =>
    if p.town.isNone ∧ !arg.startsWith "-" then { p with town := some arg }.add? rest else none

/-- Reads the arguments of the program. -/
def ofArgs? : List String → Option Invocation
  | ["lint", town] => some (.lint town)
  | "play" :: rest => do return .play (← (← Parts.add? {} rest).options?)
  | _ => none

end Invocation

end Cutscene.Terminal
