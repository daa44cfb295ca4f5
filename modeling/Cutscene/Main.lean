import Cutscene.Terminal.Check
import Cutscene.Terminal.Invocation
/-!
# The program

Reads the files that a command needs, prints what the command prints, and writes the files that it
has changed. What a command does is said in `Terminal.check` and `Terminal.Game.round`.
-/

namespace Cutscene.Terminal

/-- A disk with nothing but the folder that the program runs in. -/
def workingDisk : IO Disk := do
  let home := Disk.Path.parts (← IO.currentDir).toString
  return .withHome (home.filter (· != ""))

/-- Takes what is at a path over to a disk. -/
def fetchOne (d : Disk) (path : String) : IO Disk := do
  try
    return d.install path (.file (← IO.FS.readBinFile path))
  catch
    | .noFileOrDirectory .. => return d
    | _ => return d.install path .folder

/-- Takes what is at a path and on the way to it over to a disk. -/
def fetch (d : Disk) (path : String) : IO Disk :=
  (Disk.Path.stages path).foldlM fetchOne d

/-- Writes the file at a path if it has changed. -/
def writeBack (before after : Disk) (path : String) : IO Unit := do
  match after.find? path with
  | some (.file bytes) =>
    if before.find? path ≠ some (.file bytes) then
      let folder := Disk.Path.parent path
      if folder ≠ "" then IO.FS.createDirAll folder
      IO.FS.writeBinFile path bytes
  | _ => return

/-- Prints a text at once. -/
def put (text : String) : IO Unit := do
  let out ← IO.getStdout
  out.putStr text
  out.flush

/-- Forgets what was printed before. -/
def Game.clear (g : Game) : Game :=
  { g with output := "" }

/-- Plays turns of the loop with lines of the standard input until the game is over. -/
partial def loop (g : Game) : IO Game.Round := do
  let g := g.clear
  let before := g.beforeRound.output
  put before
  let line ← if Game.asks g.status then (← IO.getStdin).getLine else pure ""
  let round := g.round line
  put (String.ofList (round.report.output.toList.drop before.length))
  match round with
  | .next g => loop g
  | .done g => return .done g.clear
  | .failed g failure => return .failed g.clear failure

/-- Ends the program with a failure. -/
def fail (failure : Failure) : IO UInt32 := do
  IO.eprintln ("Error: " ++ failure.message)
  return 1

/-- The files that a game may write. -/
def writtenFiles (o : Options) (s : Settings) : List String :=
  o.flags.toList ++ o.saveFolder.toList.map fun folder => (SlotFolder.mk folder).file s.saveKey

/-- Plays one interaction. -/
def runPlay (o : Options) : IO UInt32 := do
  let disk ← (o.town :: o.settings.toList ++ o.flags.toList).foldlM fetch (← workingDisk)
  match Setup.load o disk with
  | .error failure => fail failure
  | .ok setup =>
    let round ←
      match setup.begin o disk with
      | .next g => do
        put g.output
        match ← loop g with
        | .done g => pure (g.conclude o.saveFolder)
        | round => pure round
      | round => pure round
    let report := round.report
    put report.output
    (writtenFiles o setup.settings).forM (writeBack disk report.disk)
    match report.result with
    | some (.error failure) => fail failure
    | _ => return 0

/-- Reviews a town. -/
def runLint (path : String) : IO UInt32 := do
  match check (← fetch (← workingDisk) path) path with
  | .error failure => fail failure
  | .ok verdict =>
    put (verdict.output path)
    return if verdict.hasErrors then 1 else 0

end Cutscene.Terminal

open Cutscene.Terminal in
/-- Runs the command that the arguments name. -/
def main (args : List String) : IO UInt32 := do
  match Invocation.ofArgs? args with
  | some (.play options) => runPlay options
  | some (.lint town) => runLint town
  | none => do
    IO.eprint Invocation.usage
    return 2
