import Cutscene.Terminal.Failure
/-!
# The command that plays one interaction

A terminal plays one interaction line by line: the enter key confirms a message, a digit picks a
choice, `q` gives up, and walks are simulated frame by frame. One turn of the loop is
`Game.round`; what is printed is kept in the game.
-/

namespace Cutscene.Terminal

/-- What to play, and with which files. -/
structure Options where
  town : String
  npc : String
  settings : Option String := none
  flags : Option String := none
  saveFolder : Option String := none
  debug : Bool := false
  deriving DecidableEq, Repr

/-- The length of a frame in milliseconds. -/
def frameMs : Float32 := 16.0

/-- The number of frames after which a walk is given up. -/
def walkFrames : Nat := 10000

/-- A session at a terminal; `output` is what has been printed. -/
structure Game where
  session : Session
  world : World
  token : Token
  status : Status
  debug : Bool
  output : String := ""

namespace Game

/-- Prints. -/
def print (g : Game) (text : String) : Game :=
  { g with output := g.output ++ text }

/-- Prints a line. -/
def printLine (g : Game) (text : String := "") : Game :=
  g.print (text ++ "\n")

/-- Changes the screen. -/
def setScreen (g : Game) (screen : Screen) : Game :=
  { g with world.scene.screen := screen }

/-! ## Printing what has appeared -/

/-- Prints the text in the box while it appears, frame by frame; `printed` characters of it are
printed already. -/
def typeOut (g : Game) (printed : Nat) : (fuel : Nat) → Game
  | 0 => g
  | fuel + 1 =>
    let screen := g.world.scene.screen
    let fresh := screen.box.shown.toList.drop printed
    let g := g.print (String.ofList fresh)
    if screen.isTyping then (g.setScreen screen.tick).typeOut (printed + fresh.length) fuel else g

/-- Prints an entry of the transcript. -/
def renderEntry (g : Game) : ScreenEntry → Game
  | .text text =>
    if g.world.scene.screen.currentText = some text then
      (g.typeOut 0 (text.length + 1)).printLine
    else g.printLine text
  | .choices labels =>
    let g := labels.zipIdx.foldl
      (fun g (label, i) => g.printLine (toString (i + 1) ++ ". " ++ label))
      (g.printLine "--- Choice ---")
    g.printLine
  | .balance label => g.printLine s!"[Balance: {label}]"

/-- Prints all that has appeared since the last time. -/
def render (g : Game) : Game :=
  let (entries, screen) := g.world.scene.screen.drain
  entries.foldl renderEntry (g.setScreen screen)

/-- Prints where the performance stands. -/
def printDebug (g : Game) : Game :=
  let g := g.printLine "[debug]"
  let g :=
    match g.session.active with
    | none => g
    | some i =>
      let p : Performance := i.performance
      let next := (p.current?.map fun (event : Event) => event.kind.name).getD "end"
      let g := g.printLine (s!"index={toString p.cursor} max={toString p.script.lastIndex} "
        ++ s!"next={next} status={Journal.detail g.status}")
      if p.chosen.keys.isEmpty then g
      else g.printLine ("choice flags=" ++ Journal.setDetail p.chosen.keys)
  g.printLine

/-! ## The loop -/

/-- What a turn of the loop leads to. -/
inductive Round where
  /-- The loop goes on. -/
  | next (g : Game)
  /-- The loop is over. -/
  | done (g : Game)
  | failed (g : Game) (failure : Failure)

/-- Takes over the answer of a session. -/
def take (g : Game) (reply : Reply Status) : Round :=
  let g := { g with session := reply.session, world.scene := reply.scene }
  match reply.answer with
  | .ok status => .next { g with status }
  | .error error => .failed g (.session error)

/-- Hands in the tickets of a frame, one after another. Returns the last answer. -/
def handIn (g : Game) (last : Option Status) : List Ticket → Round × Option Status
  | [] => (.next g, last)
  | ticket :: rest =>
    match g.take (g.session.arrive g.token ticket g.world.scene) with
    | .next g => g.handIn (some g.status) rest
    | round => (round, last)

/-- Lets frames pass until the walk that is waited for comes back. -/
def simulateWalk (g : Game) (actor : String) : (frames : Nat) → Round
  | 0 => .failed g (.endlessWalk actor)
  | frames + 1 =>
    let (world, tickets) := g.world.tick frameMs
    match { g with world }.handIn none tickets with
    | (.next g, answer) =>
      let goOn :=
        if g.world.scene.cast.anyoneWalking then g.simulateWalk actor frames
        else .failed g (.endlessWalk actor)
      match answer with
      | none => goOn
      | some (.paused (.walk _)) => goOn
      | some _ => .next g
    | (round, _) => round

/-- The digit from one to nine that a line holds; a plus sign and zeros in front do not matter. -/
def choiceOf? (line : String) : Option Nat :=
  let digits := match line.toList with
    | '+' :: rest => rest
    | cs => cs
  if digits.isEmpty ∨ !digits.all Char.isDigit then none
  else
    let n := digits.foldl (fun n c => n * 10 + (c.toNat - '0'.toNat)) 0
    if 1 ≤ n ∧ n ≤ 9 then some n else none

/-- The player gives up. -/
def quit (g : Game) : Round :=
  let reply := g.session.abandon g.token g.world.scene
  let g := { g with session := reply.session, world.scene := reply.scene }
  match reply.answer with
  | .ok () => .done (g.printLine "Goodbye!")
  | .error error => .failed g (.session error)

/-- What the terminal asks for a line with. -/
def prompt : Status → String
  | .paused .choice => "Select (1-9): "
  | _ => ""

/-- Whether the terminal asks for a line. -/
def asks : Status → Bool
  | .paused .confirm => true
  | .paused .choice => true
  | _ => false

/-- Answers a prompt with a line. -/
def answer (g : Game) (line : String) : Round :=
  let line := Text.trim line
  if line = "q" then g.quit
  else if g.status = .paused .choice then
    match choiceOf? line with
    | some n => g.take (g.session.choose g.token (n - 1) g.world.scene)
    | none => .next (g.printLine "Invalid choice. Enter 1-9.")
  else g.take (g.session.confirm g.token g.world.scene)

/-- What stands at the top of a turn of the loop. -/
def beforeRound (g : Game) : Game :=
  let g := if g.debug then g.printDebug else g
  g.print (prompt g.status)

/-- One turn of the loop; `line` is the line that was read, if one is asked for. -/
def round (g : Game) (line : String) : Round :=
  let g := g.beforeRound
  let round :=
    match g.status with
    | .paused (.walk actor) =>
      (g.printLine s!"({actor} is walking...)").simulateWalk actor walkFrames
    | .paused _ => g.answer line
    | _ => .done g
  match round with
  | .next g => .next g.render
  | round => round

/-- Plays turns of the loop; `lines` is what is left of the input, and at its end every line that is
read is empty. Without an end within `fuel` turns the game goes on. -/
def run (g : Game) (lines : List String) : (fuel : Nat) → Round
  | 0 => .next g
  | fuel + 1 =>
    let (line, rest) := if asks g.status then (lines.headD "", lines.drop 1) else ("", lines)
    match g.round line with
    | .next g => g.run rest fuel
    | round => round

/-! ## The whole command -/

/-- The lines at the start. -/
def banner : String :=
  "=== Budgetville ===\n\nControls:\n  Enter: next\n  1-9:   select choice\n  q:     quit\n\n"

/-- Saves where the player stands. -/
def saveProgress (g : Game) (folder : String) : Round :=
  match g.world.scene.cast.get? g.world.player with
  | none => .failed g (.playerMissing g.world.player)
  | some player =>
    let progress : Progress :=
      { map := g.world.map
        position := player.position
        direction := player.direction
        key := g.session.settings.saveKey }
    let (disk, result) := SlotFolder.save ⟨folder⟩ g.world.scene.disk progress
    let g := { g with world.scene.disk := disk }
    match result with
    | .ok () => .done (g.printLine s!"Saved progress to slot {progress.key}")
    | .error error => .failed g (.progress error)

/-- What is done when the loop is over. -/
def conclude (g : Game) (saveFolder : Option String) : Round :=
  let g := (g.printLine).printLine "== END =="
  let g := g.world.scene.screen.balance.elim g fun label => g.printLine s!"Balance: {label}"
  match saveFolder with
  | some folder => g.saveProgress folder
  | none => .done g

end Game

/-- All that a game needs before it begins. -/
structure Setup where
  settings : Settings
  town : Town
  entries : List Script
  store : Store

/-- Reads the files of a game. -/
def Setup.load (o : Options) (d : Disk) : Except Failure Setup := do
  let settings ← o.settings.elim (.ok {}) (loadSettings d)
  let settings := if o.debug then { settings with journal := .verbose } else settings
  let town ← loadTown d o.town
  match town.talking? o.npc with
  | none => throw (.unknownNpc o.npc o.town)
  | some entries =>
    let store ←
      match o.flags with
      | some path => ((FlagFile.load d path).map .file).mapError .flags
      | none => pure (.memory .empty)
    return ⟨settings, town, entries, store⟩

/-- Begins the game and shows its first screen. -/
def Setup.begin (setup : Setup) (o : Options) (d : Disk) : Game.Round :=
  let world := setup.town.world setup.settings setup.store d
  let session : Session := { settings := setup.settings }
  let reply := session.begin o.npc world.player setup.entries world.scene
  let g : Game :=
    { session := reply.session
      world := { world with scene := reply.scene }
      token := 0
      status := .idle
      debug := o.debug
      output := Game.banner }
  match reply.answer with
  | .error error => .failed g (.session error)
  | .ok (token, status) => .next { g with token, status }.render

/-- What a command has printed, how it ended, if it did, and the disk behind it. -/
structure Report where
  output : String
  result : Option (Except Failure Unit)
  disk : Disk

/-- The report of a game. -/
def Game.Round.report : Game.Round → Report
  | .next g => ⟨g.output, none, g.world.scene.disk⟩
  | .done g => ⟨g.output, some (.ok ()), g.world.scene.disk⟩
  | .failed g failure => ⟨g.output, some (.error failure), g.world.scene.disk⟩

/-- More turns than a game that ends can have: a turn that goes on uses a line up, types a text to
its end or gets on in the script. -/
def Setup.turns (setup : Setup) (lines : List String) : Nat :=
  lines.length + 2 * (setup.entries.flatMap (·.events)).length + 2

/-- Plays the loop to its end and concludes. -/
def Game.finish (g : Game) (lines : List String) (turns : Nat) (saveFolder : Option String) :
    Game.Round :=
  match g.run lines turns with
  | .done g => g.conclude saveFolder
  | round => round

/-- Plays one interaction with these lines as input. -/
def play (o : Options) (d : Disk) (lines : List String) : Report :=
  match Setup.load o d with
  | .error failure => ⟨"", some (.error failure), d⟩
  | .ok setup =>
    match setup.begin o d with
    | .next g => (g.finish lines (setup.turns lines) o.saveFolder).report
    | round => round.report

end Cutscene.Terminal
