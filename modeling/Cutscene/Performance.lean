import Cutscene.Journal.Note
import Cutscene.Scene
/-!
# Performances

A performance plays one script from its first event to its last. Events that need nothing from
outside follow one another within one call; a message, a choice and a walk suspend it until the cue
that it waits for comes in (`Performance.resume`). Each call returns the performance, the scene and
the notes of what happened (`Turn`).
-/

namespace Cutscene

open Journal (Note)

/-- The value of a flag that a choice sets. -/
def chosenValue : String := "true"

/-- Whom a performance is played for, and who began to speak. -/
structure Binding where
  player : String
  initiator : Option String := none
  deriving DecidableEq, Repr

/-- Who walks when a walk names no one: the initiator, or else the player. -/
def Binding.walker (b : Binding) (actor : Option String) : String :=
  actor.getD (b.initiator.getD b.player)

/-- What a performance waits at. -/
inductive Pause where
  | message
  | choice (menu : Menu)
  | walk (actor : String) (ticket : Ticket)
  deriving DecidableEq, Repr

/-- What is waited for at a pause. -/
def Pause.waitsFor : Pause → Suspension
  | message => .confirm
  | choice _ => .choice
  | walk actor _ => .walk actor

/-- A script being played. -/
structure Performance where
  script : Script
  cursor : Nat := 0
  binding : Option Binding := none
  status : Status := .idle
  /-- The menu that is open. -/
  menu? : Option Menu := none
  /-- The ticket that is waited for. -/
  awaitedTicket? : Option Ticket := none
  nextTicket : Ticket := 1
  /-- The flags that choices have set in this run. -/
  chosen : TextSet := .empty
  journal : Journal.Filter := {}
  deriving DecidableEq

/-- What a call leads to. -/
structure Turn where
  performance : Performance
  scene : Scene
  notes : List Note
  deriving DecidableEq

namespace Turn

/-- The turn with notes of what happened before. -/
def after (t : Turn) (notes : List Note) : Turn :=
  { t with notes := notes ++ t.notes }

end Turn

/-- What an event leads to: the next event follows, or the performance waits at the event. -/
inductive Outcome where
  | advance
  | suspend (pause : Pause)
  deriving DecidableEq, Repr

/-- What playing an event leads to. -/
structure Played where
  outcome : Outcome
  scene : Scene
  notes : List Note
  deriving DecidableEq

namespace Performance

/-- Whether the cursor is behind the last event. -/
def isComplete (p : Performance) : Bool :=
  decide (p.script.length ≤ p.cursor)

/-- Whether a choice is waited for. -/
def awaitsChoice (p : Performance) : Bool :=
  p.menu?.any (·.isOpen)

/-- The event under the cursor. -/
def current? (p : Performance) : Option Event :=
  p.script.events[p.cursor]?

end Performance

/-! ## Single events -/

/-- Turns the speaker of a message, if there is one. -/
def Scene.turnSpeaker (s : Scene) (b : Binding) (facing : Facing) : Scene × List Note :=
  match b.initiator with
  | none => (s, [])
  | some speaker =>
    match s.cast.get? speaker with
    | none => (s, [.speakerMissing speaker])
    | some actor =>
      let player := (s.cast.get? b.player).map (·.position)
      let direction := facing.resolve actor.position actor.direction player
      ({ s with cast := s.cast.face speaker direction }, [.turned speaker direction facing])

/-- Plays a message. -/
def Scene.playMessage (s : Scene) (b : Binding) (index : Nat) (m : Message) : Played :=
  if s.store.containsAll m.required then
    let (s, notes) := { s with screen := s.screen.showText m.text }.turnSpeaker b m.facing
    if m.choices.isEmpty then ⟨.suspend .message, s, notes⟩
    else
      let (screen, menu) := s.screen.openMenu m.choices
      ⟨.suspend (.choice menu), { s with screen }, notes⟩
  else ⟨.advance, s, [.withheld index m.required]⟩

/-- Plays a walk, which gets the given ticket if its walker is there. -/
def Scene.playWalk (s : Scene) (b : Binding) (index : Nat) (ticket : Ticket) (w : Walk) : Played :=
  let s := { s with screen := s.screen.hideText }
  let actor := b.walker w.actor
  match s.cast.require actor with
  | .ok _ =>
    ⟨.suspend (.walk actor ticket),
      { s with cast := s.cast.walk actor w.tiles w.direction ticket },
      [.sent actor w.tiles w.direction ticket]⟩
  | .error missing => ⟨.advance, s, [.walkerMissing missing index]⟩

/-- Applies a transaction. -/
def Scene.pay (s : Scene) (amount : Float) : Played :=
  let wallet := s.wallet.apply amount
  ⟨.advance, { s with wallet, screen := s.screen.showBalance wallet.balance },
    [.paid amount wallet.balance]⟩

/-- Plays the event with an index; a walk gets the given ticket. -/
def Scene.play (s : Scene) (b : Binding) (index : Nat) (ticket : Ticket) : Event → Played
  | .message m => s.playMessage b index m
  | .walk w => s.playWalk b index ticket w
  | .addFlag key value =>
    ⟨.advance, { s with store := s.store.set key value }, [.flagSet key value]⟩
  | .removeFlag key => ⟨.advance, { s with store := s.store.erase key }, [.flagRemoved key]⟩
  | .transaction amount => s.pay amount

/-! ## Calls -/

namespace Performance

/-- The performance waits at a pause. -/
def suspend (p : Performance) (pause : Pause) : Performance :=
  let p := { p with status := .paused pause.waitsFor }
  match pause with
  | .message => p
  | .choice menu => { p with menu? := some menu }
  | .walk _ ticket => { p with awaitedTicket? := some ticket, nextTicket := ticket + 1 }

/-- The performance has come to the end of its script. -/
def finish (p : Performance) (s : Scene) : Turn :=
  ⟨{ p with status := .finished }, s,
    if p.status = .finished then [] else [.finished p.cursor p.script.lastIndex]⟩

/-- Plays the events from the cursor on, which are given, up to the next suspension. -/
def run (b : Binding) (p : Performance) (s : Scene) : List Event → Turn
  | [] => p.finish s
  | e :: rest =>
    let played := s.play b p.cursor p.nextTicket e
    let notes := .reached p.cursor e :: played.notes
    match played.outcome with
    | .advance => (run b { p with cursor := p.cursor + 1 } played.scene rest).after notes
    | .suspend pause =>
      ⟨p.suspend pause, played.scene, notes ++ [.paused p.cursor pause.waitsFor]⟩

/-- The performance with nothing pending. -/
def cleared (p : Performance) : Performance :=
  { p with menu? := none, awaitedTicket? := none }

/-- Plays on from the cursor. While the performance waits, the event that it waits at is played
again. A performance that is bound to no player stays as it is. -/
def proceed (p : Performance) (s : Scene) : Turn :=
  match p.binding with
  | none => ⟨p, s, []⟩
  | some b => run b p.cleared s (p.script.events.drop p.cursor)

/-- Plays on from the event behind the cursor. -/
def proceedPast (p : Performance) (s : Scene) : Turn :=
  proceed { p with cursor := p.cursor + 1 } s

/-- Removes the flags that choices have set. -/
def purge (p : Performance) (s : Scene) : Turn :=
  ⟨{ p with chosen := .empty },
    { s with store := p.chosen.keys.foldl Store.erase s.store },
    p.chosen.keys.map .purged⟩

/-- Binds a performance to its player and plays it from the start. -/
def start (p : Performance) (player : String) (initiator : Option String) (s : Scene) : Turn :=
  let t := p.purge s
  let p := { t.performance.cleared with cursor := 0, binding := some ⟨player, initiator⟩ }
  (p.proceed t.scene).after (t.notes ++ [.started player initiator p.script.length])

/-- The player picks an option of the open menu. -/
def choose (p : Performance) (index : Nat) (s : Scene) : Turn :=
  match p.menu? with
  | none => ⟨p, s, []⟩
  | some menu =>
    match s.screen.pick menu index with
    | (screen, _, some option) =>
      let p := { p with chosen := p.chosen.insert option.flag (), menu? := none }
      let s := { s with screen, store := s.store.set option.flag chosenValue }
      (p.proceedPast s).after [.picked option]
    | (_, menu, none) => ⟨{ p with menu? := some menu }, s, [.pickIgnored index p.cursor]⟩

/-- The ticket of a walk comes in, with the one who walks. -/
def arrive (p : Performance) (actor : String) (ticket : Ticket) (s : Scene) : Turn :=
  if p.awaitedTicket? = some ticket then
    (proceedPast { p with awaitedTicket? := none } s).after [.arrived actor]
  else ⟨p, s, [.strayTicket ticket p.awaitedTicket?]⟩

/-- Feeds a cue in. A cue that is not waited for is ignored. -/
def resume (p : Performance) (cue : Cue) (s : Scene) : Turn :=
  match p.status.suspension?, cue with
  | some .confirm, .confirm => p.proceedPast s
  | some .choice, .choose index => p.choose index s
  | some (.walk actor), .arrive ticket => p.arrive actor ticket s
  | waitsFor, cue => ⟨p, s, [.ignored cue waitsFor]⟩

/-- Gives the script up: the flags of choices are removed and the performance is as new. -/
def reset (p : Performance) (s : Scene) : Turn :=
  let t := p.purge s
  { t with
    performance := { t.performance.cleared with cursor := 0, binding := none, status := .idle } }

end Performance

end Cutscene
