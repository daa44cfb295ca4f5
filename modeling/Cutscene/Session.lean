import Cutscene.Performance
import Cutscene.Selection
/-!
# Sessions

Only one interaction runs at a time. A session owns that slot: it picks the script of whoever is
talked to, plays it, takes input for it from whoever holds its token, and clears up when the script
ends or is given up (`Session.close`).
-/

namespace Cutscene

open Journal (Note)

/-- The number that shows which interaction an input is meant for. As with tickets, a counter of 64
bits is taken not to wrap around. -/
abbrev Token := Nat

/-- An interaction under way. -/
structure Interaction where
  token : Token
  npc : String
  selection : Selection
  performance : Performance
  deriving DecidableEq

/-- The owner of the one interaction that may run. -/
structure Session where
  settings : Settings := {}
  active : Option Interaction := none
  nextToken : Token := 1
  nextTicket : Ticket := 1
  deriving DecidableEq

/-- Why a session does not do what it is asked to. -/
inductive SessionError where
  | alreadyActive (npc : String)
  | notActive
  | staleToken (token : Token)
  | noScripts (npc : String)
  | noEligibleScript (npc : String)
  deriving DecidableEq, Repr

/-- The wording of an error. -/
def SessionError.message : SessionError → String
  | alreadyActive npc => "An interaction with '" ++ npc ++ "' is already active"
  | notActive => "No interaction is active"
  | staleToken token =>
    "Session token " ++ toString token ++ " does not match the active interaction"
  | noScripts npc => "'" ++ npc ++ "' has no scripts"
  | noEligibleScript npc => "'" ++ npc ++ "' has no script whose flags are satisfied"

/-- What a call leads to, with its answer. -/
structure Reply (α : Type) where
  session : Session
  scene : Scene
  notes : List Note
  answer : Except SessionError α

namespace Session

/-- The session says no and stays as it is. -/
def decline {α : Type} (x : Session) (s : Scene) (error : SessionError)
    (notes : List Note := []) : Reply α :=
  ⟨x, s, notes, .error error⟩

/-- Clears up after an interaction: its text and choices leave the screen, the flags of its choices
are removed, and the flags are written to their file. -/
def close (x : Session) (i : Interaction) (s : Scene) : Session × Scene × List Note :=
  let s := { s with screen := s.screen.hideChoices.hideText }
  let t := i.performance.reset s
  let flushed := t.scene.flush
  ({ x with active := none, nextTicket := i.performance.nextTicket }, flushed.1,
    t.notes ++ [.flushed i.npc flushed.2, .ended i.token i.npc])

/-- Takes over a turn of an interaction; one that has come to its end is closed. -/
def settle (x : Session) (i : Interaction) (t : Turn) : Reply Status :=
  let i := { i with performance := t.performance }
  let status := t.performance.status
  if status = .finished then
    let (x, s, notes) := x.close i t.scene
    ⟨x, s, t.notes ++ notes, .ok status⟩
  else ⟨{ x with active := some i }, t.scene, t.notes, .ok status⟩

/-- Plays an entry for an interaction that may begin. -/
def launch (x : Session) (npc player : String) (script : Script) (selection : Selection)
    (s : Scene) : Reply (Token × Status) :=
  let token := x.nextToken
  let performance : Performance :=
    { script, journal := x.settings.journal, nextTicket := x.nextTicket }
  let t := performance.start player (some npc) s
  let reply := { x with nextToken := token + 1 }.settle ⟨token, npc, selection, performance⟩ t
  ⟨reply.session, reply.scene, .begun token npc selection.index :: reply.notes,
    reply.answer.map (token, ·)⟩

/-- Begins to talk to a character with these talking entries. The interaction may be over at once,
when nothing in its script needs anything from outside. -/
def begin (x : Session) (npc player : String) (entries : List Script) (s : Scene) :
    Reply (Token × Status) :=
  match x.active with
  | some i => x.decline s (.alreadyActive i.npc)
  | none =>
    match selectEntry entries s.store with
    | none => x.decline s (.noScripts npc)
    | some selection =>
      let script := entries.getD selection.index {}
      if selection.isFallback then
        match x.settings.fallback with
        | .stayIdle => x.decline s (.noEligibleScript npc) [.refused npc]
        | .playFirst =>
          let reply := x.launch npc player script selection s
          { reply with notes := .fellBack npc :: reply.notes }
      else x.launch npc player script selection s

/-- The interaction that a token is for. -/
def holder (x : Session) (token : Token) : Except SessionError Interaction :=
  match x.active with
  | none => .error .notActive
  | some i => if i.token = token then .ok i else .error (.staleToken token)

/-- Feeds a cue to the interaction of a token. -/
def feed (x : Session) (token : Token) (cue : Cue) (s : Scene) : Reply Status :=
  match x.holder token with
  | .error error => x.decline s error
  | .ok i => x.settle i (i.performance.resume cue s)

/-- The confirm key: text that is still appearing appears at once, and only then does the key
confirm a message. -/
def confirm (x : Session) (token : Token) (s : Scene) : Reply Status :=
  match x.holder token with
  | .error error => x.decline s error
  | .ok i =>
    if s.screen.isTyping then
      ⟨x, { s with screen := s.screen.skipTyping }, [], .ok i.performance.status⟩
    else x.feed token .confirm s

/-- The player picks an option. -/
def choose (x : Session) (token : Token) (index : Nat) (s : Scene) : Reply Status :=
  x.feed token (.choose index) s

/-- An actor hands back the ticket of a walk. -/
def arrive (x : Session) (token : Token) (ticket : Ticket) (s : Scene) : Reply Status :=
  x.feed token (.arrive ticket) s

/-- Gives the interaction of a token up. -/
def abandon (x : Session) (token : Token) (s : Scene) : Reply Unit :=
  match x.holder token with
  | .error error => x.decline s error
  | .ok i =>
    let (x, s, notes) := x.close i s
    ⟨x, s, notes, .ok ()⟩

end Session

end Cutscene
