import Cutscene.Cast
import Cutscene.Flags.Store
import Cutscene.Journal.Detail
import Cutscene.Journal.Filter
/-!
# What happens in a performance

Every call of a performance or a session reports what happened in it as a list of notes, in order.
`Note.record` is the line that the journal keeps of a note: notes about the story itself always have
one, the others only as the filter allows, and a flush only if it failed.
-/

namespace Cutscene.Journal

/-- Something that happened. -/
inductive Note where
  | started (player : String) (initiator : Option String) (events : Nat)
  | reached (index : Nat) (event : Event)
  | paused (index : Nat) (waitsFor : Suspension)
  | ignored (cue : Cue) (waitsFor : Option Suspension)
  /-- A message did not show, because it lacks flags. -/
  | withheld (index : Nat) (required : List String)
  | turned (speaker : String) (direction : Direction) (facing : Facing)
  | speakerMissing (speaker : String)
  | sent (actor : String) (tiles : UInt32) (direction : Direction) (ticket : Nat)
  | walkerMissing (error : MissingActor) (index : Nat)
  | arrived (actor : String)
  | strayTicket (ticket : Nat) (awaited : Option Nat)
  | flagSet (key value : String)
  | flagRemoved (key : String)
  | paid (amount balance : Float)
  | picked (option : Choice)
  | pickIgnored (option index : Nat)
  /-- A flag that a choice had set was removed at the end. -/
  | purged (key : String)
  | finished (index : Nat) (last : Int)
  | refused (npc : String)
  | fellBack (npc : String)
  | begun (token : Nat) (npc : String) (entry : Nat)
  /-- The flags were to be written to their file, which may have failed. -/
  | flushed (npc : String) (failure : Option StoreError)
  | ended (token : Nat) (npc : String)
  deriving DecidableEq

/-- Where records of performances and of sessions say that they come from. -/
def performanceTarget : String := "budgetville::runtime"

@[inherit_doc performanceTarget]
def sessionTarget : String := "budgetville::session"

/-- The line of the journal for a note, if the filter keeps one. -/
def Note.record (f : Filter) : Note → Option Record
  | started player initiator events =>
    f.record .engine .info
      s!"[Start] player={player} initiator={detail initiator} events={detail events}"
  | reached index event =>
    f.record .engine .trace
      s!"[Engine] Executing index={detail index} kind={event.kind.name} event={detail event}"
  | paused index waitsFor =>
    f.record .flow .debug s!"[Flow] Paused at index={detail index} ({detail waitsFor})"
  | ignored cue waitsFor =>
    f.record .flow .debug s!"[Flow] Ignoring {detail cue} while {detail waitsFor}"
  | withheld index required =>
    f.record .flow .debug
      s!"[Gate] Skipping message at index={detail index}, requires {detail required}"
  | turned speaker direction facing =>
    f.record .actors .trace s!"[Face] {speaker} faces {direction.name} ({detail facing})"
  | speakerMissing speaker =>
    some ⟨.warn, performanceTarget,
      "Speaker '" ++ speaker ++ "' not found in scene; facing unchanged"⟩
  | sent actor tiles direction ticket =>
    f.record .actors .debug (s!"[Walk] {actor} walks {detail tiles.toNat} tile(s) "
      ++ s!"{direction.name} (ticket {detail ticket})")
  | walkerMissing error index =>
    some ⟨.warn, performanceTarget,
      error.message ++ s!"; skipping walk at index {detail index}"⟩
  | arrived actor => f.record .actors .debug s!"[Walk] {actor} arrived"
  | strayTicket ticket awaited =>
    f.record .actors .debug (s!"[Walk] Ignoring stale completion ticket {detail ticket} "
      ++ s!"(waiting on {detail awaited})")
  | flagSet key value => f.record .flags .debug s!"[Flag] Setting {key}={value}"
  | flagRemoved key => f.record .flags .debug s!"[Flag] Removing {key}"
  | paid amount balance =>
    f.record .ledger .debug (s!"[Ledger] Applied {Decimal.plain.float amount} "
      ++ s!"-> balance {Decimal.plain.float balance}")
  | picked option =>
    f.record .flags .debug ("[Choice] '" ++ option.label ++ "' chose flag " ++ option.flag)
  | pickIgnored option index =>
    f.record .flow .debug s!"[Choice] Ignoring option {detail option} at index={detail index}"
  | purged key => f.record .flags .debug s!"[Reset] Purging choice flag {key}"
  | finished index last =>
    some ⟨.info, performanceTarget,
      s!"Cutscene finished at index {detail index} (max index {toString last})"⟩
  | refused npc =>
    some ⟨.info, sessionTarget, "No eligible script for '" ++ npc ++ "'; staying idle"⟩
  | fellBack npc =>
    some ⟨.warn, sessionTarget, "No eligible script for '" ++ npc ++ "'; playing its first entry"⟩
  | begun token npc entry =>
    some ⟨.debug, sessionTarget,
      s!"Interaction {detail token} with '" ++ npc ++ s!"' using entry {detail entry}"⟩
  | flushed npc failure => failure.map fun error =>
    ⟨.error, sessionTarget,
      "Failed to persist flags after talking to '" ++ npc ++ "': " ++ error.message⟩
  | ended token npc =>
    some ⟨.info, sessionTarget, s!"Interaction {detail token} with '" ++ npc ++ "' ended"⟩

/-- The lines of the journal for a list of notes. -/
def records (f : Filter) (notes : List Note) : List Record :=
  notes.filterMap (Note.record f)

end Cutscene.Journal
