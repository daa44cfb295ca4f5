import Cutscene.Script
import Cutscene.Text.Blank
/-!
# Reviewing scripts

A review looks for flaws in the talking entries of a character without playing them: events that
cannot do what they are meant to, and entries that are never picked whatever flags are present.
-/

namespace Cutscene.Review

/-- How bad a flaw is. -/
inductive Severity where
  | warning
  | error
  deriving DecidableEq, Repr

/-- What can be wrong. -/
inductive Flaw where
  | noEntries
  | noEvents
  | unknownWalker (actor : String)
  | walkOfNoTiles
  | blankChoice
  | sharedChoiceFlag (flag : String)
  | blankKey
  | endlessAmount
  /-- The entry needs no more flags than the first one. -/
  | outranked (needs first : Nat)
  /-- Whenever the entry fits, so does an earlier one that needs as many flags. -/
  | shadowed (earlier : Nat)
  deriving DecidableEq, Repr

namespace Flaw

/-- How bad it is. -/
def severity : Flaw → Severity
  | noEntries => .error
  | noEvents => .warning
  | unknownWalker _ => .error
  | walkOfNoTiles => .warning
  | blankChoice => .error
  | sharedChoiceFlag _ => .warning
  | blankKey => .error
  | endlessAmount => .error
  | outranked _ _ => .warning
  | shadowed _ => .warning

/-- The wording of a flaw. -/
def message : Flaw → String
  | noEntries => "has no talking entries"
  | noEvents => "entry has no events"
  | unknownWalker actor => "walk names unknown actor '" ++ actor ++ "'"
  | walkOfNoTiles => "walk of zero tiles"
  | blankChoice => "choice option needs both a label and a flag"
  | sharedChoiceFlag flag => "choice flag '" ++ flag ++ "' used by more than one option"
  | blankKey => "flag event with empty key"
  | endlessAmount => "transaction amount is not finite"
  | outranked needs first =>
    s!"entry is never selected: it needs {toString needs} flag(s), "
      ++ s!"the first entry needs {toString first}"
  | shadowed earlier => s!"entry is never selected: entry {toString earlier} always wins first"

/-- Whether the flaw is that an entry is never picked. -/
def isUnreachable : Flaw → Bool
  | outranked _ _ => true
  | shadowed _ => true
  | _ => false

end Flaw

/-- A flaw of a character's entries, with the entry and the event where it is. -/
structure Finding where
  npc : String
  entry : Option Nat := none
  event : Option Nat := none
  flaw : Flaw
  deriving DecidableEq, Repr

namespace Finding

/-- How bad it is. -/
def severity (f : Finding) : Severity :=
  f.flaw.severity

/-- Whether it is an error. -/
def isError (f : Finding) : Bool :=
  f.severity == .error

/-- The finding as a line of text. -/
def text (f : Finding) : String :=
  let level := match f.severity with
    | .warning => "warning"
    | .error => "error"
  level ++ ": " ++ f.npc ++ f.entry.elim "" (" entry " ++ toString ·)
    ++ f.event.elim "" (" event " ++ toString ·) ++ ": " ++ f.flaw.message

end Finding

/-- The flaws of the choices of a message; `seen` are the flags of earlier choices. -/
def choiceFlaws (seen : List String) : List Choice → List Flaw
  | [] => []
  | c :: rest =>
    let blank := Text.isBlankText c.label || Text.isBlankText c.flag
    (if blank then [.blankChoice] else [])
      ++ (if c.flag ≠ "" ∧ c.flag ∈ seen then [.sharedChoiceFlag c.flag] else [])
      ++ choiceFlaws (c.flag :: seen) rest

/-- The flaws of an event; `known` are the actors that a walk may name. -/
def eventFlaws (known : List String) : Event → List Flaw
  | .message m => choiceFlaws [] m.choices
  | .walk w =>
    (w.actor.toList.filter fun actor => !known.contains actor).map .unknownWalker
      ++ (if w.tiles = 0 then [.walkOfNoTiles] else [])
  | .addFlag key _ => if Text.isBlankText key then [.blankKey] else []
  | .removeFlag key => if Text.isBlankText key then [.blankKey] else []
  | .transaction amount => if amount.isFinite then [] else [.endlessAmount]

/-- The findings in the events of the entry with an index. -/
def entryFindings (npc : String) (known : List String) (script : Script) (index : Nat) :
    List Finding :=
  (if script.events.isEmpty then [⟨npc, some index, none, .noEvents⟩] else [])
    ++ script.events.zipIdx.flatMap fun (e, i) =>
      (eventFlaws known e).map fun flaw => ⟨npc, some index, some i, flaw⟩

/-- Whether an entry needs as many flags as a later one, all of which the later one needs too. -/
def shadows (earlier later : Script) : Bool :=
  later.required.length ≤ earlier.required.length
    && earlier.required.all fun flag => later.required.contains flag

/-- Why an entry behind the first is never picked; `between` are the entries between the two. -/
def reachFlaw (first : Script) (between : List Script) (script : Script) : Option Flaw :=
  if script.required.length ≤ first.required.length then
    some (.outranked script.required.length first.required.length)
  else
    (between.findIdx? fun earlier => shadows earlier script).map fun i => .shadowed (i + 1)

/-- The findings of entries that are never picked. -/
def reachFindings (npc : String) (first : Script) (rest : List Script) : List Finding :=
  rest.zipIdx.filterMap fun (script, i) =>
    (reachFlaw first (rest.take i) script).map fun flaw => ⟨npc, some (i + 1), none, flaw⟩

/-- All findings in the entries of a character. -/
def findings (npc : String) (entries : List Script) (known : List String) : List Finding :=
  match entries with
  | [] => [⟨npc, none, none, .noEntries⟩]
  | first :: rest =>
    (entries.zipIdx.flatMap fun (script, i) => entryFindings npc known script i)
      ++ reachFindings npc first rest

end Cutscene.Review
