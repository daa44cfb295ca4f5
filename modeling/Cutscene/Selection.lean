import Cutscene.Flags.Store
import Cutscene.Script
/-!
# Which script is played

Of the talking entries of a character the first is picked to begin with. A later entry takes over
when all its flags are present and it needs more flags than the pick so far.
-/

namespace Cutscene

/-- The index of the pick, and whether the flags of the pick are present. -/
inductive Selection where
  | eligible (index : Nat)
  | fallback (index : Nat)
  deriving DecidableEq, Repr

namespace Selection

/-- The index of the pick. -/
def index : Selection → Nat
  | eligible index => index
  | fallback index => index

/-- Whether the pick lacks flags. -/
def isFallback : Selection → Bool
  | eligible _ => false
  | fallback _ => true

end Selection

/-- Whether all flags of a script are present. -/
def Script.isEligible (s : Script) (store : Store) : Bool :=
  store.containsAll s.required

/-- The better of the pick so far and an entry with its index. -/
def better (store : Store) (best : Script × Nat) (entry : Script × Nat) : Script × Nat :=
  if best.1.required.length < entry.1.required.length ∧ entry.1.isEligible store then entry
  else best

/-- Picks an entry; there is none to pick only when there are no entries. -/
def selectEntry (entries : List Script) (store : Store) : Option Selection :=
  match entries with
  | [] => none
  | first :: rest =>
    let (script, index) := (rest.zipIdx 1).foldl (better store) (first, 0)
    some (if script.isEligible store then .eligible index else .fallback index)

end Cutscene
