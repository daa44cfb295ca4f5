import Cutscene.Review
import Cutscene.Terminal.Failure
/-!
# The command that reviews a town

All findings in the entries of all residents, one a line, and a line that counts them.
-/

namespace Cutscene.Terminal

/-- What a review of a town says. -/
structure Verdict where
  findings : List Review.Finding
  residents : Nat
  deriving DecidableEq, Repr

namespace Verdict

/-- Reviews every resident of a town. -/
def ofTown (t : Town) : Verdict :=
  ⟨t.residents.flatMap fun r => Review.findings r.name r.talking t.actorNames, t.residents.length⟩

/-- The number of errors. -/
def errors (v : Verdict) : Nat :=
  v.findings.countP (·.isError)

/-- The number of warnings. -/
def warnings (v : Verdict) : Nat :=
  v.findings.length - v.errors

/-- Whether there is any error. -/
def hasErrors (v : Verdict) : Bool :=
  decide (0 < v.errors)

/-- The printed review of the town in a file. -/
def output (v : Verdict) (path : String) : String :=
  String.join (v.findings.map fun f => f.text ++ "\n")
    ++ s!"{path}: {toString v.residents} NPC(s), {toString v.errors} error(s), "
    ++ s!"{toString v.warnings} warning(s)\n"

end Verdict

/-- Reviews the town in a file. -/
def check (d : Disk) (path : String) : Except Failure Verdict :=
  (loadTown d path).map .ofTown

end Cutscene.Terminal
