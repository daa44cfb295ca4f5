import Cutscene.Json.Decode
/-!
# Fields of written records

Shorthands for the fields of records: a field is collected in an `Option` until the record is
complete.
-/

namespace Cutscene.Format

open Json

/-- A field that must be there; `i` is its index. -/
def required {α : Type} (i : Nat) : Option α → Except Nat α
  | some x => .ok x
  | none => .error i

/-- A field that changes what is collected by `set`. -/
def field {ν ε σ α : Type} (names : List String) (read : ν → Except ε α) (set : α → σ → σ) :
    Field ν ε σ :=
  ⟨names, fun v => (read v).map set⟩

end Cutscene.Format
