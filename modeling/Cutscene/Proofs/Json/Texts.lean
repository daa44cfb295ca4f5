import Cutscene.Json.Literal
import Cutscene.Json.Writer
/-!
# Text literals that were written

The reader of text literals undoes every escape of the writer: behind its opening quote, a literal
that was written for a text is read as that text, whatever stands behind it
(`Literal.scan_written`).
-/

namespace Cutscene.Json

namespace Literal

theorem hexQuad_controlDigits {n : Nat} (h : n < 0x20) :
    hexQuad '0' '0' (Nat.digitChar (n / 16)) (Nat.digitChar (n % 16)) = some n := by
  have hall : ∀ n < 0x20,
      hexQuad '0' '0' (Nat.digitChar (n / 16)) (Nat.digitChar (n % 16)) = some n := by decide
  exact hall n h

/-- A code unit below the surrogates is a character of its own. -/
theorem unit_of_lt {n : Nat} (h : n < 0xD800) (cs : List Char) (unread : Nat) :
    Progress.unit (.ok cs) none n unread = (.ok (Char.ofNat n :: cs), none) := by
  have htrailing : isTrailing n = false := by
    simp only [isTrailing, Bool.and_eq_false_iff, decide_eq_false_iff_not]
    omega
  have hleading : isLeading n = false := by
    simp only [isLeading, Bool.and_eq_false_iff, decide_eq_false_iff_not]
    omega
  simp only [Progress.unit, htrailing, hleading]
  rfl

theorem go_control {c : Char} (h : c.toNat < 0x20) (cs rest : List Char) :
    go (.ok cs) none ('\\' :: 'u' :: controlDigits c ++ rest) = go (.ok (c :: cs)) none rest := by
  have hquad := hexQuad_controlDigits h
  have hlow : c.toNat < 0xD800 := by omega
  simp only [controlDigits, List.cons_append, List.nil_append]
  rw [go]
  simp only [hquad, unit_of_lt hlow, Char.ofNat_toNat]

theorem go_plain {c : Char} (hquote : c ≠ '"') (hslash : c ≠ '\\') (h : ¬ c.toNat < 0x20)
    (cs rest : List Char) : go (.ok cs) none (c :: rest) = go (.ok (c :: cs)) none rest := by
  rw [go]
  · simp only [h, if_false]
    rfl
  · simpa using hquote
  · simpa using hslash

/-- An escaped character is read as the character. -/
theorem go_escapeChar (c : Char) (cs rest : List Char) :
    go (.ok cs) none (escapeChar c ++ rest) = go (.ok (c :: cs)) none rest := by
  unfold escapeChar
  split
  -- the seven characters with an escape of one letter
  iterate 7 rfl
  · split
    · rename_i hcontrol
      exact go_control hcontrol cs rest
    · rename_i hquote hslash _ _ _ _ _ hcontrol
      exact go_plain hquote hslash hcontrol cs rest

theorem go_escaped (s cs rest : List Char) :
    go (.ok cs) none (s.flatMap escapeChar ++ '"' :: rest) =
      (.closed (.ok (String.ofList (cs.reverse ++ s))), rest) := by
  induction s generalizing cs with
  | nil =>
      rw [List.append_nil]
      rfl
  | cons c s ih =>
      rw [List.flatMap_cons, List.append_assoc, go_escapeChar, ih, List.reverse_cons,
        List.append_assoc]
      rfl

/-- A written literal is read as its text. -/
theorem scan_written (s : String) (rest : List Char) :
    scan (s.toList.flatMap escapeChar ++ '"' :: rest) = (.closed (.ok s), rest) := by
  rw [scan, go_escaped, List.reverse_nil, List.nil_append, String.ofList_toList]

end Literal

end Cutscene.Json
