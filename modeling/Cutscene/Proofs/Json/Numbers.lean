import Cutscene.Json.Reader
/-!
# Numbers in front of something else

A number ends where no character of a number follows.  What is read of a number is therefore read of
its characters also when something else follows that cannot go on with it (`Tree.scanNumber_cut`).
-/

namespace Cutscene.Json

theorem bind_eq_ok {ε α β : Type} {x : Except ε α} {f : α → Except ε β} {b : β} :
    (x >>= f) = .ok b ↔ ∃ a, x = .ok a ∧ f a = .ok b := by
  cases x with
  | error e => simp [bind, Except.bind]
  | ok a => simp [bind, Except.bind]

/-- No number goes on into this text. -/
def EndsNumber (rest : List Char) : Prop :=
  ∀ c ∈ rest.head?, c.isDigit = false ∧ c ≠ '.' ∧ c ≠ 'e' ∧ c ≠ 'E'

theorem endsNumber_cons {c : Char} {rest : List Char} :
    EndsNumber (c :: rest) ↔ c.isDigit = false ∧ c ≠ '.' ∧ c ≠ 'e' ∧ c ≠ 'E' := by
  simp [EndsNumber]

theorem ne_of_isDigit {c d : Char} (hc : c.isDigit = true) (hd : d.isDigit = false) : c ≠ d := by
  rintro rfl
  simp [hc] at hd

theorem digitRun_cons_digit {c : Char} (h : c.isDigit = true) (cs : List Char) :
    digitRun (c :: cs) = (c :: (digitRun cs).1, (digitRun cs).2) := by
  simp [digitRun, h]

theorem digitRun_cons_other {c : Char} (h : c.isDigit = false) (cs : List Char) :
    digitRun (c :: cs) = ([], c :: cs) := by
  simp [digitRun, h]

theorem EndsNumber.append {xs rest : List Char} (hxs : EndsNumber xs) (hrest : EndsNumber rest) :
    EndsNumber (xs ++ rest) := by
  cases xs with
  | nil => exact hrest
  | cons c xs => exact endsNumber_cons.2 (endsNumber_cons.1 hxs)

/-- No digits go on into this text. -/
def EndsDigits (rest : List Char) : Prop :=
  ∀ c ∈ rest.head?, c.isDigit = false

theorem EndsNumber.endsDigits {rest : List Char} (h : EndsNumber rest) : EndsDigits rest :=
  fun c hc => (h c hc).1

/-- A run of digits is read in front of anything that does not go on with it. -/
theorem digitRun_cut (cs : List Char) : cs = (digitRun cs).1 ++ (digitRun cs).2 ∧
    (∀ c ∈ (digitRun cs).1, c.isDigit = true) ∧
    ∀ rest, EndsDigits rest → digitRun ((digitRun cs).1 ++ rest) = ((digitRun cs).1, rest) := by
  have hnone : ∀ rest, EndsDigits rest → digitRun rest = ([], rest) := by
    intro rest hrest
    cases rest with
    | nil => rfl
    | cons c rest => exact digitRun_cons_other (hrest c rfl) rest
  induction cs with
  | nil => exact ⟨rfl, by simp [digitRun], hnone⟩
  | cons c cs ih =>
      cases hdigit : c.isDigit with
      | true =>
          obtain ⟨hcs, hdigits, hrun⟩ := ih
          rw [digitRun_cons_digit hdigit]
          refine ⟨congrArg (c :: ·) hcs, List.forall_mem_cons.2 ⟨hdigit, hdigits⟩,
            fun rest hrest => ?_⟩
          rw [List.cons_append, digitRun_cons_digit hdigit, hrun rest hrest]
      | false =>
          rw [digitRun_cons_other hdigit]
          exact ⟨rfl, by simp, hnone⟩

namespace Numeral

variable {cs left : List Char}

theorem scanWhole_zero {whole : List Char} : scanWhole ('0' :: cs) = .ok (whole, left) ↔
    (∀ c ∈ cs.head?, c.isDigit = false) ∧ whole = ['0'] ∧ left = cs := by
  rw [@eq_comm _ whole, @eq_comm _ left]
  cases cs with
  | nil => simp [scanWhole]
  | cons c cs => cases hdigit : c.isDigit <;> simp [scanWhole, hdigit]

theorem scanWhole_other (h : cs.head? ≠ some '0') {whole : List Char} :
    scanWhole cs = .ok (whole, left) ↔
      (digitRun cs).1 ≠ [] ∧ whole = (digitRun cs).1 ∧ left = (digitRun cs).2 := by
  unfold scanWhole
  split
  · simp at h
  · split
    · rename_i hrun
      simp [hrun]
    · rename_i digits more hempty hrun
      have hdigits : digits ≠ [] := hempty
      simp [hrun, hdigits, eq_comm]

theorem scanFraction_point {fraction : Option (List Char)} :
    scanFraction ('.' :: cs) = .ok (fraction, left) ↔
      (digitRun cs).1 ≠ [] ∧ fraction = some (digitRun cs).1 ∧ left = (digitRun cs).2 := by
  unfold scanFraction
  split
  · rename_i heq
    cases heq
    split
    · rename_i hrun
      simp [hrun]
    · rename_i digits more hempty hrun
      have hdigits : digits ≠ [] := hempty
      simp [hrun, hdigits, eq_comm]
  · rename_i hpoint
    exact absurd rfl (hpoint cs)

theorem scanFraction_other (h : cs.head? ≠ some '.') : scanFraction cs = .ok (none, cs) := by
  unfold scanFraction
  split
  · simp at h
  · rfl

theorem scanPower_ok {negative : Bool} {exponent : Option (Bool × List Char)} :
    scanPower negative cs = .ok (exponent, left) ↔
      (digitRun cs).1 ≠ [] ∧ exponent = some (negative, (digitRun cs).1) ∧
        left = (digitRun cs).2 := by
  unfold scanPower
  split
  · rename_i hrun
    simp [hrun]
  · rename_i digits more hempty hrun
    have hdigits : digits ≠ [] := hempty
    simp [hrun, hdigits, eq_comm]

theorem scanWhole_cut {whole : List Char} (h : scanWhole cs = .ok (whole, left)) :
    cs = whole ++ left ∧
      ∀ rest, EndsDigits rest → scanWhole (whole ++ rest) = .ok (whole, rest) := by
  by_cases hzero : cs.head? = some '0'
  · obtain ⟨more, rfl⟩ : ∃ more, cs = '0' :: more := List.head?_eq_some_iff.1 hzero
    obtain ⟨_, rfl, rfl⟩ := scanWhole_zero.1 h
    exact ⟨rfl, fun rest hrest => scanWhole_zero.2 ⟨hrest, rfl, rfl⟩⟩
  · obtain ⟨hdigits, rfl, rfl⟩ := (scanWhole_other hzero).1 h
    obtain ⟨hcs, _, hrun⟩ := digitRun_cut cs
    refine ⟨hcs, fun rest hrest => ?_⟩
    have hhead : ((digitRun cs).1 ++ rest).head? ≠ some '0' := by
      obtain ⟨d, ds, hds⟩ := List.exists_cons_of_ne_nil hdigits
      rw [hds] at hcs ⊢
      rw [hcs] at hzero
      exact hzero
    rw [scanWhole_other hhead, hrun rest hrest]
    exact ⟨hdigits, rfl, rfl⟩

/-- The text of a fraction. -/
def fractionText (fraction : Option (List Char)) : List Char :=
  fraction.elim [] ('.' :: ·)

theorem scanFraction_cut {fraction : Option (List Char)}
    (h : scanFraction cs = .ok (fraction, left)) : cs = fractionText fraction ++ left ∧
      ∀ rest, EndsDigits rest → rest.head? ≠ some '.' →
        scanFraction (fractionText fraction ++ rest) = .ok (fraction, rest) := by
  by_cases hpoint : cs.head? = some '.'
  · obtain ⟨more, rfl⟩ : ∃ more, cs = '.' :: more := List.head?_eq_some_iff.1 hpoint
    obtain ⟨hdigits, rfl, rfl⟩ := scanFraction_point.1 h
    obtain ⟨hmore, _, hrun⟩ := digitRun_cut more
    refine ⟨congrArg ('.' :: ·) hmore, fun rest hrest _ => ?_⟩
    rw [fractionText, Option.elim_some, List.cons_append, scanFraction_point, hrun rest hrest]
    exact ⟨hdigits, rfl, rfl⟩
  · rw [scanFraction_other hpoint] at h
    cases h
    exact ⟨rfl, fun rest _ hrest => scanFraction_other hrest⟩

theorem scanPower_cut {negative : Bool} {exponent : Option (Bool × List Char)}
    (h : scanPower negative cs = .ok (exponent, left)) :
    ∃ d ds, d.isDigit = true ∧ cs = d :: ds ++ left ∧
      ∀ rest, EndsDigits rest → scanPower negative (d :: ds ++ rest) = .ok (exponent, rest) := by
  obtain ⟨hdigits, rfl, rfl⟩ := scanPower_ok.1 h
  obtain ⟨hcs, hall, hrun⟩ := digitRun_cut cs
  obtain ⟨d, ds, hds⟩ := List.exists_cons_of_ne_nil hdigits
  rw [hds] at hcs hall hrun
  refine ⟨d, ds, hall d List.mem_cons_self, hcs, fun rest hrest => ?_⟩
  rw [scanPower_ok, hrun rest hrest, hds]
  exact ⟨List.cons_ne_nil d ds, rfl, rfl⟩

theorem scanExponent_other (h : ∀ c ∈ cs.head?, ¬ (c = 'e' ∨ c = 'E')) :
    scanExponent cs = .ok (none, cs) := by
  cases cs with
  | nil => rfl
  | cons c cs => exact if_neg (h c rfl)

theorem scanExponent_cut {exponent : Option (Bool × List Char)}
    (h : scanExponent cs = .ok (exponent, left)) :
    ∃ xs, cs = xs ++ left ∧ (∀ c ∈ xs.head?, c = 'e' ∨ c = 'E') ∧
      ∀ rest, EndsNumber rest → scanExponent (xs ++ rest) = .ok (exponent, rest) := by
  by_cases hletter : ∃ c more, cs = c :: more ∧ (c = 'e' ∨ c = 'E')
  · obtain ⟨c, more, rfl, he⟩ := hletter
    simp only [scanExponent, he, if_true] at h
    split at h
    · obtain ⟨d, ds, _, rfl, hpower⟩ := scanPower_cut h
      refine ⟨c :: '+' :: d :: ds, rfl, by simpa using he, fun rest hrest => ?_⟩
      rw [← hpower rest hrest.endsDigits]
      simp [scanExponent, he]
    · obtain ⟨d, ds, _, rfl, hpower⟩ := scanPower_cut h
      refine ⟨c :: '-' :: d :: ds, rfl, by simpa using he, fun rest hrest => ?_⟩
      rw [← hpower rest hrest.endsDigits]
      simp [scanExponent, he]
    · obtain ⟨d, ds, hdigit, rfl, hpower⟩ := scanPower_cut h
      have hplus : d ≠ '+' := ne_of_isDigit hdigit rfl
      have hminus : d ≠ '-' := ne_of_isDigit hdigit rfl
      refine ⟨c :: d :: ds, rfl, by simpa using he, fun rest hrest => ?_⟩
      rw [← hpower rest hrest.endsDigits]
      simp [scanExponent, he, hplus, hminus]
  · have hnone : ∀ c ∈ cs.head?, ¬ (c = 'e' ∨ c = 'E') := by
      intro c hc he
      obtain ⟨more, rfl⟩ := List.head?_eq_some_iff.1 hc
      exact hletter ⟨c, more, rfl, he⟩
    rw [scanExponent_other hnone] at h
    cases h
    exact ⟨[], rfl, by simp, fun rest hrest => scanExponent_other fun c hc =>
      not_or.2 (hrest c hc).2.2⟩

/-- A number is read in front of anything that does not go on with it. -/
theorem scan_cut {negative : Bool} {x : Numeral} (h : scan negative cs = .ok (x, left)) :
    ∃ xs, cs = xs ++ left ∧
      ∀ rest, EndsNumber rest → scan negative (xs ++ rest) = .ok (x, rest) := by
  obtain ⟨⟨whole, cs₁⟩, hwhole, h⟩ := bind_eq_ok.1 h
  obtain ⟨⟨fraction, cs₂⟩, hfraction, h⟩ := bind_eq_ok.1 h
  obtain ⟨⟨exponent, cs₃⟩, hexponent, h⟩ := bind_eq_ok.1 h
  obtain ⟨rfl, rfl⟩ := Prod.mk.inj (Except.ok.inj h)
  obtain ⟨rfl, hwholes⟩ := scanWhole_cut hwhole
  obtain ⟨rfl, hfractions⟩ := scanFraction_cut hfraction
  obtain ⟨xs, rfl, hletter, hexponents⟩ := scanExponent_cut hexponent
  refine ⟨whole ++ (fractionText fraction ++ xs), by simp, fun rest hrest => ?_⟩
  have hpoint : ∀ c ∈ (xs ++ rest).head?, c.isDigit = false ∧ c ≠ '.' := by
    intro c hc
    cases xs with
    | nil => exact ⟨(hrest c hc).1, (hrest c hc).2.1⟩
    | cons d xs =>
        obtain rfl : d = c := Option.some.inj hc
        rcases hletter d rfl with rfl | rfl <;> decide
  have hdigits : EndsDigits (fractionText fraction ++ (xs ++ rest)) := by
    intro c hc
    cases fraction with
    | none => exact (hpoint c hc).1
    | some digits =>
        obtain rfl : '.' = c := Option.some.inj hc
        rfl
  have hexponent := hexponents rest hrest
  have hfraction := hfractions (xs ++ rest) (fun c hc => (hpoint c hc).1)
    fun hc => (hpoint '.' hc).2 rfl
  have hwhole := hwholes _ hdigits
  rw [List.append_assoc, List.append_assoc]
  exact bind_eq_ok.2 ⟨_, hwhole, bind_eq_ok.2 ⟨_, hfraction, bind_eq_ok.2 ⟨_, hexponent, rfl⟩⟩⟩

/-- What stands behind a number matters only for the place of its faults. -/
theorem value_of_ok {x : Numeral} {n : Number} (h : x.value left = .ok n) (rest : List Char) :
    x.value rest = .ok n := by
  obtain ⟨negative, whole, fraction, exponent⟩ := x
  unfold value at h ⊢
  generalize gather 0 whole = g at h ⊢
  obtain ⟨m, excess⟩ := g
  cases exponent with
  | none =>
      cases fraction with
      | none =>
          cases excess with
          | nil => exact h
          | cons c excess =>
              dsimp only at h ⊢
              split at h
              · exact h
              · cases h
      | some digits =>
          dsimp only at h ⊢
          split at h
          · exact h
          · cases h
  | some power =>
      obtain ⟨below, digits⟩ := power
      cases hpower : Numeral.power 0 digits with
      | ok p =>
          cases fraction <;> simp only [hpower] at h ⊢ <;> split at h
          · exact h
          · cases h
          · exact h
          · cases h
      | error left' =>
          cases fraction <;> simp only [hpower] at h ⊢ <;> split at h
          · cases h
          · rename_i hsmall
            rw [if_neg hsmall]
            exact h
          · cases h
          · rename_i hsmall
            rw [if_neg hsmall]
            exact h

end Numeral

namespace Tree

theorem scanNumber_cut {negative : Bool} {cs left : List Char} {n : Number}
    (h : scanNumber negative cs = (.number (.ok n), left)) : ∃ xs, cs = xs ++ left ∧
      ∀ rest, EndsNumber rest → scanNumber negative (xs ++ rest) = (.number (.ok n), rest) := by
  unfold scanNumber at h
  split at h
  · rename_i x left' hscan
    obtain ⟨hvalue, rfl⟩ := Prod.mk.inj h
    have hok : x.value left' = .ok n := by simpa using hvalue
    obtain ⟨xs, rfl, hscans⟩ := Numeral.scan_cut hscan
    refine ⟨xs, rfl, fun rest hrest => ?_⟩
    simp only [scanNumber, hscans rest hrest, Numeral.value_of_ok hok rest]
  · cases h

end Tree

end Cutscene.Json
