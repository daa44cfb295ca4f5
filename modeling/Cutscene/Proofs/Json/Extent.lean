import Cutscene.Proofs.Json.Numbers
import Mathlib.Data.List.DropRight
import Mathlib.Data.List.TakeWhile
/-!
# How far the parts of a document go

A text literal goes up to its closing quote and a word up to its last letter, whatever stands behind
them, and there may be space around what stands between the entries of a container.
-/

namespace Cutscene.Json

/-! ## Text literals -/

namespace Literal

theorem push_eq_ok {p : Progress} {c : Char} {cs : List Char} :
    p.push c = .ok cs → ∃ acc, p = .ok acc := by
  cases p with
  | error fault => simp [Progress.push, Except.map]
  | ok acc => exact fun _ => ⟨acc, rfl⟩

/-- Nothing is abandoned of a literal that is read. -/
theorem abandon_eq_ok {p : Progress} {waiting : Option Nat} {rest acc : List Char} :
    p.abandon waiting rest = .ok acc → p = .ok acc ∧ waiting = none := by
  cases waiting with
  | none => exact fun h => ⟨h, rfl⟩
  | some leading => cases p <;> simp [Progress.abandon, Progress.fail, Except.bind]

/-- What stands behind a code unit matters only for the place of its faults. -/
theorem unit_eq_ok {p : Progress} {waiting waiting' : Option Nat} {n unread : Nat}
    {acc : List Char} (h : p.unit waiting n unread = (.ok acc, waiting')) :
    (∃ acc, p = .ok acc) ∧ ∀ unread, p.unit waiting n unread = (.ok acc, waiting') := by
  cases p with
  | error fault =>
      cases waiting <;> simp only [Progress.unit] at h <;> split_ifs at h <;>
        simp [Progress.push, Progress.fail, Except.map, Except.bind] at h
  | ok cs =>
      refine ⟨⟨cs, rfl⟩, fun unread' => ?_⟩
      cases waiting <;> simp only [Progress.unit] at h ⊢ <;> split_ifs at h ⊢ <;>
        simp_all [Progress.push, Progress.fail, Except.map, Except.bind]

theorem close_eq_closed {p : Progress} {s : String} (h : p.close = .closed (.ok s)) :
    ∃ acc, p = .ok acc := by
  cases p with
  | error fault => simp [Progress.close, Except.map] at h
  | ok acc => exact ⟨acc, rfl⟩

theorem stop_ne_closed (p : Progress) (reading passing : Fault) (text : Except Fault String) :
    p.stop reading passing ≠ .closed text := by
  cases p <;> simp [Progress.stop]

/-- A literal goes up to its closing quote. -/
theorem go_eq_closed {p : Progress} {waiting : Option Nat} {cs left : List Char} {s : String}
    (h : go p waiting cs = (.closed (.ok s), left)) :
    (∃ acc, p = .ok acc) ∧ ∃ xs, cs = xs ++ '"' :: left ∧
      ∀ rest, go p waiting (xs ++ '"' :: rest) = (.closed (.ok s), rest) := by
  fun_induction go p waiting cs with
  | case1 p waiting => exact absurd (Prod.mk.inj h).1 (stop_ne_closed _ _ _ _)
  | case2 p waiting rest =>
      obtain ⟨hclose, rfl⟩ := Prod.mk.inj h
      obtain ⟨acc, hp⟩ := close_eq_closed hclose
      obtain ⟨rfl, rfl⟩ := abandon_eq_ok hp
      exact ⟨⟨acc, rfl⟩, [], rfl, fun rest => congrArg (·, rest) hclose⟩
  | case3 p waiting => exact absurd (Prod.mk.inj h).1 (stop_ne_closed _ _ _ _)
  | case4 p waiting a b c d rest n hquad p' waiting' hunit ih =>
      obtain ⟨⟨acc, rfl⟩, xs, rfl, hgo⟩ := ih h
      obtain ⟨hp, hunits⟩ := unit_eq_ok hunit
      refine ⟨hp, '\\' :: 'u' :: a :: b :: c :: d :: xs, rfl, fun rest => ?_⟩
      rw [← hgo rest]
      simp only [List.cons_append]
      rw [go]
      simp only [hquad, hunits]
  | case5 => exact absurd (Prod.mk.inj h).1 (stop_ne_closed _ _ _ _)
  | case6 => exact absurd (Prod.mk.inj h).1 (stop_ne_closed _ _ _ _)
  | case7 p waiting e rest hother hu p' c hshort ih =>
      obtain ⟨⟨acc, hpush⟩, xs, rfl, hgo⟩ := ih h
      obtain ⟨acc', hp'⟩ := push_eq_ok hpush
      obtain ⟨rfl, rfl⟩ := abandon_eq_ok hp'
      refine ⟨⟨_, rfl⟩, '\\' :: e :: xs, rfl, fun rest => ?_⟩
      rw [← hgo rest, List.cons_append, List.cons_append, go]
      · simp only [hshort]
        rfl
      · exact fun _ _ _ _ _ heq _ => hu heq
      · exact hu
  | case8 => exact absurd (Prod.mk.inj h).1 (stop_ne_closed _ _ _ _)
  | case9 => exact absurd (Prod.mk.inj h).1 (stop_ne_closed _ _ _ _)
  | case10 p waiting c rest hquote hslash p' hcontrol ih =>
      obtain ⟨⟨acc, hpush⟩, xs, rfl, hgo⟩ := ih h
      obtain ⟨acc', hp'⟩ := push_eq_ok hpush
      obtain ⟨rfl, rfl⟩ := abandon_eq_ok hp'
      refine ⟨⟨_, rfl⟩, c :: xs, rfl, fun rest => ?_⟩
      rw [← hgo rest, List.cons_append, go]
      · simp only [hcontrol, if_false]
        rfl
      · exact hquote
      · exact hslash

/-- What is read of a literal does not depend on what stands behind its closing quote. -/
theorem scan_eq_closed {cs left : List Char} {s : String}
    (h : scan cs = (.closed (.ok s), left)) :
    ∃ xs, cs = xs ++ '"' :: left ∧ ∀ rest, scan (xs ++ '"' :: rest) = (.closed (.ok s), rest) :=
  (go_eq_closed h).2

end Literal

namespace Tree

/-! ## Words and texts -/

theorem scanWord_cut {t : Tree} {word cs left : List Char} (h : scanWord t word cs = (t, left))
    (ht : ∀ fault, t ≠ broke fault) :
    cs = word ++ left := by
  induction word generalizing cs with
  | nil => exact (Prod.mk.inj h).2
  | cons w word ih =>
      cases cs with
      | nil => exact absurd (Prod.mk.inj h).1.symm (ht _)
      | cons c cs =>
          rw [scanWord] at h
          split at h
          · rename_i hw
            rw [hw, List.cons_append, ← ih h]
          · exact absurd (Prod.mk.inj h).1.symm (ht _)

end Tree

/-! ## Space -/

theorem skipSpace_cons {c : Char} (h : isSpace c = false) (cs : List Char) :
    skipSpace (c :: cs) = c :: cs := by
  rw [skipSpace, List.dropWhile_cons_of_neg (by simp [h])]

/-- A text of nothing but space. -/
def Spaces (cs : List Char) : Prop :=
  ∀ c ∈ cs, isSpace c = true

instance (cs : List Char) : Decidable (Spaces cs) :=
  List.decidableBAll (isSpace · = true) cs

theorem skipSpace_spaces {sp : List Char} (h : Spaces sp) (cs : List Char) :
    skipSpace (sp ++ cs) = skipSpace cs :=
  List.dropWhile_append_of_pos h

theorem skipSpace_eq_nil {cs : List Char} : skipSpace cs = [] ↔ Spaces cs :=
  List.dropWhile_eq_nil_iff

theorem exists_spaces (cs : List Char) : ∃ sp, Spaces sp ∧ cs = sp ++ skipSpace cs :=
  ⟨cs.takeWhile isSpace, fun _ hc => List.mem_takeWhile_imp hc,
    List.takeWhile_append_dropWhile.symm⟩

theorem skipSpace_eq_cons {cs more : List Char} {c : Char} : skipSpace cs = c :: more ↔
    isSpace c = false ∧ ∃ sp, Spaces sp ∧ cs = sp ++ c :: more := by
  constructor
  · intro h
    obtain ⟨sp, hsp, hcs⟩ := exists_spaces cs
    rw [h] at hcs
    refine ⟨?_, sp, hsp, hcs⟩
    have hhead := List.head?_dropWhile_not isSpace cs
    rw [show cs.dropWhile isSpace = c :: more from h] at hhead
    simpa using hhead
  · rintro ⟨hc, sp, hsp, rfl⟩
    rw [skipSpace_spaces hsp, skipSpace_cons hc]

theorem skipSpace_skipSpace (cs : List Char) : skipSpace (skipSpace cs) = skipSpace cs :=
  List.dropWhile_idempotent isSpace cs

theorem Spaces.endsNumber {sp : List Char} (h : Spaces sp) : EndsNumber sp := by
  intro c hc
  have hspace := h c (List.mem_of_mem_head? hc)
  simp only [isSpace, Bool.or_eq_true, beq_iff_eq, or_assoc] at hspace
  rcases hspace with rfl | rfl | rfl | rfl <;> decide

/-! ## Between the entries of a container -/

namespace Tree

theorem nextItem_eq_closed (first : Bool) {cs left : List Char} :
    nextItem first cs = .error (.closed, left) ↔ skipSpace cs = ']' :: left := by
  unfold nextItem
  dsimp only
  split
  · simp_all
  · simp_all
  · rename_i c more hclose hcs
    have hother : skipSpace cs ≠ ']' :: left := by simpa [hcs] using fun h => absurd h hclose
    simp only [hother, iff_false]
    cases first with
    | true => simp
    | false =>
        by_cases hcomma : c = ','
        · simp only [hcomma, Bool.false_eq_true, if_false, if_true]
          split <;> simp
        · simp [hcomma]

theorem nextItem_first_eq_ok {cs cs' : List Char} : nextItem true cs = .ok cs' ↔
    cs' = skipSpace cs ∧ cs' ≠ [] ∧ cs'.head? ≠ some ']' := by
  unfold nextItem
  dsimp only
  split
  · simp_all
  · simp_all
  · rename_i c more hclose hcs
    rw [if_pos rfl, Except.ok.injEq, hcs]
    constructor
    · rintro rfl
      exact ⟨rfl, List.cons_ne_nil c more, by simpa using hclose⟩
    · exact fun h => h.1.symm

theorem nextItem_later_eq_ok {cs cs' : List Char} : nextItem false cs = .ok cs' ↔
    ∃ behind, skipSpace cs = ',' :: behind ∧ cs' = skipSpace behind ∧ cs'.head? ≠ some ']' := by
  unfold nextItem
  dsimp only
  split
  · simp_all
  · simp_all
  · rename_i c more hclose hcs
    rw [if_neg Bool.false_ne_true, hcs]
    by_cases hcomma : c = ','
    · subst hcomma
      rw [if_pos rfl]
      split
      · simp_all
      · rename_i cs'' hbehind
        rw [Except.ok.injEq]
        constructor
        · rintro rfl
          refine ⟨more, rfl, rfl, fun hhead => ?_⟩
          obtain ⟨rest, hrest⟩ := List.head?_eq_some_iff.1 hhead
          exact hbehind rest hrest
        · rintro ⟨behind, hmore, rfl, _⟩
          rw [(List.cons.inj hmore).2]
    · simp [hcomma]

theorem nextKey_eq_closed (first : Bool) {cs left : List Char} :
    nextKey first cs = .error (.closed, left) ↔ skipSpace cs = '}' :: left := by
  have hkey : ∀ cs, keyAt cs ≠ .error (.closed, left) := by
    intro cs
    unfold keyAt
    split <;> simp
  unfold nextKey
  dsimp only
  split
  · simp_all
  · simp_all
  · rename_i c more hclose hcs
    have hother : skipSpace cs ≠ '}' :: left := by simpa [hcs] using fun h => absurd h hclose
    simp only [hother, iff_false]
    cases first with
    | true => simpa using hkey _
    | false =>
        by_cases hcomma : c = ','
        · simp only [hcomma, Bool.false_eq_true, if_false, if_true]
          split
          · simp
          · simp
          · exact hkey _
        · simp [hcomma]

theorem keyAt_eq_ok {cs cs' : List Char} : keyAt cs = .ok cs' ↔ cs = '"' :: cs' := by
  unfold keyAt
  split
  · simp
  · rename_i hquote
    simpa using fun h => hquote cs' h

theorem nextKey_first_eq_ok {cs cs' : List Char} : nextKey true cs = .ok cs' ↔
    skipSpace cs = '"' :: cs' := by
  unfold nextKey
  dsimp only
  split
  · simp_all
  · simp_all
  · rename_i hcs
    rw [if_pos rfl, keyAt_eq_ok, hcs]

theorem nextKey_later_eq_ok {cs cs' : List Char} : nextKey false cs = .ok cs' ↔
    ∃ behind, skipSpace cs = ',' :: behind ∧ skipSpace behind = '"' :: cs' := by
  unfold nextKey
  dsimp only
  split
  · simp_all
  · simp_all
  · rename_i c more hclose hcs
    rw [if_neg Bool.false_ne_true, hcs]
    by_cases hcomma : c = ','
    · subst hcomma
      rw [if_pos rfl]
      split
      · simp_all
      · simp_all
      · rw [keyAt_eq_ok]
        simp
    · simp [hcomma]

theorem afterKey_eq_ok {cs cs' : List Char} :
    afterKey cs = .ok cs' ↔ skipSpace cs = ':' :: cs' := by
  unfold afterKey
  split
  · simp_all
  · simp_all
  · rename_i hcolon
    simpa using fun h => hcolon cs' h

end Tree

end Cutscene.Json
