import Cutscene.Selection
/-!
# The entry that is picked

`selectEntry` goes through the entries with the best one so far in hand.  `Foremost` is what holds
of that one at every point of the way, and `Picks` says which selection comes out without going
through the entries: the first of those that need the most flags among the entries whose flags are
present, if it needs more than the first entry, and otherwise the first entry.
-/

namespace Cutscene

theorem Script.isEligible_iff {script : Script} {store : Store} :
    script.isEligible store = true ↔ ∀ flag ∈ script.required, store.contains flag = true := by
  rw [isEligible, Store.containsAll, List.all_eq_true]

/-! ## Going through the entries -/

/-- The best of a list of entries and of the one that was in hand before them. -/
structure Foremost (store : Store) (start : Script × Nat) (entries : List (Script × Nat))
    (best : Script × Nat) : Prop where
  start_le : start.1.required.length ≤ best.1.required.length
  most : ∀ e ∈ entries, e.1.isEligible store = true →
    e.1.required.length ≤ best.1.required.length
  earliest : best = start ∨ ∃ before behind, entries = before ++ best :: behind ∧
    best.1.isEligible store = true ∧ start.1.required.length < best.1.required.length ∧
    ∀ e ∈ before, e.1.isEligible store = true →
      e.1.required.length < best.1.required.length

/-- The best of the entries behind one that took over is the best of all. -/
theorem Foremost.cons_taken {store : Store} {start entry best : Script × Nat}
    {entries : List (Script × Nat)} (h : Foremost store entry entries best)
    (hmore : start.1.required.length < entry.1.required.length)
    (heligible : entry.1.isEligible store = true) :
    Foremost store start (entry :: entries) best := by
  have hlt := Nat.lt_of_lt_of_le hmore h.start_le
  refine ⟨Nat.le_of_lt hlt, ?_, .inr ?_⟩
  · intro e he helig
    rcases List.mem_cons.1 he with rfl | he
    · exact h.start_le
    · exact h.most e he helig
  · rcases h.earliest with rfl | ⟨before, behind, hsplit, helig, hover, hbefore⟩
    · exact ⟨[], entries, rfl, heligible, hmore, by simp⟩
    · refine ⟨entry :: before, behind, by rw [hsplit]; rfl, helig, hlt, ?_⟩
      intro e he helig
      rcases List.mem_cons.1 he with rfl | he
      · exact hover
      · exact hbefore e he helig

/-- An entry that does not take over changes nothing. -/
theorem Foremost.cons_left {store : Store} {start entry best : Script × Nat}
    {entries : List (Script × Nat)} (h : Foremost store start entries best)
    (hentry : entry.1.isEligible store = true →
      entry.1.required.length ≤ start.1.required.length) :
    Foremost store start (entry :: entries) best := by
  refine ⟨h.start_le, ?_, h.earliest.imp_right ?_⟩
  · intro e he heligible
    rcases List.mem_cons.1 he with rfl | he
    · exact Nat.le_trans (hentry heligible) h.start_le
    · exact h.most e he heligible
  · rintro ⟨before, behind, hsplit, heligible, hmore, hbefore⟩
    refine ⟨entry :: before, behind, by rw [hsplit]; rfl, heligible, hmore, ?_⟩
    intro e he helig
    rcases List.mem_cons.1 he with rfl | he
    · exact Nat.lt_of_le_of_lt (hentry helig) hmore
    · exact hbefore e he helig

theorem foldl_better_foremost (store : Store) (start : Script × Nat)
    (entries : List (Script × Nat)) :
    Foremost store start entries (entries.foldl (better store) start) := by
  induction entries generalizing start with
  | nil => exact ⟨Nat.le_refl _, by simp, .inl rfl⟩
  | cons entry entries ih =>
      rw [List.foldl_cons]
      by_cases htakes :
          start.1.required.length < entry.1.required.length ∧ entry.1.isEligible store = true
      · have hbetter : better store start entry = entry := if_pos htakes
        rw [hbetter]
        exact (ih entry).cons_taken htakes.1 htakes.2
      · have hbetter : better store start entry = start := if_neg htakes
        rw [hbetter]
        apply (ih start).cons_left
        intro heligible
        exact Nat.le_of_not_lt fun hlt => htakes ⟨hlt, heligible⟩

/-! ## The pick -/

/-- The selection among a first entry and the rest. -/
inductive Picks (store : Store) (first : Script) (rest : List Script) : Selection → Prop where
  | head : (∀ e ∈ rest, e.isEligible store = true →
        e.required.length ≤ first.required.length) →
      Picks store first rest (if first.isEligible store then .eligible 0 else .fallback 0)
  | later {i : Nat} {e : Script} : rest[i]? = some e → e.isEligible store = true →
      first.required.length < e.required.length →
      (∀ d ∈ rest, d.isEligible store = true → d.required.length ≤ e.required.length) →
      (∀ j d, j < i → rest[j]? = some d → d.isEligible store = true →
        d.required.length < e.required.length) →
      Picks store first rest (.eligible (i + 1))

theorem selectEntry_picks (store : Store) (first : Script) (rest : List Script) :
    ∃ selection, selectEntry (first :: rest) store = some selection ∧
      Picks store first rest selection := by
  obtain ⟨_, hmost, hplace⟩ := foldl_better_foremost store (first, 0) (rest.zipIdx 1)
  simp only [selectEntry]
  generalize (rest.zipIdx 1).foldl (better store) (first, 0) = best at hmost hplace ⊢
  obtain ⟨script, index⟩ := best
  refine ⟨_, rfl, ?_⟩
  -- an entry of the rest stands in the list with its index
  have hmem : ∀ e ∈ rest, ∃ i, (e, i) ∈ rest.zipIdx 1 := by
    intro e he
    obtain ⟨i, hi⟩ := List.mem_iff_getElem?.1 he
    refine ⟨1 + i, List.mem_iff_getElem?.2 ⟨i, ?_⟩⟩
    rw [List.getElem?_zipIdx, hi]
    rfl
  have hmostRest : ∀ e ∈ rest, e.isEligible store = true →
      e.required.length ≤ script.required.length := by
    intro e he heligible
    obtain ⟨i, hi⟩ := hmem e he
    exact hmost (e, i) hi heligible
  rcases hplace with hsame | ⟨before, behind, hsplit, heligible, hmore, hbefore⟩
  · obtain ⟨rfl, rfl⟩ := Prod.mk.inj hsame
    exact .head hmostRest
  · have hat : ∀ j : Nat, (rest.zipIdx 1)[j]? = (before ++ (script, index) :: behind)[j]? := by
      intro j
      rw [hsplit]
    have hscript := hat before.length
    rw [List.getElem?_zipIdx, List.getElem?_append_right (Nat.le_refl _), Nat.sub_self,
      List.getElem?_cons_zero, Option.map_eq_some_iff] at hscript
    obtain ⟨e, hget, hpair⟩ := hscript
    obtain ⟨rfl, rfl⟩ := Prod.mk.inj hpair
    rw [Nat.add_comm, if_pos heligible]
    refine .later hget heligible hmore hmostRest ?_
    intro j d hj hd helig
    have hearlier := hat j
    rw [List.getElem?_zipIdx, hd, List.getElem?_append_left hj, Option.map_some] at hearlier
    exact hbefore _ (List.mem_of_getElem? hearlier.symm) helig

theorem Picks.unique {store : Store} {first : Script} {rest : List Script}
    {selection other : Selection} (h : Picks store first rest selection)
    (h' : Picks store first rest other) : selection = other := by
  cases h with
  | head hfirst =>
      cases h' with
      | head => rfl
      | later hget heligible hmore =>
          have hle := hfirst _ (List.mem_of_getElem? hget) heligible
          omega
  | @later i e hget heligible hmore hmost hearliest =>
      cases h' with
      | head hfirst =>
          have hle := hfirst _ (List.mem_of_getElem? hget) heligible
          omega
      | @later j d hget' heligible' _ hmost' hearliest' =>
          have hle := hmost d (List.mem_of_getElem? hget') heligible'
          have hle' := hmost' e (List.mem_of_getElem? hget) heligible
          rcases Nat.lt_trichotomy i j with hij | rfl | hji
          · have hlt := hearliest' i e hij hget heligible
            omega
          · rfl
          · have hlt := hearliest j d hji hget' heligible'
            omega

theorem selectEntry_eq_some_iff {store : Store} {first : Script} {rest : List Script}
    {selection : Selection} :
    selectEntry (first :: rest) store = some selection ↔ Picks store first rest selection := by
  obtain ⟨picked, hselect, hpicked⟩ := selectEntry_picks store first rest
  rw [hselect, Option.some.injEq]
  constructor
  · rintro rfl
    exact hpicked
  · exact hpicked.unique

/-- The pick is one of the entries. -/
theorem exists_getElem?_of_selectEntry {entries : List Script} {store : Store}
    {selection : Selection} (h : selectEntry entries store = some selection) :
    ∃ script, entries[selection.index]? = some script := by
  cases entries with
  | nil => simp [selectEntry] at h
  | cons first rest =>
      cases selectEntry_eq_some_iff.1 h with
      | head => exact ⟨first, by split <;> rfl⟩
      | @later i e hget => exact ⟨e, hget⟩

theorem Picks.isFallback_iff {store : Store} {first : Script} {rest : List Script}
    {selection : Selection} (h : Picks store first rest selection) :
    selection.isFallback = true ↔ first.isEligible store = false ∧
      ∀ e ∈ rest, e.isEligible store = true →
        e.required.length ≤ first.required.length := by
  cases h with
  | head hfirst =>
      cases heligible : first.isEligible store with
      | true => simp [Selection.isFallback]
      | false => simpa [Selection.isFallback] using hfirst
  | @later i e hget heligible hmore =>
      refine ⟨fun hfallback => by simp [Selection.isFallback] at hfallback, ?_⟩
      rintro ⟨_, hfirst⟩
      have hle := hfirst e (List.mem_of_getElem? hget) heligible
      omega

end Cutscene
