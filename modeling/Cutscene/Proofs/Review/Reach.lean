import Cutscene.Proofs.Selection.Pick
import Cutscene.Review
import Mathlib.Data.List.Perm.Subperm
/-!
# Entries that are never selected

A review warns of an entry that needs no more flags than the first one, or that comes behind an
entry which needs as many flags and no others.  Such an entry is never selected
(`never_selected_of_warned`).  An entry without a warning is selected by a store of just its own
flags, unless it is overtaken: a later entry needs more flags, if one that it names twice counts
twice, and none but those (`unwarned_selected_iff`).
-/

namespace Cutscene

/-! ## Stores of given flags -/

namespace Store

/-- A store of these flags and no others. -/
def holding (keys : List String) : Store :=
  keys.foldl (fun store key => store.set key "true") (.memory .empty)

theorem contains_foldl_set (store : Store) (keys : List String) (value key : String) :
    (keys.foldl (fun store key => store.set key value) store).contains key = true ↔
      key ∈ keys ∨ store.contains key = true := by
  induction keys generalizing store with
  | nil => simp
  | cons k keys ih =>
      have hset : (store.set k value).contains key = true ↔
          key = k ∨ store.contains key = true := by
        rw [contains, get?_set, contains]
        by_cases hk : key = k <;> simp [hk]
      rw [List.foldl_cons, ih, hset, List.mem_cons, or_left_comm, or_assoc]

theorem contains_holding {keys : List String} {key : String} :
    (holding keys).contains key = true ↔ key ∈ keys := by
  rw [holding, contains_foldl_set]
  exact or_iff_left Bool.false_ne_true

end Store

theorem Script.isEligible_holding {script : Script} {keys : List String} :
    script.isEligible (.holding keys) = true ↔ ∀ flag ∈ script.required, flag ∈ keys := by
  simp only [isEligible_iff, Store.contains_holding]

namespace Review

/-! ## Warnings -/

/-- How the warnings begin that an entry is never selected. -/
def neverSelected : String := "entry is never selected"

/-- A finding is the warning that the entry with an index is never selected. -/
def Finding.WarnsOf (f : Finding) (i : Nat) : Prop :=
  f.severity = .warning ∧ f.entry = some i ∧ neverSelected.toList <+: f.flaw.message.toList

instance (f : Finding) (i : Nat) : Decidable (f.WarnsOf i) :=
  inferInstanceAs (Decidable (_ ∧ _ ∧ _))

theorem Flaw.isUnreachable_iff (flaw : Flaw) :
    flaw.isUnreachable = true ↔ neverSelected.toList <+: flaw.message.toList := by
  have hother : ∀ text : String, text.toList.head? ≠ some 'e' →
      ¬ neverSelected.toList <+: text.toList := by
    rintro text hne ⟨rest, hrest⟩
    have hfirst : neverSelected.toList.head? = some 'e' := by decide
    rw [← hrest, List.head?_append, hfirst] at hne
    exact absurd rfl hne
  have hbegins : ∀ start text : String, neverSelected.toList <+: start.toList →
      neverSelected.toList <+: (start ++ text).toList := by
    intro start text hstart
    rw [String.toList_append]
    exact hstart.trans (List.prefix_append _ _)
  cases flaw with
  | noEntries => decide
  | noEvents => decide
  | walkOfNoTiles => decide
  | blankChoice => decide
  | blankKey => decide
  | endlessAmount => decide
  | unknownWalker actor =>
      have hw := hother ("walk names unknown actor '" ++ actor ++ "'") (by simp)
      exact iff_of_false Bool.false_ne_true hw
  | sharedChoiceFlag flag =>
      have hc := hother ("choice flag '" ++ flag ++ "' used by more than one option") (by simp)
      exact iff_of_false Bool.false_ne_true hc
  | outranked needs first =>
      unfold message
      simp only [toString, String.append_assoc]
      exact iff_of_true rfl (hbegins _ _ (by decide))
  | shadowed earlier =>
      unfold message
      simp only [toString, String.append_assoc]
      exact iff_of_true rfl (hbegins _ _ (by decide))

theorem Flaw.severity_of_unreachable {flaw : Flaw} (h : flaw.isUnreachable = true) :
    flaw.severity = .warning := by
  cases flaw <;> first | rfl | simp [isUnreachable] at h

theorem Finding.warnsOf_iff {f : Finding} {i : Nat} :
    f.WarnsOf i ↔ f.flaw.isUnreachable = true ∧ f.entry = some i := by
  rw [WarnsOf, ← Flaw.isUnreachable_iff]
  constructor
  · rintro ⟨_, hentry, hflaw⟩
    exact ⟨hflaw, hentry⟩
  · rintro ⟨hflaw, hentry⟩
    exact ⟨Flaw.severity_of_unreachable hflaw, hentry, hflaw⟩

/-! ## Which findings are such warnings -/

theorem choiceFlaws_reachable (seen : List String) (choices : List Choice) :
    ∀ flaw ∈ choiceFlaws seen choices, flaw.isUnreachable = false := by
  induction choices generalizing seen with
  | nil => simp [choiceFlaws]
  | cons c choices ih =>
      intro flaw hflaw
      simp only [choiceFlaws, List.mem_append, List.mem_ite_nil_right, List.mem_singleton] at hflaw
      rcases hflaw with (⟨_, rfl⟩ | ⟨_, rfl⟩) | hrest
      · rfl
      · rfl
      · exact ih _ flaw hrest

theorem eventFlaws_reachable (known : List String) (e : Event) :
    ∀ flaw ∈ eventFlaws known e, flaw.isUnreachable = false := by
  intro flaw hflaw
  cases e with
  | message m => exact choiceFlaws_reachable [] m.choices flaw hflaw
  | walk w =>
      simp only [eventFlaws, List.mem_append, List.mem_map, List.mem_ite_nil_right,
        List.mem_singleton] at hflaw
      rcases hflaw with ⟨actor, _, rfl⟩ | ⟨_, rfl⟩
      · rfl
      · rfl
  | addFlag key value =>
      simp only [eventFlaws, List.mem_ite_nil_right, List.mem_singleton] at hflaw
      rw [hflaw.2]
      rfl
  | removeFlag key =>
      simp only [eventFlaws, List.mem_ite_nil_right, List.mem_singleton] at hflaw
      rw [hflaw.2]
      rfl
  | transaction amount =>
      simp only [eventFlaws, List.mem_ite_nil_left, List.mem_singleton] at hflaw
      rw [hflaw.2]
      rfl

theorem entryFindings_reachable (npc : String) (known : List String) (script : Script)
    (index : Nat) : ∀ f ∈ entryFindings npc known script index, f.flaw.isUnreachable = false := by
  intro f hf
  rw [entryFindings, List.mem_append, List.mem_ite_nil_right, List.mem_singleton] at hf
  rcases hf with ⟨_, rfl⟩ | hevents
  · rfl
  · obtain ⟨⟨e, i⟩, _, hf⟩ := List.mem_flatMap.1 hevents
    obtain ⟨flaw, hflaw, rfl⟩ := List.mem_map.1 hf
    exact eventFlaws_reachable known e flaw hflaw

/-- Why an entry is warned of: the first entry needs as many flags, or one behind that and in front
of the entry needs as many and only flags that the entry needs too. -/
def Unreached (first : Script) (rest : List Script) (k : Nat) (script : Script) : Prop :=
  script.required.length ≤ first.required.length ∨
    ∃ j < k, ∃ earlier, rest[j]? = some earlier ∧
      script.required.length ≤ earlier.required.length ∧
      ∀ flag ∈ earlier.required, flag ∈ script.required

theorem shadows_iff {earlier later : Script} :
    shadows earlier later = true ↔ later.required.length ≤ earlier.required.length ∧
      ∀ flag ∈ earlier.required, flag ∈ later.required := by
  simp [shadows]

theorem reachFlaw_isSome_iff (first : Script) (rest : List Script) (k : Nat) (script : Script) :
    (reachFlaw first (rest.take k) script).isSome = true ↔ Unreached first rest k script := by
  unfold reachFlaw Unreached
  split
  · rename_i hle
    exact iff_of_true rfl (.inl hle)
  · rename_i hle
    rw [Option.isSome_map, List.findIdx?_isSome, List.any_eq_true, or_iff_right hle]
    constructor
    · rintro ⟨earlier, hmem, hshadows⟩
      obtain ⟨j, hj⟩ := List.mem_iff_getElem?.1 hmem
      rw [List.getElem?_take] at hj
      split at hj
      · rename_i hlt
        exact ⟨j, hlt, earlier, hj, shadows_iff.1 hshadows⟩
      · simp at hj
    · rintro ⟨j, hlt, earlier, hj, hshadows⟩
      refine ⟨earlier, List.mem_iff_getElem?.2 ⟨j, ?_⟩, shadows_iff.2 hshadows⟩
      rw [List.getElem?_take, if_pos hlt]
      exact hj

theorem isUnreachable_of_reachFlaw {first script : Script} {between : List Script} {flaw : Flaw}
    (h : reachFlaw first between script = some flaw) : flaw.isUnreachable = true := by
  unfold reachFlaw at h
  split at h
  · rw [← Option.some.inj h]
    rfl
  · obtain ⟨i, _, rfl⟩ := Option.map_eq_some_iff.1 h
    rfl

/-- An entry is warned of when it is behind the first and there is a reason. -/
theorem exists_warnsOf_iff {npc : String} {known : List String} {first : Script}
    {rest : List Script} {i : Nat} :
    (∃ f ∈ findings npc (first :: rest) known, f.WarnsOf i) ↔
      ∃ k script, i = k + 1 ∧ rest[k]? = some script ∧ Unreached first rest k script := by
  simp only [Finding.warnsOf_iff, findings, List.mem_append, reachFindings, List.mem_filterMap]
  constructor
  · rintro ⟨f, hevent | ⟨⟨script, k⟩, hmem, hflaw⟩, hunreachable, hentry⟩
    · obtain ⟨⟨script, index⟩, _, hf⟩ := List.mem_flatMap.1 hevent
      rw [entryFindings_reachable npc known script index f hf] at hunreachable
      exact absurd hunreachable Bool.false_ne_true
    · obtain ⟨flaw, hsome, rfl⟩ := Option.map_eq_some_iff.1 hflaw
      have hget := List.mem_zipIdx_iff_getElem?.1 hmem
      refine ⟨k, script, (Option.some.inj hentry).symm, hget, ?_⟩
      rw [← reachFlaw_isSome_iff, hsome]
      rfl
  · rintro ⟨k, script, rfl, hget, hunreached⟩
    obtain ⟨flaw, hflaw⟩ :=
      Option.isSome_iff_exists.1 ((reachFlaw_isSome_iff first rest k script).2 hunreached)
    refine ⟨⟨npc, some (k + 1), none, flaw⟩, .inr ⟨(script, k), ?_, ?_⟩, ?_, rfl⟩
    · exact List.mem_zipIdx_iff_getElem?.2 hget
    · rw [hflaw]
      rfl
    · exact isUnreachable_of_reachFlaw hflaw

/-! ## Warnings are right -/

/-- If an entry fits, so does an entry that needs no other flags. -/
theorem isEligible_of_subset {script other : Script} {store : Store}
    (h : script.isEligible store = true) (hsub : ∀ flag ∈ other.required, flag ∈ script.required) :
    other.isEligible store = true := by
  rw [Script.isEligible_iff] at h ⊢
  exact fun flag hflag => h flag (hsub flag hflag)

/-- An entry that is warned of never has the greatest number of flags among those that fit, or not
as the first of them. -/
theorem Unreached.not_picked {store : Store} {first script : Script} {rest : List Script} {k : Nat}
    (h : Unreached first rest k script) (hget : rest[k]? = some script) {selection : Selection}
    (hpicks : Picks store first rest selection) : selection.index ≠ k + 1 := by
  cases hpicks with
  | head =>
      split <;> exact (Nat.succ_ne_zero k).symm
  | @later i e hgetE heligible hmore _ hearliest =>
      intro hindex
      obtain rfl : i = k := Nat.succ.inj hindex
      obtain rfl : e = script := Option.some.inj (hgetE.symm.trans hget)
      rcases h with hle | ⟨j, hj, earlier, hgetJ, hle, hsub⟩
      · omega
      · have hlt := hearliest j earlier hj hgetJ (isEligible_of_subset heligible hsub)
        omega

/-- **Warnings are right.** An entry that a review calls never selected is not selected with any
flags, neither as an entry that fits nor as the one to fall back on. -/
theorem never_selected_of_warned {npc : String} {known : List String} {entries : List Script}
    {f : Finding} {i : Nat} (hf : f ∈ findings npc entries known) (hwarns : f.WarnsOf i)
    (store : Store) :
    ∀ selection, selectEntry entries store = some selection → selection.index ≠ i := by
  intro selection hselect
  cases entries with
  | nil => simp [selectEntry] at hselect
  | cons first rest =>
      obtain ⟨k, script, rfl, hget, hunreached⟩ := exists_warnsOf_iff.1 ⟨f, hf, hwarns⟩
      exact hunreached.not_picked hget (selectEntry_eq_some_iff.1 hselect)

/-- Ben and Cal are both asked about before the two of them are. -/
def bothAsked : List Script :=
  [⟨["met"], []⟩, ⟨["ben"], []⟩, ⟨["ben", "cal"], []⟩, ⟨["cal", "ben"], []⟩]

theorem never_selected_of_warned_asked :
    (∃ f ∈ findings "Ann" bothAsked [], f.WarnsOf 3) ∧
      ∀ selection, selectEntry bothAsked (.holding ["cal", "ben"]) = some selection →
        selection.index ≠ 3 := by
  have hwarned : ∃ f ∈ findings "Ann" bothAsked [], f.WarnsOf 3 := by
    simp only [Finding.warnsOf_iff]
    decide
  obtain ⟨f, hf, hwarns⟩ := hwarned
  exact ⟨⟨f, hf, hwarns⟩, never_selected_of_warned hf hwarns _⟩

/-! ## Which entries without a warning are selected -/

/-- An entry stands behind another one and needs more flags, and only flags that the other one needs
too. -/
def Overtakes (entries : List Script) (j i : Nat) : Prop :=
  i < j ∧ ∃ script later, entries[i]? = some script ∧ entries[j]? = some later ∧
    script.required.length < later.required.length ∧
    ∀ flag ∈ later.required, flag ∈ script.required

/-- An entry other than the first is overtaken by one behind it. -/
def Overtaken (entries : List Script) (i : Nat) : Prop :=
  0 < i ∧ ∃ j, Overtakes entries j i

/-- More flags among fewer: the entry that overtakes names one of them twice. -/
theorem Overtakes.not_nodup {entries : List Script} {j i : Nat} (h : Overtakes entries j i) :
    ∃ later, entries[j]? = some later ∧ ¬ later.required.Nodup := by
  obtain ⟨_, script, later, _, hlater, hmore, hsub⟩ := h
  refine ⟨later, hlater, fun hnodup => ?_⟩
  have hle : later.required.length ≤ script.required.length :=
    (hnodup.subperm hsub).length_le
  omega

theorem Overtaken.not_picked {store : Store} {first : Script} {rest : List Script} {i : Nat}
    (h : Overtaken (first :: rest) i) {selection : Selection}
    (hpicks : Picks store first rest selection) : selection.index ≠ i := by
  obtain ⟨hpos, j, hij, script, later, hscript, hlater, hmore, hsub⟩ := h
  cases hpicks with
  | head => split <;> exact Nat.ne_of_lt hpos
  | @later k e hget heligible _ hmost _ =>
      rintro rfl
      have hsame : e = script := Option.some.inj (hget.symm.trans hscript)
      rw [← hsame] at hmore hsub
      obtain ⟨m, rfl⟩ : ∃ m, j = m + 1 := ⟨j - 1, by omega⟩
      have hle := hmost later (List.mem_of_getElem? (l := rest) hlater)
        (isEligible_of_subset heligible hsub)
      omega

/-- With the flags of an entry, and no others, nothing else takes its place. -/
theorem picks_holding {first script : Script} {rest : List Script} {k : Nat}
    (hget : rest[k]? = some script) (hreached : ¬ Unreached first rest k script)
    (hahead : ¬ Overtaken (first :: rest) (k + 1)) :
    Picks (.holding script.required) first rest (.eligible (k + 1)) := by
  have hmore : first.required.length < script.required.length :=
    Nat.lt_of_not_le fun hle => hreached (.inl hle)
  have hearliest : ∀ j d, j < k → rest[j]? = some d →
      d.isEligible (.holding script.required) = true →
      d.required.length < script.required.length := by
    intro j d hj hd heligible
    rw [Script.isEligible_holding] at heligible
    exact Nat.lt_of_not_le fun hle => hreached (.inr ⟨j, hj, d, hd, hle, heligible⟩)
  have hmost : ∀ d ∈ rest, d.isEligible (.holding script.required) = true →
      d.required.length ≤ script.required.length := by
    intro d hd heligible
    obtain ⟨j, hj⟩ := List.mem_iff_getElem?.1 hd
    rcases Nat.lt_trichotomy j k with hjk | rfl | hkj
    · exact Nat.le_of_lt (hearliest j d hjk hj heligible)
    · exact Nat.le_of_eq (by rw [Option.some.inj (hj.symm.trans hget)])
    · rw [Script.isEligible_holding] at heligible
      refine Nat.le_of_not_lt fun hlt => hahead ⟨Nat.succ_pos k, j + 1, ?_⟩
      exact ⟨Nat.succ_lt_succ hkj, script, d, hget, hj, hlt, heligible⟩
  have heligible : script.isEligible (.holding script.required) = true :=
    Script.isEligible_holding.2 fun _ hflag => hflag
  exact .later hget heligible hmore hmost hearliest

/-- Without any flags the first entry is selected. -/
theorem picks_head_of_empty (first : Script) (rest : List Script) :
    ∃ selection, Picks (.holding []) first rest selection ∧ selection.index = 0 := by
  refine ⟨_, .head ?_, by split <;> rfl⟩
  intro e _ heligible
  rw [Script.isEligible_holding] at heligible
  rw [List.eq_nil_iff_forall_not_mem.2 fun flag hflag => List.not_mem_nil (heligible flag hflag)]
  exact Nat.zero_le _

/-- **Entries without a warning.** An entry that a review does not call never selected is selected
with some flags, unless it is overtaken; and whatever entry overtakes it names a flag twice. -/
theorem unwarned_selected_iff {npc : String} {known : List String} {entries : List Script} {i : Nat}
    (hi : i < entries.length) (hunwarned : ∀ f ∈ findings npc entries known, ¬ f.WarnsOf i) :
    ((∃ store selection, selectEntry entries store = some selection ∧ selection.index = i) ↔
      ¬ Overtaken entries i) ∧
    ∀ j, Overtakes entries j i → ∃ later, entries[j]? = some later ∧ ¬ later.required.Nodup := by
  refine ⟨?_, fun j hovertakes => hovertakes.not_nodup⟩
  cases entries with
  | nil => exact absurd hi (Nat.not_lt_zero i)
  | cons first rest =>
      simp only [selectEntry_eq_some_iff]
      constructor
      · rintro ⟨store, selection, hpicks, hindex⟩ hovertaken
        exact hovertaken.not_picked hpicks hindex
      · intro hahead
        cases i with
        | zero => exact ⟨_, picks_head_of_empty first rest⟩
        | succ k =>
            have hk : k < rest.length := Nat.lt_of_succ_lt_succ hi
            have hget : rest[k]? = some rest[k] := List.getElem?_eq_getElem hk
            have hreached : ¬ Unreached first rest k rest[k] := by
              intro hunreached
              obtain ⟨f, hf, hwarns⟩ := exists_warnsOf_iff.2 ⟨k, _, rfl, hget, hunreached⟩
              exact hunwarned f hf hwarns
            exact ⟨_, _, picks_holding hget hreached hahead, rfl⟩

theorem unwarned_selected_iff_asked :
    2 < bothAsked.length ∧ (∀ f ∈ findings "Ann" bothAsked [], ¬ f.WarnsOf 2) ∧
      ∃ store selection, selectEntry bothAsked store = some selection ∧ selection.index = 2 := by
  have hlength : 2 < bothAsked.length := by decide
  have hunwarned : ∀ f ∈ findings "Ann" bothAsked [], ¬ f.WarnsOf 2 := by
    simp only [Finding.warnsOf_iff]
    decide
  obtain ⟨hiff, htwice⟩ := unwarned_selected_iff hlength hunwarned
  have hnodup : ∀ script ∈ bothAsked, script.required.Nodup := by decide
  refine ⟨hlength, hunwarned, hiff.2 ?_⟩
  rintro ⟨_, j, hovertakes⟩
  obtain ⟨later, hlater, hnot⟩ := htwice j hovertakes
  exact hnot (hnodup later (List.mem_of_getElem? hlater))

/-- Ben is asked about once, and then by an entry that names him twice. -/
def askedTwice : List Script :=
  [⟨[], []⟩, ⟨["ben"], []⟩, ⟨["ben", "ben"], []⟩]

/-- An entry is overtaken without a warning, and is never selected. -/
theorem overtaken_without_warning :
    1 < askedTwice.length ∧ (∀ f ∈ findings "Ann" askedTwice [], ¬ f.WarnsOf 1) ∧
      ∀ store selection, selectEntry askedTwice store = some selection → selection.index ≠ 1 := by
  have hunwarned : ∀ f ∈ findings "Ann" askedTwice [], ¬ f.WarnsOf 1 := by
    simp only [Finding.warnsOf_iff]
    decide
  refine ⟨by decide, hunwarned, ?_⟩
  have hovertaken : Overtaken askedTwice 1 :=
    ⟨by decide, 2, by decide, ⟨["ben"], []⟩, ⟨["ben", "ben"], []⟩, rfl, rfl, by decide,
      by decide⟩
  intro store selection hselect
  exact hovertaken.not_picked (selectEntry_eq_some_iff.1 hselect)

end Review

end Cutscene
