import Cutscene.Proofs.Selection.Pick
import Cutscene.Session
import Mathlib.Data.Set.Basic
import Mathlib.Order.Bounds.Defs
/-!
# The entry that leads

Which entry is picked can be told from the list alone.  The contenders are the entries behind the
first whose flags are all present and that need more flags than the first one; those of them that
need the most flags lead, and the earliest of the leaders is picked.  Without a contender it is the
first entry, whether its flags are present or not (`selectEntry_isLeast`).  A session that begins
plays the entry with that index, and there is always one.
-/

namespace Cutscene

/-- Whether all flags of an entry are present. -/
def Script.Fits (script : Script) (store : Store) : Prop :=
  ∀ flag ∈ script.required, store.contains flag = true

instance (script : Script) (store : Store) : Decidable (script.Fits store) :=
  inferInstanceAs (Decidable (∀ flag ∈ script.required, store.contains flag = true))

namespace Selection

/-- The number of flags that the entry with an index needs. -/
def needs (entries : List Script) (i : Nat) : Nat :=
  entries[i]?.elim 0 (·.required.length)

/-- The indices of the entries behind the first that fit and need more flags than the first. -/
def contenders (entries : List Script) (store : Store) : Set Nat :=
  {i | 0 < i ∧ needs entries 0 < needs entries i ∧
    ∃ e, entries[i]? = some e ∧ e.Fits store}

/-- The indices of the contenders that need the most flags. -/
def leaders (entries : List Script) (store : Store) : Set Nat :=
  {i | i ∈ contenders entries store ∧
    ∀ j ∈ contenders entries store, needs entries j ≤ needs entries i}

variable {store : Store} {first e : Script} {rest : List Script} {i : Nat}

theorem needs_of_getElem? {entries : List Script} (h : entries[i]? = some e) :
    needs entries i = e.required.length := by
  rw [needs, h, Option.elim_some]

theorem mem_contenders_iff :
    i ∈ contenders (first :: rest) store ↔ ∃ j e, i = j + 1 ∧ rest[j]? = some e ∧
      e.isEligible store = true ∧ first.required.length < e.required.length := by
  constructor
  · rintro ⟨hpos, hmore, e, hget, hfits⟩
    obtain ⟨j, rfl⟩ : ∃ j, i = j + 1 := ⟨i - 1, by omega⟩
    rw [needs_of_getElem? hget] at hmore
    exact ⟨j, e, rfl, hget, Script.isEligible_iff.2 hfits, hmore⟩
  · rintro ⟨j, e, rfl, hget, heligible, hmore⟩
    have hentry : (first :: rest)[j + 1]? = some e := hget
    refine ⟨Nat.succ_pos j, ?_, e, hentry, Script.isEligible_iff.1 heligible⟩
    rw [needs_of_getElem? hentry]
    exact hmore

theorem contenders_eq_empty (h : ∀ e ∈ rest, e.isEligible store = true →
    e.required.length ≤ first.required.length) : contenders (first :: rest) store = ∅ := by
  apply Set.eq_empty_of_forall_notMem
  intro i hi
  obtain ⟨j, e, _, hget, heligible, hmore⟩ := mem_contenders_iff.1 hi
  have hle := h e (List.mem_of_getElem? hget) heligible
  omega

/-- The pick behind the first entry is the earliest leader. -/
theorem isLeast_leaders (hget : rest[i]? = some e)
    (heligible : e.isEligible store = true)
    (hmore : first.required.length < e.required.length)
    (hmost : ∀ d ∈ rest, d.isEligible store = true → d.required.length ≤ e.required.length)
    (hearliest : ∀ j d, j < i → rest[j]? = some d → d.isEligible store = true →
      d.required.length < e.required.length) :
    IsLeast (leaders (first :: rest) store) (i + 1) := by
  have hneeds : needs (first :: rest) (i + 1) = e.required.length := needs_of_getElem? hget
  have hmember : i + 1 ∈ contenders (first :: rest) store :=
    mem_contenders_iff.2 ⟨i, e, rfl, hget, heligible, hmore⟩
  refine ⟨⟨hmember, fun j hj => ?_⟩, fun j hj => ?_⟩
  · obtain ⟨j, d, rfl, hd, helig, _⟩ := mem_contenders_iff.1 hj
    have hd' : (first :: rest)[j + 1]? = some d := hd
    rw [hneeds, needs_of_getElem? hd']
    exact hmost d (List.mem_of_getElem? hd) helig
  · -- a leader needs as many flags as the pick, so it does not stand before it
    obtain ⟨hj, hleads⟩ := hj
    obtain ⟨j, d, rfl, hd, helig, _⟩ := mem_contenders_iff.1 hj
    have hd' : (first :: rest)[j + 1]? = some d := hd
    have hle := hleads (i + 1) hmember
    rw [hneeds, needs_of_getElem? hd'] at hle
    by_contra hlt
    have hless := hearliest j d (by omega) hd helig
    omega

end Selection

open Selection (contenders leaders)

/-- A session that is free and does not stay idle plays the entry that is picked. -/
theorem Session.begin_of_selectEntry {x : Session} {entries : List Script} {e : Script} {s : Scene}
    {selection : Selection} (hfree : x.active = none)
    (hselect : selectEntry entries s.store = some selection)
    (hget : entries[selection.index]? = some e) (npc player : String)
    (hplays : selection.isFallback = true → x.settings.fallback = .playFirst) :
    ∃ notes, x.begin npc player entries s =
      { x.launch npc player e selection s with
        notes := notes ++ (x.launch npc player e selection s).notes } := by
  have hscript : entries.getD selection.index {} = e := by
    rw [List.getD_eq_getElem?_getD, hget, Option.getD_some]
  simp only [begin, hfree, hselect, hscript]
  cases hfallback : selection.isFallback with
  | false => exact ⟨[], rfl⟩
  | true =>
      rw [hplays hfallback]
      exact ⟨[.fellBack npc], rfl⟩

/-- **The entry that is picked.** There is a pick, and it is an entry of the list: the earliest
leader, which fits, or the first entry when there is no contender, as eligible if it fits and as a
fallback if it does not.  This is the entry that a session plays which begins. -/
theorem selectEntry_isLeast (first : Script) (rest : List Script) (store : Store) :
    ∃ selection script, selectEntry (first :: rest) store = some selection ∧
      (first :: rest)[selection.index]? = some script ∧
      ((contenders (first :: rest) store).Nonempty →
        ∃ i, IsLeast (leaders (first :: rest) store) i ∧ selection = .eligible i) ∧
      (contenders (first :: rest) store = ∅ →
        selection = if first.Fits store then .eligible 0 else .fallback 0) ∧
      (∀ i, selection = .fallback i → i = 0 ∧ ¬ first.Fits store) ∧
      ∀ (x : Session) (npc player : String) (s : Scene), x.active = none → s.store = store →
        (selection.isFallback = true → x.settings.fallback = .playFirst) →
        ∃ notes, x.begin npc player (first :: rest) s =
          { x.launch npc player script selection s with
            notes := notes ++ (x.launch npc player script selection s).notes } := by
  obtain ⟨selection, hselect, hpicks⟩ := selectEntry_picks store first rest
  obtain ⟨script, hget⟩ := exists_getElem?_of_selectEntry hselect
  have hbegins (x : Session) (npc player : String) (s : Scene) (hfree : x.active = none)
      (hstore : s.store = store) (hplays : selection.isFallback = true →
        x.settings.fallback = .playFirst) :=
    Session.begin_of_selectEntry hfree (hstore ▸ hselect) hget npc player hplays
  refine ⟨selection, script, hselect, hget, ?_, ?_, ?_, hbegins⟩
  · intro hsome
    cases hpicks with
    | head hfirst =>
        rw [Selection.contenders_eq_empty hfirst] at hsome
        exact absurd rfl hsome.ne_empty
    | later hentry heligible hmore hmost hearliest =>
        exact ⟨_, Selection.isLeast_leaders hentry heligible hmore hmost hearliest, rfl⟩
  · intro hnone
    cases hpicks with
    | head => exact if_congr Script.isEligible_iff rfl rfl
    | later hentry heligible hmore =>
        have hmember := Selection.mem_contenders_iff.2 ⟨_, _, rfl, hentry, heligible, hmore⟩
        rw [hnone] at hmember
        exact absurd hmember (Set.notMem_empty _)
  · rintro i rfl
    generalize hpicked : Selection.fallback i = picked at hpicks
    cases hpicks with
    | head =>
        split at hpicked
        · cases hpicked
        · rename_i hmissing
          cases hpicked
          exact ⟨rfl, fun hfits => hmissing (Script.isEligible_iff.2 hfits)⟩
    | later => cases hpicked

/-- What Ann says to someone she has met; the last two need as many flags. -/
def greetings : List Script :=
  [⟨["met"], []⟩, ⟨["met", "trusts"], []⟩, ⟨["met", "owes"], []⟩]

def metOwing : Scene where
  store := .memory (.ofList [("met", "yes"), ("owes", "yes"), ("trusts", "yes")])

theorem selectEntry_isLeast_tied :
    (contenders greetings metOwing.store).Nonempty ∧
      IsLeast (leaders greetings metOwing.store) 1 ∧
      selectEntry greetings metOwing.store = some (.eligible 1) ∧
      ∃ notes, ({} : Session).begin "Ann" "Ben" greetings metOwing =
        { ({} : Session).launch "Ann" "Ben" ⟨["met", "trusts"], []⟩ (.eligible 1) metOwing with
          notes := notes ++ (({} : Session).launch "Ann" "Ben" ⟨["met", "trusts"], []⟩
            (.eligible 1) metOwing).notes } := by
  obtain ⟨selection, script, hselect, hget, hleads, _, _, hbegins⟩ :=
    selectEntry_isLeast ⟨["met"], []⟩ [⟨["met", "trusts"], []⟩, ⟨["met", "owes"], []⟩]
      metOwing.store
  have hpicked : selectEntry greetings metOwing.store = some (.eligible 1) := by decide
  obtain rfl : selection = .eligible 1 := Option.some.inj (hselect.symm.trans hpicked)
  obtain rfl : script = ⟨["met", "trusts"], []⟩ := (Option.some.inj hget).symm
  have hsome : (contenders greetings metOwing.store).Nonempty :=
    ⟨1, by decide, by decide, ⟨["met", "trusts"], []⟩, rfl, by decide⟩
  obtain ⟨i, hleast, heq⟩ := hleads hsome
  obtain rfl : 1 = i := Selection.eligible.inj heq
  exact ⟨hsome, hleast, hpicked, hbegins {} "Ann" "Ben" metOwing rfl rfl nofun⟩

end Cutscene
