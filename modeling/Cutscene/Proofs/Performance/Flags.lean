import Cutscene.Proofs.Performance.Deeds
/-!
# What a performance makes of the flags

Deeds are all that changes the flags until those of choices are purged, so the value under a key is
read off the deeds: `Deed.effects` does them to the value from before, one after the other.  A
`Course` says that the flags have come about so, and that the flags noted as chosen are those that a
purge will remove; `start_course` and `Takes.course` keep it from the start on.
-/

namespace Cutscene

open Journal (Note Place behind deeds)

/-! ## The value under a key -/

namespace Deed

/-- What a deed makes of the value under a key. -/
def effect (key : String) (value : Option String) : Deed → Option String
  | set k v => if key = k then some v else value
  | remove k => if key = k then none else value
  | choose option => if key = option.flag then some chosenValue else value
  | pay _ => value

def key? : Deed → Option String
  | set key _ | remove key => some key
  | choose option => some option.flag
  | pay _ => none

/-- What deeds make of the value under a key, one after the other. -/
def effects (key : String) (value : Option String) (done : List (Nat × Deed)) : Option String :=
  done.foldl (fun value d => d.2.effect key value) value

/-- That a flag was set among the deeds and not removed since. -/
def Sets (key : String) (done : List (Nat × Deed)) : Prop :=
  ∃ i value back, (i, .set key value) :: back <:+ done ∧ ∀ j, (j, .remove key) ∉ back

variable (key : String) (value : Option String)

@[simp] theorem effects_nil : effects key value [] = value := rfl

@[simp] theorem effects_cons (d : Nat × Deed) (done : List (Nat × Deed)) :
    effects key value (d :: done) = effects key (d.2.effect key value) done := rfl

@[simp] theorem effects_append (xs ys : List (Nat × Deed)) :
    effects key value (xs ++ ys) = effects key (effects key value xs) ys :=
  List.foldl_append

variable {key}

theorem effect_of_ne {d : Deed} (h : d.key? ≠ some key) : d.effect key value = value := by
  cases d with
  | set k v => exact if_neg fun heq => h (congrArg some heq.symm)
  | remove k => exact if_neg fun heq => h (congrArg some heq.symm)
  | choose option => exact if_neg fun heq => h (congrArg some heq.symm)
  | pay amount => rfl

theorem effects_of_unnamed {done : List (Nat × Deed)} (h : ∀ d ∈ done, d.2.key? ≠ some key) :
    effects key value done = value := by
  induction done with
  | nil => rfl
  | cons d done ih =>
      rw [effects_cons, effect_of_ne value (h d List.mem_cons_self)]
      exact ih fun d' hd' => h d' (List.mem_cons_of_mem _ hd')

theorem not_sets_nil : ¬ Sets key [] := by
  rintro ⟨i, v, back, hsuffix, _⟩
  simp at hsuffix

theorem sets_cons_iff {i : Nat} {d : Deed} {done : List (Nat × Deed)} :
    Sets key ((i, d) :: done) ↔
      (∃ v, d = .set key v) ∧ (∀ j, (j, .remove key) ∉ done) ∨ Sets key done := by
  constructor
  · rintro ⟨j, v, back, hsuffix, hback⟩
    rcases List.suffix_cons_iff.1 hsuffix with heq | hsuffix
    · obtain ⟨hd, rfl⟩ := List.cons.inj heq
      exact .inl ⟨⟨v, (Prod.mk.inj hd).2.symm⟩, hback⟩
    · exact .inr ⟨j, v, back, hsuffix, hback⟩
  · rintro (⟨⟨v, rfl⟩, hdone⟩ | ⟨j, v, back, hsuffix, hback⟩)
    · exact ⟨i, v, done, List.suffix_rfl, hdone⟩
    · exact ⟨j, v, back, List.suffix_cons_iff.2 (.inr hsuffix), hback⟩

section Unchosen

variable {done : List (Nat × Deed)}
  (h : ∀ i option, (i, .choose option) ∈ done → option.flag ≠ key)

include h

/-- Choices that do not set the flag can be left out. -/
theorem effects_authored :
    effects key value (done.filter (·.2.isAuthored)) = effects key value done := by
  induction done generalizing value with
  | nil => rfl
  | cons d done ih =>
      obtain ⟨i, d⟩ := d
      have hrest : ∀ j option, (j, .choose option) ∈ done → option.flag ≠ key :=
        fun j option hmem => h j option (List.mem_cons_of_mem _ hmem)
      by_cases hauthored : d.isAuthored = true
      · rw [List.filter_cons, if_pos hauthored, effects_cons, effects_cons, ih _ hrest]
      · obtain ⟨option, rfl⟩ : ∃ option, d = .choose option := by
          cases d <;> first | exact ⟨_, rfl⟩ | exact absurd rfl hauthored
        have hkey : key ≠ option.flag := (h i option List.mem_cons_self).symm
        rw [List.filter_cons, if_neg hauthored, effects_cons, effect, if_neg hkey, ih _ hrest]

/-- The last deed about a flag decides whether it is there. -/
theorem effects_isSome_iff :
    (effects key value done).isSome = true ↔
      (value.isSome = true ∧ ∀ i, (i, .remove key) ∉ done) ∨ Sets key done := by
  induction done generalizing value with
  | nil => simp [not_sets_nil]
  | cons d done ih =>
      obtain ⟨i, d⟩ := d
      have hrest : ∀ j option, (j, .choose option) ∈ done → option.flag ≠ key :=
        fun j option hmem => h j option (List.mem_cons_of_mem _ hmem)
      rw [effects_cons, ih _ hrest, sets_cons_iff]
      cases d with
      | set k v =>
          by_cases hkey : key = k
          · subst hkey
            simpa [effect] using fun _ hdone => Or.inl hdone
          · have hne : k ≠ key := fun heq => hkey heq.symm
            simp [effect, hkey, hne]
      | remove k =>
          by_cases hkey : key = k
          · subst hkey
            have hremoved : ¬ ∀ j, (j, .remove key) ∉ (i, .remove key) :: done :=
              fun hnone => hnone i List.mem_cons_self
            simp only [effect, hremoved]
            simp
          · simp [effect, hkey]
      | choose option =>
          have hkey : key ≠ option.flag := (h i option List.mem_cons_self).symm
          simp [effect, hkey]
      | pay amount => simp [effect]

end Unchosen

end Deed

open Deed (effects)

/-! ## Choices that were picked -/

namespace Journal

/-- That an option was picked which sets a flag. -/
def Picked (key : String) (notes : List Note) : Prop :=
  ∃ option, .picked option ∈ notes ∧ option.flag = key

@[simp] theorem picked_append (key : String) (xs ys : List Note) :
    Picked key (xs ++ ys) ↔ Picked key xs ∨ Picked key ys := by
  simp only [Picked, List.mem_append, or_and_right, exists_or]

theorem not_picked_of_asides {notes : List Note} (h : ∀ n ∈ notes, n.isAside = true)
    (key : String) : ¬ Picked key notes := by
  rintro ⟨option, hpicked, _⟩
  have haside := h _ hpicked
  simp [Note.isAside] at haside

theorem not_picked_of_played {notes : List Note} (h : ∀ n ∈ notes, n.isPlayed = true)
    (key : String) : ¬ Picked key notes := by
  rintro ⟨option, hpicked, _⟩
  have hplayed := h _ hpicked
  simp [Note.isPlayed] at hplayed

theorem picked_iff {key : String} {notes : List Note} (here : Place) :
    Picked key notes ↔
      ∃ i option, (i, .choose option) ∈ deeds here notes ∧ option.flag = key := by
  constructor
  · rintro ⟨option, hpicked, hflag⟩
    obtain ⟨there, hthere⟩ := exists_mem_read
      (fun here n => n.deed?.map (here.index, ·)) hpicked here
    exact ⟨there.index, option, hthere _ rfl, hflag⟩
  · rintro ⟨i, option, hmem, hflag⟩
    obtain ⟨n, hn, there, hread⟩ := mem_read _ hmem
    obtain ⟨d, hdeed, heq⟩ := Option.map_eq_some_iff.1 hread
    obtain rfl := (Prod.mk.inj heq).2
    refine ⟨option, ?_, hflag⟩
    cases n <;> simp only [Note.deed?, reduceCtorEq, Option.some.injEq, Deed.choose.injEq] at hdeed
    rwa [hdeed] at hn

theorem unchosen_of_not_picked {key : String} {notes : List Note} (h : ¬ Picked key notes)
    (here : Place) : ∀ i option, (i, .choose option) ∈ deeds here notes → option.flag ≠ key := by
  intro i option hmem hflag
  exact h ((picked_iff here).2 ⟨i, option, hmem, hflag⟩)

def Note.isPurge : Note → Bool
  | purged _ => true
  | _ => false

theorem isPurge_played {notes : List Note} (h : ∀ n ∈ notes, n.isPlayed = true) :
    ∀ n ∈ notes, n.isPurge = false := by
  intro n hn
  have hplayed := h n hn
  cases n <;> first | rfl | simp [Note.isPlayed] at hplayed

end Journal

open Journal (Picked)

/-! ## The flags of a scene -/

namespace Scene

theorem noted_get? {n : Note} (hn : n.isPurge = false) (s : Scene) (key : String) :
    (s.noted n).store.get? key = n.deed?.elim (s.store.get? key)
      (Deed.effect key (s.store.get? key)) := by
  cases n <;> simp [noted, flush, Note.deed?, Deed.effect]
  simp [Note.isPurge] at hn

/-- Unless flags of choices are purged, the deeds that are noted are what is done to the flags. -/
theorem replay_get? {notes : List Note} (h : ∀ n ∈ notes, n.isPurge = false) (s : Scene)
    (key : String) (here : Place) :
    (s.replay notes).store.get? key = effects key (s.store.get? key) (deeds here notes) := by
  induction notes generalizing s here with
  | nil => rfl
  | cons n notes ih =>
      have hrest := ih (fun m hm => h m (List.mem_cons_of_mem _ hm)) (s.noted n) (n.move here)
      rw [replay_cons, hrest, noted_get? (h n List.mem_cons_self), deeds, Journal.read_cons,
        Deed.effects_append]
      cases n.deed? <;> rfl

theorem Becomes.get? {s s' : Scene} {notes : List Note} (h : s.Becomes notes s')
    (hnotes : ∀ n ∈ notes, n.isPurge = false) (key : String) (here : Place) :
    s'.store.get? key = effects key (s.store.get? key) (deeds here notes) := by
  rw [h]
  exact replay_get? hnotes s key here

end Scene

/-! ## The course of a performance -/

namespace Performance

theorem get?_purge (p : Performance) (s : Scene) (key : String) :
    (p.purge s).scene.store.get? key =
      if p.chosen.contains key then none else s.store.get? key := by
  have hkeys := p.chosen.mem_keys_iff key
  simp only [purge, Store.get?_foldl_erase]
  by_cases hchosen : p.chosen.contains key = true
  · rw [if_pos (hkeys.2 hchosen), if_pos hchosen]
  · rw [if_neg (mt hkeys.1 hchosen), if_neg hchosen]

theorem Ending.chosen_eq {b : Binding} {p p' : Performance} {c c' : Cast}
    (h : Ending b p c p' c') : p'.chosen = p.chosen := by
  cases h <;> rfl

theorem proceed_chosen (p : Performance) (s : Scene) :
    (p.proceed s).performance.chosen = p.chosen := by
  cases hb : p.binding with
  | none => simp [proceed, hb]
  | some b => exact (proceed_stretch hb s).ending.chosen_eq

theorem proceed_played (p : Performance) (s : Scene) :
    ∀ n ∈ (p.proceed s).notes, n.isPlayed = true := by
  cases hb : p.binding with
  | none => simp [proceed, hb]
  | some b => exact (proceed_stretch hb s).played

theorem start_unpicked (p : Performance) (player : String) (initiator : Option String) (s : Scene)
    (key : String) : ¬ Picked key (p.start player initiator s).notes := by
  obtain ⟨t, hstretch, hturn⟩ := p.start_stretch player initiator s
  rw [hturn, Turn.after, Journal.picked_append, not_or]
  exact ⟨Journal.not_picked_of_asides (p.start_asides player initiator s) key,
    Journal.not_picked_of_played hstretch.played key⟩

/-- The flags that choices have set, once a cue has been taken: those from before, and the one that
is picked now. -/
theorem Takes.chosen {p p' : Performance} {s s' : Scene} {cue : Cue} {notes : List Note}
    (h : p.Takes s cue p' s' notes) (key : String) :
    p'.chosen.contains key = true ↔ p.chosen.contains key = true ∨ Picked key notes := by
  cases h with
  | confirm => simp [Picked]
  | arrive => simp [Picked]
  | @choose menu index option =>
      simp only [Picked, SortedMap.contains, SortedMap.get?_insert, List.mem_singleton,
        Note.picked.injEq]
      by_cases hkey : key = option.flag
      · simp [hkey]
      · have hne : option.flag ≠ key := fun h => hkey h.symm
        simp [hkey, hne]

theorem Takes.isPurge {p p' : Performance} {s s' : Scene} {cue : Cue} {notes : List Note}
    (h : p.Takes s cue p' s' notes) : ∀ n ∈ notes, n.isPurge = false := by
  cases h <;> simp [Note.isPurge]

/-- What is known of a performance, its scene and the notes since its start, which was made with
some flags: they have become what the deeds have made of them, and the flags of the choices picked
are those that are removed in the end. -/
structure Course (p : Performance) (before : Store) (log : List Note) (s : Scene) : Prop where
  kept : p.Kept log
  flags : ∀ key, s.store.get? key = effects key (before.get? key) (deeds {} log)
  chosen : ∀ key, p.chosen.contains key = true ↔ Picked key log

/-- A first start opens a course, behind notes that tell of nothing done to flags: there are no
flags of choices to purge yet. -/
theorem start_course {p : Performance} (hchosen : p.chosen = .empty) (player : String)
    (initiator : Option String) (s : Scene) {front : List Note} (hfront : deeds {} front = [])
    (hunpicked : ∀ key, ¬ Picked key front) :
    (p.start player initiator s).performance.Course s.store
      (front ++ (p.start player initiator s).notes) (p.start player initiator s).scene where
  kept := p.start_kept player initiator s hfront
  flags key := by
    rw [Journal.deeds_append, hfront, List.nil_append]
    refine (p.start_becomes player initiator s).get? ?_ key (behind {} front)
    obtain ⟨t, hstretch, hturn⟩ := p.start_stretch player initiator s
    have hpurge : (p.purge s).notes = [] := by
      rw [purge, hchosen]
      rfl
    rw [hturn, Turn.after, hpurge]
    intro n hn
    rcases List.mem_cons.1 hn with rfl | hn
    · rfl
    · exact Journal.isPurge_played hstretch.played n hn
  chosen key := by
    obtain ⟨t, hstretch, hturn⟩ := p.start_stretch player initiator s
    have hnone : (p.start player initiator s).performance.chosen = .empty := by
      rw [hturn]
      exact hstretch.ending.chosen_eq
    have hstart := p.start_unpicked player initiator s key
    simp [hnone, hstart, hunpicked key, SortedMap.contains]

theorem Takes.course {p p' : Performance} {s s' : Scene} {cue : Cue} {notes log : List Note}
    {before : Store} (h : p.Takes s cue p' s' notes) (hcourse : p.Course before log s) :
    (p'.proceedPast s').performance.Course before (log ++ notes ++ (p'.proceedPast s').notes)
      (p'.proceedPast s').scene where
  kept := h.kept hcourse.kept
  flags key := by
    have hplayed := proceed_played { p' with cursor := p'.cursor + 1 } s'
    have hstore := (p'.proceedPast_becomes s').get? (Journal.isPurge_played hplayed) key
      (behind {} (log ++ notes))
    rw [hstore, h.becomes.get? h.isPurge key (behind {} log), hcourse.flags key,
      Journal.deeds_append, Journal.deeds_append, Deed.effects_append, Deed.effects_append]
  chosen key := by
    have hplayed := proceed_played { p' with cursor := p'.cursor + 1 } s'
    have hunpicked := Journal.not_picked_of_played hplayed key
    have hkept : (p'.proceedPast s').performance.chosen = p'.chosen := proceed_chosen _ s'
    rw [hkept, h.chosen key, hcourse.chosen key, Journal.picked_append, Journal.picked_append]
    exact (or_iff_left hunpicked).symm

theorem Course.append_asides {p : Performance} {before : Store} {log notes : List Note}
    {s s' : Scene} (h : p.Course before log s) (hasides : ∀ n ∈ notes, n.isAside = true)
    (hstore : ∀ key, s'.store.get? key = s.store.get? key) :
    p.Course before (log ++ notes) s' where
  kept := h.kept.append_asides hasides
  flags key := by
    rw [hstore, h.flags, Journal.deeds_append, Journal.deeds_asides hasides, List.append_nil]
  chosen key := by
    rw [h.chosen, Journal.picked_append]
    exact (or_iff_left (Journal.not_picked_of_asides hasides key)).symm

end Performance

end Cutscene
