import Cutscene.Proofs.Performance.Replay
/-!
# Every deed is done once

What a script does to flags and money is read off the notes of its calls: a `Deed`, with the index
of the event that it was done at.  Between one start and the next the deeds of the events below the
cursor have been done, once each and in order, and no others but one choice for a message, whatever
cues came in and however often an event was played again.  `Tally` says so of a list of deeds, and
`showing_kept` of the deeds of a showing.
-/

namespace Cutscene

open Journal (Note)

/-! ## Deeds -/

/-- Something done to the flags or the money. -/
inductive Deed where
  | set (key value : String)
  | remove (key : String)
  | pay (amount : Float)
  | choose (option : Choice)
  deriving DecidableEq

/-- Whether a deed was written into the script, and not left to the player. -/
def Deed.isAuthored : Deed → Bool
  | choose _ => false
  | _ => true

/-- What an event does when it is played. -/
def Event.deed? : Event → Option Deed
  | addFlag key value => some (.set key value)
  | removeFlag key => some (.remove key)
  | transaction amount => some (.pay amount)
  | _ => none

/-- What the event with an index does, with the index. -/
def Script.deedAt? (script : Script) (i : Nat) : Option (Nat × Deed) :=
  (script.events[i]?.bind Event.deed?).map (i, ·)

/-- The deeds of the events from one index to another, in the order of the script. -/
def Script.deeds (script : Script) (lo hi : Nat) : List (Nat × Deed) :=
  (List.range' lo (hi - lo)).filterMap script.deedAt?

namespace Journal

/-- The deed that a note tells of. -/
def Note.deed? : Note → Option Deed
  | flagSet key value => some (.set key value)
  | flagRemoved key => some (.remove key)
  | paid amount _ => some (.pay amount)
  | picked option => some (.choose option)
  | _ => none

/-- The deeds of a list of notes, each with the index of the event that was played then. -/
def deeds : Place → List Note → List (Nat × Deed) :=
  read fun here n => n.deed?.map (here.index, ·)

theorem deeds_append (here : Place) (xs ys : List Note) :
    deeds here (xs ++ ys) = deeds here xs ++ deeds (behind here xs) ys :=
  read_append _ here xs ys

theorem Note.deed?_aside {n : Note} (h : n.isAside = true) : n.deed? = none := by
  cases n <;> first | rfl | simp [isAside] at h

theorem deeds_asides {notes : List Note} (h : ∀ n ∈ notes, n.isAside = true) (here : Place) :
    deeds here notes = [] :=
  read_eq_nil _ (fun n hn _ => by rw [Note.deed?_aside (h n hn)]; rfl) here

end Journal

open Journal (Place behind deeds)

/-! ## The deeds of a part of a script -/

namespace Script

variable (script : Script)

@[simp] theorem deeds_self (lo : Nat) : script.deeds lo lo = [] := by
  simp [Script.deeds]

theorem deeds_append {lo mid hi : Nat} (h₁ : lo ≤ mid) (h₂ : mid ≤ hi) :
    script.deeds lo mid ++ script.deeds mid hi = script.deeds lo hi := by
  have hrange : List.range' lo (hi - lo) =
      List.range' lo (mid - lo) ++ List.range' mid (hi - mid) := by
    rw [show hi - lo = (mid - lo) + (hi - mid) by omega, ← List.range'_append_1,
      show lo + (mid - lo) = mid by omega]
  simp only [Script.deeds, hrange, List.filterMap_append]

theorem deeds_succ (i : Nat) : script.deeds i (i + 1) = (script.deedAt? i).toList := by
  rw [Script.deeds, Nat.add_sub_cancel_left, List.range'_one, List.filterMap_cons]
  cases script.deedAt? i <;> rfl

theorem mem_deeds {lo hi i : Nat} {d : Deed} (h : (i, d) ∈ script.deeds lo hi) :
    lo ≤ i ∧ i < hi ∧ ∃ e, script.events[i]? = some e ∧ e.deed? = some d := by
  simp only [Script.deeds, Script.deedAt?, List.mem_filterMap, List.mem_range'_1,
    Option.map_eq_some_iff, Option.bind_eq_some_iff] at h
  obtain ⟨j, hj, d', ⟨e, hevent, hdeed⟩, heq⟩ := h
  obtain ⟨rfl, rfl⟩ := Prod.mk.inj heq
  exact ⟨hj.1, by omega, e, hevent, hdeed⟩

theorem deeds_pairwise (lo hi : Nat) : (script.deeds lo hi).Pairwise (·.1 < ·.1) := by
  refine List.Pairwise.filterMap _ ?_ List.pairwise_lt_range'
  intro i j hlt d hd d' hd'
  obtain ⟨_, _, rfl⟩ := Option.map_eq_some_iff.1 hd
  obtain ⟨_, _, rfl⟩ := Option.map_eq_some_iff.1 hd'
  exact hlt

theorem isAuthored_of_mem {lo hi : Nat} {d : Nat × Deed} (h : d ∈ script.deeds lo hi) :
    d.2.isAuthored = true := by
  obtain ⟨_, _, e, _, hdeed⟩ := script.mem_deeds (i := d.1) (d := d.2) h
  cases e <;> simp only [Event.deed?, reduceCtorEq, Option.some.injEq] at hdeed
  all_goals rw [← hdeed]; rfl

theorem deedAt?_message {i : Nat} {m : Message} (h : script.events[i]? = some (.message m)) :
    script.deedAt? i = none := by
  simp [deedAt?, h, Event.deed?]

theorem deedAt?_walk {i : Nat} {w : Walk} (h : script.events[i]? = some (.walk w)) :
    script.deedAt? i = none := by
  simp [deedAt?, h, Event.deed?]

end Script

/-! ## Tallies -/

/-- The deeds done once the cursor of a script has come to an index: those of all events below it,
and choices among options of messages below it, no two of them at one event. -/
structure Tally (script : Script) (cursor : Nat) (done : List (Nat × Deed)) : Prop where
  authored : done.filter (·.2.isAuthored) = script.deeds 0 cursor
  ordered : done.Pairwise (·.1 < ·.1)
  below : ∀ d ∈ done, d.1 < cursor
  own : ∀ i option, (i, .choose option) ∈ done →
    ∃ m, script.events[i]? = some (.message m) ∧ option ∈ m.choices

namespace Tally

variable {script : Script} {cursor : Nat} {done : List (Nat × Deed)}

theorem nil (script : Script) : Tally script 0 [] where
  authored := by simp
  ordered := .nil
  below := by simp
  own := by simp

/-- Playing on from the cursor adds the deeds of the events that are passed. -/
theorem append_deeds (h : Tally script cursor done) {hi : Nat} (hle : cursor ≤ hi) :
    Tally script hi (done ++ script.deeds cursor hi) where
  authored := by
    have hall : (script.deeds cursor hi).filter (·.2.isAuthored) = script.deeds cursor hi :=
      List.filter_eq_self.2 fun d hd => script.isAuthored_of_mem hd
    rw [List.filter_append, h.authored, hall, script.deeds_append (Nat.zero_le _) hle]
  ordered := by
    refine List.pairwise_append.2 ⟨h.ordered, script.deeds_pairwise cursor hi, ?_⟩
    intro d hd d' hd'
    exact Nat.lt_of_lt_of_le (h.below d hd) (script.mem_deeds hd').1
  below := by
    intro d hd
    rcases List.mem_append.1 hd with hd | hd
    · exact Nat.lt_of_lt_of_le (h.below d hd) hle
    · exact (script.mem_deeds hd).2.1
  own := by
    intro i option hmem
    rcases List.mem_append.1 hmem with hmem | hmem
    · exact h.own i option hmem
    · exact absurd (script.isAuthored_of_mem hmem) (by simp [Deed.isAuthored])

/-- An event without a deed of its own is passed. -/
theorem skip (h : Tally script cursor done) (hnone : script.deedAt? cursor = none) :
    Tally script (cursor + 1) done := by
  have hnext := h.append_deeds (Nat.le_succ cursor)
  rwa [script.deeds_succ, hnone, Option.toList_none, List.append_nil] at hnext

/-- An option of the message under the cursor is chosen. -/
theorem choose (h : Tally script cursor done) {m : Message} {option : Choice}
    (hevent : script.events[cursor]? = some (.message m)) (hoption : option ∈ m.choices) :
    Tally script (cursor + 1) (done ++ [(cursor, .choose option)]) where
  authored := by
    have hskip := h.skip (script.deedAt?_message hevent)
    simpa [Deed.isAuthored] using hskip.authored
  ordered := by
    refine List.pairwise_append.2 ⟨h.ordered, List.pairwise_singleton _ _, ?_⟩
    intro d hd d' hd'
    rw [List.mem_singleton.1 hd']
    exact h.below d hd
  below := by
    intro d hd
    rcases List.mem_append.1 hd with hd | hd
    · exact Nat.lt_succ_of_lt (h.below d hd)
    · rw [List.mem_singleton.1 hd]
      exact Nat.lt_succ_self cursor
  own := by
    intro i picked hmem
    rcases List.mem_append.1 hmem with hmem | hmem
    · exact h.own i picked hmem
    · obtain ⟨rfl, heq⟩ := Prod.mk.inj (List.mem_singleton.1 hmem)
      obtain rfl := Deed.choose.inj heq
      exact ⟨m, hevent, hoption⟩

end Tally

/-! ## The deeds of a stretch -/

namespace Performance

theorem deeds_passes {s s' : Scene} {b : Binding} {i : Nat} {e : Event} {notes : List Note}
    (h : s.Passes b i e s' notes) {script : Script} (hevent : script.events[i]? = some e)
    (here : Place) : deeds here (.reached i e :: notes) = (script.deedAt? i).toList := by
  rw [Script.deedAt?, hevent]
  cases h <;> rfl

theorem deeds_halts {s s' : Scene} {b : Binding} {ticket : Ticket} {e : Event} {pause : Pause}
    {notes : List Note} (h : s.Halts b ticket e pause s' notes) (i : Nat) (here : Place) :
    deeds here (.reached i e :: notes) = [] := by
  cases h with
  | message => exact Journal.deeds_asides (s.present_asides b _) _
  | choice => exact Journal.deeds_asides (s.present_asides b _) _
  | walk => rfl

/-- A stretch does the deeds of the events that it passes, and no others. -/
theorem Stretch.deeds_eq {b : Binding} {p : Performance} {s : Scene} {t : Turn}
    (h : Stretch b p s t) (here : Place) :
    deeds here t.notes = p.script.deeds p.cursor t.performance.cursor := by
  induction h generalizing here with
  | @atEnd p s _ =>
      rw [Journal.deeds_asides (p.finish_asides s)]
      exact (p.script.deeds_self p.cursor).symm
  | @pass p s s' e notes t hcurrent hpass hstretch ih =>
      have hle : p.cursor + 1 ≤ t.performance.cursor := hstretch.ending.cursor_le
      simp only [Turn.after]
      rw [Journal.deeds_append, deeds_passes hpass hcurrent, ih, ← p.script.deeds_succ]
      exact p.script.deeds_append (Nat.le_succ _) hle
  | @halt p s s' e pause notes _ hhalt =>
      rw [Journal.deeds_append, deeds_halts hhalt, suspend_cursor]
      exact (p.script.deeds_self p.cursor).symm

/-! ## The deeds of a showing -/

/-- The scene that each call of a list was made on, and its turn. -/
def trace : Performance → List (Call × Scene) → List (Scene × Turn)
  | _, [] => []
  | p, (c, s) :: calls => (s, p.answer c s) :: trace (p.answer c s).performance calls

/-- The notes of a list of calls. -/
def log (p : Performance) (calls : List (Call × Scene)) : List Note :=
  (p.trace calls).flatMap (·.2.notes)

/-- A start and calls that take the performance further, each with the scene that it is made on. -/
def showing (player : String) (initiator : Option String) (s : Scene)
    (calls : List (Onward × Scene)) : List (Call × Scene) :=
  (.start player initiator, s) :: calls.map fun c => (.onward c.1, c.2)

@[simp] theorem log_nil (p : Performance) : p.log [] = [] := rfl

@[simp] theorem log_cons (p : Performance) (c : Call) (s : Scene) (calls : List (Call × Scene)) :
    p.log ((c, s) :: calls) = (p.answer c s).notes ++ (p.answer c s).performance.log calls := rfl

/-- What is known of a performance and of the notes since its start. -/
structure Kept (p : Performance) (log : List Note) : Prop where
  consistent : p.Consistent
  tally : Tally p.script p.cursor (deeds {} log)
  index_eq : ∀ waitsFor, p.status = .paused waitsFor → (behind {} log).index = p.cursor

theorem Stretch.kept {b : Binding} {p : Performance} {s : Scene} {t : Turn} {log : List Note}
    (h : Stretch b p.cleared s t) (hb : p.binding = some b) (hle : p.cursor ≤ p.script.length)
    (htally : Tally p.script p.cursor (deeds {} log)) : t.performance.Kept (log ++ t.notes) where
  consistent := h.ending.consistent hb hle
  tally := by
    rw [Journal.deeds_append, h.deeds_eq, h.ending.script_eq]
    exact htally.append_deeds h.ending.cursor_le
  index_eq := by
    intro waitsFor hstatus
    rw [Journal.behind_append]
    apply (h.behind_eq _).2
    simp [hstatus]

/-- Taking a cue leaves the event under the cursor behind, with a choice if it asked for one. -/
theorem Takes.tally {p p' : Performance} {s s' : Scene} {cue : Cue} {notes log : List Note}
    (h : p.Takes s cue p' s' notes) (hkept : p.Kept log) :
    Tally p.script (p.cursor + 1) (deeds {} (log ++ notes)) := by
  have hmatches := hkept.consistent.status_matches
  rw [Journal.deeds_append]
  cases h with
  | confirm hstatus =>
      rw [hstatus] at hmatches
      obtain ⟨⟨m, hevent, _⟩, _⟩ := hmatches
      have hskip := hkept.tally.skip (p.script.deedAt?_message hevent)
      rwa [← List.append_nil (deeds {} log)] at hskip
  | @choose menu index option hstatus hmenu hopen hoption =>
      have hindex := hkept.index_eq .choice hstatus
      rw [hstatus] at hmatches
      -- the menu that is open is the one of the message under the cursor
      obtain ⟨⟨m, hevent, _, hown⟩, _⟩ := hmatches
      obtain rfl := Option.some.inj (hmenu.symm.trans hown)
      have hchoose := hkept.tally.choose hevent (List.mem_of_getElem? hoption)
      rwa [← hindex] at hchoose ⊢
  | arrive hstatus =>
      rw [hstatus] at hmatches
      obtain ⟨⟨w, _, hevent, _⟩, _⟩ := hmatches
      have hskip := hkept.tally.skip (p.script.deedAt?_walk hevent)
      rwa [← List.append_nil (deeds {} log)] at hskip

theorem Takes.kept {p p' : Performance} {s s' : Scene} {cue : Cue} {notes log : List Note}
    (h : p.Takes s cue p' s' notes) (hkept : p.Kept log) :
    (p'.proceedPast s').performance.Kept (log ++ notes ++ (p'.proceedPast s').notes) := by
  obtain ⟨b, hb, hlt, hstretch⟩ := h.stretch hkept.consistent
  obtain ⟨hscript, _, hbinding, _⟩ := h.frame
  have htally := h.tally hkept
  refine hstretch.kept (hbinding.trans hb) ?_ ?_
  · rw [hscript]
    exact hlt
  · simpa only [hscript] using htally

theorem Kept.append_asides {p : Performance} {log notes : List Note} (h : p.Kept log)
    (hasides : ∀ n ∈ notes, n.isAside = true) : p.Kept (log ++ notes) where
  consistent := h.consistent
  tally := by
    rw [Journal.deeds_append, Journal.deeds_asides hasides, List.append_nil]
    exact h.tally
  index_eq := by
    intro waitsFor hstatus
    rw [Journal.behind_append, Journal.behind_asides hasides]
    exact h.index_eq waitsFor hstatus

theorem Kept.push {p : Performance} {log : List Note} (h : p.Kept log) (c : Onward) (s : Scene) :
    (p.push c s).performance.Kept (log ++ (p.push c s).notes) := by
  cases c with
  | proceed =>
      simp only [Performance.push]
      cases hb : p.binding with
      | none =>
          simp only [proceed, hb]
          exact h.append_asides (by simp)
      | some b => exact (proceed_stretch hb s).kept hb h.consistent.cursor_le h.tally
  | resume cue =>
      simp only [Performance.push]
      rcases p.resume_cases cue s with ⟨p', s', notes, htakes, hturn⟩ | ⟨notes, hignores, hturn, _⟩
      · rw [hturn]
        simp only [Turn.after, ← List.append_assoc]
        exact htakes.kept h
      · rw [hturn]
        exact h.append_asides hignores.remarks.asides

/-- A start begins a tally, behind notes that tell of no deeds. -/
theorem start_kept (p : Performance) (player : String) (initiator : Option String) (s : Scene)
    {front : List Note} (hfront : deeds {} front = []) :
    (p.start player initiator s).performance.Kept
      (front ++ (p.start player initiator s).notes) := by
  obtain ⟨t, hstretch, hturn⟩ := p.start_stretch player initiator s
  rw [hturn, Turn.after, ← List.append_assoc]
  refine hstretch.kept rfl (Nat.zero_le _) ?_
  rw [Journal.deeds_append, hfront, Journal.deeds_asides (p.start_asides player initiator s)]
  exact Tally.nil p.script

theorem Kept.after {p : Performance} {log : List Note} (h : p.Kept log)
    (calls : List (Onward × Scene)) :
    (p.after (calls.map fun c => (.onward c.1, c.2))).Kept
      (log ++ p.log (calls.map fun c => (.onward c.1, c.2))) := by
  induction calls generalizing p log with
  | nil => simpa using h
  | cons c calls ih =>
      have hnext := ih (h.push c.1 c.2)
      simpa [answer] using hnext

theorem showing_kept (p : Performance) (player : String) (initiator : Option String) (s : Scene)
    (calls : List (Onward × Scene)) :
    (p.after (showing player initiator s calls)).Kept
      (p.log (showing player initiator s calls)) := by
  have hnone : deeds {} ([] : List Note) = [] := rfl
  exact (p.start_kept player initiator s hnone).after calls

theorem trace_becomes {p : Performance} {calls : List (Call × Scene)} {s : Scene} {t : Turn}
    (h : (s, t) ∈ p.trace calls) : s.Becomes t.notes t.scene := by
  induction calls generalizing p with
  | nil => simp [trace] at h
  | cons c calls ih =>
      rcases List.mem_cons.1 h with h | h
      · obtain ⟨rfl, rfl⟩ := Prod.mk.inj h
        exact p.answer_becomes c.1 c.2
      · exact ih h

/-- **Every deed is done once.** Over a start and any calls that take the performance further, the
deeds that were written into the script and have been done are those of the events below the cursor,
each once and in order.  The others are choices, at most one for a message and among its options.
And a turn does to flags, money and cast what its notes tell, and nothing else. -/
theorem deeds_done_once (p : Performance) (player : String) (initiator : Option String) (s : Scene)
    (calls : List (Onward × Scene)) :
    (deeds {} (p.log (showing player initiator s calls))).filter (·.2.isAuthored) =
        p.script.deeds 0 (p.after (showing player initiator s calls)).cursor ∧
      (deeds {} (p.log (showing player initiator s calls))).Pairwise (·.1 < ·.1) ∧
      (∀ i option, (i, .choose option) ∈ deeds {} (p.log (showing player initiator s calls)) →
        i < (p.after (showing player initiator s calls)).cursor ∧
          ∃ m, p.script.events[i]? = some (.message m) ∧ option ∈ m.choices) ∧
      ∀ st ∈ p.trace (showing player initiator s calls), st.1.Becomes st.2.notes st.2.scene := by
  have htally := (p.showing_kept player initiator s calls).tally
  rw [after_script] at htally
  refine ⟨htally.authored, htally.ordered, ?_, fun st hst => trace_becomes hst⟩
  intro i option hmem
  exact ⟨htally.below _ hmem, htally.own i option hmem⟩

end Performance

end Cutscene
