import Cutscene.Proofs.Performance.Stretch
/-!
# Performances are consistent

The status of a performance, its cursor and what it waits for are set by four calls and kept in step
by all of them.  `Matches` is the table of what a status says about the rest, `Consistent` the
invariant, and `after_consistent` says that it holds after every sequence of calls, each of them
made on a scene that need not have anything to do with the scene that the call before it left.
-/

namespace Cutscene

open Journal (Note)

namespace Performance

/-! ## Sequences of calls -/

/-- The calls that take a performance further. -/
inductive Onward where
  | proceed
  | resume (cue : Cue)
  deriving DecidableEq, Repr

/-- The calls of a performance. -/
inductive Call where
  | start (player : String) (initiator : Option String)
  | onward (c : Onward)
  | reset
  deriving DecidableEq, Repr

/-- The turn of a call that takes the performance further. -/
def push (p : Performance) (c : Onward) (s : Scene) : Turn :=
  match c with
  | .proceed => p.proceed s
  | .resume cue => p.resume cue s

/-- The turn of a call. -/
def answer (p : Performance) (c : Call) (s : Scene) : Turn :=
  match c with
  | .start player initiator => p.start player initiator s
  | .onward c => p.push c s
  | .reset => p.reset s

/-- The performance after a list of calls, each with the scene that it is made on. -/
def after (p : Performance) (calls : List (Call × Scene)) : Performance :=
  calls.foldl (fun p c => (p.answer c.1 c.2).performance) p

/-- A performance of a script that has not begun. -/
def fresh (script : Script) (journal : Journal.Filter) (ticket : Ticket) : Performance :=
  { script, journal, nextTicket := ticket }

@[simp] theorem after_nil (p : Performance) : p.after [] = p := rfl

@[simp] theorem after_cons (p : Performance) (c : Call × Scene) (calls : List (Call × Scene)) :
    p.after (c :: calls) = (p.answer c.1 c.2).performance.after calls := rfl

/-! ## The invariant -/

/-- What a status says about the rest of a performance: what is pending, and where the cursor is. -/
def Matches (p : Performance) : Status → Prop
  | .idle => p.cursor = 0 ∧ p.menu? = none ∧ p.awaitedTicket? = none ∧ p.chosen = .empty
  | .paused .confirm =>
    (∃ m, p.current? = some (.message m) ∧ m.choices = []) ∧
      p.menu? = none ∧ p.awaitedTicket? = none
  | .paused .choice =>
    (∃ m, p.current? = some (.message m) ∧ m.choices ≠ [] ∧ p.menu? = some ⟨m.choices, none⟩) ∧
      p.awaitedTicket? = none
  | .paused (.walk actor) =>
    (∃ w b, p.current? = some (.walk w) ∧ p.binding = some b ∧
        actor = w.actor.getD (b.initiator.getD b.player)) ∧
      (∃ ticket, p.awaitedTicket? = some ticket ∧ ticket + 1 = p.nextTicket) ∧ p.menu? = none
  | .finished => p.cursor = p.script.length ∧ p.menu? = none ∧ p.awaitedTicket? = none

/-- The cursor stays within the script, only an idle performance is bound to no player, and the rest
is as the status says. -/
structure Consistent (p : Performance) : Prop where
  cursor_le : p.cursor ≤ p.script.length
  idle_iff : p.status = .idle ↔ p.binding = none
  status_matches : p.Matches p.status

theorem fresh_consistent (script : Script) (journal : Journal.Filter) (ticket : Ticket) :
    (fresh script journal ticket).Consistent where
  cursor_le := Nat.zero_le _
  idle_iff := by simp [fresh]
  status_matches := ⟨rfl, rfl, rfl, rfl⟩

theorem current?_of_waiting {p : Performance} (h : p.Consistent) {waitsFor : Suspension}
    (hstatus : p.status = .paused waitsFor) : ∃ e, p.current? = some e := by
  have hmatches := h.status_matches
  rw [hstatus] at hmatches
  cases waitsFor with
  | confirm => exact ⟨_, hmatches.1.choose_spec.1⟩
  | choice => exact ⟨_, hmatches.1.choose_spec.1⟩
  | walk actor => exact ⟨_, hmatches.1.choose_spec.choose_spec.1⟩

/-- Wherever a stretch from a performance with nothing pending ends, the performance is
consistent. -/
theorem Ending.consistent {b : Binding} {p p' : Performance} {c c' : Cast}
    (h : Ending b p.cleared c p' c') (hb : p.binding = some b)
    (hle : p.cursor ≤ p.script.length) : p'.Consistent := by
  have hb' : p.cleared.binding = some b := hb
  cases h with
  | atEnd => exact ⟨by simp [cleared, hle], by simp [hb'], by simp [cleared, hle], rfl, rfl⟩
  | @message n m _ hevent hchoices =>
      have hlt : n < p.script.length := (List.getElem?_eq_some_iff.1 hevent).1
      exact ⟨Nat.le_of_lt hlt, by simp [hb'], ⟨m, hevent, hchoices⟩, rfl, rfl⟩
  | @choice n m _ hevent hchoices =>
      have hlt : n < p.script.length := (List.getElem?_eq_some_iff.1 hevent).1
      exact ⟨Nat.le_of_lt hlt, by simp [hb'], ⟨m, hevent, hchoices, rfl⟩, rfl⟩
  | @walk n w a _ hevent hactor =>
      have hlt : n < p.script.length := (List.getElem?_eq_some_iff.1 hevent).1
      refine ⟨Nat.le_of_lt hlt, by simp [hb'], ⟨w, b, hevent, hb, rfl⟩, ?_, rfl⟩
      exact ⟨p.nextTicket, rfl, rfl⟩

/-! ## Every call keeps it -/

theorem proceed_consistent {p : Performance} (h : p.Consistent) (s : Scene) :
    (p.proceed s).performance.Consistent := by
  cases hb : p.binding with
  | none => simpa [proceed, hb] using h
  | some b => exact (proceed_stretch hb s).ending.consistent hb h.cursor_le

theorem proceed_script (p : Performance) (s : Scene) :
    (p.proceed s).performance.script = p.script := by
  cases hb : p.binding with
  | none => simp [proceed, hb]
  | some b => exact (proceed_stretch hb s).ending.script_eq

theorem binding_of_waiting {p : Performance} (h : p.Consistent) {waitsFor : Suspension}
    (hstatus : p.status = .paused waitsFor) : ∃ b, p.binding = some b := by
  have hbound : p.binding ≠ none := fun hnone => by simp [h.idle_iff.2 hnone] at hstatus
  exact Option.ne_none_iff_exists'.1 hbound

/-- A cue that is taken leads to a stretch from the event behind the cursor. -/
theorem Takes.stretch {p p' : Performance} {s s' : Scene} {cue : Cue} {notes : List Note}
    (htakes : p.Takes s cue p' s' notes) (h : p.Consistent) :
    ∃ b, p.binding = some b ∧ p.cursor < p.script.length ∧
      Stretch b { p' with cursor := p.cursor + 1 }.cleared s' (p'.proceedPast s') := by
  obtain ⟨waitsFor, hstatus, _⟩ := htakes.asked
  obtain ⟨b, hb⟩ := binding_of_waiting h hstatus
  obtain ⟨e, hcurrent⟩ := current?_of_waiting h hstatus
  obtain ⟨_, hcursor, hbinding, _⟩ := htakes.frame
  have hb' : ({ p' with cursor := p'.cursor + 1 } : Performance).binding = some b :=
    hbinding.trans hb
  refine ⟨b, hb, cursor_lt_of_current? hcurrent, ?_⟩
  rw [← hcursor]
  exact proceed_stretch hb' s'

theorem resume_consistent {p : Performance} (h : p.Consistent) (cue : Cue) (s : Scene) :
    (p.resume cue s).performance.Consistent := by
  rcases p.resume_cases cue s with ⟨p', s', notes, htakes, hturn⟩ | ⟨notes, _, hturn, _⟩
  · obtain ⟨b, hb, hlt, hstretch⟩ := htakes.stretch h
    obtain ⟨hscript, _, hbinding, _⟩ := htakes.frame
    rw [hturn]
    refine hstretch.ending.consistent (hbinding.trans hb) ?_
    rw [hscript]
    exact hlt
  · rw [hturn]
    exact h

theorem start_consistent (p : Performance) (player : String) (initiator : Option String)
    (s : Scene) : (p.start player initiator s).performance.Consistent := by
  obtain ⟨t, hstretch, hturn⟩ := p.start_stretch player initiator s
  rw [hturn]
  exact hstretch.ending.consistent rfl (Nat.zero_le _)

theorem reset_consistent (p : Performance) (s : Scene) : (p.reset s).performance.Consistent where
  cursor_le := Nat.zero_le _
  idle_iff := by simp [reset]
  status_matches := ⟨rfl, rfl, rfl, rfl⟩

theorem answer_consistent {p : Performance} (h : p.Consistent) (c : Call) (s : Scene) :
    (p.answer c s).performance.Consistent := by
  cases c with
  | start player initiator => exact p.start_consistent player initiator s
  | onward c =>
      cases c with
      | proceed => exact proceed_consistent h s
      | resume cue => exact resume_consistent h cue s
  | reset => exact p.reset_consistent s

theorem after_consistent {p : Performance} (h : p.Consistent) (calls : List (Call × Scene)) :
    (p.after calls).Consistent := by
  induction calls generalizing p with
  | nil => exact h
  | cons c calls ih => exact ih (answer_consistent h c.1 c.2)

theorem answer_script (p : Performance) (c : Call) (s : Scene) :
    (p.answer c s).performance.script = p.script := by
  cases c with
  | start player initiator =>
      obtain ⟨t, hstretch, hturn⟩ := p.start_stretch player initiator s
      rw [answer, hturn]
      exact hstretch.ending.script_eq
  | onward c =>
      cases c with
      | proceed => exact proceed_script p s
      | resume cue =>
          rcases p.resume_cases cue s with ⟨p', s', notes, htakes, hturn⟩ | ⟨notes, _, hturn, _⟩
          · simp only [answer, push, hturn]
            exact (proceed_script _ s').trans htakes.frame.1
          · simp only [answer, push, hturn]
  | reset => rfl

theorem after_script (p : Performance) (calls : List (Call × Scene)) :
    (p.after calls).script = p.script := by
  induction calls generalizing p with
  | nil => rfl
  | cons c calls ih => exact (ih _).trans (p.answer_script c.1 c.2)

/-! ## What the observers answer -/

theorem awaitsChoice_iff {p : Performance} (h : p.Consistent) :
    p.awaitsChoice = true ↔ p.status = .paused .choice := by
  constructor
  · intro hawaits
    have hmenu : p.menu? ≠ none := by
      intro hnone
      simp [awaitsChoice, hnone] at hawaits
    have hmatches := h.status_matches
    cases hstatus : p.status with
    | idle =>
        rw [hstatus] at hmatches
        exact absurd hmatches.2.1 hmenu
    | paused waitsFor =>
        rw [hstatus] at hmatches
        cases waitsFor with
        | confirm => exact absurd hmatches.2.1 hmenu
        | choice => rfl
        | walk actor => exact absurd hmatches.2.2 hmenu
    | finished =>
        rw [hstatus] at hmatches
        exact absurd hmatches.2.1 hmenu
  · intro hstatus
    have hmatches := h.status_matches
    rw [hstatus] at hmatches
    obtain ⟨⟨m, _, _, hmenu⟩, _⟩ := hmatches
    simp [awaitsChoice, hmenu, Menu.isOpen]

theorem isComplete_iff {p : Performance} (h : p.Consistent) :
    p.isComplete = true ↔ p.status = .finished ∨ p.script.events = [] := by
  have hmatches := h.status_matches
  rw [isComplete, decide_eq_true_iff, ← List.length_eq_zero_iff]
  change p.script.length ≤ p.cursor ↔ _ ∨ p.script.length = 0
  cases hstatus : p.status with
  | idle =>
      rw [hstatus] at hmatches
      simp [hmatches.1]
  | paused waitsFor =>
      obtain ⟨e, hcurrent⟩ := current?_of_waiting h hstatus
      have hlt : p.cursor < p.script.length := cursor_lt_of_current? hcurrent
      simp only [reduceCtorEq, false_or]
      omega
  | finished =>
      rw [hstatus] at hmatches
      simp [hmatches.1]

/-- **Consistency of performances.** After any calls on any scenes a performance still plays its
script and is consistent; so a choice is waited for just when the status says so, and the script is
complete just when the performance has finished it or there is nothing to play. -/
theorem consistent_after_calls (script : Script) (journal : Journal.Filter) (ticket : Ticket)
    (calls : List (Call × Scene)) :
    ((fresh script journal ticket).after calls).script = script ∧
      ((fresh script journal ticket).after calls).Consistent ∧
      (((fresh script journal ticket).after calls).awaitsChoice = true ↔
        ((fresh script journal ticket).after calls).status = .paused .choice) ∧
      (((fresh script journal ticket).after calls).isComplete = true ↔
        ((fresh script journal ticket).after calls).status = .finished ∨ script.events = []) := by
  have hconsistent := after_consistent (fresh_consistent script journal ticket) calls
  have hscript : ((fresh script journal ticket).after calls).script = script :=
    after_script _ calls
  refine ⟨hscript, hconsistent, awaitsChoice_iff hconsistent, ?_⟩
  rw [isComplete_iff hconsistent, hscript]

end Performance

end Cutscene
