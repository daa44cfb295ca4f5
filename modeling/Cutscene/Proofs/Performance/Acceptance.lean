import Cutscene.Proofs.Performance.Deeds
import Cutscene.Proofs.Session.Errands
/-!
# Cues are accepted or change nothing

Which cue a performance accepts is told from its status, from the event under its cursor and from
the notes of its calls, the last of which about a walk is that of the walk that is waited for
(`Issued`).  Such a cue takes the performance past the event (`GoesOn`), and any other one
leaves everything as it was.  So no showing accepts more cues than its script has events.
-/

namespace Cutscene

open Journal (Note Errand behind errands)

/-- The options of an event. -/
def Event.choices : Event → List Choice
  | message m => m.choices
  | _ => []

namespace Performance

/-! ## The walk that is waited for -/

/-- The walk that is waited for is the last one that the notes tell of. -/
structure Issued (p : Performance) (log : List Note) : Prop where
  token_eq : (behind {} log).token = 0
  last : ∀ errand, p.errand? 0 = some errand → (errands {} log).getLast? = some errand

variable {p : Performance} {log notes : List Note}

theorem fresh_issued (script : Script) (journal : Journal.Filter) (ticket : Ticket) :
    (fresh script journal ticket).Issued [] :=
  ⟨rfl, nofun⟩

theorem errand?_of_walk {actor : String} {ticket : Ticket}
    (hstatus : p.status = .paused (.walk actor)) (hticket : p.awaitedTicket? = some ticket) :
    p.errand? 0 = some ⟨0, p.cursor, actor, ticket⟩ := by
  rw [errand?, awaits?_eq_some_iff.2 ⟨hstatus, hticket⟩]
  rfl

theorem Issued.plain (h : p.Issued log) (hplain : ∀ n ∈ notes, n.isPlain = true) :
    p.Issued (log ++ notes) where
  token_eq := by rw [Journal.behind_append, Journal.behind_plain hplain, h.token_eq]
  last errand herrand := by
    rw [Journal.errands_append, Journal.errands_plain hplain, List.append_nil]
    exact h.last errand herrand

/-- Behind a stretch the walk that is waited for has just been noted. -/
theorem Stretch.issued {b : Binding} {s : Scene} {t : Turn} (h : Stretch b p s t)
    (htoken : (behind {} log).token = 0) : t.performance.Issued (log ++ t.notes) where
  token_eq := by rw [Journal.behind_append, (h.behind_eq _).1, htoken]
  last errand herrand := by
    rw [Journal.errands_append, h.errands_eq, htoken, herrand]
    exact List.getLast?_concat

theorem proceed_issued (h : p.Issued log) (s : Scene) :
    (p.proceed s).performance.Issued (log ++ (p.proceed s).notes) := by
  cases hb : p.binding with
  | none => simpa [proceed, hb] using h
  | some b => exact (proceed_stretch hb s).issued h.token_eq

theorem resume_issued (h : p.Issued log) (hp : p.Consistent) (cue : Cue) (s : Scene) :
    (p.resume cue s).performance.Issued (log ++ (p.resume cue s).notes) := by
  rcases p.resume_cases cue s with ⟨p', s', notes, htakes, hturn⟩ | ⟨notes, hignores, hturn, _⟩
  · obtain ⟨b, _, _, hstretch⟩ := htakes.stretch hp
    have htoken := (h.plain htakes.plain).token_eq
    rw [hturn, Turn.after, ← List.append_assoc]
    exact hstretch.issued htoken
  · rw [hturn]
    exact h.plain (Journal.plain_of_asides hignores.remarks.asides)

theorem start_issued (h : p.Issued log) (player : String) (initiator : Option String) (s : Scene) :
    (p.start player initiator s).performance.Issued
      (log ++ (p.start player initiator s).notes) := by
  obtain ⟨t, hstretch, hturn⟩ := p.start_stretch player initiator s
  have hplain := Journal.plain_of_asides (p.start_asides player initiator s)
  have htoken := (h.plain hplain).token_eq
  rw [hturn, Turn.after, ← List.append_assoc]
  exact hstretch.issued htoken

theorem reset_issued (h : p.Issued log) (s : Scene) :
    (p.reset s).performance.Issued (log ++ (p.reset s).notes) where
  token_eq := (h.plain (Journal.plain_of_asides (p.purge_asides s))).token_eq
  last := nofun

theorem answer_issued (h : p.Issued log) (hp : p.Consistent) (c : Call) (s : Scene) :
    (p.answer c s).performance.Issued (log ++ (p.answer c s).notes) := by
  cases c with
  | start player initiator => exact start_issued h player initiator s
  | onward c =>
      cases c with
      | proceed => exact proceed_issued h s
      | resume cue => exact resume_issued h hp cue s
  | reset => exact reset_issued h s

theorem after_issued (h : p.Issued log) (hp : p.Consistent) (calls : List (Call × Scene)) :
    (p.after calls).Issued (log ++ p.log calls) := by
  induction calls generalizing p log with
  | nil => simpa using h
  | cons c calls ih =>
      have hnext := ih (answer_issued h hp c.1 c.2) (answer_consistent hp c.1 c.2)
      rwa [List.append_assoc] at hnext

/-! ## Accepting a cue -/

/-- The cues that answer what a performance waits for, when its calls have left these notes; a
performance by itself belongs to no interaction, which the notes are read with the token 0 for. -/
inductive Accepts (p : Performance) (log : List Note) : Cue → Prop where
  | confirm : p.status = .paused .confirm → Accepts p log .confirm
  | choose {m : Message} {index : Nat} : p.status = .paused .choice →
      p.current? = some (.message m) → index < m.choices.length → Accepts p log (.choose index)
  | arrive {actor : String} {ticket : Ticket} : p.status = .paused (.walk actor) →
      (errands {} log).getLast? = some ⟨0, p.cursor, actor, ticket⟩ →
      Accepts p log (.arrive ticket)

/-- The option of the message under the cursor that a cue picks. -/
def picks? (p : Performance) : Cue → Option Choice
  | .choose index => p.current?.bind fun e => e.choices[index]?
  | _ => none

/-- The flags once the option that a cue picks is noted. -/
def storeBehind (p : Performance) (cue : Cue) (store : Store) : Store :=
  (p.picks? cue).elim store fun option => store.set option.flag "true"

/-- A cue takes a performance past the event under its cursor; the option that it picks is noted
before anything else is played. -/
structure GoesOn (p : Performance) (cue : Cue) (s : Scene) : Prop where
  moves : p.cursor < (p.resume cue s).performance.cursor
  plays : ∃ (p' : Performance) (screen : Screen) (notes : List Note), p'.cursor = p.cursor ∧
    p.resume cue s =
      (p'.proceedPast { s with screen, store := p.storeBehind cue s.store }).after notes

theorem menu_of_choice (hp : p.Consistent) (hstatus : p.status = .paused .choice) {m : Message}
    (hcurrent : p.current? = some (.message m)) : p.menu? = some ⟨m.choices, none⟩ := by
  have hmatches := hp.status_matches
  rw [hstatus] at hmatches
  obtain ⟨⟨m', hcurrent', _, hmenu⟩, _⟩ := hmatches
  obtain rfl := Event.message.inj (Option.some.inj (hcurrent.symm.trans hcurrent'))
  exact hmenu

theorem Accepts.takes {cue : Cue} (h : p.Accepts log cue) (hp : p.Consistent)
    (hissued : p.Issued log) (s : Scene) : ∃ p' s' notes, p.Takes s cue p' s' notes := by
  cases h with
  | confirm hstatus => exact ⟨p, s, [], .confirm hstatus⟩
  | choose hstatus hcurrent hlt =>
      have hmenu := menu_of_choice hp hstatus hcurrent
      exact ⟨_, _, _, .choose hstatus hmenu rfl (List.getElem?_eq_getElem hlt)⟩
  | arrive hstatus hlast =>
      have hmatches := hp.status_matches
      rw [hstatus] at hmatches
      obtain ⟨_, ⟨awaited, hawaited, _⟩, _⟩ := hmatches
      -- the ticket that is waited for is the one that was noted last
      have hnoted := hissued.last _ (errand?_of_walk hstatus hawaited)
      obtain rfl : awaited = _ :=
        congrArg Errand.ticket (Option.some.inj (hnoted.symm.trans hlast))
      exact ⟨_, _, _, .arrive hstatus hawaited⟩

theorem Takes.accepts {cue : Cue} {p' : Performance} {s s' : Scene}
    (h : p.Takes s cue p' s' notes) (hp : p.Consistent) (hissued : p.Issued log) :
    p.Accepts log cue := by
  have hmatches := hp.status_matches
  cases h with
  | confirm hstatus => exact .confirm hstatus
  | choose hstatus hmenu _ hoption =>
      rw [hstatus] at hmatches
      obtain ⟨⟨m, hcurrent, _, hown⟩, _⟩ := hmatches
      obtain rfl := Option.some.inj (hmenu.symm.trans hown)
      exact .choose hstatus hcurrent (List.getElem?_eq_some_iff.1 hoption).1
  | arrive hstatus hticket =>
      exact .arrive hstatus (hissued.last _ (errand?_of_walk hstatus hticket))

/-- Taking a cue by itself notes the option that is picked, and clears the choices away. -/
theorem Takes.scene_eq {cue : Cue} {p' : Performance} {s s' : Scene}
    (h : p.Takes s cue p' s' notes) (hp : p.Consistent) :
    s' = { s with screen := s'.screen, store := p.storeBehind cue s.store } := by
  cases h with
  | confirm => rfl
  | @choose menu index option hstatus hmenu _ hoption =>
      have hmatches := hp.status_matches
      rw [hstatus] at hmatches
      obtain ⟨⟨m, hcurrent, _, hown⟩, _⟩ := hmatches
      obtain rfl := Option.some.inj (hmenu.symm.trans hown)
      have hpicks : p.picks? (.choose index) = some option := by
        rw [picks?, hcurrent]
        exact hoption
      rw [storeBehind, hpicks]
      rfl
  | arrive => rfl

theorem Takes.goesOn {cue : Cue} {p' : Performance} {s s' : Scene}
    (h : p.Takes s cue p' s' notes) (hp : p.Consistent)
    (hturn : p.resume cue s = (p'.proceedPast s').after notes) : p.GoesOn cue s where
  moves := by
    obtain ⟨b, _, _, hstretch⟩ := h.stretch hp
    rw [hturn]
    exact hstretch.ending.cursor_le
  plays := by
    refine ⟨p', s'.screen, notes, h.frame.2.1, ?_⟩
    rw [← h.scene_eq hp]
    exact hturn

theorem accepts_or_ignores (hp : p.Consistent) (hissued : p.Issued log) (cue : Cue) (s : Scene) :
    p.Accepts log cue ∧ p.GoesOn cue s ∨
      ¬ p.Accepts log cue ∧ (p.resume cue s).performance = p ∧ (p.resume cue s).scene = s := by
  rcases p.resume_cases cue s with ⟨p', s', notes, htakes, hturn⟩ | ⟨notes, _, hturn, hnot⟩
  · exact .inl ⟨htakes.accepts hp hissued, htakes.goesOn hp hturn⟩
  · refine .inr ⟨fun haccepts => ?_, by rw [hturn], by rw [hturn]⟩
    obtain ⟨p', s', notes, htakes⟩ := haccepts.takes hp hissued s
    exact hnot p' s' notes htakes

/-! ## Counting the cues that are accepted -/

/-- Whether a call feeds in a cue that takes the performance further. -/
def moves (p : Performance) (s : Scene) : Onward → Bool
  | .proceed => false
  | .resume cue => decide (p.cursor < (p.resume cue s).performance.cursor)

/-- The number of cues that take a performance further. -/
def accepted : Performance → List (Onward × Scene) → Nat
  | _, [] => 0
  | p, (c, s) :: calls => (p.moves s c).toNat + accepted (p.push c s).performance calls

theorem proceed_cursor_le (p : Performance) (s : Scene) :
    p.cursor ≤ (p.proceed s).performance.cursor := by
  cases hb : p.binding with
  | none => simp [proceed, hb]
  | some b => exact (proceed_stretch hb s).ending.cursor_le

theorem push_cursor_le (hp : p.Consistent) (c : Onward) (s : Scene) :
    p.cursor + (p.moves s c).toNat ≤ (p.push c s).performance.cursor := by
  cases c with
  | proceed => exact p.proceed_cursor_le s
  | resume cue =>
      cases hmoves : p.moves s (.resume cue) with
      | true => exact of_decide_eq_true hmoves
      | false =>
          rcases p.resume_cases cue s with ⟨_, _, _, htakes, hturn⟩ | ⟨_, _, hturn, _⟩
          · exact Nat.le_of_lt (htakes.goesOn hp hturn).moves
          · rw [push, hturn]
            exact Nat.le_refl _

theorem accepted_le_cursor (hp : p.Consistent) (calls : List (Onward × Scene)) :
    p.cursor + p.accepted calls ≤
      (p.after (calls.map fun c => (.onward c.1, c.2))).cursor := by
  induction calls generalizing p with
  | nil => exact Nat.le_refl _
  | cons c calls ih =>
      have hstep := push_cursor_le hp c.1 c.2
      have hrest := ih (answer_consistent hp (.onward c.1) c.2)
      rw [List.map_cons, after_cons]
      have hsum : p.accepted (c :: calls) =
          (p.moves c.2 c.1).toNat + (p.push c.1 c.2).performance.accepted calls := rfl
      have hnext : (p.answer (.onward c.1) c.2).performance = (p.push c.1 c.2).performance := rfl
      rw [hnext] at hrest ⊢
      omega

/-- Whoever is talked to asks, and walks off. -/
def askAndLeave : Script :=
  ⟨[], [.message { text := "May I go?", choices := [⟨"Yes", "free"⟩] }, .walk ⟨3, .up, none⟩]⟩

/-- Ann may go and is on her way. -/
def annOnHerWay : List (Call × Scene) :=
  [(.start "Ben" (some "Ann"), Story.annAlone.scene),
    (.onward (.resume (.choose 0)), Story.annAlone.scene)]

end Performance

end Cutscene
