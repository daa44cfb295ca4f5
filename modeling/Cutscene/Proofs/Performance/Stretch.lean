import Cutscene.Performance
/-!
# Stretches of events

A call plays a stretch of a script: events that need nothing from outside, and behind them one that
the performance waits at, unless the script is over.  `Passes` and `Halts` are the rules for single
events, `Stretch` chains them, and `run_stretch` says that the player of events follows these rules.
Whatever holds of all stretches is proved by induction on `Stretch`; `Stretch.ending` is the summary
that most invariants need.  `Takes` says which cues let a performance go on to its next stretch.
-/

namespace Cutscene

open Journal (Note)

/-! ## Single events -/

/-- The cast once the speaker of a message has turned. -/
def Cast.turnSpeaker (c : Cast) (b : Binding) (facing : Facing) : Cast :=
  match b.initiator.bind fun speaker => (c.get? speaker).map (speaker, ·) with
  | none => c
  | some (speaker, actor) =>
    c.face speaker (facing.resolve actor.position actor.direction
      ((c.get? b.player).map (·.position)))

namespace Scene

/-- The scene with a message on its screen, and the notes of how its speaker turned. -/
def present (s : Scene) (b : Binding) (m : Message) : Scene × List Note :=
  { s with screen := s.screen.showText m.text }.turnSpeaker b m.facing

/-- The events that need nothing from outside, with the scene and the notes that they lead to. -/
inductive Passes (s : Scene) (b : Binding) (index : Nat) : Event → Scene → List Note → Prop where
  | withheld {m : Message} : s.store.containsAll m.required = false →
      Passes s b index (.message m) s [.withheld index m.required]
  | walkerMissing {w : Walk} : s.cast.get? (b.walker w.actor) = none →
      Passes s b index (.walk w) { s with screen := s.screen.hideText }
        [.walkerMissing ⟨b.walker w.actor⟩ index]
  | addFlag (key value : String) :
      Passes s b index (.addFlag key value) { s with store := s.store.set key value }
        [.flagSet key value]
  | removeFlag (key : String) :
      Passes s b index (.removeFlag key) { s with store := s.store.erase key } [.flagRemoved key]
  | transaction (amount : Float) :
      Passes s b index (.transaction amount)
        { s with
          wallet := s.wallet.apply amount
          screen := s.screen.showBalance (s.wallet.apply amount).balance }
        [.paid amount (s.wallet.apply amount).balance]

/-- The events that a performance waits at, with the pause that it makes. -/
inductive Halts (s : Scene) (b : Binding) (ticket : Ticket) :
    Event → Pause → Scene → List Note → Prop where
  | message {m : Message} : s.store.containsAll m.required = true → m.choices = [] →
      Halts s b ticket (.message m) .message (s.present b m).1 (s.present b m).2
  | choice {m : Message} : s.store.containsAll m.required = true → m.choices ≠ [] →
      Halts s b ticket (.message m) (.choice ⟨m.choices, none⟩)
        { (s.present b m).1 with screen := (s.present b m).1.screen.showChoices m.choices }
        (s.present b m).2
  | walk {w : Walk} {a : Actor} : s.cast.get? (b.walker w.actor) = some a →
      Halts s b ticket (.walk w) (.walk (b.walker w.actor) ticket)
        { s with
          screen := s.screen.hideText
          cast := s.cast.walk (b.walker w.actor) w.tiles w.direction ticket }
        [.sent (b.walker w.actor) w.tiles w.direction ticket]

theorem turnSpeaker_cast (s : Scene) (b : Binding) (facing : Facing) :
    (s.turnSpeaker b facing).1.cast = s.cast.turnSpeaker b facing := by
  unfold turnSpeaker Cast.turnSpeaker
  cases b.initiator with
  | none => rfl
  | some speaker =>
      cases hactor : s.cast.get? speaker with
      | none => simp [hactor]
      | some actor => simp [hactor]

@[simp] theorem present_cast (s : Scene) (b : Binding) (m : Message) :
    (s.present b m).1.cast = s.cast.turnSpeaker b m.facing := by
  simp [present, turnSpeaker_cast]

/-- Playing an event follows one of the two sets of rules. -/
theorem play_cases (s : Scene) (b : Binding) (index : Nat) (ticket : Ticket) (e : Event) :
    (∃ s' notes, s.Passes b index e s' notes ∧
      s.play b index ticket e = ⟨.advance, s', notes⟩) ∨
    (∃ pause s' notes, s.Halts b ticket e pause s' notes ∧
      s.play b index ticket e = ⟨.suspend pause, s', notes⟩) := by
  cases e with
  | message m =>
      simp only [play, playMessage]
      split
      · rename_i hflags
        by_cases hchoices : m.choices = []
        · exact .inr ⟨_, _, _, .message hflags hchoices, by simp [hchoices, present]⟩
        · exact .inr ⟨_, _, _, .choice hflags hchoices,
            by simp [hchoices, present, Screen.openMenu]⟩
      · rename_i hflags
        exact .inl ⟨_, _, .withheld (by simpa using hflags), rfl⟩
  | walk w =>
      simp only [play, playWalk, Cast.require]
      cases hactor : s.cast.get? (b.walker w.actor) with
      | none => exact .inl ⟨_, _, .walkerMissing hactor, rfl⟩
      | some a => exact .inr ⟨_, _, _, .walk hactor, rfl⟩
  | addFlag key value => exact .inl ⟨_, _, .addFlag key value, rfl⟩
  | removeFlag key => exact .inl ⟨_, _, .removeFlag key, rfl⟩
  | transaction amount => exact .inl ⟨_, _, .transaction amount, rfl⟩

theorem Passes.cast_eq {s s' : Scene} {b : Binding} {index : Nat} {e : Event} {notes : List Note}
    (h : s.Passes b index e s' notes) : s'.cast = s.cast := by
  cases h <;> rfl

end Scene

/-- Whether a cue is of the kind that is waited for. -/
def Suspension.asksFor : Suspension → Cue → Bool
  | confirm, .confirm | choice, .choose _ | walk _, .arrive _ => true
  | _, _ => false

/-! ## Stretches -/

namespace Performance

theorem current?_eq_none_iff {p : Performance} :
    p.current? = none ↔ p.script.length ≤ p.cursor := by
  simp [current?, Script.length]

theorem cursor_lt_of_current? {p : Performance} {e : Event} (h : p.current? = some e) :
    p.cursor < p.script.length :=
  (List.getElem?_eq_some_iff.1 h).1

@[simp] theorem suspend_cursor (p : Performance) (pause : Pause) :
    (p.suspend pause).cursor = p.cursor := by
  cases pause <;> rfl

/-- The turns of playing from the cursor on. -/
inductive Stretch (b : Binding) : Performance → Scene → Turn → Prop where
  | atEnd {p : Performance} {s : Scene} : p.current? = none → Stretch b p s (p.finish s)
  | pass {p : Performance} {s s' : Scene} {e : Event} {notes : List Note} {t : Turn} :
      p.current? = some e → s.Passes b p.cursor e s' notes →
      Stretch b { p with cursor := p.cursor + 1 } s' t →
      Stretch b p s (t.after (.reached p.cursor e :: notes))
  | halt {p : Performance} {s s' : Scene} {e : Event} {pause : Pause} {notes : List Note} :
      p.current? = some e → s.Halts b p.nextTicket e pause s' notes →
      Stretch b p s
        ⟨p.suspend pause, s', .reached p.cursor e :: notes ++ [.paused p.cursor pause.waitsFor]⟩

theorem run_stretch (b : Binding) (p : Performance) (s : Scene) :
    Stretch b p s (run b p s (p.script.events.drop p.cursor)) := by
  -- the player is given the events from the cursor on, and goes down this list
  generalize hevents : p.script.events.drop p.cursor = events
  induction events generalizing p s with
  | nil =>
      exact .atEnd (current?_eq_none_iff.2 (List.drop_eq_nil_iff.1 hevents))
  | cons e rest ih =>
      have hcurrent : p.current? = some e := by
        rw [current?, ← List.head?_drop, hevents, List.head?_cons]
      have hrest : p.script.events.drop (p.cursor + 1) = rest := by
        rw [← List.tail_drop, hevents, List.tail_cons]
      rcases s.play_cases b p.cursor p.nextTicket e with
        ⟨s', notes, hpass, hplay⟩ | ⟨pause, s', notes, hhalt, hplay⟩
      · simp only [run, hplay]
        exact .pass hcurrent hpass (ih { p with cursor := p.cursor + 1 } s' hrest)
      · simp only [run, hplay]
        exact .halt hcurrent hhalt

theorem proceed_stretch {p : Performance} {b : Binding} (hb : p.binding = some b) (s : Scene) :
    Stretch b p.cleared s (p.proceed s) := by
  simp only [proceed, hb]
  exact run_stretch b p.cleared s

/-- The performance bound to a player, in front of its first event. -/
def rewound (p : Performance) (player : String) (initiator : Option String) : Performance :=
  { p with cursor := 0, binding := some ⟨player, initiator⟩, chosen := .empty }

theorem start_stretch (p : Performance) (player : String) (initiator : Option String) (s : Scene) :
    ∃ t, Stretch ⟨player, initiator⟩ (p.rewound player initiator).cleared (p.purge s).scene t ∧
      p.start player initiator s =
        t.after ((p.purge s).notes ++ [.started player initiator p.script.length]) :=
  ⟨_, proceed_stretch (p := p.rewound player initiator) rfl _, rfl⟩

/-- What a stretch leaves of the performance and the cast that it began with. -/
inductive Ending (b : Binding) (p : Performance) (c : Cast) : Performance → Cast → Prop where
  | atEnd : Ending b p c { p with cursor := max p.cursor p.script.length, status := .finished } c
  | message {n : Nat} {m : Message} : p.cursor ≤ n → p.script.events[n]? = some (.message m) →
      m.choices = [] →
      Ending b p c { p with cursor := n, status := .paused .confirm } (c.turnSpeaker b m.facing)
  | choice {n : Nat} {m : Message} : p.cursor ≤ n → p.script.events[n]? = some (.message m) →
      m.choices ≠ [] →
      Ending b p c
        { p with cursor := n, status := .paused .choice, menu? := some ⟨m.choices, none⟩ }
        (c.turnSpeaker b m.facing)
  | walk {n : Nat} {w : Walk} {a : Actor} : p.cursor ≤ n →
      p.script.events[n]? = some (.walk w) → c.get? (b.walker w.actor) = some a →
      Ending b p c
        { p with
          cursor := n
          status := .paused (.walk (b.walker w.actor))
          awaitedTicket? := some p.nextTicket
          nextTicket := p.nextTicket + 1 }
        (c.walk (b.walker w.actor) w.tiles w.direction p.nextTicket)

theorem Ending.script_eq {b : Binding} {p p' : Performance} {c c' : Cast}
    (h : Ending b p c p' c') : p'.script = p.script := by
  cases h <;> rfl

theorem Ending.binding_eq {b : Binding} {p p' : Performance} {c c' : Cast}
    (h : Ending b p c p' c') : p'.binding = p.binding := by
  cases h <;> rfl

theorem Ending.cursor_le {b : Binding} {p p' : Performance} {c c' : Cast}
    (h : Ending b p c p' c') : p.cursor ≤ p'.cursor := by
  cases h with
  | atEnd => exact Nat.le_max_left _ _
  | message hle => exact hle
  | choice hle => exact hle
  | walk hle => exact hle

/-- An ending reached from the event behind the cursor. -/
theorem Ending.of_succ {b : Binding} {p p' : Performance} {c c' : Cast} {e : Event}
    (hcurrent : p.current? = some e)
    (h : Ending b { p with cursor := p.cursor + 1 } c p' c') : Ending b p c p' c' := by
  cases h with
  | atEnd =>
      have hlt : p.cursor < p.script.length := cursor_lt_of_current? hcurrent
      have hmax : max (p.cursor + 1) p.script.length = max p.cursor p.script.length := by omega
      simp only [hmax]
      exact .atEnd
  | message hle hevent hchoices => exact .message (Nat.le_of_succ_le hle) hevent hchoices
  | choice hle hevent hchoices => exact .choice (Nat.le_of_succ_le hle) hevent hchoices
  | walk hle hevent hactor => exact .walk (Nat.le_of_succ_le hle) hevent hactor

theorem Stretch.ending {b : Binding} {p : Performance} {s : Scene} {t : Turn}
    (h : Stretch b p s t) : Ending b p s.cast t.performance t.scene.cast := by
  induction h with
  | @atEnd p s hnone =>
      have hle : p.script.length ≤ p.cursor := current?_eq_none_iff.1 hnone
      have hend : Ending b p s.cast _ _ := .atEnd
      rwa [Nat.max_eq_left hle] at hend
  | pass hcurrent hpass _ ih =>
      -- an event that is passed moves nobody
      rw [hpass.cast_eq] at ih
      exact ih.of_succ hcurrent
  | halt hcurrent hhalt =>
      cases hhalt with
      | @message m _ hchoices =>
          simp only [Scene.present_cast]
          exact .message (Nat.le_refl _) hcurrent hchoices
      | choice _ hchoices =>
          simp only [Scene.present_cast]
          exact .choice (Nat.le_refl _) hcurrent hchoices
      | walk hactor => exact .walk (Nat.le_refl _) hcurrent hactor

/-! ## Cues -/

/-- The cues that a performance goes on with, and what changes before it plays on. -/
inductive Takes (p : Performance) (s : Scene) :
    Cue → Performance → Scene → List Note → Prop where
  | confirm : p.status = .paused .confirm → Takes p s .confirm p s []
  | choose {menu : Menu} {index : Nat} {option : Choice} : p.status = .paused .choice →
      p.menu? = some menu → menu.isOpen = true → menu.options[index]? = some option →
      Takes p s (.choose index)
        { p with chosen := p.chosen.insert option.flag (), menu? := none }
        { s with
          screen := s.screen.hideChoices
          store := s.store.set option.flag chosenValue }
        [.picked option]
  | arrive {actor : String} {ticket : Ticket} : p.status = .paused (.walk actor) →
      p.awaitedTicket? = some ticket →
      Takes p s (.arrive ticket) { p with awaitedTicket? := none } s [.arrived actor]

/-- A cue that is taken leaves the cursor where it is, and the cast alone. -/
theorem Takes.frame {p p' : Performance} {s s' : Scene} {cue : Cue} {notes : List Note}
    (h : p.Takes s cue p' s' notes) :
    p'.script = p.script ∧ p'.cursor = p.cursor ∧ p'.binding = p.binding ∧
      p'.nextTicket = p.nextTicket ∧ s'.cast = s.cast := by
  cases h <;> exact ⟨rfl, rfl, rfl, rfl, rfl⟩

theorem Takes.asked {p p' : Performance} {s s' : Scene} {cue : Cue} {notes : List Note}
    (h : p.Takes s cue p' s' notes) :
    ∃ waitsFor, p.status = .paused waitsFor ∧ waitsFor.asksFor cue = true := by
  cases h with
  | confirm hstatus => exact ⟨_, hstatus, rfl⟩
  | choose hstatus => exact ⟨_, hstatus, rfl⟩
  | arrive hstatus => exact ⟨_, hstatus, rfl⟩

/-- The notes of cues that a performance ignores. -/
inductive Ignores (p : Performance) : Cue → List Note → Prop where
  | unasked (cue : Cue) : Ignores p cue [.ignored cue p.status.suspension?]
  | menuless (index : Nat) : Ignores p (.choose index) []
  | pick (index : Nat) : Ignores p (.choose index) [.pickIgnored index p.cursor]
  | stray (ticket : Ticket) : Ignores p (.arrive ticket) [.strayTicket ticket p.awaitedTicket?]

/-- That a cue is taken. -/
def IsTaken (p : Performance) (cue : Cue) (s : Scene) : Prop :=
  ∃ p' s' notes, p.Takes s cue p' s' notes ∧ p.resume cue s = (p'.proceedPast s').after notes

/-- That a cue is ignored. -/
def IsIgnored (p : Performance) (cue : Cue) (s : Scene) : Prop :=
  ∃ notes, p.Ignores cue notes ∧ p.resume cue s = ⟨p, s, notes⟩ ∧
    ∀ p' s' notes, ¬ p.Takes s cue p' s' notes

theorem choose_cases {p : Performance} (hstatus : p.status = .paused .choice) (index : Nat)
    (s : Scene) : p.IsTaken (.choose index) s ∨ p.IsIgnored (.choose index) s := by
  have hresume : p.resume (.choose index) s = p.choose index s := by
    simp [resume, hstatus, Status.suspension?]
  cases hmenu : p.menu? with
  | none =>
      refine .inr ⟨_, .menuless index, by simp [hresume, choose, hmenu], ?_⟩
      intro p' s' notes h
      cases h with
      | choose _ hsome => simp [hmenu] at hsome
  | some menu =>
      have hmissed (hnone : menu.isOpen = true → menu.options[index]? = none)
          (hpick : s.screen.pick menu index = (s.screen, menu, none)) :
          p.IsIgnored (.choose index) s := by
        have hsame : ({ p with menu? := some menu } : Performance) = p := by rw [← hmenu]
        refine ⟨_, .pick index, by simp [hresume, choose, hmenu, hpick, hsame], ?_⟩
        intro p' s' notes h
        cases h with
        | choose _ hsome hopen hoption =>
            obtain rfl := Option.some.inj (hmenu.symm.trans hsome)
            simp [hnone hopen] at hoption
      by_cases hopen : menu.isOpen = true
      · cases hoption : menu.options[index]? with
        | none =>
            exact .inr (hmissed (fun _ => hoption)
              (by simp [Screen.pick, Menu.pick, hopen, hoption]))
        | some option =>
            refine .inl ⟨_, _, _, .choose hstatus hmenu hopen hoption, ?_⟩
            simp [hresume, choose, hmenu, Screen.pick, Menu.pick, hopen, hoption]
      · exact .inr (hmissed (fun h => absurd h hopen) (by simp [Screen.pick, Menu.pick, hopen]))

theorem arrive_cases {p : Performance} {actor : String} (hstatus : p.status = .paused (.walk actor))
    (ticket : Ticket) (s : Scene) :
    p.IsTaken (.arrive ticket) s ∨ p.IsIgnored (.arrive ticket) s := by
  have hresume : p.resume (.arrive ticket) s = p.arrive actor ticket s := by
    simp [resume, hstatus, Status.suspension?]
  by_cases hticket : p.awaitedTicket? = some ticket
  · exact .inl ⟨_, _, _, .arrive hstatus hticket, by simp [hresume, arrive, hticket]⟩
  · refine .inr ⟨_, .stray ticket, by simp [hresume, arrive, hticket], ?_⟩
    intro p' s' notes h
    cases h with
    | arrive _ hsome => exact hticket hsome

theorem resume_unasked {p : Performance} {cue : Cue}
    (h : ¬ ∃ waitsFor, p.status = .paused waitsFor ∧ waitsFor.asksFor cue = true) (s : Scene) :
    p.resume cue s = ⟨p, s, [.ignored cue p.status.suspension?]⟩ := by
  unfold resume
  cases hstatus : p.status with
  | idle => rfl
  | finished => rfl
  | paused waitsFor =>
      have hasks : waitsFor.asksFor cue = false := by
        simpa [hstatus] using h
      cases waitsFor <;> cases cue <;> first | rfl | simp [Suspension.asksFor] at hasks

/-- A cue is taken, or it is ignored and nothing changes. -/
theorem resume_cases (p : Performance) (cue : Cue) (s : Scene) :
    p.IsTaken cue s ∨ p.IsIgnored cue s := by
  by_cases hasked : ∃ waitsFor, p.status = .paused waitsFor ∧ waitsFor.asksFor cue = true
  · obtain ⟨waitsFor, hstatus, hasks⟩ := hasked
    cases cue with
    | confirm =>
        obtain rfl : waitsFor = .confirm := by cases waitsFor <;> simp_all [Suspension.asksFor]
        refine .inl ⟨p, s, [], .confirm hstatus, ?_⟩
        simp [resume, hstatus, Status.suspension?, Turn.after]
    | choose index =>
        obtain rfl : waitsFor = .choice := by cases waitsFor <;> simp_all [Suspension.asksFor]
        exact choose_cases hstatus index s
    | arrive ticket =>
        obtain ⟨actor, rfl⟩ : ∃ actor, waitsFor = .walk actor := by
          cases waitsFor <;> simp_all [Suspension.asksFor]
        exact arrive_cases hstatus ticket s
  · refine .inr ⟨_, .unasked cue, resume_unasked hasked s, ?_⟩
    intro p' s' notes h
    exact hasked h.asked

end Performance

end Cutscene
