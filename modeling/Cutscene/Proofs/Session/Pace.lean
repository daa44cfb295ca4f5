import Cutscene.Proofs.Session.Headway
import Cutscene.Proofs.Session.Typing
/-!
# How fast text appears

A session never looks at how much of a text has appeared, but for the confirm key.  Two scenes are
the same up to pace when they differ in nothing but how fast the text in the box appears and how
much of it has.  What is done to two such scenes leaves the same performance and two such scenes
again, and so do the calls of two sessions whose settings differ in the speed of the text alone
(`Session.paced`), the confirm key while no text is still appearing in either.
-/

namespace Cutscene

/-! ## Screens -/

namespace Screen

/-- Two screens are the same but for how fast the text appears, and how much of it has. -/
structure UpToPace (s t : Screen) : Prop where
  visible : t.box.visible = s.box.visible
  text : t.box.text = s.box.text
  choices : t.choices = s.choices
  balance : t.balance = s.balance
  transcript : t.transcript = s.transcript

namespace UpToPace

variable {s t : Screen}

theorem showText (h : s.UpToPace t) (text : String) :
    (s.showText text).UpToPace (t.showText text) where
  visible := by rw [showText_visible, showText_visible]
  text := by rw [showText_text, showText_text]
  choices := h.choices
  balance := h.balance
  transcript := by rw [showText_transcript, showText_transcript, h.transcript]

theorem hideText (h : s.UpToPace t) : s.hideText.UpToPace t.hideText :=
  ⟨rfl, rfl, h.choices, h.balance, h.transcript⟩

theorem showChoices (h : s.UpToPace t) (options : List Choice) :
    (s.showChoices options).UpToPace (t.showChoices options) :=
  ⟨h.visible, h.text, rfl, h.balance, congrArg (· ++ _) h.transcript⟩

theorem hideChoices (h : s.UpToPace t) : s.hideChoices.UpToPace t.hideChoices :=
  ⟨h.visible, h.text, rfl, h.balance, h.transcript⟩

theorem showBalance (h : s.UpToPace t) (amount : Float) :
    (s.showBalance amount).UpToPace (t.showBalance amount) :=
  ⟨h.visible, h.text, h.choices, rfl, congrArg (· ++ _) h.transcript⟩

theorem tick (h : s.UpToPace t) : s.tick.UpToPace t.tick where
  visible := by
    rw [Screen.tick, Screen.tick, Typewriter.tick_visible, Typewriter.tick_visible, h.visible]
  text := by rw [Screen.tick, Screen.tick, Typewriter.tick_text, Typewriter.tick_text, h.text]
  choices := h.choices
  balance := h.balance
  transcript := h.transcript

end UpToPace

end Screen

/-! ## Scenes -/

/-- Two scenes are the same but for how fast text appears, and how much of it has. -/
structure Scene.UpToPace (s t : Scene) : Prop where
  store : t.store = s.store
  cast : t.cast = s.cast
  wallet : t.wallet = s.wallet
  screen : s.screen.UpToPace t.screen
  disk : t.disk = s.disk

/-- Two turns leave the same performance, and the same scene up to pace. -/
structure Turn.UpToPace (t u : Turn) : Prop where
  performance : u.performance = t.performance
  scene : t.scene.UpToPace u.scene

theorem Scene.present_eq (s : Scene) (b : Binding) (m : Message) :
    (s.present b m).1 =
      { s with screen := s.screen.showText m.text, cast := s.cast.turnSpeaker b m.facing } := by
  rw [present, turnSpeaker_eq, turnSpeaker_cast]

namespace Scene.UpToPace

variable {s t : Scene}

theorem present (h : s.UpToPace t) (b : Binding) (m : Message) :
    (s.present b m).1.UpToPace (t.present b m).1 := by
  rw [present_eq, present_eq, h.cast]
  exact ⟨h.store, rfl, h.wallet, h.screen.showText m.text, h.disk⟩

/-- An event goes on or halts in both scenes, and in the same way. -/
theorem play (h : s.UpToPace t) (b : Binding) (index : Nat) (ticket : Ticket) (e : Event) :
    (t.play b index ticket e).outcome = (s.play b index ticket e).outcome ∧
      (s.play b index ticket e).scene.UpToPace (t.play b index ticket e).scene := by
  cases e with
  | message m =>
      have hpresent := h.present b m
      have hflags : t.store.containsAll m.required = s.store.containsAll m.required := by
        rw [h.store]
      simp only [Scene.play, playMessage, hflags]
      split
      · split
        · exact ⟨rfl, hpresent⟩
        · exact ⟨rfl, hpresent.store, hpresent.cast, hpresent.wallet,
            hpresent.screen.showChoices m.choices, hpresent.disk⟩
      · exact ⟨rfl, h⟩
  | walk w =>
      simp only [Scene.play, playWalk, h.cast]
      split
      · exact ⟨rfl, h.store, rfl, h.wallet, h.screen.hideText, h.disk⟩
      · exact ⟨rfl, h.store, rfl, h.wallet, h.screen.hideText, h.disk⟩
  | addFlag key value =>
      exact ⟨rfl, congrArg (Store.set · key value) h.store, h.cast, h.wallet, h.screen, h.disk⟩
  | removeFlag key =>
      exact ⟨rfl, congrArg (Store.erase · key) h.store, h.cast, h.wallet, h.screen, h.disk⟩
  | transaction amount =>
      have hwallet : t.wallet.apply amount = s.wallet.apply amount := by rw [h.wallet]
      refine ⟨rfl, h.store, h.cast, hwallet, ?_, h.disk⟩
      simp only [Scene.play, pay, hwallet]
      exact h.screen.showBalance _

theorem flush (h : s.UpToPace t) : s.flush.1.UpToPace t.flush.1 := by
  simp only [Scene.flush, h.store, h.disk]
  exact ⟨rfl, h.cast, h.wallet, h.screen, rfl⟩

end Scene.UpToPace

/-! ## Performances -/

namespace Performance

variable {s t : Scene}

theorem run_upToPace (b : Binding) (p : Performance) (h : s.UpToPace t) (events : List Event) :
    (run b p s events).UpToPace (run b p t events) := by
  induction events generalizing p s t with
  | nil => exact ⟨rfl, h⟩
  | cons e rest ih =>
      obtain ⟨houtcome, hscene⟩ := h.play b p.cursor p.nextTicket e
      simp only [run, houtcome]
      split
      · have hrest := ih { p with cursor := p.cursor + 1 } hscene
        exact ⟨hrest.performance, hrest.scene⟩
      · exact ⟨rfl, hscene⟩

theorem proceed_upToPace (p : Performance) (h : s.UpToPace t) :
    (p.proceed s).UpToPace (p.proceed t) := by
  unfold proceed
  split
  · exact ⟨rfl, h⟩
  · exact run_upToPace _ _ h _

theorem purge_upToPace (p : Performance) (h : s.UpToPace t) :
    (p.purge s).UpToPace (p.purge t) where
  performance := rfl
  scene :=
    ⟨congrArg (p.chosen.keys.foldl Store.erase ·) h.store, h.cast, h.wallet, h.screen, h.disk⟩

theorem start_upToPace (p : Performance) (player : String) (initiator : Option String)
    (h : s.UpToPace t) : (p.start player initiator s).UpToPace (p.start player initiator t) := by
  have hplayed := proceed_upToPace (p.rewound player initiator) (p.purge_upToPace h).scene
  exact ⟨hplayed.performance, hplayed.scene⟩

theorem choose_upToPace (p : Performance) (index : Nat) (h : s.UpToPace t) :
    (p.choose index s).UpToPace (p.choose index t) := by
  cases hmenu : p.menu? with
  | none =>
      simp only [choose, hmenu]
      exact ⟨rfl, h⟩
  | some menu =>
      -- what is picked is a matter of the menu alone
      rcases hpick : menu.pick index with ⟨picked, option?⟩
      cases option? with
      | none =>
          simp only [choose, hmenu, Screen.pick, hpick]
          exact ⟨rfl, h⟩
      | some option =>
          have hset : Scene.UpToPace
              { s with
                screen := s.screen.hideChoices
                store := s.store.set option.flag chosenValue }
              { t with
                screen := t.screen.hideChoices
                store := t.store.set option.flag chosenValue } :=
            ⟨congrArg (Store.set · option.flag chosenValue) h.store, h.cast, h.wallet,
              h.screen.hideChoices, h.disk⟩
          have hplayed := proceed_upToPace { p with
            cursor := p.cursor + 1, chosen := p.chosen.insert option.flag (), menu? := none } hset
          simp only [choose, hmenu, Screen.pick, hpick]
          exact ⟨hplayed.performance, hplayed.scene⟩

theorem arrive_upToPace (p : Performance) (actor : String) (ticket : Ticket) (h : s.UpToPace t) :
    (p.arrive actor ticket s).UpToPace (p.arrive actor ticket t) := by
  unfold arrive
  split
  · have hplayed :=
      proceed_upToPace { p with cursor := p.cursor + 1, awaitedTicket? := none } h
    exact ⟨hplayed.performance, hplayed.scene⟩
  · exact ⟨rfl, h⟩

theorem resume_upToPace (p : Performance) (cue : Cue) (h : s.UpToPace t) :
    (p.resume cue s).UpToPace (p.resume cue t) := by
  unfold resume
  split
  · exact proceed_upToPace { p with cursor := p.cursor + 1 } h
  · exact p.choose_upToPace _ h
  · exact p.arrive_upToPace _ _ h
  · exact ⟨rfl, h⟩

end Performance

/-! ## Sessions -/

/-- The session with another speed of the text. -/
def Session.paced (x : Session) (speed : Nat) : Session :=
  { x with settings := { x.settings with textSpeed := speed } }

/-- Two replies give the same answer and leave the same session but for the speed of the text, and
the same scene up to pace. -/
structure Reply.UpToPace {α : Type} (speed : Nat) (r u : Reply α) : Prop where
  session : u.session = r.session.paced speed
  answer : u.answer = r.answer
  scene : r.scene.UpToPace u.scene

namespace Session

variable {s t : Scene}

theorem farewell_upToPace (i : Interaction) (h : s.UpToPace t) :
    (farewell i s).scene.UpToPace (farewell i t).scene := by
  have hhidden : Scene.UpToPace { s with screen := s.screen.hideChoices.hideText }
      { t with screen := t.screen.hideChoices.hideText } :=
    ⟨h.store, h.cast, h.wallet, h.screen.hideChoices.hideText, h.disk⟩
  exact (i.performance.purge_upToPace hhidden).scene

theorem close_upToPace (x : Session) (i : Interaction) (h : s.UpToPace t) :
    (x.close i s).2.1.UpToPace (x.close i t).2.1 := by
  rw [close_eq, close_eq]
  exact (farewell_upToPace i h).flush

theorem settle_upToPace (x : Session) (speed : Nat) (i : Interaction) {t u : Turn}
    (h : t.UpToPace u) : (x.settle i t).UpToPace speed ((x.paced speed).settle i u) := by
  by_cases hstatus : t.performance.status = .finished
  · have hstatus' : u.performance.status = .finished := by rw [h.performance, hstatus]
    rw [settle_finished hstatus, settle_finished hstatus', h.performance]
    exact ⟨rfl, rfl, x.close_upToPace _ h.scene⟩
  · have hstatus' : u.performance.status ≠ .finished := by rwa [h.performance]
    rw [settle_waiting hstatus, settle_waiting hstatus', h.performance]
    exact ⟨rfl, rfl, h.scene⟩

theorem launch_upToPace (x : Session) (speed : Nat) (npc player : String) (script : Script)
    (selection : Selection) (h : s.UpToPace t) :
    (x.launch npc player script selection s).UpToPace speed
      ((x.paced speed).launch npc player script selection t) := by
  have hstart := (x.opened npc script selection).performance.start_upToPace player (some npc) h
  have hsettled := settle_upToPace { x with nextToken := x.nextToken + 1 } speed
    (x.opened npc script selection) hstart
  rw [launch_eq, launch_eq]
  exact ⟨hsettled.session, congrArg (·.map (x.nextToken, ·)) hsettled.answer, hsettled.scene⟩

theorem begin_upToPace (x : Session) (speed : Nat) (npc player : String) (entries : List Script)
    (h : s.UpToPace t) :
    (x.begin npc player entries s).UpToPace speed ((x.paced speed).begin npc player entries t) := by
  cases hactive : x.active with
  | some i =>
      have hactive' : (x.paced speed).active = some i := hactive
      simp only [begin, hactive, hactive']
      exact ⟨rfl, rfl, h⟩
  | none =>
      have hactive' : (x.paced speed).active = none := hactive
      have hfallback : (x.paced speed).settings.fallback = x.settings.fallback := rfl
      simp only [begin, hactive, hactive', h.store, hfallback]
      split
      · exact ⟨rfl, rfl, h⟩
      · rename_i selection _
        have hlaunch :=
          x.launch_upToPace speed npc player (entries.getD selection.index {}) selection h
        split
        · split
          · exact ⟨rfl, rfl, h⟩
          · exact ⟨hlaunch.session, hlaunch.answer, hlaunch.scene⟩
        · exact hlaunch

theorem feed_upToPace (x : Session) (speed : Nat) (token : Token) (cue : Cue) (h : s.UpToPace t) :
    (x.feed token cue s).UpToPace speed ((x.paced speed).feed token cue t) := by
  have hholder : (x.paced speed).holder token = x.holder token := rfl
  unfold feed
  rw [hholder]
  split
  · exact ⟨rfl, rfl, h⟩
  · exact x.settle_upToPace speed _ (Performance.resume_upToPace _ cue h)

/-- The confirm key does the same wherever no text is still appearing. -/
theorem confirm_upToPace (x : Session) (speed : Nat) (token : Token) (h : s.UpToPace t)
    (hs : s.screen.isTyping = false) (ht : t.screen.isTyping = false) :
    (x.confirm token s).UpToPace speed ((x.paced speed).confirm token t) := by
  rw [confirm_of_still hs, confirm_of_still ht]
  exact x.feed_upToPace speed token .confirm h

theorem abandon_upToPace (x : Session) (speed : Nat) (token : Token) (h : s.UpToPace t) :
    (x.abandon token s).UpToPace speed ((x.paced speed).abandon token t) := by
  have hholder : (x.paced speed).holder token = x.holder token := rfl
  unfold abandon
  rw [hholder]
  split
  · exact ⟨rfl, rfl, h⟩
  · exact ⟨rfl, rfl, x.close_upToPace _ h⟩

end Session

end Cutscene
