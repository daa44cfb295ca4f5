import Cutscene.Proofs.Session.Chronicle
/-!
# The screen matches the session

Text, choices and balance are put on the screen and taken off it by calls that lie far apart.
`Screen.Shows` is the table of what is on the screen while a performance waits, and a stretch of
events that begins without choices on the screen ends as the table says (`Stretch.shows`).  So every
step of a session keeps the screen as it should be (`Step.displayed`), and every story does.
-/

namespace Cutscene

open Journal (Note)

/-! ## The parts of the screen -/

namespace Screen

theorem currentText_eq {s s' : Screen} (hvisible : s'.box.visible = s.box.visible)
    (htext : s'.box.text = s.box.text) : s'.currentText = s.currentText := by
  rw [currentText, currentText, hvisible, htext]

@[simp] theorem currentText_tick (s : Screen) : s.tick.currentText = s.currentText :=
  currentText_eq s.box.tick_visible s.box.tick_text

@[simp] theorem currentText_skipTyping (s : Screen) :
    s.skipTyping.currentText = s.currentText := rfl

@[simp] theorem currentText_showChoices (s : Screen) (options : List Choice) :
    (s.showChoices options).currentText = s.currentText := rfl

@[simp] theorem currentText_showText (s : Screen) (text : String) :
    (s.showText text).currentText = some text := by
  have hshown : ∀ box : Typewriter, box.visible = true → box.text = text →
      (write { s with box } (.text text)).currentText = some text := by
    intro box hvisible htext
    rw [currentText, write, if_pos hvisible, htext]
  unfold showText
  apply hshown
  · split
    · rw [Typewriter.tick_visible]
      rfl
    · rfl
  · split
    · rw [Typewriter.tick_text]
      rfl
    · rfl

/-- What is on the screen while a performance waits. -/
def Shows (s : Screen) (p : Performance) : Suspension → Prop
  | .confirm => ∃ m, p.current? = some (.message m) ∧ s.currentText = some m.text ∧ s.choices = []
  | .choice => ∃ m, p.current? = some (.message m) ∧ s.currentText = some m.text ∧
      s.choices = m.choices.map (·.label)
  | .walk _ => s.currentText = none ∧ s.choices = []

/-- A performance waits, and the screen shows what it waits at. -/
def ShowsWait (s : Screen) (p : Performance) : Prop :=
  ∃ waitsFor, p.status = .paused waitsFor ∧ s.Shows p waitsFor

theorem ShowsWait.of_same {s s' : Screen} {p : Performance} (h : s.ShowsWait p)
    (htext : s'.currentText = s.currentText) (hchoices : s'.choices = s.choices) :
    s'.ShowsWait p := by
  obtain ⟨waitsFor, hstatus, hshows⟩ := h
  refine ⟨waitsFor, hstatus, ?_⟩
  cases waitsFor <;> simpa only [Shows, htext, hchoices] using hshows

end Screen

namespace Journal

def Note.isPayment : Note → Bool
  | paid _ _ => true
  | _ => false

def hasPaid (notes : List Note) : Bool :=
  notes.any Note.isPayment

@[simp] theorem hasPaid_append (xs ys : List Note) :
    hasPaid (xs ++ ys) = (hasPaid xs || hasPaid ys) :=
  List.any_append

theorem hasPaid_asides {notes : List Note} (h : ∀ n ∈ notes, n.isAside = true) :
    hasPaid notes = false := by
  refine List.any_eq_false.2 fun n hn => ?_
  have haside := h n hn
  cases n <;> first | exact Bool.false_ne_true | simp [Note.isAside] at haside

end Journal

open Journal (hasPaid)

namespace Scene

/-- The label of the balance is there once anything was paid, and then it is up to date. -/
def ShowsBalance (s : Scene) (paid : Bool) : Prop :=
  s.screen.balance = if paid then some (moneyText s.wallet.balance) else none

theorem ShowsBalance.of_same {s s' : Scene} {paid : Bool} (h : s.ShowsBalance paid)
    (hbalance : s'.screen.balance = s.screen.balance) (hwallet : s'.wallet = s.wallet) :
    s'.ShowsBalance paid := by
  rw [ShowsBalance, hbalance, hwallet]
  exact h

theorem turnSpeaker_eq (s : Scene) (b : Binding) (facing : Facing) :
    (s.turnSpeaker b facing).1 = { s with cast := (s.turnSpeaker b facing).1.cast } := by
  unfold turnSpeaker
  split
  · rfl
  · split <;> rfl

theorem present_screen (s : Scene) (b : Binding) (m : Message) :
    (s.present b m).1.screen = s.screen.showText m.text := by
  rw [present, turnSpeaker_eq]

theorem present_wallet (s : Scene) (b : Binding) (m : Message) :
    (s.present b m).1.wallet = s.wallet := by
  rw [present, turnSpeaker_eq]

theorem Passes.choices {s s' : Scene} {b : Binding} {index : Nat} {e : Event} {notes : List Note}
    (h : s.Passes b index e s' notes) : s'.screen.choices = s.screen.choices := by
  cases h <;> rfl

theorem Passes.balance {s s' : Scene} {b : Binding} {index : Nat} {e : Event} {notes : List Note}
    {paid : Bool} (h : s.Passes b index e s' notes) (hs : s.ShowsBalance paid) :
    s'.ShowsBalance (paid || hasPaid (.reached index e :: notes)) := by
  have hsame : ∀ {s' : Scene}, s'.screen.balance = s.screen.balance → s'.wallet = s.wallet →
      s'.ShowsBalance (paid || false) := by
    intro s' hbalance hwallet
    rw [Bool.or_false]
    exact hs.of_same hbalance hwallet
  cases h with
  | transaction amount =>
      have hpaid : (paid || true) = true := Bool.or_true paid
      change _ = if (paid || true) = true then _ else _
      rw [if_pos hpaid]
      rfl
  | withheld => exact hsame rfl rfl
  | walkerMissing => exact hsame rfl rfl
  | addFlag => exact hsame rfl rfl
  | removeFlag => exact hsame rfl rfl

theorem Halts.balance {s s' : Scene} {b : Binding} {ticket : Ticket} {e : Event} {pause : Pause}
    {notes : List Note} {paid : Bool} (h : s.Halts b ticket e pause s' notes)
    (hs : s.ShowsBalance paid) : s'.ShowsBalance (paid || hasPaid notes) := by
  cases h with
  | @message m =>
      rw [Journal.hasPaid_asides (s.present_asides b m), Bool.or_false]
      refine hs.of_same ?_ (s.present_wallet b m)
      rw [present_screen]
      rfl
  | @choice m =>
      rw [Journal.hasPaid_asides (s.present_asides b m), Bool.or_false]
      refine hs.of_same ?_ (s.present_wallet b m)
      change (s.present b m).1.screen.balance = _
      rw [present_screen]
      rfl
  | walk =>
      rw [show hasPaid [.sent _ _ _ _] = false from rfl, Bool.or_false]
      exact hs.of_same rfl rfl

end Scene

/-! ## Stretches -/

namespace Performance

/-- What a stretch ends with is on the screen, unless the script is over. -/
theorem Stretch.shows {b : Binding} {p : Performance} {s : Scene} {t : Turn}
    (h : Stretch b p s t) (hchoices : s.screen.choices = [])
    (hstatus : t.performance.status ≠ .finished) : t.scene.screen.ShowsWait t.performance := by
  induction h with
  | atEnd => exact absurd rfl hstatus
  | pass _ hpass _ ih =>
      rw [← hpass.choices] at hchoices
      exact ih hchoices hstatus
  | @halt p s s' e pause notes hcurrent hhalt =>
      cases hhalt with
      | @message m =>
          refine ⟨.confirm, rfl, m, hcurrent, ?_, ?_⟩
          · rw [Scene.present_screen, Screen.currentText_showText]
          · rw [Scene.present_screen]
            exact hchoices
      | @choice m =>
          refine ⟨.choice, rfl, m, hcurrent, ?_, rfl⟩
          rw [Screen.currentText_showChoices, Scene.present_screen, Screen.currentText_showText]
      | walk => exact ⟨_, rfl, rfl, hchoices⟩

theorem Stretch.balance {b : Binding} {p : Performance} {s : Scene} {t : Turn} {paid : Bool}
    (h : Stretch b p s t) (hs : s.ShowsBalance paid) :
    t.scene.ShowsBalance (paid || hasPaid t.notes) := by
  induction h generalizing paid with
  | @atEnd p s =>
      rw [Journal.hasPaid_asides (p.finish_asides s), Bool.or_false]
      exact hs
  | pass _ hpass _ ih =>
      simp only [Turn.after, Journal.hasPaid_append, ← Bool.or_assoc]
      exact ih (hpass.balance hs)
  | @halt p s s' e pause notes _ hhalt =>
      have hnotes : hasPaid (.reached p.cursor e :: notes ++ [.paused p.cursor pause.waitsFor]) =
          hasPaid notes := by
        rw [Journal.hasPaid_append]
        exact Bool.or_false _
      rw [hnotes]
      exact hhalt.balance hs

theorem Takes.choices {p p' : Performance} {s s' : Scene} {cue : Cue} {notes : List Note}
    (h : p.Takes s cue p' s' notes) (hshows : s.screen.ShowsWait p) : s'.screen.choices = [] := by
  obtain ⟨waitsFor, hstatus, hshows⟩ := hshows
  cases h with
  | confirm hconfirm =>
      obtain rfl := Status.paused.inj (hstatus.symm.trans hconfirm)
      obtain ⟨m, _, _, hchoices⟩ := hshows
      exact hchoices
  | choose => rfl
  | arrive hwalk =>
      obtain rfl := Status.paused.inj (hstatus.symm.trans hwalk)
      exact hshows.2

theorem Takes.balance {p p' : Performance} {s s' : Scene} {cue : Cue} {notes : List Note}
    {paid : Bool} (h : p.Takes s cue p' s' notes) (hs : s.ShowsBalance paid) :
    s'.ShowsBalance (paid || hasPaid notes) := by
  have hnotes : hasPaid notes = false := by
    cases h <;> rfl
  rw [hnotes, Bool.or_false]
  cases h <;> exact hs

theorem start_shows (p : Performance) (player : String) (initiator : Option String) {s : Scene}
    (hchoices : s.screen.choices = [])
    (hstatus : (p.start player initiator s).performance.status ≠ .finished) :
    (p.start player initiator s).scene.screen.ShowsWait
      (p.start player initiator s).performance := by
  obtain ⟨t, hstretch, hturn⟩ := p.start_stretch player initiator s
  rw [hturn] at hstatus ⊢
  have hpurged : (p.purge s).scene.screen.choices = [] := hchoices
  exact hstretch.shows hpurged hstatus

theorem start_balance (p : Performance) (player : String) (initiator : Option String) {s : Scene}
    {paid : Bool} (hs : s.ShowsBalance paid) :
    (p.start player initiator s).scene.ShowsBalance
      (paid || hasPaid (p.start player initiator s).notes) := by
  obtain ⟨t, hstretch, hturn⟩ := p.start_stretch player initiator s
  have hpurged : (p.purge s).scene.ShowsBalance paid := hs
  rw [hturn, Turn.after, Journal.hasPaid_append,
    Journal.hasPaid_asides (p.start_asides player initiator s), Bool.false_or]
  exact hstretch.balance hpurged

end Performance

/-! ## Sessions -/

namespace Session

/-- What is on the screen is what the interaction under way waits at, if there is one, and the
balance. -/
structure Displayed (x : Session) (s : Scene) (paid : Bool) : Prop where
  free : x.active = none → s.screen.currentText = none ∧ s.screen.choices = []
  waiting : ∀ i, x.active = some i → s.screen.ShowsWait i.performance
  balance : s.ShowsBalance paid

theorem Displayed.of_same {x : Session} {s s' : Scene} {paid : Bool} (h : x.Displayed s paid)
    (htext : s'.screen.currentText = s.screen.currentText)
    (hchoices : s'.screen.choices = s.screen.choices)
    (hbalance : s'.screen.balance = s.screen.balance) (hwallet : s'.wallet = s.wallet) :
    x.Displayed s' paid where
  free hfree := by
    rw [htext, hchoices]
    exact h.free hfree
  waiting i hi := (h.waiting i hi).of_same htext hchoices
  balance := h.balance.of_same hbalance hwallet

theorem hasPaid_close (x : Session) (i : Interaction) (s : Scene) :
    hasPaid (x.close i s).2.2 = false := by
  rw [x.close_eq, Journal.hasPaid_append, Journal.hasPaid_asides (farewell_asides i s)]
  rfl

theorem close_displayed (x : Session) (i : Interaction) {s : Scene} {paid : Bool}
    (h : s.ShowsBalance paid) :
    (x.close i s).1.Displayed (x.close i s).2.1 (paid || hasPaid (x.close i s).2.2) where
  free _ := ⟨rfl, rfl⟩
  waiting i hi := by simp [close] at hi
  balance := by
    rw [x.hasPaid_close, Bool.or_false]
    exact h

theorem settle_displayed (x : Session) (i : Interaction) {t : Turn} {paid : Bool}
    (hshows : t.performance.status ≠ .finished → t.scene.screen.ShowsWait t.performance)
    (hbalance : t.scene.ShowsBalance (paid || hasPaid t.notes)) :
    (x.settle i t).session.Displayed (x.settle i t).scene
      (paid || hasPaid (x.settle i t).notes) := by
  by_cases hstatus : t.performance.status = .finished
  · rw [settle_finished hstatus, Journal.hasPaid_append, ← Bool.or_assoc]
    exact x.close_displayed _ hbalance
  · rw [settle_waiting hstatus]
    refine ⟨fun hnone => by simp at hnone, ?_, hbalance⟩
    intro j hj
    rw [← Option.some.inj hj]
    exact hshows hstatus

theorem launch_displayed {x : Session} {s : Scene} {paid : Bool} (hfree : x.active = none)
    (h : x.Displayed s paid) (npc player : String) (script : Script) (selection : Selection) :
    (x.launch npc player script selection s).session.Displayed
      (x.launch npc player script selection s).scene
      (paid || hasPaid (x.launch npc player script selection s).notes) := by
  have hchoices := (h.free hfree).2
  exact settle_displayed _ (x.opened npc script selection)
    (fun hstatus => Performance.start_shows _ player (some npc) hchoices hstatus)
    (Performance.start_balance _ player (some npc) h.balance)

theorem Step.displayed {x x' : Session} {s s' : Scene} {token? : Option Token}
    {notes : List Note} {paid : Bool} (h : x.Step s token? x' s' notes) (hx : x.Sound)
    (hs : x.Displayed s paid) : x'.Displayed s' (paid || hasPaid notes) := by
  cases h with
  | stays hremarks =>
      rw [Journal.hasPaid_asides hremarks.asides, Bool.or_false]
      exact hs
  | skips =>
      have hskip : x.Displayed { s with screen := s.screen.skipTyping } paid :=
        hs.of_same s.screen.currentText_skipTyping rfl rfl rfl
      rwa [← Bool.or_false paid] at hskip
  | @takes i p' s' cue notes hactive htakes =>
      obtain ⟨b, _, _, hstretch⟩ := htakes.stretch (hx i hactive).1
      have hchoices := htakes.choices (hs.waiting i hactive)
      refine settle_displayed x i ?_ ?_
      · intro hstatus
        exact hstretch.shows hchoices hstatus
      · rw [Turn.after, Journal.hasPaid_append, ← Bool.or_assoc]
        exact hstretch.balance (htakes.balance hs.balance)
  | @closes i hactive => exact x.close_displayed i hs.balance
  | @launches npc player script selection notes hfree hremarks =>
      rw [Journal.hasPaid_append, Journal.hasPaid_asides hremarks.asides, Bool.false_or]
      exact launch_displayed hfree hs npc player script selection

end Session

namespace Story

theorem act_displayed {g : Story} {paid : Bool} (hg : g.session.Sound)
    (h : g.session.Displayed g.world.scene paid) (m : Move) :
    (g.act m).story.session.Displayed (g.act m).story.world.scene
      (paid || hasPaid (g.act m).notes) := by
  by_cases hm : ∃ ms, m = .tick ms
  · obtain ⟨ms, rfl⟩ := hm
    have htick : g.session.Displayed (g.world.tick ms).1.scene paid :=
      h.of_same g.world.scene.screen.currentText_tick rfl rfl rfl
    rwa [← Bool.or_false paid] at htick
  · exact (act_step hg (not_exists.1 hm)).displayed hg h

/-- What a story shows while others leave its screen and its money alone. -/
theorem Chronicle.displayed {allowed : Scene → Scene → Prop} {settings : Settings} {w : World}
    {speed : Nat} {history : History} {g : Story}
    (hallowed : ∀ s s', allowed s s' → s'.screen = s.screen ∧ s'.wallet = s.wallet)
    (hfresh : w.scene.screen = .ofSpeed speed)
    (h : Chronicle allowed (opening settings w) history g) :
    g.session.Displayed g.world.scene (hasPaid history.log) := by
  induction h with
  | opens =>
      have hscreen : (opening settings w).world.scene.screen = .ofSpeed speed := hfresh
      refine ⟨fun _ => ?_, by simp [opening], ?_⟩
      · rw [hscreen]
        exact ⟨rfl, rfl⟩
      · rw [Scene.ShowsBalance, hscreen]
        rfl
  | move m h ih =>
      rw [History.log_concat, Journal.hasPaid_append]
      exact act_displayed h.sound ih m
  | meanwhile _ hchange ih =>
      obtain ⟨hscreen, hwallet⟩ := hallowed _ _ hchange
      exact ih.of_same (congrArg Screen.currentText hscreen) (congrArg Screen.choices hscreen)
        (congrArg Screen.balance hscreen) hwallet

/-- **The screen matches the interaction.** From a fresh screen on, whatever calls and frames come
and whatever others do to the flags in between: the text in the box and the labels of the choices
are those of the message that the interaction under way waits at, with neither at a walk or when the
session is free, and no choices at a message without any.  The label of the balance is missing until
the first transaction, and from then on it is up to date. -/
theorem screen_matches_interaction {settings : Settings} {w : World} {speed : Nat}
    {history : History} {g : Story} (hfresh : w.scene.screen = .ofSpeed speed)
    (h : Chronicle (fun s s' => ∃ store, s' = { s with store }) (opening settings w) history g) :
    g.session.Displayed g.world.scene (hasPaid history.log) := by
  refine h.displayed (fun s s' hchange => ?_) hfresh
  obtain ⟨store, rfl⟩ := hchange
  exact ⟨rfl, rfl⟩

def payAndAsk : Script :=
  ⟨[], .transaction 2.5 :: askToStay.events⟩

/-- Ann has paid and asked, and a flag has been set before she got an answer. -/
def annHasPaid : Story :=
  let g := ((opening {} annAlone).act (.begin "Ann" "Ben" [payAndAsk])).story
  g.elsewhere { g.world.scene with store := g.world.scene.store.set "rain" "true" }

theorem screen_matches_interaction_paid :
    annAlone.scene.screen = .ofSpeed (UInt64.size - 1) ∧
      ∃ history, Chronicle (fun s s' => ∃ store, s' = { s with store }) (opening {} annAlone)
          history annHasPaid ∧
        hasPaid history.log = true ∧
        annHasPaid.session.Displayed annHasPaid.world.scene (hasPaid history.log) := by
  have hchronicle : Chronicle (fun s s' => ∃ store, s' = { s with store }) (opening {} annAlone)
      _ annHasPaid :=
    .meanwhile (.move (.begin "Ann" "Ben" [payAndAsk]) .opens) ⟨_, rfl⟩
  exact ⟨rfl, _, hchronicle, by rfl, screen_matches_interaction rfl hchronicle⟩

end Story

end Cutscene
