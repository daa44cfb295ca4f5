import Cutscene.Proofs.Screen.Reveal
import Cutscene.Proofs.Session.Display
import Cutscene.Proofs.Session.Headway
/-!
# The confirm key

The confirm key looks at the screen first: text that is still appearing appears at once, and only
then does the key confirm a message.  So one of two confirmations gets past the message that is
waited at (`Story.GetsPast`), whatever frames pass between them.  While a choice or a walk is waited
for, confirmations and frames reveal text and move whoever walks, and that is all
(`Story.after_waits`).
-/

namespace Cutscene

/-! ## Frames -/

namespace Actor

/-- The actor after frames of some lengths. -/
def afterFrames (a : Actor) (frames : List Float32) : Actor :=
  frames.foldl (fun a ms => (a.tick ms).1) a

/-- What frames leave of an actor: its walk gets on or ends, and who does not walk stays as it
is. -/
structure Strolls (a a' : Actor) : Prop where
  same : a' = { a with position := a'.position, movement := a'.movement, journey := a'.journey }
  journey : a'.journey = none ∨ a'.journey = a.journey
  still : a.journey = none → a' = a

variable {a a' a'' : Actor}

theorem Strolls.refl (a : Actor) : a.Strolls a :=
  ⟨rfl, .inr rfl, fun _ => rfl⟩

theorem Strolls.trans (h : a.Strolls a') (h' : a'.Strolls a'') : a.Strolls a'' where
  same := by
    have hfirst := h.same
    rw [h'.same, hfirst]
  journey := by
    rcases h'.journey with hnone | hsame
    · exact .inl hnone
    · rw [hsame]
      exact h.journey
  still hnone := by
    obtain rfl := h.still hnone
    exact h'.still hnone

theorem tick_strolls (a : Actor) (ms : Float32) : a.Strolls (a.tick ms).1 := by
  unfold tick
  cases hjourney : a.journey with
  | none => exact Strolls.refl a
  | some j =>
      have hwalks : a.journey ≠ none := by simp [hjourney]
      dsimp only
      split
      · exact ⟨rfl, .inr hjourney.symm, fun hnone => absurd hnone hwalks⟩
      · exact ⟨rfl, .inl rfl, fun hnone => absurd hnone hwalks⟩

theorem afterFrames_strolls (a : Actor) (frames : List Float32) :
    a.Strolls (a.afterFrames frames) := by
  induction frames generalizing a with
  | nil => exact .refl a
  | cons ms frames ih => exact (a.tick_strolls ms).trans (ih (a.tick ms).1)

end Actor

/-- The cast after frames of some lengths. -/
def Cast.afterFrames (c : Cast) (frames : List Float32) : Cast :=
  ⟨c.actors.map fun a => a.afterFrames frames⟩

namespace Cast

theorem afterFrames_nil (c : Cast) : c.afterFrames [] = c := by
  have hsame : c.actors.map (fun a => a.afterFrames []) = c.actors := List.map_id' c.actors
  rw [afterFrames, hsame]

theorem tick_eq_afterFrames (c : Cast) (ms : Float32) : (c.tick ms).1 = c.afterFrames [ms] := by
  simp [afterFrames, tick, Actor.afterFrames]

theorem afterFrames_append (c : Cast) (frames frames' : List Float32) :
    (c.afterFrames frames).afterFrames frames' = c.afterFrames (frames ++ frames') := by
  simp [afterFrames, Actor.afterFrames, Function.comp_def]

end Cast

/-! ## What appears -/

namespace Typewriter

theorem tick_eq (t : Typewriter) : t.tick = { t with revealed := t.tick.revealed } := by
  unfold tick
  split <;> rfl

theorem revealed_le_tick (t : Typewriter) : t.revealed ≤ t.tick.revealed := by
  unfold tick
  split
  · rename_i htyping
    rw [isTyping, Bool.and_eq_true, decide_eq_true_eq] at htyping
    dsimp only
    omega
  · exact Nat.le_refl _

theorem revealed_le_of_isTyping {t : Typewriter} (h : t.isTyping = true) :
    t.revealed ≤ t.text.length := by
  rw [isTyping, Bool.and_eq_true, decide_eq_true_eq] at h
  exact Nat.le_of_lt h.2

end Typewriter

namespace Story

open Session (Sound)

/-- The story when more of the text has been revealed and frames have moved whoever walks. -/
def revealing (g : Story) (revealed : Nat) (frames : List Float32) : Story :=
  g.elsewhere { g.world.scene with
    cast := g.cast.afterFrames frames
    screen := { g.world.scene.screen with
      box := { g.world.scene.screen.box with revealed } } }

/-- A move gets an interaction past the event that it waits at: a turn is settled in which the
script is played on from a later event. -/
def GetsPast (g : Story) (i : Interaction) (m : Move) : Prop :=
  ∃ t : Turn, t.performance.script = i.performance.script ∧
    i.performance.cursor < t.performance.cursor ∧
    g.act m = g.heard (g.session.settle i t) .stands

/-- The moves are confirmations and frames; `frames` are the lengths of the frames. -/
inductive Waits : List Move → List Float32 → Prop where
  | nil : Waits [] []
  | confirm (token : Token) {moves : List Move} {frames : List Float32} : Waits moves frames →
      Waits (.confirm token :: moves) frames
  | tick (ms : Float32) {moves : List Move} {frames : List Float32} : Waits moves frames →
      Waits (.tick ms :: moves) (ms :: frames)

variable {g : Story} {i : Interaction}

theorem revealing_self (g : Story) : g.revealing g.world.scene.screen.box.revealed [] = g := by
  rw [revealing, Cast.afterFrames_nil]
  rfl

theorem revealing_revealing (g : Story) (revealed revealed' : Nat) (frames frames' : List Float32) :
    (g.revealing revealed frames).revealing revealed' frames' =
      g.revealing revealed' (frames ++ frames') := by
  rw [revealing, revealing, revealing, ← Cast.afterFrames_append]
  rfl

/-! ## Frames and confirmations -/

theorem act_tick_eq (g : Story) (ms : Float32) :
    (g.act (.tick ms)).story = g.revealing g.world.scene.screen.box.tick.revealed [ms] := by
  have hcast := g.cast.tick_eq_afterFrames ms
  have hbox := g.world.scene.screen.box.tick_eq
  rw [revealing, ← hcast, ← hbox]
  rfl

/-- Text that is still appearing appears at once. -/
theorem confirm_of_typing (hactive : g.session.active = some i)
    (htyping : g.world.scene.screen.isTyping = true) :
    g.act (.confirm i.token) = ⟨g.revealing g.world.scene.screen.box.text.length [], [],
      .stands (.ok i.performance.status)⟩ := by
  have hholder : g.session.holder i.token = .ok i := by simp [Session.holder, hactive]
  rw [revealing, Cast.afterFrames_nil]
  simp only [act, heard, Session.confirm, hholder, htyping, if_true]
  rfl

/-- Where no text is appearing, a message is confirmed. -/
theorem confirm_of_still (hsound : g.session.Sound) (hactive : g.session.active = some i)
    (hstatus : i.performance.status = .paused .confirm)
    (hstill : g.world.scene.screen.isTyping = false) : g.GetsPast i (.confirm i.token) := by
  obtain ⟨b, _, _, hstretch⟩ :=
    (Performance.Takes.confirm (s := g.world.scene) hstatus).stretch (hsound i hactive).1
  have hending := hstretch.ending
  have hresume : i.performance.resume .confirm g.world.scene =
      i.performance.proceedPast g.world.scene := by
    simp [Performance.resume, hstatus, Status.suspension?]
  refine ⟨_, hending.script_eq, hending.cursor_le, ?_⟩
  rw [act, Session.confirm_of_still hstill, Session.feed_eq_settle hactive, hresume]

theorem after_ticks (g : Story) (frames : List Float32) :
    ∃ revealed, g.world.scene.screen.box.revealed ≤ revealed ∧
      g.after (frames.map .tick) = g.revealing revealed frames := by
  induction frames generalizing g with
  | nil => exact ⟨_, Nat.le_refl _, g.revealing_self.symm⟩
  | cons ms frames ih =>
      obtain ⟨revealed, hle, hafter⟩ := ih (g.act (.tick ms)).story
      rw [act_tick_eq, revealing_revealing, ← act_tick_eq] at hafter
      exact ⟨revealed, Nat.le_trans (Typewriter.revealed_le_tick _) hle, hafter⟩

/-- Of two confirmations with frames between them one gets past the message. -/
theorem confirm_twice (hsound : g.session.Sound) (hactive : g.session.active = some i)
    (hstatus : i.performance.status = .paused .confirm) (frames : List Float32) :
    g.GetsPast i (.confirm i.token) ∨
      (g.after (.confirm i.token :: frames.map .tick)).GetsPast i (.confirm i.token) := by
  cases htyping : g.world.scene.screen.isTyping with
  | false => exact .inl (confirm_of_still hsound hactive hstatus htyping)
  | true =>
      right
      have hconfirm : (g.act (.confirm i.token)).story =
          g.revealing g.world.scene.screen.box.text.length [] := by
        rw [confirm_of_typing hactive htyping]
      obtain ⟨revealed, hle, hafter⟩ :=
        (g.revealing g.world.scene.screen.box.text.length []).after_ticks frames
      have hstory : g.after (.confirm i.token :: frames.map .tick) =
          g.revealing revealed frames := by
        rw [revealing_revealing, List.nil_append, ← hconfirm] at hafter
        exact hafter
      -- what has appeared in full stays so, whatever frames pass
      have hstill : (g.revealing revealed frames).world.scene.screen.isTyping = false := by
        have hfull : g.world.scene.screen.box.text.length ≤ revealed := hle
        have hmore : ¬ revealed < g.world.scene.screen.box.text.length := Nat.not_lt.2 hfull
        change (_ && decide (revealed < g.world.scene.screen.box.text.length)) = false
        rw [decide_eq_false hmore, Bool.and_false]
      rw [hstory]
      exact confirm_of_still hsound hactive hstatus hstill

/-! ## While a choice or a walk is waited for -/

/-- A confirmation that nobody waits for reveals the text at most. -/
theorem confirm_idle (hsound : g.session.Sound)
    (hidle : ∀ i, g.session.active = some i → i.performance.status ≠ .paused .confirm)
    (token : Token) : ∃ revealed, g.world.scene.screen.box.revealed ≤ revealed ∧
      (g.act (.confirm token)).story = g.revealing revealed [] := by
  have hunchanged : (g.act (.confirm token)).story = g → ∃ revealed,
      g.world.scene.screen.box.revealed ≤ revealed ∧
        (g.act (.confirm token)).story = g.revealing revealed [] := fun hsame =>
    ⟨_, Nat.le_refl _, hsame.trans g.revealing_self.symm⟩
  rcases g.session.holder_cases token with ⟨i, hactive, rfl, hholder⟩ | ⟨error, hholder, _⟩
  · cases htyping : g.world.scene.screen.isTyping with
    | true =>
        refine ⟨_, Typewriter.revealed_le_of_isTyping htyping, ?_⟩
        rw [confirm_of_typing hactive htyping]
    | false =>
        have hfeed := Session.confirm_of_still (x := g.session) htyping i.token
        apply hunchanged
        rcases Session.feed_cases hsound i.token .confirm g.world.scene with
          ⟨notes, answer, hreply, _⟩ | ⟨j, p', s', notes, hj, _, htakes, _⟩
        · simp only [act, heard, hfeed, hreply]
        · obtain ⟨hstatus⟩ := htakes
          exact absurd hstatus (hidle j hj)
  · apply hunchanged
    simp only [act, heard, Session.confirm, hholder, Session.decline]

/-- Confirmations and frames in any order, while nobody waits for a confirmation. -/
theorem after_waits (hsound : g.session.Sound)
    (hidle : ∀ i, g.session.active = some i → i.performance.status ≠ .paused .confirm)
    {moves : List Move} {frames : List Float32} (h : Waits moves frames) :
    ∃ revealed, g.world.scene.screen.box.revealed ≤ revealed ∧
      g.after moves = g.revealing revealed frames := by
  induction h generalizing g with
  | nil => exact ⟨_, Nat.le_refl _, g.revealing_self.symm⟩
  | @confirm token moves frames _ ih =>
      obtain ⟨revealed, hle, hconfirm⟩ := confirm_idle hsound hidle token
      obtain ⟨more, hmore, hafter⟩ := ih (g := g.revealing revealed []) hsound hidle
      refine ⟨more, Nat.le_trans hle hmore, ?_⟩
      rw [revealing_revealing, List.nil_append, ← hconfirm] at hafter
      exact hafter
  | @tick ms moves frames _ ih =>
      obtain ⟨more, hmore, hafter⟩ := ih (g := (g.act (.tick ms)).story) hsound hidle
      rw [act_tick_eq, revealing_revealing, ← act_tick_eq] at hafter
      exact ⟨more, Nat.le_trans (Typewriter.revealed_le_tick _) hmore, hafter⟩

/-! ## Stories -/

/-- **The confirm key never sticks.** Whatever has been done in a story that began with a fresh
screen, and whatever others have done to flags, actors and files in between: where a message waits
for a confirmation, the key with the token of the interaction shows the message in full, when text
is still appearing, and changes nothing else, and otherwise it gets past the message; and of two
such keys one does, however many frames pass between them.  Where a choice or a walk is waited for,
any number of keys with any tokens and of frames in any order reveal text and let the walkers
walk, and change nothing else. -/
theorem confirm_never_sticks {settings : Settings} {w : World} {speed : Nat} {history : History}
    (hfresh : w.scene.screen = .ofSpeed speed)
    (h : Chronicle (fun s s' => ∃ store cast disk, s' = { s with store, cast, disk })
      (opening settings w) history g) (hactive : g.session.active = some i) :
    (i.performance.status = .paused .confirm →
      (g.world.scene.screen.isTyping = true →
        g.act (.confirm i.token) = ⟨g.elsewhere { g.world.scene with
            screen := { g.world.scene.screen with box := { g.world.scene.screen.box with
              revealed := g.world.scene.screen.box.text.length } } },
          [], .stands (.ok (.paused .confirm))⟩ ∧
        ∃ m, i.performance.current? = some (.message m) ∧
          (g.act (.confirm i.token)).story.world.scene.screen.currentText = some m.text ∧
          (g.act (.confirm i.token)).story.world.scene.screen.box.shown = m.text) ∧
      (g.world.scene.screen.isTyping = false → g.GetsPast i (.confirm i.token)) ∧
      ∀ frames : List Float32, g.GetsPast i (.confirm i.token) ∨
        (g.after (.confirm i.token :: frames.map .tick)).GetsPast i (.confirm i.token)) ∧
    (i.performance.status = .paused .choice ∨
        (∃ actor, i.performance.status = .paused (.walk actor)) →
      ∀ moves frames, Waits moves frames → ∃ revealed,
        g.world.scene.screen.box.revealed ≤ revealed ∧
        g.after moves = g.revealing revealed frames ∧
        ∀ a ∈ g.cast.actors, a.Strolls (a.afterFrames frames)) := by
  have hsound := h.sound
  refine ⟨fun hstatus => ⟨fun htyping => ?_, confirm_of_still hsound hactive hstatus,
    confirm_twice hsound hactive hstatus⟩, fun hstatus moves frames hwaits => ?_⟩
  · have hconfirm := confirm_of_typing hactive htyping
    have hdisplayed : g.session.Displayed g.world.scene (Journal.hasPaid history.log) := by
      refine h.displayed (fun s s' hchange => ?_) hfresh
      obtain ⟨store, cast, disk, rfl⟩ := hchange
      exact ⟨rfl, rfl⟩
    obtain ⟨waitsFor, hpaused, hshows⟩ := hdisplayed.waiting i hactive
    obtain rfl := Status.paused.inj (hstatus.symm.trans hpaused)
    obtain ⟨m, hcurrent, htext, _⟩ := hshows
    have hvisible : g.world.scene.screen.box.visible = true := (Bool.and_eq_true_iff.1 htyping).1
    have hbox : g.world.scene.screen.box.text = m.text := by
      rw [Screen.currentText, if_pos hvisible] at htext
      exact Option.some.inj htext
    have hfull := Typewriter.during_of_full (t := g.world.scene.screen.box.skip) rfl []
    rw [hconfirm, hstatus]
    refine ⟨?_, m, hcurrent, htext, hfull.trans hbox⟩
    rw [revealing, Cast.afterFrames_nil]
    rfl
  · have hidle : ∀ j, g.session.active = some j → j.performance.status ≠ .paused .confirm := by
      intro j hj hconfirm
      obtain rfl := Option.some.inj (hactive.symm.trans hj)
      rcases hstatus with hchoice | ⟨actor, hwalk⟩
      · simp [hchoice] at hconfirm
      · simp [hwalk] at hconfirm
    obtain ⟨revealed, hle, hafter⟩ := after_waits hsound hidle hwaits
    exact ⟨revealed, hle, hafter, fun a _ => a.afterFrames_strolls frames⟩

def greeting : Script :=
  ⟨[], [.message { text := "Hello" }]⟩

/-- Ann, whose words appear one character a frame. -/
def annSlow : World :=
  { annAlone with scene := { annAlone.scene with screen := .ofSpeed 1 } }

def annGreets : Story :=
  ((opening {} annSlow).act (.begin "Ann" "Ben" [greeting])).story

/-- Ann's greeting is still appearing when it is confirmed; and where Ann has been sent off, she
walks on between two keys that nobody waits for. -/
theorem confirm_never_sticks_greeting :
    (∃ i, annGreets.session.active = some i ∧ i.performance.status = .paused .confirm ∧
      annGreets.world.scene.screen.isTyping = true ∧
      (∃ m, i.performance.current? = some (.message m) ∧
        (annGreets.act (.confirm i.token)).story.world.scene.screen.box.shown = m.text) ∧
      (annGreets.GetsPast i (.confirm i.token) ∨
        (annGreets.after [.confirm i.token, .tick 16, .tick 16]).GetsPast i (.confirm i.token))) ∧
    ∃ i, annSentAgain.session.active = some i ∧ i.performance.status = .paused (.walk "Ann") ∧
      ∃ revealed, annSentAgain.after [.confirm 2, .tick 16, .confirm 1] =
        annSentAgain.revealing revealed [16] := by
  constructor
  · have hchronicle : Chronicle (fun s s' => ∃ store cast disk, s' = { s with store, cast, disk })
        (opening {} annSlow) _ annGreets := .move (.begin "Ann" "Ben" [greeting]) .opens
    have hstatus : annGreets.session.active.map (·.performance.status) =
        some (.paused .confirm) := by rfl
    obtain ⟨i, hactive, hi⟩ := Option.map_eq_some_iff.1 hstatus
    have htyping : annGreets.world.scene.screen.isTyping = true := by rfl
    obtain ⟨hskips, _, htwice⟩ := (confirm_never_sticks rfl hchronicle hactive).1 hi
    obtain ⟨_, m, hcurrent, _, hshown⟩ := hskips htyping
    exact ⟨i, hactive, hi, htyping, ⟨m, hcurrent, hshown⟩, htwice [16, 16]⟩
  · have hchronicle : Chronicle (fun s s' => ∃ store cast disk, s' = { s with store, cast, disk })
        (opening {} annAlone) _ annSentAgain :=
      .move (.begin "Ann" "Ben" [walkOff]) (.move (.abandon 1) (.move (.begin "Ann" "Ben" [walkOff])
        .opens))
    have hstatus : annSentAgain.session.active.map (·.performance.status) =
        some (.paused (.walk "Ann")) := by rfl
    obtain ⟨i, hactive, hi⟩ := Option.map_eq_some_iff.1 hstatus
    have hwaits : Waits [.confirm 2, .tick 16, .confirm 1] [16] :=
      .confirm 2 (.tick 16 (.confirm 1 .nil))
    have hfresh : annAlone.scene.screen = .ofSpeed (UInt64.size - 1) := rfl
    obtain ⟨revealed, _, hafter, _⟩ :=
      (confirm_never_sticks hfresh hchronicle hactive).2 (.inr ⟨_, hi⟩) _ _ hwaits
    exact ⟨i, hactive, hi, revealed, hafter⟩

end Story

end Cutscene
