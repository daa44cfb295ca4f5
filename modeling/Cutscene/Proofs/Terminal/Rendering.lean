import Cutscene.Proofs.Session.Typing
import Cutscene.Terminal.Play
/-!
# What printing the screen changes

A terminal prints what has appeared on the screen, and lets frames pass for the screen until a text
has appeared.  `Printed` is all that this changes of a game: the output, and how much of the text
has appeared.  Typing a text out stops because all of the text has appeared, whatever bound it is
given above the number of characters (`typeOut_fuel`), and behind `render` no text is left that is
still appearing (`render_spec`).
-/

namespace Cutscene.Terminal.Game

/-- The box of text on the screen of a game. -/
def box (g : Game) : Typewriter :=
  g.world.scene.screen.box

/-- The game with another box on its screen, and another output. -/
def paint (g : Game) (box : Typewriter) (output : String) : Game :=
  { g with world.scene.screen.box := box, output := output }

/-- Nothing has changed but the output and how much of the text has appeared. -/
structure Printed (g g' : Game) : Prop where
  eq : ∃ output, g' = g.paint g'.box output
  visible : g'.box.visible = g.box.visible
  text : g'.box.text = g.box.text
  speed : g'.box.speed = g.box.speed
  typing : g'.box.isTyping = true → g.box.isTyping = true

namespace Printed

theorem refl (g : Game) : Printed g g :=
  ⟨⟨g.output, rfl⟩, rfl, rfl, rfl, id⟩

theorem trans {g₁ g₂ g₃ : Game} (h : Printed g₁ g₂) (h' : Printed g₂ g₃) : Printed g₁ g₃ where
  eq := by
    obtain ⟨_, heq⟩ := h.eq
    obtain ⟨output, heq'⟩ := h'.eq
    refine ⟨output, ?_⟩
    rw [heq] at heq'
    exact heq'
  visible := h'.visible.trans h.visible
  text := h'.text.trans h.text
  speed := h'.speed.trans h.speed
  typing htyping := h.typing (h'.typing htyping)

theorem foldl {α : Type} {f : Game → α → Game} (h : ∀ g x, Printed g (f g x)) (g : Game)
    (xs : List α) : Printed g (xs.foldl f g) := by
  induction xs generalizing g with
  | nil => exact .refl g
  | cons x xs ih => exact (h g x).trans (ih (f g x))

theorem print (g : Game) (text : String) : Printed g (g.print text) :=
  ⟨⟨_, rfl⟩, rfl, rfl, rfl, id⟩

theorem printLine (g : Game) (text : String) : Printed g (g.printLine text) :=
  .print g _

theorem tick (g : Game) : Printed g (g.setScreen g.world.scene.screen.tick) where
  eq := ⟨g.output, rfl⟩
  visible := g.box.tick_visible
  text := g.box.tick_text
  speed := g.box.tick_speed
  typing := Typewriter.isTyping_of_tick

end Printed

/-! ## Typing a text out -/

/-- The number of characters that have not appeared. -/
def unseen (g : Game) : Nat :=
  g.box.text.length - g.box.revealed

/-- The game one frame later, behind what was printed in this one. -/
def frame (g : Game) (text : String) : Game :=
  (g.print text).setScreen g.world.scene.screen.tick

theorem frame_printed (g : Game) (text : String) : Printed g (g.frame text) :=
  (Printed.print g text).trans (.tick (g.print text))

theorem unseen_frame {g : Game} (hspeed : 0 < g.box.speed) (htyping : g.box.isTyping = true)
    (text : String) : (g.frame text).unseen < g.unseen := by
  have hlt : g.box.revealed < g.box.text.length := by
    simp only [Typewriter.isTyping, Bool.and_eq_true, decide_eq_true_eq] at htyping
    exact htyping.2
  have hrevealed : (g.frame text).box.revealed =
      min (g.box.revealed + g.box.speed) g.box.text.length := by
    change g.box.tick.revealed = _
    rw [Typewriter.tick, if_pos htyping]
  unfold unseen
  rw [hrevealed, (g.frame_printed text).text]
  omega

theorem speed_frame {g : Game} (hspeed : 0 < g.box.speed) (text : String) :
    0 < (g.frame text).box.speed := by
  rw [(g.frame_printed text).speed]
  exact hspeed

theorem typeOut_succ (g : Game) (printed fuel : Nat) :
    ∃ text printed', ∀ extra, g.typeOut printed (fuel + 1 + extra) =
      if g.box.isTyping then (g.frame text).typeOut printed' (fuel + extra) else g.print text := by
  refine ⟨String.ofList (g.box.shown.toList.drop printed),
    printed + (g.box.shown.toList.drop printed).length, fun extra => ?_⟩
  rw [Nat.succ_add]
  rfl

theorem typeOut_printed (g : Game) (printed fuel : Nat) : Printed g (g.typeOut printed fuel) := by
  induction fuel generalizing g printed with
  | zero => exact .refl g
  | succ fuel ih =>
      obtain ⟨text, printed', hnext⟩ := g.typeOut_succ printed fuel
      rw [hnext 0]
      split
      · exact (g.frame_printed text).trans (ih _ _)
      · exact .print g text

theorem typeOut_isTyping {g : Game} (hspeed : 0 < g.box.speed) (printed : Nat) {fuel : Nat}
    (hfuel : g.unseen < fuel) : (g.typeOut printed fuel).box.isTyping = false := by
  induction fuel generalizing g printed with
  | zero => exact absurd hfuel (Nat.not_lt_zero _)
  | succ fuel ih =>
      obtain ⟨text, printed', hnext⟩ := g.typeOut_succ printed fuel
      rw [hnext 0]
      split
      · rename_i htyping
        have hless := unseen_frame hspeed htyping text
        exact ih (speed_frame hspeed text) printed' (by omega)
      · rename_i htyping
        exact Bool.eq_false_iff.2 htyping

/-- More turns than characters make no difference. -/
theorem typeOut_fuel {g : Game} (hspeed : 0 < g.box.speed) (printed : Nat) {fuel : Nat}
    (hfuel : g.unseen < fuel) (extra : Nat) :
    g.typeOut printed (fuel + extra) = g.typeOut printed fuel := by
  induction fuel generalizing g printed with
  | zero => exact absurd hfuel (Nat.not_lt_zero _)
  | succ fuel ih =>
      obtain ⟨text, printed', hnext⟩ := g.typeOut_succ printed fuel
      have hfirst := hnext 0
      rw [Nat.add_zero, Nat.add_zero] at hfirst
      rw [hnext extra, hfirst]
      split
      · rename_i htyping
        have hless := unseen_frame hspeed htyping text
        exact ih (speed_frame hspeed text) printed' (by omega)
      · rfl

/-! ## Going through the transcript -/

theorem renderEntry_printed (g : Game) (entry : ScreenEntry) : Printed g (g.renderEntry entry) := by
  cases entry with
  | text text =>
      simp only [renderEntry]
      split
      · exact (g.typeOut_printed _ _).trans (.printLine _ _)
      · exact .printLine g _
  | choices labels =>
      refine ((Printed.printLine g "--- Choice ---").trans (.foldl ?_ _ _)).trans (.printLine _ _)
      exact fun g _ => .printLine g _
  | balance label => exact .printLine g _

/-- The text in the box has appeared once the entry about it is printed. -/
theorem renderEntry_isTyping {g : Game} (hspeed : 0 < g.box.speed) :
    (g.renderEntry (.text g.box.text)).box.isTyping = false := by
  simp only [renderEntry]
  split
  · have hfuel : g.unseen < g.box.text.length + 1 := by
      unfold unseen
      omega
    exact typeOut_isTyping hspeed 0 hfuel
  · rename_i hother
    have hhidden : g.box.visible = false := by
      refine Bool.eq_false_iff.2 fun hvisible => hother ?_
      exact if_pos hvisible
    change (g.box.visible && _) = false
    rw [hhidden]
    rfl

theorem foldl_renderEntry_printed (g : Game) (entries : List ScreenEntry) :
    Printed g (entries.foldl renderEntry g) :=
  .foldl renderEntry_printed g entries

theorem foldl_renderEntry_isTyping {g : Game} (hspeed : 0 < g.box.speed)
    {entries : List ScreenEntry} (hmem : .text g.box.text ∈ entries) :
    (entries.foldl renderEntry g).box.isTyping = false := by
  induction entries generalizing g with
  | nil => simp at hmem
  | cons entry entries ih =>
      have hprinted := g.renderEntry_printed entry
      rw [List.foldl_cons]
      rcases List.mem_cons.1 hmem with rfl | hmem
      · have hdone := renderEntry_isTyping hspeed
        refine Bool.eq_false_iff.2 fun htyping => ?_
        have hbefore := (foldl_renderEntry_printed _ entries).typing htyping
        rw [hdone] at hbefore
        exact Bool.false_ne_true hbefore
      · rw [← hprinted.text] at hmem
        rw [← hprinted.speed] at hspeed
        exact ih hspeed hmem

/-- **Behind the printing.** All that has appeared is printed, nothing is still appearing, and
nothing has changed but output, transcript and how much of the text has appeared. -/
theorem render_spec {g : Game} (h : g.world.scene.screen.Announces) :
    ∃ screen output, g.render = { g with world.scene.screen := screen, output := output } ∧
      screen.Announces ∧ screen.isTyping = false ∧ screen.transcript = [] ∧
      screen.currentText = g.world.scene.screen.currentText ∧
      screen.choices = g.world.scene.screen.choices ∧
      screen.balance = g.world.scene.screen.balance := by
  obtain ⟨drained, hdrained⟩ : ∃ drained, drained = g.setScreen g.world.scene.screen.drain.2 :=
    ⟨_, rfl⟩
  have hrender : g.render = g.world.scene.screen.transcript.foldl renderEntry drained := by
    rw [hdrained]
    rfl
  have hbox : drained.box = g.box := by
    rw [hdrained]
    rfl
  have hprinted := foldl_renderEntry_printed drained g.world.scene.screen.transcript
  rw [← hrender] at hprinted
  have htyping : g.render.box.isTyping = false := by
    by_cases hbefore : g.box.isTyping = true
    · have hmem : ScreenEntry.text g.box.text ∈ g.world.scene.screen.transcript :=
        h.announced hbefore
      rw [hrender]
      rw [← hbox] at hmem
      apply foldl_renderEntry_isTyping _ hmem
      rw [hbox]
      exact h.speed_pos
    · refine Bool.eq_false_iff.2 fun hafter => hbefore ?_
      rw [← hbox]
      exact hprinted.typing hafter
  have hspeed : 0 < g.render.box.speed := by
    rw [hprinted.speed, hbox]
    exact h.speed_pos
  obtain ⟨output, heq⟩ := hprinted.eq
  refine ⟨{ drained.world.scene.screen with box := g.render.box }, output, ?_,
    .still hspeed htyping, htyping, ?_, ?_, ?_, ?_⟩
  · rw [hdrained] at heq ⊢
    exact heq
  · rw [hdrained]
    rfl
  · apply Screen.currentText_eq
    · exact hprinted.visible.trans (congrArg Typewriter.visible hbox)
    · exact hprinted.text.trans (congrArg Typewriter.text hbox)
  · rw [hdrained]
    rfl
  · rw [hdrained]
    rfl

end Cutscene.Terminal.Game
