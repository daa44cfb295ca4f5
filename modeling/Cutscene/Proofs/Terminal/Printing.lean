import Cutscene.Proofs.Session.Appearing
import Cutscene.Proofs.Terminal.Walkers
/-!
# What is printed

Typing a text out prints the part of it that has appeared, frame by frame; the parts add up to the
text, whatever its characters and however fast they appear (`typeOut_output`).  So printing the
screen prints each entry of the transcript once, in full and in order (`render_eq`).  What a
turn adds to the transcript is an arrival (`Appears`), and so a turn prints what it arrives at.
-/

namespace Cutscene

theorem Screen.currentText_eq_some_iff {s : Screen} {text : String} :
    s.currentText = some text ↔ s.box.visible = true ∧ s.box.text = text := by
  unfold currentText
  split <;> simp_all

namespace Terminal

/-- The line for an option of a choice. -/
def optionLine : String × Nat → String
  | (label, i) => toString (i + 1) ++ ". " ++ label

/-- The options of a choice in print. -/
def listing (labels : List String) : String :=
  "--- Choice ---" ++ "\n" ++ String.join (labels.zipIdx.map (optionLine · ++ "\n")) ++ "\n"

/-- An entry of the transcript in print. -/
def printout : ScreenEntry → String
  | .text text => text ++ "\n"
  | .choices labels => listing labels
  | .balance label => s!"[Balance: {label}]" ++ "\n"

/-- Entries of the transcript in print, one after another. -/
def printouts (entries : List ScreenEntry) : String :=
  String.join (entries.map printout)

namespace Game

variable {g g' : Game}

/-! ## Typing a text out -/

/-- What is printed first and what is printed then is all that was to be printed. -/
theorem ofList_take_drop (cs : List Char) (revealed printed : Nat) :
    String.ofList ((cs.take revealed).drop printed) ++
        String.ofList (cs.drop (printed + ((cs.take revealed).drop printed).length)) =
      String.ofList (cs.drop printed) := by
  have hprefix : (cs.take revealed).drop printed <+: cs.drop printed := by
    rw [List.drop_take]
    exact List.take_prefix _ _
  rw [← String.ofList_append, ← List.drop_drop, List.prefix_iff_eq_append.1 hprefix]

theorem typeOut_eq (g : Game) (printed fuel : Nat) :
    g.typeOut printed (fuel + 1) =
      let fresh := (g.box.text.toList.take g.box.revealed).drop printed
      if g.box.isTyping then
        (g.frame (String.ofList fresh)).typeOut (printed + fresh.length) fuel
      else g.print (String.ofList fresh) := by
  have hshown : g.world.scene.screen.box.shown.toList =
      g.box.text.toList.take g.box.revealed := String.toList_ofList
  simp only [typeOut, hshown]
  rfl

theorem typeOut_output (hvisible : g.box.visible = true) (hspeed : 0 < g.box.speed)
    (printed : Nat) {fuel : Nat} (hfuel : g.unseen < fuel) :
    (g.typeOut printed fuel).output =
      g.output ++ String.ofList (g.box.text.toList.drop printed) := by
  -- each frame hides less of the text, so the fuel lasts until all of it has appeared
  induction fuel generalizing g printed with
  | zero => exact absurd hfuel (Nat.not_lt_zero _)
  | succ fuel ih =>
      rw [typeOut_eq]
      dsimp only
      split
      · rename_i htyping
        obtain ⟨fresh, hfresh⟩ :
            ∃ fresh, fresh = (g.box.text.toList.take g.box.revealed).drop printed := ⟨_, rfl⟩
        have hprinted := g.frame_printed (String.ofList fresh)
        have hless := unseen_frame hspeed htyping (String.ofList fresh)
        rw [← hfresh, ih (hprinted.visible.trans hvisible) (speed_frame hspeed _) _ (by omega),
          hprinted.text, ← ofList_take_drop _ g.box.revealed printed, ← hfresh]
        exact String.append_assoc
      · rename_i htyping
        have hall : g.box.text.toList.length ≤ g.box.revealed := by
          simpa [Typewriter.isTyping, hvisible, String.length_toList] using htyping
        rw [List.take_of_length_le hall]
        rfl

/-! ## Going through the transcript -/

theorem foldl_printLine_output (g : Game) {α : Type} (line : α → String) (xs : List α) :
    (xs.foldl (fun g x => g.printLine (line x)) g).output =
      g.output ++ String.join (xs.map (line · ++ "\n")) := by
  induction xs generalizing g with
  | nil => exact (String.append_empty).symm
  | cons x xs ih =>
      rw [List.foldl_cons, ih, List.map_cons, String.join_cons, ← String.append_assoc]
      rfl

theorem renderEntry_output (hspeed : 0 < g.box.speed) (entry : ScreenEntry) :
    (g.renderEntry entry).output = g.output ++ printout entry := by
  cases entry with
  | text text =>
      simp only [renderEntry]
      split
      · rename_i hshown
        obtain ⟨hvisible, htext⟩ := Screen.currentText_eq_some_iff.1 hshown
        have hfuel : g.unseen < text.length + 1 := by
          rw [← htext]
          exact Nat.lt_succ_of_le (Nat.sub_le _ _)
        have htyped := typeOut_output hvisible hspeed 0 hfuel
        rw [List.drop_zero, String.ofList_toList] at htyped
        rw [printLine, print, htyped, ← htext]
        exact String.append_assoc
      · rfl
  | choices labels =>
      have hlines := foldl_printLine_output (g.printLine "--- Choice ---") optionLine labels.zipIdx
      have hassoc (a b c d : String) : a ++ b ++ c ++ d = a ++ (b ++ c ++ d) := by
        rw [String.append_assoc, String.append_assoc, String.append_assoc]
      exact (congrArg (· ++ "\n") hlines).trans (hassoc _ _ _ _)
  | balance label => rfl

/-- Every entry is printed once, in full and in order. -/
theorem foldl_renderEntry_output (hspeed : 0 < g.box.speed) (entries : List ScreenEntry) :
    (entries.foldl renderEntry g).output = g.output ++ printouts entries := by
  induction entries generalizing g with
  | nil => exact (String.append_empty).symm
  | cons entry entries ih =>
      have hkept : 0 < (g.renderEntry entry).box.speed := by
        rw [(g.renderEntry_printed entry).speed]
        exact hspeed
      rw [List.foldl_cons, ih hkept, renderEntry_output hspeed, printouts, printouts,
        List.map_cons, String.join_cons, String.append_assoc]

/-- All that has appeared and is not printed yet. -/
def transcript (g : Game) : List ScreenEntry :=
  g.world.scene.screen.transcript

/-- The transcript is printed, and more of the text in the box may have appeared. -/
theorem render_eq (hspeed : 0 < g.box.speed) :
    ∃ box : Typewriter, box.visible = g.box.visible ∧ box.text = g.box.text ∧
      g.render = { g with
        world.scene.screen := { g.world.scene.screen with box, transcript := [] }
        output := g.output ++ printouts g.transcript } := by
  have hprinted : Printed (g.setScreen g.world.scene.screen.drain.2) g.render :=
    foldl_renderEntry_printed _ g.transcript
  have houtput : g.render.output = g.output ++ printouts g.transcript :=
    foldl_renderEntry_output (g := g.setScreen g.world.scene.screen.drain.2) hspeed _
  obtain ⟨output, heq⟩ := hprinted.eq
  obtain rfl : output = g.output ++ printouts g.transcript := by
    rw [← houtput, heq]
    rfl
  exact ⟨g.render.box, hprinted.visible, hprinted.text, heq⟩

/-! ## What appears in a turn -/

/-- Nothing has been printed, and what is new in the transcript is what the session has arrived at,
or nothing. -/
structure Appears (g g' : Game) (entries : List ScreenEntry) : Prop where
  output : g'.output = g.output
  transcript : g'.transcript = g.transcript ++ entries
  arrival : (entries = [] ∧ g'.session = g.session) ∨
    (g.session.Advances g'.session ∧ g'.session.IsArrival entries)

namespace Appears

variable {g₁ : Game} {xs ys : List ScreenEntry}

theorem refl (g : Game) : g.Appears g [] :=
  ⟨rfl, (List.append_nil _).symm, .inl ⟨rfl, rfl⟩⟩

/-- Nothing but balances appears on the way to a walk. -/
theorem eq_balances (h : g.Appears g' xs) (hdisplay : g'.session.display = []) :
    ∃ labels : List String, xs = labels.map .balance := by
  rcases h.arrival with ⟨rfl, _⟩ | ⟨_, labels, rfl⟩
  · exact ⟨[], rfl⟩
  · exact ⟨labels, by rw [hdisplay, List.append_nil]⟩

theorem trans (h : g.Appears g₁ xs) (hdisplay : g₁.session.display = [])
    (h' : g₁.Appears g' ys) : g.Appears g' (xs ++ ys) where
  output := h'.output.trans h.output
  transcript := by rw [h'.transcript, h.transcript, List.append_assoc]
  arrival := by
    obtain ⟨before, rfl⟩ := h.eq_balances hdisplay
    rcases h'.arrival with ⟨rfl, hsame⟩ | ⟨hadvances, labels, rfl⟩
    · rw [List.append_nil, hsame]
      exact h.arrival
    · refine .inr ⟨?_, before ++ labels, ?_⟩
      · rcases h.arrival with ⟨_, hsame⟩ | ⟨hbefore, _⟩
        · rwa [hsame] at hadvances
        · exact hbefore.trans hadvances
      · rw [List.map_append, List.append_assoc]

end Appears

/-- What a turn leads to, by what has appeared in it. -/
inductive Leaves (g : Game) : Round → Prop where
  | next {g' : Game} {entries : List ScreenEntry} : g.Appears g' entries → Leaves g (.next g')
  | done {g' : Game} (labels : List String) : g'.output = g.output →
      g'.transcript = g.transcript ++ labels.map .balance → Leaves g (.done g')
  | failed {g' : Game} {failure : Failure} (labels : List String) : g'.output = g.output →
      g'.transcript = g.transcript ++ labels.map .balance → Leaves g (.failed g' failure)

theorem Leaves.of_appears {g₁ : Game} {xs : List ScreenEntry} {round : Round}
    (h : g.Appears g₁ xs) (hdisplay : g₁.session.display = []) (hleaves : g₁.Leaves round) :
    g.Leaves round := by
  obtain ⟨before, rfl⟩ := h.eq_balances hdisplay
  cases hleaves with
  | next happears => exact .next (h.trans hdisplay happears)
  | done labels houtput hends =>
      apply Leaves.done (before ++ labels) (houtput.trans h.output)
      rw [hends, h.transcript, List.map_append, List.append_assoc]
  | failed labels houtput hends =>
      apply Leaves.failed (before ++ labels) (houtput.trans h.output)
      rw [hends, h.transcript, List.map_append, List.append_assoc]

/-! ### Cues and walks -/

theorem InOrder.take_appears (h : g.InOrder) {cue : Cue}
    (htake : g.take (g.session.feed g.token cue g.world.scene) = .next g') :
    ∃ entries, g.Appears g' entries := by
  obtain ⟨status, _, rfl⟩ := take_eq_next htake
  rcases Session.feed_appears h.sound g.token cue g.world.scene with
    ⟨hsession, hscene⟩ | ⟨hadvances, entries, htranscript, harrival⟩
  · refine ⟨[], rfl, ?_, .inl ⟨rfl, hsession⟩⟩
    rw [List.append_nil, transcript, hscene]
    rfl
  · exact ⟨entries, rfl, htranscript, .inr ⟨hadvances, harrival⟩⟩

theorem ticked_appears (g : Game) : g.Appears g.ticked [] :=
  ⟨rfl, (List.append_nil _).symm, .inl ⟨rfl, rfl⟩⟩

theorem Attended.frame_appears (h : g.Attended) {answer : Option Status}
    (hhand : g.ticked.handIn none g.returned = (.next g', answer)) :
    ∃ entries, g.Appears g' entries := by
  have hone : g.returned.length ≤ 1 := h.oneWalker.returned
  -- nobody but the awaited walker walks, so a frame has one arrival to hand in at most
  cases hreturned : g.returned with
  | nil =>
      rw [hreturned] at hhand
      obtain ⟨hsame, _⟩ := Prod.mk.inj hhand
      rw [← Round.next.inj hsame]
      exact ⟨[], g.ticked_appears⟩
  | cons ticket rest =>
      obtain rfl : rest = [] := by
        rw [hreturned] at hone
        exact List.length_eq_zero_iff.1 (Nat.le_zero.1 (Nat.le_of_succ_le_succ hone))
      rw [hreturned, handIn] at hhand
      split at hhand
      · rename_i g₁ htake
        obtain ⟨hsame, _⟩ := Prod.mk.inj hhand
        obtain rfl := Round.next.inj hsame
        obtain ⟨entries, happears⟩ := h.ticked_inOrder.take_appears htake
        exact ⟨entries, happears.output, happears.transcript, happears.arrival⟩
      · rename_i round hstops
        exact absurd (Prod.mk.inj hhand).1 (hstops _)

/-- A frame leads to another one while somebody walks, and otherwise it ends the walk. -/
theorem Attended.frame_goes (h : g.Attended) {walker : String}
    (hwalk : g.status = .paused (.walk walker)) :
    ∃ g₁ entries, g₁.Attended ∧ g.Appears g₁ entries ∧
      ((∃ next, g₁.status = .paused (.walk next) ∧ ∀ actor frames,
          g.simulateWalk actor (frames + 1) = g₁.simulateWalk actor frames) ∨
        ∀ actor frames, g.simulateWalk actor (frames + 1) = .next g₁) := by
  obtain ⟨g₁, answer, hhand, hattended, hanswer⟩ := h.frame hwalk
  obtain ⟨entries, happears⟩ := h.frame_appears hhand
  refine ⟨g₁, entries, hattended, happears, ?_⟩
  by_cases hgoes : ∃ next, g₁.status = .paused (.walk next)
  · obtain ⟨next, hnext⟩ := hgoes
    refine .inl ⟨next, hnext, fun actor => simulateWalk_goes_on hhand ?_ (hattended.walking hnext)⟩
    rintro status rfl
    rcases hanswer with ⟨hnone, _⟩ | hsome
    · cases hnone
    · exact ⟨next, (Option.some.inj hsome).trans hnext⟩
  · have hother : ∀ next, g₁.status ≠ .paused (.walk next) := not_exists.1 hgoes
    rcases hanswer with ⟨_, hsame⟩ | rfl
    · exact absurd (hsame.trans hwalk) (hother walker)
    · exact .inr fun actor => simulateWalk_stops hhand hother

theorem Attended.display_eq_nil (h : g.Attended) {walker : String}
    (hwalk : g.status = .paused (.walk walker)) : g.session.display = [] := by
  have hstands := h.stands
  rw [hwalk] at hstands
  exact hstands.display_eq_nil h.sound

theorem Attended.simulateWalk_leaves (h : g.Attended) {walker : String}
    (hwalk : g.status = .paused (.walk walker)) (actor : String) (frames : Nat) :
    g.Leaves (g.simulateWalk actor frames) := by
  induction frames generalizing g walker with
  | zero => exact .failed [] rfl (List.append_nil _).symm
  | succ frames ih =>
      obtain ⟨g₁, entries, hattended, happears, ⟨next, hnext, hgoes⟩ | hstops⟩ :=
        h.frame_goes hwalk
      · rw [hgoes]
        exact .of_appears happears (hattended.display_eq_nil hnext) (ih hattended hnext)
      · rw [hstops]
        exact .next happears

/-! ### Turns -/

/-- What a terminal says of its own in a turn. -/
def remark (g : Game) (line : String) : String :=
  match g.status with
  | .paused (.walk actor) => s!"({actor} is walking...)" ++ "\n"
  | .paused waitsFor =>
    if Text.trim line = "q" then "Goodbye!" ++ "\n"
    else if waitsFor = .choice ∧ choiceOf? (Text.trim line) = none then
      "Invalid choice. Enter 1-9." ++ "\n"
    else ""
  | _ => ""

theorem print_empty (g : Game) : g.print "" = g := by
  rw [print, String.append_empty]

theorem Attended.cue_leaves (h : g.Attended) {waitsFor : Suspension}
    (hpaused : g.status = .paused waitsFor) (hother : ∀ walker, waitsFor ≠ .walk walker)
    (cue : Cue) : g.Leaves (g.take (g.session.feed g.token cue g.world.scene)) := by
  have hnobody : g.cast.tickets = [] := h.nobody fun walker hwalk =>
    hother walker (Status.paused.inj (hpaused.symm.trans hwalk))
  obtain ⟨g', htake, _⟩ := h.feed hpaused hnobody cue
  obtain ⟨entries, happears⟩ := h.take_appears htake
  rw [htake]
  exact .next happears

theorem InOrder.quit_leaves (h : g.InOrder) {waitsFor : Suspension}
    (hpaused : g.status = .paused waitsFor) : (g.printLine "Goodbye!").Leaves g.quit := by
  obtain ⟨i, hactive, htoken⟩ := h.exists_active hpaused
  rw [quit, ← htoken, Session.abandon_of_active hactive]
  exact .done [] rfl (List.append_nil _).symm

theorem Attended.answer_leaves (h : g.Attended) (hstill : g.world.scene.screen.isTyping = false)
    {waitsFor : Suspension} (hpaused : g.status = .paused waitsFor)
    (hother : ∀ walker, waitsFor ≠ .walk walker) (line : String) :
    (g.print (g.remark line)).Leaves (g.answer line) := by
  by_cases hquit : Text.trim line = "q"
  · have hremark : g.remark line = "Goodbye!" ++ "\n" := by
      cases waitsFor with
      | walk walker => exact absurd rfl (hother walker)
      | confirm | choice => simp [remark, hpaused, hquit]
    simp only [Game.answer, if_pos hquit, hremark]
    exact h.quit_leaves hpaused
  have hsilent : g.remark line = "" → g.Leaves (g.answer line) →
      (g.print (g.remark line)).Leaves (g.answer line) := by
    intro hnone hleaves
    rwa [hnone, print_empty]
  cases waitsFor with
  | walk walker => exact absurd rfl (hother walker)
  | confirm =>
      refine hsilent (by simp [remark, hpaused, hquit]) ?_
      have hnot : g.status ≠ .paused .choice := by simp [hpaused]
      simp only [Game.answer, if_neg hquit, if_neg hnot, Session.confirm_of_still hstill]
      exact h.cue_leaves hpaused hother .confirm
  | choice =>
      cases hchoice : choiceOf? (Text.trim line) with
      | some n =>
          refine hsilent (by simp [remark, hpaused, hquit, hchoice]) ?_
          simp only [Game.answer, if_neg hquit, if_pos hpaused, hchoice]
          exact h.cue_leaves hpaused hother (.choose (n - 1))
      | none =>
          have hremark : g.remark line = "Invalid choice. Enter 1-9." ++ "\n" := by
            simp [remark, hpaused, hquit, hchoice]
          simp only [Game.answer, if_neg hquit, if_pos hpaused, hchoice, hremark]
          exact .next (.refl _)

theorem Attended.step_leaves (h : g.Attended) (hstill : g.world.scene.screen.isTyping = false)
    (line : String) : (g.print (g.remark line)).Leaves (g.step line) := by
  unfold Game.step
  split
  · rename_i actor hwalk
    have hannounced : (g.announced actor).Attended := h.with_output _
    have hremark : g.print (g.remark line) = g.announced actor := by
      rw [remark, hwalk]
      rfl
    rw [hremark]
    exact hannounced.simulateWalk_leaves hwalk actor walkFrames
  · rename_i waitsFor hother hpaused
    exact h.answer_leaves hstill hpaused hother line
  · rename_i hidle
    have hremark : g.remark line = "" := by
      cases hstatus : g.status with
      | paused waitsFor => exact (hidle waitsFor hstatus).elim
      | idle | finished => rw [remark, hstatus]
    rw [hremark, print_empty]
    exact .done [] rfl (List.append_nil _).symm

/-- What a turn prints behind its prompt and its remark.  It leads to a turn with nothing left to
print, and it has printed what the session has arrived at, or nothing when the session is as it was;
or it is the last one and prints no more, and nothing is left unprinted but balances. -/
inductive Prints (g : Game) (line : String) : Round → Prop where
  | next {g' : Game} (entries : List ScreenEntry) :
      g'.output = g.beforeRound.output ++ g.remark line ++ printouts entries →
      (entries = [] ∧ g'.session = g.session) ∨
        (g.session.Advances g'.session ∧ g'.session.IsArrival entries) →
      g'.transcript = [] → Prints g line (.next g')
  | done {g' : Game} (labels : List String) :
      g'.output = g.beforeRound.output ++ g.remark line →
      g'.transcript = labels.map .balance → Prints g line (.done g')
  | failed {g' : Game} {failure : Failure} (labels : List String) :
      g'.output = g.beforeRound.output ++ g.remark line →
      g'.transcript = labels.map .balance → Prints g line (.failed g' failure)

theorem InOrder.render_prints (h : g.InOrder) :
    g.render.output = g.output ++ printouts g.transcript ∧ g.render.transcript = [] ∧
      g.render.session = g.session := by
  obtain ⟨box, _, _, hrender⟩ := render_eq h.announces.speed_pos
  rw [hrender]
  exact ⟨rfl, rfl, rfl⟩

theorem Attended.round_prints (h : g.Attended) (hstill : g.world.scene.screen.isTyping = false)
    (hprinted : g.transcript = []) (line : String) : g.Prints line (g.round line) := by
  obtain ⟨hattended, hstatus, hworld⟩ := h.beforeRound
  obtain ⟨output, hbefore⟩ := g.beforeRound_eq
  have hleaves := hattended.step_leaves (by rwa [hworld]) line
  have hsession : g.beforeRound.session = g.session := by rw [hbefore]
  have hremark : g.beforeRound.remark line = g.remark line := by rw [remark, remark, hstatus]
  have hspoken : (g.beforeRound.print (g.beforeRound.remark line)).output =
      g.beforeRound.output ++ g.remark line := congrArg (g.beforeRound.output ++ ·) hremark
  have hempty : (g.beforeRound.print (g.beforeRound.remark line)).transcript = [] := by
    rw [← hprinted, transcript, transcript, ← hworld]
    rfl
  have hinOrder : ∀ g₁, g.beforeRound.step line = .next g₁ → g₁.InOrder := by
    intro g₁ hstep
    have horderly := hattended.step (by rwa [hworld]) line
    rw [hstep] at horderly
    cases horderly with
    | next hnext => exact hnext.toInOrder
  rw [round_eq]
  cases hstep : g.beforeRound.step line with
  | next g₁ =>
      rw [hstep] at hleaves
      cases hleaves with
      | @next _ entries happears =>
          obtain ⟨hprints, hnothing, hsame⟩ := (hinOrder g₁ hstep).render_prints
          have hshown : g₁.transcript = entries := by
            rw [happears.transcript, hempty, List.nil_append]
          refine .next entries ?_ ?_ hnothing
          · rw [hprints, happears.output, hshown, hspoken]
          · rw [hsame, ← hsession]
            exact happears.arrival
  | done g₁ =>
      rw [hstep] at hleaves
      cases hleaves with
      | done labels houtput hends =>
          exact .done labels (houtput.trans hspoken) (by rw [hends, hempty, List.nil_append])
  | failed g₁ failure =>
      rw [hstep] at hleaves
      cases hleaves with
      | failed labels houtput hends =>
          exact .failed labels (houtput.trans hspoken) (by rw [hends, hempty, List.nil_append])

/-- At a message without choices every line but the one that gives up gets on in the script. -/
theorem Ready.confirm_advances (hready : g.Ready) (h : g.Attended) (hprinted : g.transcript = [])
    (hconfirm : g.status = .paused .confirm) {line : String} (hline : Text.trim line ≠ "q") :
    ∃ g', g.round line = .next g' ∧ g.session.Advances g'.session := by
  obtain ⟨hattended, hstatus, hworld⟩ := h.beforeRound
  have hpaused : g.beforeRound.status = .paused .confirm := hstatus.trans hconfirm
  have hnobody : g.beforeRound.cast.tickets = [] :=
    hattended.nobody fun walker hwalk => by simp [hpaused] at hwalk
  obtain ⟨g₁, htake, _⟩ := hattended.feed hpaused hnobody .confirm
  have hstep : g.beforeRound.step line = .next g₁ := by
    have hstill : g.beforeRound.world.scene.screen.isTyping = false := by
      rw [hworld]
      exact hready.still
    have hnot : g.beforeRound.status ≠ .paused .choice := by simp [hpaused]
    rw [step, hpaused]
    dsimp only
    simp only [answer, if_neg hline, if_neg hnot, Session.confirm_of_still hstill]
    exact htake
  have hround : g.round line = .next g₁.render := by rw [round_eq, hstep]
  refine ⟨g₁.render, hround, ?_⟩
  have hprints := h.round_prints hready.still hprinted line
  rw [hround] at hprints
  cases hprints with
  | next entries _ harrival _ =>
      rcases harrival with ⟨_, hsame⟩ | ⟨hadvances, _⟩
      · rcases (hready.round hround).2 with hlt | ⟨_, _, hchoice⟩
        · rw [hsame] at hlt
          exact absurd hlt (Nat.lt_irrefl _)
        · simp [hconfirm] at hchoice
      · exact hadvances

theorem Attended.transcript_of_leads {lines rest : List String} (hready : g.Ready)
    (h : g.Attended) (hprinted : g.transcript = []) (hleads : g.Leads lines g' rest) :
    g'.transcript = [] := by
  induction hleads with
  | here => exact hprinted
  | @turn g g₁ _ lines _ hround _ ih =>
      have hprints := h.round_prints hready.still hprinted (g.read lines).1
      have horderly := h.round hready.still (g.read lines).1
      rw [hround] at hprints horderly
      cases hprints with
      | next _ _ _ hnothing =>
          cases horderly with
          | next hattended => exact ih (hready.round hround).1 hattended hnothing

end Game

/-! ## The whole command -/

section

variable {o : Options} {d : Disk} {lines rest : List String} {g : Game}

theorem Setup.begin_prints {setup : Setup} (h : setup.begin o d = .next g) :
    ∃ entries, g.output = Game.banner ++ printouts entries ∧ g.session.IsArrival entries ∧
      g.transcript = [] := by
  obtain ⟨token, status, hanswer, rfl⟩ := Setup.begin_eq_next h
  obtain ⟨houtput, hnothing, hsession⟩ := (Setup.begun_inOrder hanswer).1.render_prints
  obtain ⟨entries, htranscript, harrival⟩ := Session.begin_appears (Answer.begun.inj hanswer)
  refine ⟨entries, ?_, by rw [hsession]; exact harrival, hnothing⟩
  rw [houtput]
  exact congrArg (Game.banner ++ printouts ·) htranscript

theorem Reaches.transcript_eq_nil (h : Reaches o d lines g rest) : g.transcript = [] := by
  obtain ⟨setup, first, _, hbegin, hleads⟩ := h
  obtain ⟨_, _, _, hprinted⟩ := Setup.begin_prints hbegin
  have hready := (Setup.begin_ready hbegin).1
  exact (Setup.begin_attended hbegin).transcript_of_leads hready hprinted hleads

end

end Terminal

end Cutscene
