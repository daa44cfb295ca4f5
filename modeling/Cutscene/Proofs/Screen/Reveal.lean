import Cutscene.Screen
import Mathlib.Logic.Function.Iterate
/-!
# How much of a text has appeared

The counter of a box of text stops at the end of the text, stands still while the box is hidden and
is set by skipping, and a screen gives it a frame's start.  Nevertheless there is a formula for it:
as many characters as the speed times the frames that passed while the box was visible, up to all of
them (`Counts`).  The sum that a frame makes also comes out right in words of 64 bits, where it
stays at the largest word.
-/

namespace Cutscene

namespace Typewriter

/-! ## Calls -/

/-- The calls of a box of text. -/
inductive Call where
  | setText (text : String)
  | clear
  | appear
  | hide
  | skip
  | tick
  deriving DecidableEq, Repr

def answer (t : Typewriter) : Call → Typewriter
  | .setText text => t.setText text
  | .clear => t.clear
  | .appear => t.appear
  | .hide => t.hide
  | .skip => t.skip
  | .tick => t.tick

def after (t : Typewriter) (calls : List Call) : Typewriter :=
  calls.foldl answer t

/-- What may happen to a box that keeps its text. -/
inductive Interlude where
  | tick
  | appear
  | hide
  deriving DecidableEq, Repr

def during (t : Typewriter) (calls : List Interlude) : Typewriter :=
  t.after (calls.map fun
    | .tick => .tick
    | .appear => .appear
    | .hide => .hide)

/-- A box of some history into which a text was put, and what happened to it then. -/
def telling (speed : Nat) (history : List Call) (text : String) (calls : List Interlude) :
    Typewriter :=
  (((ofSpeed speed).after history).setText text).during calls

/-- The number of frames that a box is visible in, told from whether it was visible before. -/
def framesSeen : Bool → List Interlude → Nat
  | visible, .tick :: calls => visible.toNat + framesSeen visible calls
  | _, .appear :: calls => framesSeen true calls
  | _, .hide :: calls => framesSeen false calls
  | _, [] => 0

theorem speed_after (t : Typewriter) (calls : List Call) : (t.after calls).speed = t.speed := by
  induction calls generalizing t with
  | nil => rfl
  | cons c calls ih =>
      have hspeed : (t.answer c).speed = t.speed := by
        cases c with
        | tick => exact t.tick_speed
        | _ => rfl
      exact (ih (t.answer c)).trans hspeed

/-! ## The counter -/

/-- The box shows a text, of which as much has appeared as in a number of frames. -/
structure Counts (t : Typewriter) (text : String) (frames : Nat) : Prop where
  text_eq : t.text = text
  revealed_eq : t.revealed = min text.length (t.speed * frames)

theorem setText_counts (t : Typewriter) (text : String) : (t.setText text).Counts text 0 :=
  ⟨rfl, by rw [Nat.mul_zero, Nat.min_zero]; rfl⟩

variable {t : Typewriter} {text : String} {frames : Nat}

/-- A frame counts just while the box is visible. -/
theorem Counts.tick (h : t.Counts text frames) :
    t.tick.Counts text (frames + t.visible.toNat) := by
  refine ⟨t.tick_text.trans h.text_eq, ?_⟩
  have hrevealed := h.revealed_eq
  rw [tick_speed, Nat.mul_add]
  cases hvisible : t.visible with
  | false =>
      have hsame : t.tick = t := if_neg (by simp [isTyping, hvisible])
      rw [hsame, hrevealed]
      rfl
  | true =>
      rw [Bool.toNat_true, Nat.mul_one]
      by_cases hmore : t.revealed < t.text.length
      · have htyping : t.isTyping = true := by simp [isTyping, hvisible, hmore]
        rw [Typewriter.tick, if_pos htyping, h.text_eq]
        rw [h.text_eq] at hmore
        dsimp only
        omega
      · have hsame : t.tick = t := if_neg (by simp [isTyping, hmore])
        rw [h.text_eq] at hmore
        rw [hsame]
        omega

theorem Counts.during (h : t.Counts text frames) (calls : List Interlude) :
    (t.during calls).Counts text (frames + framesSeen t.visible calls) := by
  induction calls generalizing t frames with
  | nil => exact h
  | cons c calls ih =>
      cases c with
      | tick =>
          have hnext := ih h.tick
          rwa [tick_visible, Nat.add_assoc] at hnext
      | appear => exact ih (t := t.appear) ⟨h.text_eq, h.revealed_eq⟩
      | hide => exact ih (t := t.hide) ⟨h.text_eq, h.revealed_eq⟩

theorem telling_counts (speed : Nat) (history : List Call) (text : String)
    (calls : List Interlude) :
    (telling speed history text calls).Counts text (framesSeen true calls) := by
  have hcounts := (setText_counts ((ofSpeed speed).after history) text).during calls
  rwa [Nat.zero_add] at hcounts

theorem telling_speed (speed : Nat) (history : List Call) (text : String)
    (calls : List Interlude) : (telling speed history text calls).speed = max speed 1 := by
  rw [telling, during, speed_after]
  exact speed_after (ofSpeed speed) history

theorem Counts.shown_eq (h : t.Counts text frames) :
    t.shown = String.ofList (text.toList.take (min text.length (t.speed * frames))) := by
  rw [shown, h.text_eq, h.revealed_eq]

theorem Counts.isTyping_iff (h : t.Counts text frames) :
    t.isTyping = true ↔ t.visible = true ∧ t.speed * frames < text.length := by
  rw [isTyping, Bool.and_eq_true, decide_eq_true_eq, h.text_eq, h.revealed_eq]
  exact and_congr_right fun _ => by omega

/-- What has appeared in full stays so. -/
theorem during_of_full (h : t.revealed = t.text.length) (calls : List Interlude) :
    (t.during calls).shown = t.text := by
  induction calls generalizing t with
  | nil =>
      change t.shown = t.text
      rw [shown, h, ← String.length_toList, List.take_length, String.ofList_toList]
  | cons c calls ih =>
      cases c with
      | tick =>
          have hsame : t.tick = t := if_neg (by simp [isTyping, h])
          change (t.tick.during calls).shown = t.text
          rw [hsame]
          exact ih h
      | appear => exact ih (t := t.appear) h
      | hide => exact ih (t := t.hide) h

/-! ## The counter in words -/

/-- The sum of two words of 64 bits, which stays at the largest word. -/
def addSaturating (a b : UInt64) : UInt64 :=
  if a + b < a then .ofNat (UInt64.size - 1) else a + b

/-- The next counter in words: the sum of counter and speed, up to the length of the text. -/
def advanceWord (revealed speed length : UInt64) : UInt64 :=
  if addSaturating revealed speed < length then addSaturating revealed speed else length

theorem toNat_addSaturating (a b : UInt64) :
    (addSaturating a b).toNat = min (a.toNat + b.toNat) (UInt64.size - 1) := by
  have ha := a.toNat_lt
  have hb := b.toNat_lt
  have hsum := UInt64.toNat_add a b
  have hsize : UInt64.size = 2 ^ 64 := rfl
  unfold addSaturating
  split
  · rename_i hless
    rw [UInt64.lt_iff_toNat_lt] at hless
    rw [UInt64.toNat_ofNat_of_lt' (by omega)]
    omega
  · rename_i hfits
    rw [UInt64.lt_iff_toNat_lt] at hfits
    omega

theorem toNat_advanceWord (revealed speed length : UInt64) :
    (advanceWord revealed speed length).toNat =
      min (revealed.toNat + speed.toNat) length.toNat := by
  have hlength := length.toNat_lt
  have hsize : UInt64.size = 2 ^ 64 := rfl
  have hsum := toNat_addSaturating revealed speed
  unfold advanceWord
  split
  · rename_i hless
    rw [UInt64.lt_iff_toNat_lt] at hless
    omega
  · rename_i hmore
    rw [UInt64.lt_iff_toNat_lt] at hmore
    omega

/-- A frame comes out the same in words when speed and length fit in one. -/
theorem revealed_tick_eq_word (htyping : t.isTyping = true) (hspeed : t.speed < UInt64.size)
    (hlength : t.text.length < UInt64.size) :
    t.tick.revealed =
      (advanceWord (.ofNat t.revealed) (.ofNat t.speed) (.ofNat t.text.length)).toNat := by
  have hless : t.revealed < t.text.length := by
    rw [isTyping, Bool.and_eq_true, decide_eq_true_eq] at htyping
    exact htyping.2
  rw [toNat_advanceWord, UInt64.toNat_ofNat_of_lt' (by omega), UInt64.toNat_ofNat_of_lt' hspeed,
    UInt64.toNat_ofNat_of_lt' hlength, tick, if_pos htyping]

end Typewriter

/-! ## Screens -/

namespace Screen

/-- The calls of a screen. -/
inductive Call where
  | showText (text : String)
  | hideText
  | showChoices (options : List Choice)
  | hideChoices
  | showBalance (amount : Float)
  | skipTyping
  | tick
  | drain

def answer (s : Screen) : Call → Screen
  | .showText text => s.showText text
  | .hideText => s.hideText
  | .showChoices options => s.showChoices options
  | .hideChoices => s.hideChoices
  | .showBalance amount => s.showBalance amount
  | .skipTyping => s.skipTyping
  | .tick => s.tick
  | .drain => s.drain.2

def after (s : Screen) (calls : List Call) : Screen :=
  calls.foldl answer s

theorem speed_after (s : Screen) (calls : List Call) :
    (s.after calls).box.speed = s.box.speed := by
  induction calls generalizing s with
  | nil => rfl
  | cons c calls ih =>
      have hspeed : (s.answer c).box.speed = s.box.speed := by
        cases c with
        | showText text => exact s.showText_speed text
        | tick => exact s.box.tick_speed
        | _ => rfl
      exact (ih (s.answer c)).trans hspeed

/-- A text that is shown has a frame's start. -/
theorem showText_counts (s : Screen) (text : String) :
    (s.showText text).box.Counts text 1 := by
  have hstart : ((s.box.clear.setText text).appear).Counts text 0 :=
    ⟨rfl, (Typewriter.setText_counts s.box.clear text).revealed_eq⟩
  have hnone : ((s.box.clear.setText text).appear).shown.isEmpty = true := by
    simp [Typewriter.shown, Typewriter.appear, Typewriter.setText]
  simp only [showText, write, hnone, Bool.and_true]
  generalize hbox : (s.box.clear.setText text).appear = box at hstart
  have hvisible : box.visible = true := by
    rw [← hbox]
    rfl
  split
  · have hnext := hstart.tick
    rwa [hvisible] at hnext
  · rename_i hdone
    -- there is nothing to show
    rw [hstart.isTyping_iff, Nat.mul_zero] at hdone
    have hempty : text.length = 0 := Nat.eq_zero_of_not_pos fun hpos => hdone ⟨hvisible, hpos⟩
    refine ⟨hstart.text_eq, hstart.revealed_eq.trans ?_⟩
    rw [hempty, Nat.zero_min, Nat.zero_min]

theorem box_ticks (s : Screen) (k : Nat) :
    (Screen.tick^[k] s).box = s.box.during (List.replicate k .tick) := by
  induction k generalizing s with
  | zero => rfl
  | succ k ih =>
      rw [Function.iterate_succ_apply, ih]
      rfl

theorem framesSeen_replicate (k : Nat) :
    Typewriter.framesSeen true (List.replicate k .tick) = k := by
  induction k with
  | zero => rfl
  | succ k ih =>
      rw [List.replicate_succ, Typewriter.framesSeen, ih, Bool.toNat_true, Nat.add_comm]

/-- A text is one frame ahead on a screen. -/
theorem shown_ticks (s : Screen) (text : String) (k : Nat) :
    (Screen.tick^[k] (s.showText text)).box.shown =
      String.ofList (text.toList.take (min text.length (s.box.speed * (k + 1)))) := by
  have hcounts := (s.showText_counts text).during (List.replicate k .tick)
  rw [s.showText_visible, framesSeen_replicate, ← box_ticks] at hcounts
  have hspeed : (Screen.tick^[k] (s.showText text)).box.speed = s.box.speed := by
    rw [box_ticks, Typewriter.during, Typewriter.speed_after, showText_speed]
  rw [hcounts.shown_eq, hspeed, Nat.add_comm]

end Screen

/-- **How much of a text has appeared.** A box of any history shows, of the text that is put into
it, as many characters as its speed times the frames that it was visible in, up to all of them, and
the text is still appearing while the box is visible and they are fewer.  What was skipped stays in
full, and on a screen it is a frame more.  In words of 64 bits every frame comes out the same. -/
theorem shown_after_frames (speed : Nat) (history : List Typewriter.Call) (text : String)
    (calls : List Typewriter.Interlude) :
    (Typewriter.telling speed history text calls).shown = String.ofList (text.toList.take
        (min text.length (max speed 1 * Typewriter.framesSeen true calls))) ∧
      ((Typewriter.telling speed history text calls).isTyping = true ↔
        (Typewriter.telling speed history text calls).visible = true ∧
          max speed 1 * Typewriter.framesSeen true calls < text.length) ∧
      (∀ later, ((Typewriter.telling speed history text calls).skip.during later).shown = text) ∧
      (∀ earlier k,
        (Screen.tick^[k] (((Screen.ofSpeed speed).after earlier).showText text)).box.shown =
          String.ofList (text.toList.take (min text.length (max speed 1 * (k + 1))))) ∧
      ∀ past box, (Typewriter.ofSpeed speed).after past = box → box.isTyping = true →
        speed < UInt64.size → box.text.length < UInt64.size →
        box.tick.revealed = (Typewriter.advanceWord (.ofNat box.revealed) (.ofNat box.speed)
          (.ofNat box.text.length)).toNat := by
  have hcounts := Typewriter.telling_counts speed history text calls
  have hspeed := Typewriter.telling_speed speed history text calls
  refine ⟨?_, ?_, fun later => ?_, fun earlier k => ?_, ?_⟩
  · rw [hcounts.shown_eq, hspeed]
  · rw [hcounts.isTyping_iff, hspeed]
  · rw [Typewriter.during_of_full rfl]
    exact hcounts.text_eq
  · rw [Screen.shown_ticks, Screen.speed_after]
    rfl
  · rintro past _ rfl htyping hsmall hlength
    refine Typewriter.revealed_tick_eq_word htyping ?_ hlength
    rw [Typewriter.speed_after]
    exact Nat.max_lt.2 ⟨hsmall, by decide⟩

/-- A box of the greatest speed, which had shown another text before. -/
theorem shown_after_frames_greeting :
    (Typewriter.telling (UInt64.size - 1) [.setText "Bye", .tick, .hide] "Hello"
      [.hide, .tick, .appear, .tick]).shown = "Hello" ∧
      ((Typewriter.ofSpeed (UInt64.size - 1)).after [.setText "Hello"]).tick.revealed =
        (Typewriter.advanceWord 0 (.ofNat (UInt64.size - 1)) 5).toNat := by
  obtain ⟨hshown, _, _, _, hwords⟩ := shown_after_frames (UInt64.size - 1)
    [.setText "Bye", .tick, .hide] "Hello" [.hide, .tick, .appear, .tick]
  exact ⟨hshown.trans (by decide), hwords [.setText "Hello"] _ rfl (by decide) (by decide)
    (by decide)⟩

end Cutscene
