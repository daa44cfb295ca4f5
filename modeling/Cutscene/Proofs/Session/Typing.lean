import Cutscene.Proofs.Session.Display
/-!
# Text that is still appearing

A text that is put on the screen appears little by little, and goes into the transcript at once.
`Screen.Announces` says that text only appears that is in the transcript, and that it gets on.
Every step of a session and every frame keeps that, so whoever goes through the transcript and waits
for each text has no text left that is still appearing.
-/

namespace Cutscene

open Journal (Note)

namespace Screen

theorem showText_transcript (s : Screen) (text : String) :
    (s.showText text).transcript = s.transcript ++ [.text text] := rfl

/-- Text gets on as long as it appears, and is in the transcript until then. -/
structure Announces (s : Screen) : Prop where
  speed_pos : 0 < s.box.speed
  announced : s.isTyping = true → .text s.box.text ∈ s.transcript

namespace Announces

variable {s s' : Screen}

theorem still (hspeed : 0 < s.box.speed) (htyping : s.isTyping = false) : s.Announces where
  speed_pos := hspeed
  announced h := by simp [htyping] at h

theorem of_same_box (h : s.Announces) (hbox : s'.box = s.box)
    (htranscript : s.transcript ⊆ s'.transcript) : s'.Announces where
  speed_pos := by
    rw [hbox]
    exact h.speed_pos
  announced htyping := by
    have hbefore : s.isTyping = true := by rwa [isTyping, hbox] at htyping
    rw [hbox]
    exact htranscript (h.announced hbefore)

theorem showText (h : s.Announces) (text : String) : (s.showText text).Announces where
  speed_pos := by
    rw [showText_speed]
    exact h.speed_pos
  announced _ := by
    rw [showText_text, showText_transcript]
    exact List.mem_append_right _ List.mem_cons_self

theorem hideText (h : s.Announces) : s.hideText.Announces :=
  .still h.speed_pos rfl

theorem showChoices (h : s.Announces) (options : List Choice) : (s.showChoices options).Announces :=
  h.of_same_box rfl (List.subset_append_left _ _)

theorem hideChoices (h : s.Announces) : s.hideChoices.Announces :=
  h.of_same_box rfl (List.Subset.refl _)

theorem showBalance (h : s.Announces) (amount : Float) : (s.showBalance amount).Announces :=
  h.of_same_box rfl (List.subset_append_left _ _)

theorem skipTyping (h : s.Announces) : s.skipTyping.Announces :=
  .still h.speed_pos (by simp [isTyping, Screen.skipTyping, Typewriter.skip, Typewriter.isTyping])

theorem tick (h : s.Announces) : s.tick.Announces where
  speed_pos := by
    rw [Screen.tick, Typewriter.tick_speed]
    exact h.speed_pos
  announced htyping := by
    rw [Screen.tick, Typewriter.tick_text]
    exact h.announced (Typewriter.isTyping_of_tick htyping)

end Announces

theorem announces_ofSpeed (speed : Nat) : (ofSpeed speed).Announces :=
  .still (Nat.le_max_right speed 1) rfl

end Screen

/-! ## Performances -/

namespace Scene

theorem Passes.announces {s s' : Scene} {b : Binding} {index : Nat} {e : Event}
    {notes : List Note} (h : s.Passes b index e s' notes) (hs : s.screen.Announces) :
    s'.screen.Announces := by
  cases h with
  | withheld => exact hs
  | walkerMissing => exact hs.hideText
  | addFlag => exact hs
  | removeFlag => exact hs
  | transaction amount => exact hs.showBalance _

theorem present_announces {s : Scene} (hs : s.screen.Announces) (b : Binding) (m : Message) :
    (s.present b m).1.screen.Announces := by
  rw [present_screen]
  exact hs.showText m.text

theorem Halts.announces {s s' : Scene} {b : Binding} {ticket : Ticket} {e : Event}
    {pause : Pause} {notes : List Note} (h : s.Halts b ticket e pause s' notes)
    (hs : s.screen.Announces) : s'.screen.Announces := by
  cases h with
  | message => exact present_announces hs b _
  | choice => exact (present_announces hs b _).showChoices _
  | walk => exact hs.hideText

end Scene

namespace Performance

theorem Stretch.announces {b : Binding} {p : Performance} {s : Scene} {t : Turn}
    (h : Stretch b p s t) (hs : s.screen.Announces) : t.scene.screen.Announces := by
  induction h with
  | atEnd => exact hs
  | pass _ hpass _ ih => exact ih (hpass.announces hs)
  | halt _ hhalt => exact hhalt.announces hs

theorem Takes.announces {p p' : Performance} {s s' : Scene} {cue : Cue} {notes : List Note}
    (h : p.Takes s cue p' s' notes) (hs : s.screen.Announces) : s'.screen.Announces := by
  cases h with
  | confirm => exact hs
  | choose => exact hs.hideChoices
  | arrive => exact hs

end Performance

/-! ## Sessions -/

namespace Session

theorem close_announces (x : Session) (i : Interaction) {s : Scene} (hs : s.screen.Announces) :
    (x.close i s).2.1.screen.Announces := by
  have hscreen : (x.close i s).2.1.screen = s.screen.hideChoices.hideText := rfl
  rw [hscreen]
  exact hs.hideChoices.hideText

theorem settle_announces (x : Session) (i : Interaction) {t : Turn}
    (ht : t.scene.screen.Announces) : (x.settle i t).scene.screen.Announces := by
  by_cases hstatus : t.performance.status = .finished
  · rw [settle_finished hstatus]
    exact x.close_announces _ ht
  · rw [settle_waiting hstatus]
    exact ht

theorem launch_announces (x : Session) (npc player : String) (script : Script)
    (selection : Selection) {s : Scene} (hs : s.screen.Announces) :
    (x.launch npc player script selection s).scene.screen.Announces := by
  obtain ⟨t, hstretch, hturn⟩ :=
    (x.opened npc script selection).performance.start_stretch player (some npc) s
  have hpurged : ((x.opened npc script selection).performance.purge s).scene.screen.Announces := hs
  apply settle_announces
  change ((x.opened npc script selection).performance.start player (some npc)
    s).scene.screen.Announces
  rw [hturn]
  exact hstretch.announces hpurged

theorem Step.announces {x x' : Session} {s s' : Scene} {token? : Option Token}
    {notes : List Note} (h : x.Step s token? x' s' notes) (hx : x.Sound)
    (hs : s.screen.Announces) : s'.screen.Announces := by
  cases h with
  | stays => exact hs
  | skips => exact hs.skipTyping
  | @takes i p' s' cue notes hactive htakes =>
      obtain ⟨b, _, _, hstretch⟩ := htakes.stretch (hx i hactive).1
      exact x.settle_announces i (hstretch.announces (htakes.announces hs))
  | closes => exact x.close_announces _ hs
  | launches => exact x.launch_announces _ _ _ _ hs

end Session

theorem World.tick_announces {w : World} (h : w.scene.screen.Announces) (ms : Float32) :
    (w.tick ms).1.scene.screen.Announces :=
  h.tick

end Cutscene
