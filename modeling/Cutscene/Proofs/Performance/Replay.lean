import Cutscene.Proofs.Journal.Reading
import Cutscene.Proofs.Performance.Consistency
/-!
# Notes account for everything

The notes of a turn are not only there to be read: replaying them on the scene that the turn began
with gives the scene that it left, the screen apart (`answer_becomes`).  So what is proved about the
notes of a call is proved about what the call did to the flags, the money and the cast.  The last
part says which notes are mere asides, and which place the notes of a stretch leave the reader at.
-/

namespace Cutscene

open Journal (Note Place behind)

namespace Scene

/-- What a note says was done to the flags and their file, the money or the cast. -/
def noted (s : Scene) : Note → Scene
  | .flagSet key value => { s with store := s.store.set key value }
  | .flagRemoved key => { s with store := s.store.erase key }
  | .purged key => { s with store := s.store.erase key }
  | .picked option => { s with store := s.store.set option.flag chosenValue }
  | .paid amount _ => { s with wallet := s.wallet.apply amount }
  | .turned speaker direction _ => { s with cast := s.cast.face speaker direction }
  | .sent actor tiles direction ticket =>
    { s with cast := s.cast.walk actor tiles direction ticket }
  | .flushed _ _ => s.flush.1
  | _ => s

/-- What a list of notes says was done, one after the other. -/
def replay (s : Scene) (notes : List Note) : Scene :=
  notes.foldl noted s

@[simp] theorem replay_nil (s : Scene) : s.replay [] = s := rfl

@[simp] theorem replay_cons (s : Scene) (n : Note) (notes : List Note) :
    s.replay (n :: notes) = (s.noted n).replay notes := rfl

@[simp] theorem replay_append (s : Scene) (xs ys : List Note) :
    s.replay (xs ++ ys) = (s.replay xs).replay ys :=
  List.foldl_append

theorem flush_screen (s : Scene) (screen : Screen) :
    ({ s with screen } : Scene).flush = ({ s.flush.1 with screen }, s.flush.2) := by
  unfold flush
  generalize s.store.flush s.disk = flushed
  obtain ⟨disk, store, result⟩ := flushed
  rfl

/-- No note is about the screen. -/
theorem noted_screen (s : Scene) (screen : Screen) (n : Note) :
    ({ s with screen } : Scene).noted n = { s.noted n with screen } := by
  cases n with
  | flushed => exact congrArg Prod.fst (s.flush_screen screen)
  | _ => rfl

theorem replay_screen (s : Scene) (screen : Screen) (notes : List Note) :
    ({ s with screen } : Scene).replay notes = { s.replay notes with screen } := by
  induction notes generalizing s with
  | nil => rfl
  | cons n notes ih => rw [replay_cons, noted_screen, ih, replay_cons]

/-- The notes tell how one scene became another, up to what is on the screen. -/
def Becomes (s : Scene) (notes : List Note) (s' : Scene) : Prop :=
  s' = { s.replay notes with screen := s'.screen }

theorem Becomes.refl (s : Scene) : s.Becomes [] s := rfl

theorem Becomes.trans {s₁ s₂ s₃ : Scene} {xs ys : List Note} (h₁ : s₁.Becomes xs s₂)
    (h₂ : s₂.Becomes ys s₃) : s₁.Becomes (xs ++ ys) s₃ := by
  unfold Becomes at *
  rw [h₂, h₁, replay_screen, replay_append]

theorem Becomes.cast_eq {s s' : Scene} {notes : List Note} (h : s.Becomes notes s') :
    s'.cast = (s.replay notes).cast := by
  rw [h]

theorem Becomes.flush_eq {s s' : Scene} {notes : List Note} (h : s.Becomes notes s') :
    s'.flush.2 = (s.replay notes).flush.2 := by
  rw [h, flush_screen]

theorem turnSpeaker_becomes (s : Scene) (b : Binding) (facing : Facing) :
    s.Becomes (s.turnSpeaker b facing).2 (s.turnSpeaker b facing).1 := by
  unfold turnSpeaker
  split
  · rfl
  · split <;> rfl

theorem present_becomes (s : Scene) (b : Binding) (m : Message) :
    s.Becomes (s.present b m).2 (s.present b m).1 := by
  have hscreen : s.Becomes [] { s with screen := s.screen.showText m.text } := rfl
  exact hscreen.trans (turnSpeaker_becomes _ b m.facing)

theorem mem_present {s : Scene} {b : Binding} {m : Message} {n : Note}
    (h : n ∈ (s.present b m).2) :
    (∃ speaker direction facing, n = .turned speaker direction facing) ∨
      ∃ speaker, n = .speakerMissing speaker := by
  unfold Scene.present Scene.turnSpeaker at h
  split at h
  · simp at h
  · split at h
    · exact .inr ⟨_, List.mem_singleton.1 h⟩
    · exact .inl ⟨_, _, _, List.mem_singleton.1 h⟩

theorem present_asides (s : Scene) (b : Binding) (m : Message) :
    ∀ n ∈ (s.present b m).2, n.isAside = true := by
  intro n hn
  rcases mem_present hn with ⟨_, _, _, rfl⟩ | ⟨_, rfl⟩
  · rfl
  · rfl

theorem present_played (s : Scene) (b : Binding) (m : Message) :
    ∀ n ∈ (s.present b m).2, n.isPlayed = true := by
  intro n hn
  rcases mem_present hn with ⟨_, _, _, rfl⟩ | ⟨_, rfl⟩
  · rfl
  · rfl

theorem Passes.becomes {s s' : Scene} {b : Binding} {index : Nat} {e : Event} {notes : List Note}
    (h : s.Passes b index e s' notes) : s.Becomes (.reached index e :: notes) s' := by
  cases h <;> rfl

theorem Passes.played {s s' : Scene} {b : Binding} {index : Nat} {e : Event} {notes : List Note}
    (h : s.Passes b index e s' notes) : ∀ n ∈ notes, n.isPlayed = true := by
  cases h <;> simp [Note.isPlayed]

theorem Halts.played {s s' : Scene} {b : Binding} {ticket : Ticket} {e : Event} {pause : Pause}
    {notes : List Note} (h : s.Halts b ticket e pause s' notes) :
    ∀ n ∈ notes, n.isPlayed = true := by
  cases h with
  | message => exact s.present_played b _
  | choice => exact s.present_played b _
  | walk => simp [Note.isPlayed]

theorem Halts.becomes {s s' : Scene} {b : Binding} {index : Nat} {ticket : Ticket} {e : Event}
    {pause : Pause} {notes : List Note} (h : s.Halts b ticket e pause s' notes) :
    s.Becomes (.reached index e :: notes) s' := by
  have hreached (e : Event) : s.Becomes [.reached index e] s := rfl
  cases h with
  | message => exact (hreached _).trans (s.present_becomes b _)
  | @choice m _ _ =>
      have hmenu : (s.present b m).1.Becomes [] { (s.present b m).1 with
        screen := (s.present b m).1.screen.showChoices m.choices } := rfl
      simpa using ((hreached _).trans (s.present_becomes b m)).trans hmenu
  | walk => rfl

end Scene

namespace Performance

open Scene (Becomes)

theorem Stretch.becomes {b : Binding} {p : Performance} {s : Scene} {t : Turn}
    (h : Stretch b p s t) : s.Becomes t.notes t.scene := by
  induction h with
  | @atEnd p s _ =>
      unfold finish
      split <;> rfl
  | pass _ hpass _ ih => exact hpass.becomes.trans ih
  | @halt p s s' e pause notes _ hhalt =>
      have hpause : s'.Becomes [.paused p.cursor pause.waitsFor] s' := rfl
      exact hhalt.becomes.trans hpause

theorem finish_played (p : Performance) (s : Scene) :
    ∀ n ∈ (p.finish s).notes, n.isPlayed = true := by
  intro n hn
  unfold finish at hn
  split at hn
  · simp at hn
  · rw [List.mem_singleton.1 hn]
    rfl

/-- A stretch only leaves notes of events that are played. -/
theorem Stretch.played {b : Binding} {p : Performance} {s : Scene} {t : Turn}
    (h : Stretch b p s t) : ∀ n ∈ t.notes, n.isPlayed = true := by
  induction h with
  | @atEnd p s _ => exact p.finish_played s
  | pass _ hpass _ ih =>
      intro n hn
      rcases List.mem_append.1 hn with hn | hn
      · rcases List.mem_cons.1 hn with rfl | hn
        · rfl
        · exact hpass.played n hn
      · exact ih n hn
  | halt _ hhalt =>
      intro n hn
      rcases List.mem_append.1 hn with hn | hn
      · rcases List.mem_cons.1 hn with rfl | hn
        · rfl
        · exact hhalt.played n hn
      · rw [List.mem_singleton.1 hn]
        rfl

theorem proceed_becomes (p : Performance) (s : Scene) :
    s.Becomes (p.proceed s).notes (p.proceed s).scene := by
  cases hb : p.binding with
  | none => simpa [proceed, hb] using Becomes.refl s
  | some b => exact (proceed_stretch hb s).becomes

theorem proceedPast_becomes (p : Performance) (s : Scene) :
    s.Becomes (p.proceedPast s).notes (p.proceedPast s).scene :=
  proceed_becomes _ s

theorem purge_becomes (p : Performance) (s : Scene) :
    s.Becomes (p.purge s).notes (p.purge s).scene := by
  have hkeys (keys : List String) (s : Scene) :
      s.replay (keys.map .purged) = { s with store := keys.foldl Store.erase s.store } := by
    induction keys generalizing s with
    | nil => rfl
    | cons key keys ih => exact ih _
  rw [Becomes]
  simp only [purge, hkeys]

theorem Takes.becomes {p p' : Performance} {s s' : Scene} {cue : Cue} {notes : List Note}
    (h : p.Takes s cue p' s' notes) : s.Becomes notes s' := by
  cases h <;> rfl

theorem Ignores.replay_eq {p : Performance} {cue : Cue} {notes : List Note}
    (h : p.Ignores cue notes) (s : Scene) : s.replay notes = s := by
  cases h <;> rfl

theorem resume_becomes (p : Performance) (cue : Cue) (s : Scene) :
    s.Becomes (p.resume cue s).notes (p.resume cue s).scene := by
  rcases p.resume_cases cue s with ⟨p', s', notes, htakes, hturn⟩ | ⟨notes, hignores, hturn, _⟩
  · rw [hturn]
    exact htakes.becomes.trans (p'.proceedPast_becomes s')
  · rw [hturn, Becomes, hignores.replay_eq]

theorem start_becomes (p : Performance) (player : String) (initiator : Option String) (s : Scene) :
    s.Becomes (p.start player initiator s).notes (p.start player initiator s).scene := by
  obtain ⟨t, hstretch, hturn⟩ := p.start_stretch player initiator s
  have hstarted : (p.purge s).scene.Becomes [.started player initiator p.script.length]
    (p.purge s).scene := rfl
  rw [hturn]
  exact ((p.purge_becomes s).trans hstarted).trans hstretch.becomes

/-- The notes of a call account for all that it did, other than to the screen. -/
theorem answer_becomes (p : Performance) (c : Call) (s : Scene) :
    s.Becomes (p.answer c s).notes (p.answer c s).scene := by
  cases c with
  | start player initiator => exact p.start_becomes player initiator s
  | onward c =>
      cases c with
      | proceed => exact p.proceed_becomes s
      | resume cue => exact p.resume_becomes cue s
  | reset => exact p.purge_becomes s

/-! ## Places -/

theorem finish_asides (p : Performance) (s : Scene) :
    ∀ n ∈ (p.finish s).notes, n.isAside = true := by
  intro n hn
  unfold finish at hn
  split at hn
  · simp at hn
  · rw [List.mem_singleton.1 hn]
    rfl

theorem purge_asides (p : Performance) (s : Scene) :
    ∀ n ∈ (p.purge s).notes, n.isAside = true := by
  intro n hn
  obtain ⟨key, _, rfl⟩ := List.mem_map.1 hn
  rfl

/-- The notes in front of the stretch that a start plays. -/
theorem start_asides (p : Performance) (player : String) (initiator : Option String) (s : Scene) :
    ∀ n ∈ (p.purge s).notes ++ [.started player initiator p.script.length], n.isAside = true := by
  intro n hn
  rcases List.mem_append.1 hn with hn | hn
  · exact p.purge_asides s n hn
  · rw [List.mem_singleton.1 hn]
    rfl

/-- Asides that tell of nothing done to anyone either, and of no pause. -/
structure Remarks (notes : List Note) : Prop where
  asides : ∀ n ∈ notes, n.isAside = true
  replay_eq : ∀ s : Scene, s.replay notes = s
  unpaused : ∀ n ∈ notes, ∀ index waitsFor, n ≠ .paused index waitsFor

theorem Remarks.nil : Remarks [] :=
  ⟨by simp, fun _ => rfl, by simp⟩

theorem Ignores.remarks {p : Performance} {cue : Cue} {notes : List Note}
    (h : p.Ignores cue notes) : Remarks notes := by
  refine ⟨?_, h.replay_eq, ?_⟩
  · cases h <;> simp [Note.isAside]
  · cases h <;> simp

theorem behind_passes {s s' : Scene} {b : Binding} {i : Nat} {e : Event} {notes : List Note}
    (h : s.Passes b i e s' notes) (here : Place) :
    behind here (.reached i e :: notes) = { here with index := i } := by
  cases h <;> rfl

theorem behind_halts {s s' : Scene} {b : Binding} {ticket : Ticket} {e : Event} {pause : Pause}
    {notes : List Note} (h : s.Halts b ticket e pause s' notes) (i : Nat) (here : Place) :
    behind here (.reached i e :: notes) = { here with index := i } := by
  cases h with
  | message => exact Journal.behind_asides (s.present_asides b _) _
  | choice => exact Journal.behind_asides (s.present_asides b _) _
  | walk => rfl

/-- The notes of a stretch belong to one interaction, and unless the script is over the last of them
belong to the event that the performance waits at. -/
theorem Stretch.behind_eq {b : Binding} {p : Performance} {s : Scene} {t : Turn}
    (h : Stretch b p s t) (here : Place) :
    (behind here t.notes).token = here.token ∧
      (t.performance.status ≠ .finished →
        (behind here t.notes).index = t.performance.cursor) := by
  induction h generalizing here with
  | @atEnd p s _ =>
      rw [Journal.behind_asides (p.finish_asides s)]
      exact ⟨rfl, fun hstatus => absurd rfl hstatus⟩
  | @pass p s s' e notes t _ hpass _ ih =>
      simp only [Turn.after, Journal.behind_append, behind_passes hpass]
      exact ih { here with index := p.cursor }
  | @halt p s s' e pause notes _ hhalt =>
      rw [Journal.behind_append, behind_halts hhalt]
      refine ⟨rfl, fun _ => ?_⟩
      cases pause <;> rfl

end Performance

end Cutscene
