import Cutscene.Proofs.Performance.Flags
import Cutscene.Proofs.Session.Errands
/-!
# How an interaction is closed

An interaction ends when its script does or when it is given up, and in both cases it is closed.
`Cleared` is what the call that closes it leaves behind; the flags are written once in it, when
those of choices are gone.  `Step.cleared_or_quiet` says that a step does so or ends nothing.
-/

namespace Cutscene

open Journal (Note ended)

namespace Journal

def Note.isFlush : Note → Bool
  | flushed _ _ => true
  | _ => false

/-- Whether a note tells neither that an interaction has ended nor of a flush. -/
def Note.isQuiet : Note → Bool
  | .ended _ _ | flushed _ _ => false
  | _ => true

theorem quiet_of_asides {notes : List Note} (h : ∀ n ∈ notes, n.isAside = true) :
    ∀ n ∈ notes, n.isQuiet = true := by
  intro n hn
  have haside := h n hn
  cases n <;> first | rfl | simp [Note.isAside] at haside

theorem quiet_of_played {notes : List Note} (h : ∀ n ∈ notes, n.isPlayed = true) :
    ∀ n ∈ notes, n.isQuiet = true := by
  intro n hn
  have hplayed := h n hn
  cases n <;> first | rfl | simp [Note.isPlayed] at hplayed

theorem quiet_append {xs ys : List Note} (hxs : ∀ n ∈ xs, n.isQuiet = true)
    (hys : ∀ n ∈ ys, n.isQuiet = true) : ∀ n ∈ xs ++ ys, n.isQuiet = true := by
  intro n hn
  rcases List.mem_append.1 hn with hn | hn
  · exact hxs n hn
  · exact hys n hn

theorem ended_quiet {notes : List Note} (h : ∀ n ∈ notes, n.isQuiet = true) : ended notes = [] := by
  refine List.filterMap_eq_nil_iff.2 fun n hn => ?_
  have hquiet := h n hn
  cases n <;> first | rfl | simp [Note.isQuiet] at hquiet

theorem isFlush_quiet {notes : List Note} (h : ∀ n ∈ notes, n.isQuiet = true) :
    ∀ n ∈ notes, n.isFlush = false := by
  intro n hn
  have hquiet := h n hn
  cases n <;> first | rfl | simp [Note.isQuiet] at hquiet

theorem not_picked_begun {notes : List Note} (h : ∀ n ∈ notes, n.isAside = true)
    (token : Token) (npc : String) (entry : Nat) (key : String) :
    ¬ Picked key (notes ++ [.begun token npc entry]) := by
  rw [picked_append, not_or]
  exact ⟨not_picked_of_asides h key, by simp [Picked]⟩

end Journal

open Journal (Picked)

namespace Performance

theorem start_quiet (p : Performance) (player : String) (initiator : Option String) (s : Scene) :
    ∀ n ∈ (p.start player initiator s).notes, n.isQuiet = true := by
  obtain ⟨t, hstretch, hturn⟩ := p.start_stretch player initiator s
  rw [hturn]
  exact Journal.quiet_append (Journal.quiet_of_asides (p.start_asides player initiator s))
    (Journal.quiet_of_played hstretch.played)

theorem Takes.quiet {p p' : Performance} {s s' : Scene} {cue : Cue} {notes : List Note}
    (h : p.Takes s cue p' s' notes) : ∀ n ∈ notes, n.isQuiet = true := by
  cases h <;> simp [Note.isQuiet]

end Performance

/-! ## Closing -/

namespace Session

/-- The flags that the choices of an interaction have set by the end of a call: those from before
the call, and those that are picked in it. -/
def Ephemeral (x : Session) (notes : List Note) (key : String) : Prop :=
  (∃ i, x.active = some i ∧ i.performance.chosen.contains key = true) ∨ Picked key notes

/-- What a call leaves that ends the interaction of a token. -/
structure Cleared (x : Session) (s : Scene) (token : Token) (x' : Session) (s' : Scene)
    (notes : List Note) : Prop where
  free : x'.active = none
  hidden : s'.screen.box.visible = false
  unlabelled : s'.screen.choices = []
  purged : ∀ key, x.Ephemeral notes key → s'.store.contains key = false
  /-- One flush is asked for, behind all that is done to the flags, and its failure is noted. -/
  flushed_once : ∃ front npc,
    notes = front ++ [.flushed npc (s.replay front).flush.2, .ended token npc] ∧
      (∀ n ∈ front, n.isFlush = false) ∧
      ∀ key, x.Ephemeral notes key → (s.replay front).store.contains key = false
  /-- What the call did to flags, file, money and cast is what its notes tell. -/
  becomes : s.Becomes notes s'

theorem Cleared.ended_getLast? {x x' : Session} {s s' : Scene} {token : Token} {notes : List Note}
    (h : x.Cleared s token x' s' notes) : (ended notes).getLast? = some token := by
  obtain ⟨front, npc, hnotes, _⟩ := h.flushed_once
  rw [hnotes, Journal.ended_append, List.getLast?_append]
  rfl

theorem farewell_get? (i : Interaction) (s : Scene) (key : String) :
    (farewell i s).scene.store.get? key =
      if i.performance.chosen.contains key then none else s.store.get? key :=
  i.performance.get?_purge { s with screen := s.screen.hideChoices.hideText } key

theorem close_get? (x : Session) (i : Interaction) (s : Scene) (key : String) :
    (x.close i s).2.1.store.get? key =
      if i.performance.chosen.contains key then none else s.store.get? key := by
  rw [x.close_eq, ← farewell_get?]
  exact Store.get?_flush _ _ key

theorem close_ended (x : Session) (i : Interaction) (s : Scene) :
    ended (x.close i s).2.2 = [i.token] := by
  obtain ⟨notes, hplain, hnotes⟩ := x.close_notes i s
  rw [hnotes, Journal.ended_append, Journal.ended_plain hplain]
  rfl

theorem farewell_asides (i : Interaction) (s : Scene) :
    ∀ n ∈ (farewell i s).notes, n.isAside = true :=
  i.performance.purge_asides s

theorem close_unpicked (x : Session) (i : Interaction) (s : Scene) (key : String) :
    ¬ Picked key (x.close i s).2.2 := by
  rw [x.close_eq, Journal.picked_append, not_or]
  exact ⟨Journal.not_picked_of_asides (farewell_asides i s) key, by simp [Picked]⟩

/-- Closing an interaction behind a part of a call that ended nothing. -/
theorem close_cleared {x y : Session} {i : Interaction} {s s₁ : Scene} {front : List Note}
    (hbecomes : s.Becomes front s₁) (hquiet : ∀ n ∈ front, n.isQuiet = true)
    (hchosen : ∀ key, x.Ephemeral front key → i.performance.chosen.contains key = true) :
    x.Cleared s i.token (y.close i s₁).1 (y.close i s₁).2.1 (front ++ (y.close i s₁).2.2) := by
  have hfront := hbecomes.trans (farewell_becomes i s₁)
  -- the closing itself picks nothing
  have hephemeral : ∀ key, x.Ephemeral (front ++ (y.close i s₁).2.2) key →
      i.performance.chosen.contains key = true := by
    rintro key (hbefore | hpicked)
    · exact hchosen key (.inl hbefore)
    · rcases (Journal.picked_append key _ _).1 hpicked with hpicked | hpicked
      · exact hchosen key (.inr hpicked)
      · exact absurd hpicked (close_unpicked y i s₁ key)
  have hgone : ∀ key, x.Ephemeral (front ++ (y.close i s₁).2.2) key →
      (farewell i s₁).scene.store.contains key = false := by
    intro key hkey
    rw [Store.contains, farewell_get?, if_pos (hephemeral key hkey)]
    rfl
  refine ⟨rfl, rfl, rfl, ?_, ?_, hbecomes.trans (y.close_becomes i s₁)⟩
  · intro key hkey
    rw [Store.contains, close_get?, if_pos (hephemeral key hkey)]
    rfl
  · have hflush := hfront.flush_eq
    refine ⟨front ++ (farewell i s₁).notes, i.npc, ?_, ?_, ?_⟩
    · rw [← hflush, List.append_assoc]
      rfl
    · exact Journal.isFlush_quiet (Journal.quiet_append hquiet
        (Journal.quiet_of_asides (farewell_asides i s₁)))
    · intro key hkey
      have hstore := hgone key hkey
      rwa [hfront] at hstore

theorem settle_cleared_or_quiet {x y : Session} {i : Interaction} {s : Scene} {t : Turn}
    {front : List Note} (hbecomes : s.Becomes (front ++ t.notes) t.scene)
    (hquiet : ∀ n ∈ front ++ t.notes, n.isQuiet = true)
    (hchosen : ∀ key, x.Ephemeral (front ++ t.notes) key →
      t.performance.chosen.contains key = true) :
    (∀ n ∈ front ++ (y.settle i t).notes, n.isQuiet = true) ∨
      x.Cleared s i.token (y.settle i t).session (y.settle i t).scene
        (front ++ (y.settle i t).notes) := by
  by_cases hstatus : t.performance.status = .finished
  · have hclose := close_cleared (y := y) (i := { i with performance := t.performance })
      hbecomes hquiet hchosen
    rw [settle_finished hstatus, ← List.append_assoc]
    exact .inr hclose
  · rw [settle_waiting hstatus]
    exact .inl hquiet

theorem launch_cleared_or_quiet {x : Session} (hfree : x.active = none) {before : List Note}
    (hbefore : Performance.Remarks before) (npc player : String) (script : Script)
    (selection : Selection) (s : Scene) :
    (∀ n ∈ before ++ (x.launch npc player script selection s).notes, n.isQuiet = true) ∨
      x.Cleared s x.nextToken (x.launch npc player script selection s).session
        (x.launch npc player script selection s).scene
        (before ++ (x.launch npc player script selection s).notes) := by
  have hbegun : s.Becomes (before ++ [.begun x.nextToken npc selection.index]) s := by
    rw [Scene.Becomes, Scene.replay_append, hbefore.replay_eq]
    rfl
  have hquiet : ∀ n ∈ before ++ [.begun x.nextToken npc selection.index], n.isQuiet = true :=
    Journal.quiet_append (Journal.quiet_of_asides hbefore.asides) (by simp [Note.isQuiet])
  have hunpicked := Journal.not_picked_begun hbefore.asides x.nextToken npc selection.index
  have hstart := (x.opened npc script selection).performance.start_becomes player (some npc) s
  have hstartQuiet := (x.opened npc script selection).performance.start_quiet player (some npc) s
  have hsettle := settle_cleared_or_quiet (x := x) (y := { x with nextToken := x.nextToken + 1 })
    (i := x.opened npc script selection) (hbegun.trans hstart)
    (Journal.quiet_append hquiet hstartQuiet) (by
      rintro key (⟨i, hi, _⟩ | hpicked)
      · simp [hfree] at hi
      · rcases (Journal.picked_append key _ _).1 hpicked with hpicked | hpicked
        · exact absurd hpicked (hunpicked key)
        · exact absurd hpicked (Performance.start_unpicked _ player (some npc) s key))
  rw [List.append_assoc] at hsettle
  exact hsettle

/-- A step ends nothing and asks for no flush, or it clears up after what it ends. -/
theorem Step.cleared_or_quiet {x x' : Session} {s s' : Scene} {token? : Option Token}
    {notes : List Note} (h : x.Step s token? x' s' notes) :
    (∀ n ∈ notes, n.isQuiet = true) ∨ ∃ token, x.Cleared s token x' s' notes := by
  cases h with
  | stays hremarks => exact .inl (Journal.quiet_of_asides hremarks.asides)
  | skips => exact .inl (by simp)
  | @takes i p' s' cue notes hactive htakes =>
      have hplayed := Performance.proceed_played { p' with cursor := p'.cursor + 1 } s'
      have hkept : (p'.proceedPast s').performance.chosen = p'.chosen :=
        Performance.proceed_chosen _ s'
      have hquiet := Journal.quiet_append htakes.quiet (Journal.quiet_of_played hplayed)
      have hbecomes : s.Becomes ([] ++ ((p'.proceedPast s').after notes).notes)
          ((p'.proceedPast s').after notes).scene :=
        htakes.becomes.trans (p'.proceedPast_becomes s')
      refine (settle_cleared_or_quiet hbecomes hquiet ?_).imp_right
        fun hcleared => ⟨i.token, hcleared⟩
      intro key hkey
      simp only [Turn.after, hkept]
      apply (htakes.chosen key).2
      rcases hkey with ⟨j, hj, hbefore⟩ | hpicked
      · obtain rfl := Option.some.inj (hactive.symm.trans hj)
        exact .inl hbefore
      · rcases (Journal.picked_append key notes _).1 hpicked with hpicked | hpicked
        · exact .inr hpicked
        · exact absurd hpicked (Journal.not_picked_of_played hplayed key)
  | @closes i hactive =>
      have hnothing : s.Becomes [] s := .refl s
      refine .inr ⟨i.token, close_cleared hnothing (by simp) ?_⟩
      rintro key (⟨j, hj, hbefore⟩ | ⟨option, hpicked, _⟩)
      · obtain rfl := Option.some.inj (hactive.symm.trans hj)
        exact hbefore
      · exact absurd hpicked List.not_mem_nil
  | @launches npc player script selection notes hfree hremarks =>
      exact (launch_cleared_or_quiet hfree hremarks npc player script selection s).imp_right
        fun hcleared => ⟨x.nextToken, hcleared⟩

end Session

end Cutscene
