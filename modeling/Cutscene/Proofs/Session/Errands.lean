import Cutscene.Proofs.Session.Shift
/-!
# Errands

Every walk that an actor has been sent on is read off the notes as an `Errand`: in which interaction
and at which event it began, and the ticket that the walker got.  A stretch notes the errand that
the performance waits for behind it, and no other (`Stretch.errands_eq`); and what a step did to
cast, money and flags is what its notes tell (`Step.becomes`).
-/

namespace Cutscene

open Journal (Note)

namespace Journal

/-- A walk that an actor has been sent on. -/
structure Errand where
  token : Nat
  index : Nat
  actor : String
  ticket : Nat
  deriving DecidableEq, Repr

/-- The errand that a note tells of. -/
def Note.errand? (here : Place) : Note → Option Errand
  | sent actor _ _ ticket => some ⟨here.token, here.index, actor, ticket⟩
  | _ => none

/-- The errands of a list of notes. -/
def errands : Place → List Note → List Errand :=
  read Note.errand?

/-- The token of the interaction that a note says has ended. -/
def Note.ended? : Note → Option Nat
  | .ended token _ => some token
  | _ => none

/-- The tokens of the interactions that have ended. -/
def ended (notes : List Note) : List Nat :=
  notes.filterMap Note.ended?

/-- Whether a note tells neither where it belongs to nor of a walk. -/
def Note.isPlain : Note → Bool
  | reached _ _ | begun _ _ _ | .ended _ _ | sent _ _ _ _ => false
  | _ => true

@[simp] theorem ended_append (xs ys : List Note) : ended (xs ++ ys) = ended xs ++ ended ys :=
  List.filterMap_append

@[simp] theorem errands_paused (here : Place) (index : Nat) (waitsFor : Suspension) :
    errands here [.paused index waitsFor] = [] := rfl

@[simp] theorem errands_append (here : Place) (xs ys : List Note) :
    errands here (xs ++ ys) = errands here xs ++ errands (behind here xs) ys :=
  read_append _ here xs ys

theorem plain_of_asides {notes : List Note} (h : ∀ n ∈ notes, n.isAside = true) :
    ∀ n ∈ notes, n.isPlain = true := by
  intro n hn
  have haside := h n hn
  cases n <;> first | rfl | simp [Note.isAside] at haside

section Plain

variable {notes : List Note} (h : ∀ n ∈ notes, n.isPlain = true)

include h

theorem behind_plain (here : Place) : behind here notes = here := by
  refine behind_of_still (fun n hn here => ?_) here
  have hplain := h n hn
  cases n <;> first | rfl | simp [Note.isPlain] at hplain

theorem errands_plain (here : Place) : errands here notes = [] := by
  refine read_eq_nil _ (fun n hn here => ?_) here
  have hplain := h n hn
  cases n <;> first | rfl | simp [Note.isPlain] at hplain

theorem ended_plain : ended notes = [] := by
  refine List.filterMap_eq_nil_iff.2 fun n hn => ?_
  have hplain := h n hn
  cases n <;> first | rfl | simp [Note.isPlain] at hplain

end Plain

theorem errands_asides {notes : List Note} (h : ∀ n ∈ notes, n.isAside = true) (here : Place) :
    errands here notes = [] :=
  errands_plain (plain_of_asides h) here

theorem ended_asides {notes : List Note} (h : ∀ n ∈ notes, n.isAside = true) : ended notes = [] :=
  ended_plain (plain_of_asides h)

end Journal

open Journal (Place Errand behind errands ended)

namespace Performance

/-- The walk that is waited for, as an errand of the interaction with a token. -/
def errand? (p : Performance) (token : Token) : Option Errand :=
  p.awaits?.map fun walk => ⟨token, p.cursor, walk.1, walk.2⟩

theorem passes_errands {s s' : Scene} {b : Binding} {i : Nat} {e : Event} {notes : List Note}
    (h : s.Passes b i e s' notes) (here : Place) : errands here (.reached i e :: notes) = [] := by
  cases h <;> rfl

theorem Takes.plain {p p' : Performance} {s s' : Scene} {cue : Cue} {notes : List Note}
    (h : p.Takes s cue p' s' notes) : ∀ n ∈ notes, n.isPlain = true := by
  cases h <;> simp [Note.isPlain]

/-- The only errand of a stretch is the one that is waited for behind it. -/
theorem Stretch.errands_eq {b : Binding} {p : Performance} {s : Scene} {t : Turn}
    (h : Stretch b p s t) (here : Place) :
    errands here t.notes = (t.performance.errand? here.token).toList := by
  induction h generalizing here with
  | @atEnd p s _ =>
      exact Journal.errands_asides (p.finish_asides s) here
  | @pass p s s' e notes t _ hpass _ ih =>
      simp only [Turn.after]
      rw [Journal.errands_append, passes_errands hpass, behind_passes hpass, ih]
      rfl
  | @halt p s s' e pause notes _ hhalt =>
      rw [Journal.errands_append, Journal.errands_paused, List.append_nil]
      cases hhalt with
      | @message m => exact Journal.errands_asides (s.present_asides b m) _
      | @choice m => exact Journal.errands_asides (s.present_asides b m) _
      | walk => rfl

theorem Stretch.ended_eq {b : Binding} {p : Performance} {s : Scene} {t : Turn}
    (h : Stretch b p s t) : ended t.notes = [] := by
  refine List.filterMap_eq_nil_iff.2 fun n hn => ?_
  have hplayed := h.played n hn
  cases n <;> first | rfl | simp [Note.isPlayed] at hplayed

end Performance

/-! ## What is done to the scene -/

namespace Session

/-- The turn that a closing makes of its interaction, with nothing left on the screen. -/
def farewell (i : Interaction) (s : Scene) : Turn :=
  i.performance.reset { s with screen := s.screen.hideChoices.hideText }

theorem close_eq (x : Session) (i : Interaction) (s : Scene) :
    x.close i s = ({ x with active := none, nextTicket := i.performance.nextTicket },
      (farewell i s).scene.flush.1, (farewell i s).notes ++
        [.flushed i.npc (farewell i s).scene.flush.2, .ended i.token i.npc]) := rfl

/-- The notes of a closing: what is done to the flags, and that the interaction has ended. -/
theorem close_notes (x : Session) (i : Interaction) (s : Scene) :
    ∃ notes, (∀ n ∈ notes, n.isPlain = true) ∧
      (x.close i s).2.2 = notes ++ [.ended i.token i.npc] := by
  refine ⟨(farewell i s).notes ++ [.flushed i.npc (farewell i s).scene.flush.2], ?_, ?_⟩
  · intro n hn
    rcases List.mem_append.1 hn with hn | hn
    · obtain ⟨key, _, rfl⟩ := List.mem_map.1 hn
      rfl
    · rw [List.mem_singleton.1 hn]
      rfl
  · rw [x.close_eq, List.append_assoc]
    rfl

theorem farewell_becomes (i : Interaction) (s : Scene) :
    s.Becomes (farewell i s).notes (farewell i s).scene := by
  have hhidden : s.Becomes [] { s with screen := s.screen.hideChoices.hideText } := rfl
  exact hhidden.trans (i.performance.purge_becomes _)

theorem close_becomes (x : Session) (i : Interaction) (s : Scene) :
    s.Becomes (x.close i s).2.2 (x.close i s).2.1 := by
  have hflushed (s : Scene) (failure : Option StoreError) :
      s.Becomes [.flushed i.npc failure, .ended i.token i.npc] s.flush.1 := rfl
  rw [x.close_eq]
  exact (farewell_becomes i s).trans (hflushed _ _)

theorem settle_becomes (x : Session) (i : Interaction) {s : Scene} {t : Turn}
    (h : s.Becomes t.notes t.scene) :
    s.Becomes (x.settle i t).notes (x.settle i t).scene := by
  by_cases hstatus : t.performance.status = .finished
  · rw [settle_finished hstatus]
    exact h.trans (x.close_becomes _ t.scene)
  · rw [settle_waiting hstatus]
    exact h

/-- The interaction that a launch begins. -/
def opened (x : Session) (npc : String) (script : Script) (selection : Selection) : Interaction :=
  ⟨x.nextToken, npc, selection, .fresh script x.settings.journal x.nextTicket⟩

/-- The reply of a launch, in front of which its beginning is noted. -/
def launched (x : Session) (npc player : String) (script : Script) (selection : Selection)
    (s : Scene) : Reply Status :=
  settle { x with nextToken := x.nextToken + 1 } (x.opened npc script selection)
    ((x.opened npc script selection).performance.start player (some npc) s)

theorem launch_eq (x : Session) (npc player : String) (script : Script) (selection : Selection)
    (s : Scene) :
    x.launch npc player script selection s =
      ⟨(x.launched npc player script selection s).session,
        (x.launched npc player script selection s).scene,
        .begun x.nextToken npc selection.index :: (x.launched npc player script selection s).notes,
        (x.launched npc player script selection s).answer.map (x.nextToken, ·)⟩ := rfl

theorem launch_becomes (x : Session) (npc player : String) (script : Script)
    (selection : Selection) (s : Scene) :
    s.Becomes (x.launch npc player script selection s).notes
      (x.launch npc player script selection s).scene := by
  have hbegun : s.Becomes [.begun x.nextToken npc selection.index] s := rfl
  have hstart := (x.opened npc script selection).performance.start_becomes player (some npc) s
  rw [x.launch_eq]
  exact hbegun.trans (settle_becomes _ _ hstart)

/-- The notes of a step account for all that it did, other than to the screen. -/
theorem Step.becomes {x x' : Session} {s s' : Scene} {token? : Option Token} {notes : List Note}
    (h : x.Step s token? x' s' notes) : s.Becomes notes s' := by
  cases h with
  | stays hremarks => rw [Scene.Becomes, hremarks.replay_eq]
  | skips => rfl
  | @takes _ p' s' _ _ _ htakes =>
      exact settle_becomes _ _ (htakes.becomes.trans (p'.proceedPast_becomes s'))
  | closes => exact x.close_becomes _ s
  | @launches npc player script selection notes _ hremarks =>
      have hbefore : s.Becomes notes s := by rw [Scene.Becomes, hremarks.replay_eq]
      exact hbefore.trans (x.launch_becomes npc player script selection s)

end Session

end Cutscene
