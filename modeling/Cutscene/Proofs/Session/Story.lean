import Cutscene.Proofs.Performance.Replay
import Cutscene.Session
/-!
# Stories

A story is a session and the world that it plays in, and goes on by the calls of the session and
by frames, in any order.  `Session.Step` is what a call can do, whatever call it was
(`Story.act_step`): it changes nothing, or makes text appear at once, or the turn of a cue is
settled, or the interaction under way is closed, or one is launched.  What is kept by every call is
proved by cases on it.
-/

namespace Cutscene

open Journal (Note)

/-! ## Moves -/

/-- A session and the world that it plays in. -/
structure Story where
  session : Session
  world : World
  deriving DecidableEq

/-- What can be done next in a story. -/
inductive Move where
  | begin (npc player : String) (entries : List Script)
  | confirm (token : Token)
  | choose (token : Token) (index : Nat)
  | arrive (token : Token) (ticket : Ticket)
  | abandon (token : Token)
  | tick (ms : Float32)
  deriving DecidableEq

/-- The token that a move carries. -/
def Move.token? : Move → Option Token
  | confirm token | choose token _ | arrive token _ | abandon token => some token
  | _ => none

/-- What a move is answered. -/
inductive Answer where
  | begun (r : Except SessionError (Token × Status))
  | stands (r : Except SessionError Status)
  | abandoned (r : Except SessionError Unit)
  /-- The tickets that a frame hands over. -/
  | returned (tickets : List Ticket)

/-- What a move leads to. -/
structure Beat where
  story : Story
  notes : List Note
  answer : Answer

namespace Beat

/-- The token that a beginning has given out. -/
def token? (b : Beat) : Option Token :=
  match b.answer with
  | .begun (.ok (token, _)) => some token
  | _ => none

/-- The tickets that a frame has handed over. -/
def tickets (b : Beat) : List Ticket :=
  match b.answer with
  | .returned tickets => tickets
  | _ => []

end Beat

namespace Story

/-- The story of a session that has done nothing yet. -/
def opening (settings : Settings) (w : World) : Story :=
  ⟨{ settings }, w⟩

/-- The beat of a reply of the session. -/
def heard {α : Type} (g : Story) (r : Reply α) (answer : Except SessionError α → Answer) : Beat :=
  ⟨⟨r.session, { g.world with scene := r.scene }⟩, r.notes, answer r.answer⟩

/-- The beat of a move. -/
def act (g : Story) : Move → Beat
  | .begin npc player entries =>
    g.heard (g.session.begin npc player entries g.world.scene) .begun
  | .confirm token => g.heard (g.session.confirm token g.world.scene) .stands
  | .choose token index => g.heard (g.session.choose token index g.world.scene) .stands
  | .arrive token ticket => g.heard (g.session.arrive token ticket g.world.scene) .stands
  | .abandon token => g.heard (g.session.abandon token g.world.scene) .abandoned
  | .tick ms => ⟨{ g with world := (g.world.tick ms).1 }, [], .returned (g.world.tick ms).2⟩

/-- The beats of a list of moves. -/
def beats : Story → List Move → List Beat
  | _, [] => []
  | g, m :: moves => g.act m :: beats (g.act m).story moves

/-- The story after a list of moves. -/
def after (g : Story) (moves : List Move) : Story :=
  moves.foldl (fun g m => (g.act m).story) g

/-- The cast of a story. -/
def cast (g : Story) : Cast :=
  g.world.scene.cast

@[simp] theorem beats_nil (g : Story) : g.beats [] = [] := rfl

@[simp] theorem after_nil (g : Story) : g.after [] = g := rfl

end Story

/-! ## The calls of a session -/

namespace Session

/-- An interaction that occupies the session is consistent and waits for something. -/
def Sound (x : Session) : Prop :=
  ∀ i, x.active = some i →
    i.performance.Consistent ∧ ∃ waitsFor, i.performance.status = .paused waitsFor

theorem holder_cases (x : Session) (token : Token) :
    (∃ i, x.active = some i ∧ i.token = token ∧ x.holder token = .ok i) ∨
    (∃ error, x.holder token = .error error ∧ ∀ i, x.active = some i → i.token ≠ token) := by
  unfold holder
  cases hactive : x.active with
  | none => exact .inr ⟨_, rfl, by simp⟩
  | some i =>
      by_cases htoken : i.token = token
      · exact .inl ⟨i, rfl, htoken, by simp [htoken]⟩
      · refine .inr ⟨.staleToken token, by simp [htoken], ?_⟩
        intro j hj
        rwa [← Option.some.inj hj]

/-- A turn that ends nothing leaves the interaction in the session. -/
theorem settle_waiting {x : Session} {i : Interaction} {t : Turn}
    (h : t.performance.status ≠ .finished) :
    x.settle i t = ⟨{ x with active := some { i with performance := t.performance } }, t.scene,
      t.notes, .ok t.performance.status⟩ := by
  simp [settle, h]

theorem settle_finished {x : Session} {i : Interaction} {t : Turn}
    (h : t.performance.status = .finished) :
    x.settle i t =
      ⟨(x.close { i with performance := t.performance } t.scene).1,
        (x.close { i with performance := t.performance } t.scene).2.1,
        t.notes ++ (x.close { i with performance := t.performance } t.scene).2.2,
        .ok .finished⟩ := by
  simp [settle, h]

/-- A cue is turned away or ignored, or it leads to a turn that is settled. -/
theorem feed_cases {x : Session} (hx : x.Sound) (token : Token) (cue : Cue) (s : Scene) :
    (∃ notes answer, x.feed token cue s = ⟨x, s, notes, answer⟩ ∧
      Performance.Remarks notes ∧
      ∀ i, x.active = some i → i.token = token →
        ∀ p' s' notes, ¬ i.performance.Takes s cue p' s' notes) ∨
    (∃ i p' s' notes, x.active = some i ∧ i.token = token ∧
      i.performance.Takes s cue p' s' notes ∧
      x.feed token cue s = x.settle i ((p'.proceedPast s').after notes)) := by
  rcases x.holder_cases token with ⟨i, hactive, htoken, hholder⟩ | ⟨error, hholder, hother⟩
  · rcases i.performance.resume_cases cue s with
      ⟨p', s', notes, htakes, hturn⟩ | ⟨notes, hignores, hturn, hnot⟩
    · exact .inr ⟨i, p', s', notes, hactive, htoken, htakes, by simp [feed, hholder, hturn]⟩
    · obtain ⟨_, waitsFor, hstatus⟩ := hx i hactive
      refine .inl ⟨notes, .ok i.performance.status, ?_, hignores.remarks, ?_⟩
      · simp only [feed, hholder, hturn]
        rw [settle_waiting (by simp [hstatus])]
        simp [← hactive]
      · intro j hj _
        rwa [← Option.some.inj (hactive.symm.trans hj)]
  · refine .inl ⟨[], .error error, by simp [feed, hholder, decline], .nil, ?_⟩
    intro i hactive htoken
    exact absurd htoken (hother i hactive)

/-- A beginning is refused, or it launches a script while the session is free. -/
theorem begin_cases (x : Session) (npc player : String) (entries : List Script) (s : Scene) :
    (∃ notes error, x.begin npc player entries s = ⟨x, s, notes, .error error⟩ ∧
      Performance.Remarks notes) ∨
    (∃ script selection notes, x.active = none ∧ selectEntry entries s.store = some selection ∧
      script = entries.getD selection.index {} ∧ Performance.Remarks notes ∧
      x.begin npc player entries s =
        { x.launch npc player script selection s with
          notes := notes ++ (x.launch npc player script selection s).notes }) := by
  unfold begin
  cases hactive : x.active with
  | some i => exact .inl ⟨_, _, rfl, .nil⟩
  | none =>
      dsimp only
      cases hselect : selectEntry entries s.store with
      | none => exact .inl ⟨_, _, rfl, .nil⟩
      | some selection =>
          dsimp only
          split
          · split
            · exact .inl ⟨_, _, rfl, by simp [Note.isAside], fun _ => rfl, by simp⟩
            · have hremarks : Performance.Remarks [.fellBack npc] :=
                ⟨by simp [Note.isAside], fun _ => rfl, by simp⟩
              exact .inr ⟨_, selection, _, rfl, rfl, rfl, hremarks, rfl⟩
          · exact .inr ⟨_, selection, [], rfl, rfl, rfl, .nil, rfl⟩

theorem launch_answer (x : Session) (npc player : String) (script : Script)
    (selection : Selection) (s : Scene) :
    ∃ status, (x.launch npc player script selection s).answer = .ok (x.nextToken, status) := by
  simp only [launch, settle]
  split <;> exact ⟨_, rfl⟩

/-! ## Steps -/

/-- What a call makes of a session and its scene, with the token that it gives out and its notes. -/
inductive Step (x : Session) (s : Scene) :
    Option Token → Session → Scene → List Note → Prop where
  | stays {notes : List Note} : Performance.Remarks notes → Step x s none x s notes
  | skips {i : Interaction} : x.active = some i → s.screen.isTyping = true →
      Step x s none x { s with screen := s.screen.skipTyping } []
  | takes {i : Interaction} {p' : Performance} {s' : Scene} {cue : Cue} {notes : List Note} :
      x.active = some i → i.performance.Takes s cue p' s' notes →
      Step x s none (x.settle i ((p'.proceedPast s').after notes)).session
        (x.settle i ((p'.proceedPast s').after notes)).scene
        (x.settle i ((p'.proceedPast s').after notes)).notes
  | closes {i : Interaction} : x.active = some i →
      Step x s none (x.close i s).1 (x.close i s).2.1 (x.close i s).2.2
  | launches {npc player : String} {script : Script} {selection : Selection}
      {notes : List Note} : x.active = none → Performance.Remarks notes →
      Step x s (some x.nextToken) (x.launch npc player script selection s).session
        (x.launch npc player script selection s).scene
        (notes ++ (x.launch npc player script selection s).notes)

theorem feed_step {x : Session} (hx : x.Sound) (token : Token) (cue : Cue) (s : Scene) :
    x.Step s none (x.feed token cue s).session (x.feed token cue s).scene
      (x.feed token cue s).notes := by
  rcases feed_cases hx token cue s with
    ⟨notes, answer, hreply, hremarks, _⟩ | ⟨i, p', s', notes, hactive, _, htakes, hreply⟩
  · rw [hreply]
    exact .stays hremarks
  · rw [hreply]
    exact .takes hactive htakes

theorem confirm_step {x : Session} (hx : x.Sound) (token : Token) (s : Scene) :
    x.Step s none (x.confirm token s).session (x.confirm token s).scene
      (x.confirm token s).notes := by
  unfold confirm
  rcases x.holder_cases token with ⟨i, hactive, _, hholder⟩ | ⟨error, hholder, _⟩
  · simp only [hholder]
    split
    · rename_i htyping
      exact .skips hactive htyping
    · exact feed_step hx token .confirm s
  · simp only [hholder]
    exact .stays .nil

theorem abandon_step (x : Session) (token : Token) (s : Scene) :
    x.Step s none (x.abandon token s).session (x.abandon token s).scene
      (x.abandon token s).notes := by
  unfold abandon
  rcases x.holder_cases token with ⟨i, hactive, _, hholder⟩ | ⟨error, hholder, _⟩
  · simp only [hholder]
    exact .closes hactive
  · simp only [hholder]
    exact .stays .nil

end Session

namespace Story

/-- Every move but a frame is a step. -/
theorem act_step {g : Story} (hg : g.session.Sound) {m : Move} (hm : ∀ ms, m ≠ .tick ms) :
    g.session.Step g.world.scene (g.act m).token? (g.act m).story.session
      (g.act m).story.world.scene (g.act m).notes := by
  cases m with
  | begin npc player entries =>
      rcases g.session.begin_cases npc player entries g.world.scene with
        ⟨notes, error, hreply, hremarks⟩ |
          ⟨script, selection, notes, hfree, _, _, hremarks, hreply⟩
      · simp only [act, hreply]
        exact .stays hremarks
      · obtain ⟨status, hanswer⟩ :=
          g.session.launch_answer npc player script selection g.world.scene
        simp only [act, heard, hreply, hanswer]
        exact .launches hfree hremarks
  | confirm token => exact Session.confirm_step hg token g.world.scene
  | choose token index => exact Session.feed_step hg token (.choose index) g.world.scene
  | arrive token ticket => exact Session.feed_step hg token (.arrive ticket) g.world.scene
  | abandon token => exact g.session.abandon_step token g.world.scene
  | tick ms => exact absurd rfl (hm ms)

/-! ## A story -/

/-- Nobody but Ann, who stands still. -/
def annAlone : World where
  player := "Ben"
  scene := { cast := ⟨[{ name := "Ann", position := ⟨0, 0⟩, direction := .down }]⟩ }

/-- Whoever is talked to walks off. -/
def walkOff : Script :=
  ⟨[], [.walk ⟨3, .up, none⟩]⟩

/-- Ann is sent off, is given up, and is sent off again before she has arrived. -/
def sendingAgain : List Move :=
  [.begin "Ann" "Ben" [walkOff], .abandon 1, .begin "Ann" "Ben" [walkOff]]

/-- Where Ann has been sent off again. -/
def annSentAgain : Story :=
  (opening {} annAlone).after sendingAgain

end Story

end Cutscene
