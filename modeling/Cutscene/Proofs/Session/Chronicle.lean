import Cutscene.Proofs.Session.Closing
import Cutscene.Proofs.Session.Tokens
/-!
# When the session is free

Others may do something to the scene between two moves of a story.  A `Chronicle` is a story among
others: its moves with their beats, and in between whatever the others are allowed to do.  Which
interactions are over is told by the answers alone (`Answer.closed?`), as `Story.act_ended` says; so
whether the session is taken can be told by the answers as well (`Chronicle.occupied_iff`).
-/

namespace Cutscene

open Journal (Note ended)

/-- The token of the interaction that an answer says is over; `carried` is the token of the call. -/
def Answer.closed? (carried : Option Token) : Answer → Option Token
  | .begun (.ok (token, .finished)) => some token
  | .stands (.ok .finished) => carried
  | .abandoned (.ok ()) => carried
  | _ => none

theorem Answer.closed?_stands (carried : Option Token) (status : Status) :
    (Answer.stands (.ok status)).closed? carried =
      if status = .finished then carried else none := by
  cases status <;> rfl

theorem Answer.closed?_begun (carried : Option Token) (token : Token) (status : Status) :
    (Answer.begun (.ok (token, status))).closed? carried =
      if status = .finished then some token else none := by
  cases status <;> rfl

namespace Performance

theorem start_ended (p : Performance) (player : String) (initiator : Option String) (s : Scene) :
    ended (p.start player initiator s).notes = [] :=
  Journal.ended_quiet (p.start_quiet player initiator s)

theorem resume_ended (p : Performance) (cue : Cue) (s : Scene) :
    ended (p.resume cue s).notes = [] := by
  rcases p.resume_cases cue s with ⟨p', s', notes, htakes, hturn⟩ | ⟨notes, hignores, hturn, _⟩
  · rw [hturn]
    exact Journal.ended_quiet (Journal.quiet_append htakes.quiet
      (Journal.quiet_of_played (Performance.proceed_played _ s')))
  · rw [hturn]
    exact Journal.ended_asides hignores.remarks.asides

end Performance

/-! ## What an answer tells -/

namespace Session

theorem settle_answer (x : Session) (i : Interaction) (t : Turn) :
    (x.settle i t).answer = .ok t.performance.status := by
  by_cases hstatus : t.performance.status = .finished
  · rw [settle_finished hstatus, hstatus]
  · rw [settle_waiting hstatus]

theorem settle_ended (x : Session) (i : Interaction) {t : Turn} (h : ended t.notes = []) :
    ended (x.settle i t).notes = if t.performance.status = .finished then [i.token] else [] := by
  by_cases hstatus : t.performance.status = .finished
  · rw [settle_finished hstatus, if_pos hstatus, Journal.ended_append, h, close_ended,
      List.nil_append]
  · rw [settle_waiting hstatus, if_neg hstatus, h]

theorem feed_ended (x : Session) (token : Token) (cue : Cue) (s : Scene) :
    ended (x.feed token cue s).notes =
      ((Answer.stands (x.feed token cue s).answer).closed? (some token)).toList := by
  unfold feed
  rcases x.holder_cases token with ⟨i, _, htoken, hholder⟩ | ⟨error, hholder, _⟩
  · simp only [hholder]
    rw [settle_ended x i (i.performance.resume_ended cue s), settle_answer, Answer.closed?_stands,
      htoken]
    split <;> rfl
  · simp only [hholder]
    rfl

theorem confirm_ended {x : Session} (hx : x.Sound) (token : Token) (s : Scene) :
    ended (x.confirm token s).notes =
      ((Answer.stands (x.confirm token s).answer).closed? (some token)).toList := by
  unfold confirm
  rcases x.holder_cases token with ⟨i, hactive, _, hholder⟩ | ⟨error, hholder, _⟩
  · simp only [hholder]
    split
    -- text that appears at once ends nothing: an interaction under way waits for something
    · obtain ⟨_, waitsFor, hstatus⟩ := hx i hactive
      simp only [hstatus]
      rfl
    · exact x.feed_ended token .confirm s
  · simp only [hholder]
    rfl

theorem abandon_ended (x : Session) (token : Token) (s : Scene) :
    ended (x.abandon token s).notes =
      ((Answer.abandoned (x.abandon token s).answer).closed? (some token)).toList := by
  unfold abandon
  rcases x.holder_cases token with ⟨i, _, htoken, hholder⟩ | ⟨error, hholder, _⟩
  · simp only [hholder]
    rw [close_ended, htoken]
    rfl
  · simp only [hholder]
    rfl

theorem launch_ended (x : Session) (npc player : String) (script : Script) (selection : Selection)
    (s : Scene) :
    ended (x.launch npc player script selection s).notes =
      ((Answer.begun (x.launch npc player script selection s).answer).closed? none).toList := by
  have hstart := (x.opened npc script selection).performance.start_ended player (some npc) s
  have hended : ended (x.launched npc player script selection s).notes = _ :=
    settle_ended _ _ hstart
  have hanswer : (x.launched npc player script selection s).answer = _ := settle_answer _ _ _
  rw [x.launch_eq, hanswer]
  simp only [Except.map, Answer.closed?_begun]
  rw [apply_ite Option.toList]
  exact hended

theorem begin_ended (x : Session) (npc player : String) (entries : List Script) (s : Scene) :
    ended (x.begin npc player entries s).notes =
      ((Answer.begun (x.begin npc player entries s).answer).closed? none).toList := by
  rcases x.begin_cases npc player entries s with
    ⟨notes, error, hreply, hremarks⟩ | ⟨script, selection, notes, _, _, _, hremarks, hreply⟩
  · rw [hreply]
    exact Journal.ended_asides hremarks.asides
  · rw [hreply, Journal.ended_append, Journal.ended_asides hremarks.asides]
    exact x.launch_ended npc player script selection s

end Session

namespace Story

/-- The answer to a move tells which interaction has ended in it. -/
theorem act_ended {g : Story} (hg : g.session.Sound) (m : Move) :
    ended (g.act m).notes = ((g.act m).answer.closed? m.token?).toList := by
  cases m with
  | begin npc player entries => exact g.session.begin_ended npc player entries g.world.scene
  | confirm token => exact Session.confirm_ended hg token g.world.scene
  | choose token index => exact g.session.feed_ended token (.choose index) g.world.scene
  | arrive token ticket => exact g.session.feed_ended token (.arrive ticket) g.world.scene
  | abandon token => exact g.session.abandon_ended token g.world.scene
  | tick ms => rfl

end Story

/-! ## A story among others -/

/-- The moves of a story, each with the beat that it led to. -/
abbrev History := List (Move × Beat)

namespace History

def given (history : History) : List Token :=
  Beat.given (history.map (·.2))

def log (history : History) : List Note :=
  Beat.log (history.map (·.2))

/-- The tokens of the interactions that answers have said to be over. -/
def closed (history : History) : List Token :=
  history.filterMap fun mb => mb.2.answer.closed? mb.1.token?

theorem given_concat (history : History) (m : Move) (b : Beat) :
    given (history ++ [(m, b)]) = history.given ++ b.token?.toList := by
  rw [given, List.map_append]
  exact Beat.given_concat _ b

theorem log_concat (history : History) (m : Move) (b : Beat) :
    log (history ++ [(m, b)]) = history.log ++ b.notes := by
  rw [log, List.map_append]
  exact Beat.log_concat _ b

theorem closed_concat (history : History) (m : Move) (b : Beat) :
    closed (history ++ [(m, b)]) = history.closed ++ (b.answer.closed? m.token?).toList := by
  rw [closed, List.filterMap_append, ← closed]
  cases hclosed : b.answer.closed? m.token? <;> simp [hclosed]

end History

namespace Story

/-- The story once others have made another scene of its scene. -/
def elsewhere (g : Story) (s : Scene) : Story :=
  { g with world := { g.world with scene := s } }

/-- The histories of a story among others, who may change its scene in the ways that are allowed. -/
inductive Chronicle (allowed : Scene → Scene → Prop) (g₀ : Story) : History → Story → Prop where
  | opens : Chronicle allowed g₀ [] g₀
  | move {history : History} {g : Story} (m : Move) : Chronicle allowed g₀ history g →
      Chronicle allowed g₀ (history ++ [(m, g.act m)]) (g.act m).story
  | meanwhile {history : History} {g : Story} {s : Scene} : Chronicle allowed g₀ history g →
      allowed g.world.scene s → Chronicle allowed g₀ history (g.elsewhere s)

section

variable {allowed : Scene → Scene → Prop} {settings : Settings} {w : World} {history : History}
  {g : Story}

theorem Chronicle.sound (h : Chronicle allowed (opening settings w) history g) :
    g.session.Sound := by
  induction h with
  | opens => exact opening_sound settings w
  | move m _ ih => exact act_sound ih m
  | meanwhile _ _ ih => exact ih

theorem Chronicle.register (h : Chronicle allowed (opening settings w) history g) :
    g.session.Register history.given history.log := by
  induction h with
  | opens => exact Session.register_new settings
  | move m h ih =>
      rw [History.given_concat, History.log_concat]
      exact act_register ih h.sound m
  | meanwhile _ _ ih => exact ih

/-- What answers say to be over is what the notes say to have ended. -/
theorem Chronicle.closed_eq (h : Chronicle allowed (opening settings w) history g) :
    history.closed = ended history.log := by
  induction h with
  | opens => rfl
  | move m h ih =>
      rw [History.closed_concat, History.log_concat, Journal.ended_append, ih, act_ended h.sound m]
  | meanwhile _ _ ih => exact ih

theorem Chronicle.occupied_iff (h : Chronicle allowed (opening settings w) history g)
    (token : Token) :
    g.session.active.map (·.token) = some token ↔
      history.given.getLast? = some token ∧ token ∉ history.closed := by
  have hgiven := h.register.given_eq
  have hsorted := h.register.given_sorted
  rw [← h.closed_eq] at hgiven
  cases hactive : g.session.active with
  | none =>
      rw [hactive] at hgiven
      simp only [Option.map_none, Option.toList_none, List.append_nil, reduceCtorEq,
        false_iff, not_and, not_not] at hgiven ⊢
      intro hlast
      rw [← hgiven]
      exact List.mem_of_getLast? hlast
  | some i =>
      rw [hactive] at hgiven
      simp only [Option.map_some, Option.toList_some, Option.some.injEq] at hgiven ⊢
      have hlast : history.given.getLast? = some i.token := by
        rw [hgiven, List.getLast?_append]
        rfl
      have hfresh : i.token ∉ history.closed := by
        intro hclosed
        rw [hgiven] at hsorted
        have hlt := (List.pairwise_append.1 hsorted).2.2 i.token hclosed i.token (by simp)
        exact Nat.lt_irrefl _ hlt
      constructor
      · rintro rfl
        exact ⟨hlast, hfresh⟩
      · rintro ⟨htoken, _⟩
        exact Option.some.inj (hlast.symm.trans htoken)

end

/-- A move that is answered so that an interaction is over clears up after it, and no other move
asks for a flush. -/
theorem act_cleared {g : Story} (hg : g.session.Sound) (m : Move) :
    (∀ token, (g.act m).answer.closed? m.token? = some token →
      g.session.Cleared g.world.scene token (g.act m).story.session (g.act m).story.world.scene
        (g.act m).notes) ∧
    ((g.act m).answer.closed? m.token? = none → ∀ n ∈ (g.act m).notes, n.isFlush = false) := by
  have hended := act_ended hg m
  by_cases hm : ∃ ms, m = .tick ms
  · obtain ⟨ms, rfl⟩ := hm
    refine ⟨fun token hclosed => ?_, fun _ n hn => ?_⟩
    · simp [act, Answer.closed?] at hclosed
    · simp [act] at hn
  rcases (act_step hg (not_exists.1 hm)).cleared_or_quiet with hquiet | ⟨token, hcleared⟩
  · rw [Journal.ended_quiet hquiet] at hended
    refine ⟨fun token hclosed => ?_, fun _ => Journal.isFlush_quiet hquiet⟩
    simp [hclosed] at hended
  · have hlast := hcleared.ended_getLast?
    rw [hended] at hlast
    constructor
    · intro token' hclosed
      rw [hclosed] at hlast
      obtain rfl := Option.some.inj hlast
      exact hcleared
    · intro hclosed
      simp [hclosed] at hlast

/-- **The session is taken until its interaction is over.** Whatever calls are made of it and
whatever others do to the scene in between, a session that has begun anew is taken just when the
last interaction that began was neither answered to have finished nor given up, and one under way
waits for something.  The move that ends an interaction, whichever it is, leaves neither its text
nor its choices nor a flag of its choices, and asks for one flush, once these flags are gone; its
notes tell all that it did. -/
theorem occupied_until_over {allowed : Scene → Scene → Prop} {settings : Settings} {w : World}
    {history : History} {g : Story} (h : Chronicle allowed (opening settings w) history g) :
    (∀ token, g.session.active.map (·.token) = some token ↔
      history.given.getLast? = some token ∧ token ∉ history.closed) ∧
    (∀ i, g.session.active = some i → ∃ waitsFor, i.performance.status = .paused waitsFor) ∧
    ∀ m, (∀ token, (g.act m).answer.closed? m.token? = some token →
        g.session.Cleared g.world.scene token (g.act m).story.session (g.act m).story.world.scene
          (g.act m).notes) ∧
      ((g.act m).answer.closed? m.token? = none → ∀ n ∈ (g.act m).notes, n.isFlush = false) :=
  ⟨h.occupied_iff, fun i hi => (h.sound i hi).2, act_cleared h.sound⟩

def askToStay : Script :=
  ⟨[], [.message { text := "Do you stay?", choices := [⟨"Yes", "stays"⟩, ⟨"No", "leaves"⟩] }]⟩

/-- Ann has asked, and has left the scene before she got an answer. -/
def annHasAsked : Story :=
  ((opening {} annAlone).act (.begin "Ann" "Ben" [askToStay])).story.elsewhere {}

theorem occupied_until_over_asked :
    ∃ history, Chronicle (fun _ _ => True) (opening {} annAlone) history annHasAsked ∧
      (annHasAsked.session.active.map (·.token) = some 1 ↔
        history.given.getLast? = some 1 ∧ 1 ∉ history.closed) ∧
      (annHasAsked.act (.choose 1 0)).answer.closed? (some 1) = some 1 ∧
      annHasAsked.session.Cleared annHasAsked.world.scene 1
        (annHasAsked.act (.choose 1 0)).story.session
        (annHasAsked.act (.choose 1 0)).story.world.scene
        (annHasAsked.act (.choose 1 0)).notes := by
  have hchronicle : Chronicle (fun _ _ => True) (opening {} annAlone) _ annHasAsked :=
    .meanwhile (.move (.begin "Ann" "Ben" [askToStay]) .opens) trivial
  have hclosed : (annHasAsked.act (.choose 1 0)).answer.closed? (some 1) = some 1 := by rfl
  have hoccupied := occupied_until_over hchronicle
  exact ⟨_, hchronicle, hoccupied.1 1, hclosed, (hoccupied.2.2 (.choose 1 0)).1 1 hclosed⟩

end Story

end Cutscene
