import Cutscene.Proofs.Session.Headway
import Cutscene.Proofs.Terminal.Rendering
/-!
# Turns at the terminal

A turn of the loop that is not the last brings the interaction nearer to the end of its script, or
it was spent on a choice that was not made (`Ready.round`).  At the top of every turn no text is
still appearing, so that the enter key confirms (`Ready`).
-/

namespace Cutscene.Terminal.Game

/-- The session is in order and stands where the game takes it to stand, and text only appears that
is in the transcript. -/
structure InOrder (g : Game) : Prop where
  sound : g.session.Sound
  stands : g.session.StandsAt g.token g.status
  announces : g.world.scene.screen.Announces

/-- A game gets on when less is left of the script; otherwise nothing has become of its session. -/
structure Onward (g g' : Game) : Prop where
  inOrder : g'.InOrder
  nearer : g'.session.left < g.session.left ∨ g'.session = g.session ∧ g'.status = g.status

namespace Onward

theorem refl {g : Game} (h : g.InOrder) : Onward g g :=
  ⟨h, .inr ⟨rfl, rfl⟩⟩

theorem trans {g₁ g₂ g₃ : Game} (h : Onward g₁ g₂) (h' : Onward g₂ g₃) : Onward g₁ g₃ where
  inOrder := h'.inOrder
  nearer := by
    rcases h.nearer with hlt | ⟨hsession, hstatus⟩
    · rcases h'.nearer with hlt' | ⟨hsession', _⟩
      · exact .inl (Nat.lt_trans hlt' hlt)
      · rw [hsession']
        exact .inl hlt
    · rw [← hsession, ← hstatus]
      exact h'.nearer

theorem lt_of_status_ne {g g' : Game} (h : Onward g g') (hne : g'.status ≠ g.status) :
    g'.session.left < g.session.left := by
  rcases h.nearer with hlt | ⟨_, hsame⟩
  · exact hlt
  · exact absurd hsame hne

end Onward

/-! ## Cues -/

theorem take_eq_next {g g' : Game} {reply : Reply Status} (h : g.take reply = .next g') :
    ∃ status, reply.answer = .ok status ∧
      g' = { g with session := reply.session, world.scene := reply.scene, status } := by
  unfold take at h
  cases hanswer : reply.answer with
  | error error => simp [hanswer] at h
  | ok status =>
      simp only [hanswer, Round.next.injEq] at h
      exact ⟨status, rfl, h.symm⟩

/-- A cue that is fed in and does not fail. -/
theorem onward_of_feed {g g' : Game} (h : g.InOrder) {cue : Cue}
    (htake : g.take (g.session.feed g.token cue g.world.scene) = .next g') :
    Onward g g' ∧ (g'.session.left < g.session.left ∨ ∃ p : Performance,
      p.status = g.status ∧ p.IsIgnored cue g.world.scene) := by
  obtain ⟨status, hanswer, rfl⟩ := take_eq_next htake
  have hstep := Session.feed_step h.sound g.token cue g.world.scene
  rcases g.session.holder_cases g.token with ⟨i, hactive, htoken, _⟩ | ⟨error, hholder, _⟩
  · obtain ⟨status', hanswer', hstands, hmoved⟩ :=
      Session.feed_gets_on h.sound hactive cue g.world.scene
    rw [htoken] at hanswer' hstands hmoved
    obtain rfl : status' = status := Except.ok.inj (hanswer'.symm.trans hanswer)
    have hstatus : i.performance.status = g.status := (h.stands.of_active hactive).2
    rw [hstatus] at hmoved
    refine ⟨⟨⟨hstep.sound h.sound, hstands, hstep.announces h.sound h.announces⟩, ?_⟩, ?_⟩
    · exact hmoved.imp id fun hsame => ⟨hsame.1, hsame.2.1⟩
    · exact hmoved.imp id fun hsame => ⟨i.performance, hstatus, hsame.2.2⟩
  · simp [Session.feed, hholder, Session.decline] at hanswer

/-! ## Walks -/

theorem onward_of_handIn {g g' : Game} (h : g.InOrder) {last answer : Option Status}
    (hlast : ∀ status, last = some status → status = g.status) {tickets : List Ticket}
    (hhand : g.handIn last tickets = (.next g', answer)) :
    Onward g g' ∧ ∀ status, answer = some status → status = g'.status := by
  induction tickets generalizing g last with
  | nil =>
      obtain ⟨hsame, rfl⟩ := Prod.mk.inj hhand
      obtain rfl := Round.next.inj hsame
      exact ⟨.refl h, hlast⟩
  | cons ticket tickets ih =>
      unfold handIn at hhand
      cases htake : g.take (g.session.arrive g.token ticket g.world.scene) with
      | done _ => simp [htake] at hhand
      | failed _ _ => simp [htake] at hhand
      | next g₁ =>
          simp only [htake] at hhand
          have honward := (onward_of_feed h htake).1
          have hrest := ih honward.inOrder (fun _ hstatus => (Option.some.inj hstatus).symm) hhand
          exact ⟨honward.trans hrest.1, hrest.2⟩

theorem InOrder.tick {g : Game} (h : g.InOrder) (ms : Float32) :
    ({ g with world := (g.world.tick ms).1 } : Game).InOrder :=
  ⟨h.sound, h.stands, World.tick_announces h.announces ms⟩

/-- A walk that does not fail ends with something else than a walk, further on in the script. -/
theorem onward_of_simulateWalk {g g' : Game} (h : g.InOrder) {actor : String} {frames : Nat}
    (hwalk : g.simulateWalk actor frames = .next g') :
    Onward g g' ∧ ∀ walker, g'.status ≠ .paused (.walk walker) := by
  induction frames generalizing g with
  | zero => simp [simulateWalk] at hwalk
  | succ frames ih =>
      simp only [simulateWalk] at hwalk
      have hticked : Onward g { g with world := (g.world.tick frameMs).1 } :=
        ⟨h.tick frameMs, .inr ⟨rfl, rfl⟩⟩
      split at hwalk
      · rename_i g₁ answer hhand
        have hnone : ∀ status, (none : Option Status) = some status → status = g.status := nofun
        obtain ⟨honward, hanswer⟩ := onward_of_handIn hticked.inOrder hnone hhand
        have hmoved : Onward g g₁ := hticked.trans honward
        have hgoes : (if g₁.world.scene.cast.anyoneWalking then g₁.simulateWalk actor frames
            else .failed g₁ (.endlessWalk actor)) = .next g' →
            Onward g g' ∧ ∀ walker, g'.status ≠ .paused (.walk walker) := by
          intro hgoes
          split at hgoes
          · obtain ⟨honward, hdone⟩ := ih hmoved.inOrder hgoes
            exact ⟨hmoved.trans honward, hdone⟩
          · simp at hgoes
        split at hwalk
        · exact hgoes hwalk
        · exact hgoes hwalk
        · rename_i status hother
          obtain rfl := Round.next.inj hwalk
          refine ⟨hmoved, fun walker hstatus => ?_⟩
          rw [← hanswer status rfl] at hstatus
          exact hother walker hstatus
      · rename_i round _ hstops hhand
        exact absurd hwalk (hstops _)

/-! ## Prompts -/

theorem quit_ne_next (g g' : Game) : g.quit ≠ .next g' := by
  unfold quit
  dsimp only
  split <;> simp

/-- A line that is no answer leaves the choice open; another one is an answer, or confirms. -/
theorem onward_of_answer {g g' : Game} (h : g.InOrder)
    (hstill : g.world.scene.screen.isTyping = false) {line : String} (hasks : asks g.status = true)
    (hanswer : g.answer line = .next g') :
    Onward g g' ∧ (g'.session.left < g.session.left ∨ g.status = .paused .choice) := by
  unfold answer at hanswer
  dsimp only at hanswer
  split at hanswer
  · exact absurd hanswer (g.quit_ne_next g')
  · split at hanswer
    · rename_i hchoice
      split at hanswer
      · exact ⟨(onward_of_feed h hanswer).1, .inr hchoice⟩
      · obtain rfl := Round.next.inj hanswer
        exact ⟨⟨⟨h.sound, h.stands, h.announces⟩, .inr ⟨rfl, rfl⟩⟩, .inr hchoice⟩
    · rename_i hother
      have hconfirm : g.status = .paused .confirm := by
        unfold asks at hasks
        split at hasks
        · assumption
        · rename_i hchoice
          exact absurd hchoice hother
        · simp at hasks
      rw [Session.confirm_of_still hstill] at hanswer
      obtain ⟨honward, hnearer⟩ := onward_of_feed h hanswer
      refine ⟨honward, .inl (hnearer.resolve_right ?_)⟩
      rintro ⟨p, hstatus, hignored⟩
      exact p.not_isIgnored_confirm (hstatus.trans hconfirm) _ hignored

/-! ## Turns -/

/-- A game at the top of a turn. -/
structure Ready (g : Game) : Prop extends g.InOrder where
  still : g.world.scene.screen.isTyping = false

theorem InOrder.render {g : Game} (h : g.InOrder) :
    g.render.Ready ∧ g.render.session = g.session ∧ g.render.status = g.status := by
  obtain ⟨screen, output, hrender, hannounces, hstill, _⟩ := render_spec h.announces
  rw [hrender]
  exact ⟨⟨⟨h.sound, h.stands, hannounces⟩, hstill⟩, rfl, rfl⟩

theorem InOrder.render_left {g : Game} (h : g.InOrder) {n : Nat} (hleft : g.session.left ≤ n) :
    g.render.Ready ∧ g.render.session.left ≤ n := by
  obtain ⟨hready, hsession, _⟩ := h.render
  rw [hsession]
  exact ⟨hready, hleft⟩

theorem beforeRound_eq (g : Game) : ∃ output, g.beforeRound = { g with output } := by
  have hdebug : ∃ output, g.printDebug = { g with output } := by
    unfold printDebug
    dsimp only
    split
    · exact ⟨_, rfl⟩
    · split <;> exact ⟨_, rfl⟩
  unfold beforeRound
  dsimp only
  split
  · obtain ⟨output, hdebug⟩ := hdebug
    rw [hdebug]
    exact ⟨_, rfl⟩
  · exact ⟨_, rfl⟩

/-- What is done in a turn, between what is printed before and after it. -/
def step (g : Game) (line : String) : Round :=
  match g.status with
  | .paused (.walk actor) => (g.printLine s!"({actor} is walking...)").simulateWalk actor walkFrames
  | .paused _ => g.answer line
  | _ => .done g

theorem round_eq (g : Game) (line : String) :
    g.round line =
      match g.beforeRound.step line with
      | .next g₁ => .next g₁.render
      | round => round := rfl

theorem round_eq_next {g g' : Game} {line : String} (h : g.round line = .next g') :
    ∃ g₁, g.beforeRound.step line = .next g₁ ∧ g' = g₁.render := by
  rw [round_eq] at h
  split at h
  · rename_i g₁ hstep
    exact ⟨g₁, hstep, (Round.next.inj h).symm⟩
  · rename_i hover
    exact absurd h (hover g')

theorem onward_of_step {g g' : Game} (h : g.InOrder)
    (hstill : g.world.scene.screen.isTyping = false) {line : String}
    (hstep : g.step line = .next g') :
    Onward g g' ∧ (g'.session.left < g.session.left ∨ g.status = .paused .choice) := by
  unfold step at hstep
  split at hstep
  · rename_i actor hwalk
    have hprinted : (g.printLine s!"({actor} is walking...)").InOrder :=
      ⟨h.sound, h.stands, h.announces⟩
    obtain ⟨honward, hdone⟩ := onward_of_simulateWalk hprinted hstep
    have hne : g'.status ≠ g.status := by
      rw [hwalk]
      exact hdone actor
    have hfirst : Onward g g' := ⟨honward.inOrder, honward.nearer⟩
    exact ⟨hfirst, .inl (hfirst.lt_of_status_ne hne)⟩
  · rename_i waitsFor hother hpaused
    have hasks : asks g.status = true := by
      rw [hpaused]
      cases waitsFor with
      | confirm => rfl
      | choice => rfl
      | walk actor => exact absurd rfl (hother actor)
    exact onward_of_answer h hstill hasks hstep
  · simp at hstep

/-- **A turn that is not the last.** It leads to another turn, with less of the script left, or it
was spent on a choice that was not made. -/
theorem Ready.round {g g' : Game} (h : g.Ready) {line : String} (hround : g.round line = .next g') :
    g'.Ready ∧ (g'.session.left < g.session.left ∨
      g'.session = g.session ∧ g'.status = .paused .choice ∧ g.status = .paused .choice) := by
  obtain ⟨output, hbefore⟩ := g.beforeRound_eq
  obtain ⟨g₁, hstep, rfl⟩ := round_eq_next hround
  rw [hbefore] at hstep
  have horder : ({ g with output } : Game).InOrder := ⟨h.sound, h.stands, h.announces⟩
  obtain ⟨honward, hnearer⟩ := onward_of_step horder h.still hstep
  obtain ⟨hready, hsession, hstatus⟩ := honward.inOrder.render
  rw [hsession, hstatus]
  refine ⟨hready, ?_⟩
  rcases hnearer with hlt | hchoice
  · exact .inl hlt
  · exact honward.nearer.imp id fun hsame => ⟨hsame.1, hsame.2.trans hchoice, hchoice⟩

end Cutscene.Terminal.Game
