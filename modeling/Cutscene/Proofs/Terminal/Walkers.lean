import Cutscene.Proofs.Session.Awaited
import Cutscene.Proofs.Terminal.Endless
/-!
# One walker at a time

At the terminal frames pass only while a walk is waited for, and every ticket of a frame is handed
in at once.  So nobody walks but the one who is waited for (`Session.AwaitsAll`): what is fed to a
session while nobody walks keeps to this (`Session.Step.awaitsAll`), and so does the ticket of the
one who has arrived (`Session.arrive_awaitsAll`).  From it follows what the calls of a terminal are
answered, and how a game may end (`Game.Orderly`).
-/

namespace Cutscene

namespace Cast

/-- The number of actors on a walk. -/
def walkers (c : Cast) : Nat :=
  c.actors.countP (·.isWalking)

theorem length_tickets (c : Cast) : c.tickets.length = c.walkers := by
  rw [tickets, List.length_filterMap_eq_countP, walkers]
  congr 1
  funext a
  exact Option.isSome_map

theorem anyoneWalking_eq_false {c : Cast} (h : c.tickets = []) : c.anyoneWalking = false := by
  have hnone : c.walkers = 0 := by rw [← c.length_tickets, h, List.length_nil]
  rw [anyoneWalking, List.any_eq_false]
  exact List.countP_eq_zero.1 hnone

theorem anyoneWalking_eq_true {c : Cast} {ticket : Ticket} (h : c.tickets = [ticket]) :
    c.anyoneWalking = true := by
  cases hwalking : c.anyoneWalking with
  | true => rfl
  | false => simp [tickets_eq_nil hwalking] at h

/-- In a frame every walker walks on or hands over a ticket. -/
theorem walkers_tick (c : Cast) (ms : Float32) :
    (c.tick ms).1.walkers + (c.tick ms).2.length = c.walkers := by
  rw [← length_tickets, ← length_tickets, ← List.length_append, (c.tick_perm ms).length_eq]

/-- The only walker walks on, or arrives. -/
theorem tick_of_one {c : Cast} {ticket : Ticket} (h : c.tickets = [ticket]) (ms : Float32) :
    ((c.tick ms).1.tickets = [ticket] ∧ (c.tick ms).2 = []) ∨
      ((c.tick ms).1.tickets = [] ∧ (c.tick ms).2 = [ticket]) := by
  have hperm := c.tick_perm ms
  rw [h] at hperm
  exact (List.append_eq_singleton_iff.1 (List.perm_singleton.1 hperm)).symm

end Cast

theorem Town.world_tickets (t : Town) (settings : Settings) (store : Store) (d : Disk) :
    (t.world settings store d).scene.cast.tickets = [] := by
  rw [Cast.tickets, List.filterMap_eq_nil_iff]
  intro a ha
  rcases List.mem_cons.1 ha with rfl | ha
  · rfl
  · obtain ⟨r, _, rfl⟩ := List.mem_map.1 ha
    rfl

/-! ## Walks that are waited for -/

namespace Session

/-- Nobody walks but the one whose walk is waited for. -/
def AwaitsAll (x : Session) (c : Cast) : Prop :=
  c.tickets = (x.awaits?.map (·.2)).toList

variable {x : Session} {c : Cast} {actor : String} {ticket : Ticket}

theorem AwaitsAll.of_none (h : x.AwaitsAll c) (hnone : x.awaits? = none) : c.tickets = [] := by
  rw [h, hnone]
  rfl

theorem AwaitsAll.walkers_le (h : x.AwaitsAll c) : c.walkers ≤ 1 := by
  rw [← c.length_tickets, h]
  cases x.awaits?.map (·.2) <;> simp

theorem AwaitsAll.of_some (h : x.AwaitsAll c) (hsome : x.awaits? = some (actor, ticket)) :
    c.tickets = [ticket] := by
  rw [h, hsome]
  rfl

/-- Behind a shift, whoever has set out is waited for. -/
theorem Shift.awaitsAll {n frontier : Ticket} {c' : Cast} {awaited : Option (String × Ticket)}
    (h : Shift n c frontier awaited c') (hc : c.tickets = []) :
    c'.tickets = (awaited.map (·.2)).toList := by
  cases h with
  | quiet _ hnone htickets =>
      rw [htickets, hc, hnone]
      rfl
  | sent tiles direction hactor _ hsome =>
      obtain ⟨rest, hsub, -, hperm⟩ := Cast.tickets_walk hactor tiles direction n
      rw [hc] at hsub
      obtain rfl := List.sublist_nil.1 hsub
      rw [hsome, List.perm_singleton.1 hperm]
      rfl

theorem Step.awaitsAll {x' : Session} {s s' : Scene} {token? : Option Token}
    {notes : List Journal.Note} (h : x.Step s token? x' s' notes) (hx : x.Sound)
    (hall : x.AwaitsAll s.cast) (hnobody : s.cast.tickets = []) : x'.AwaitsAll s'.cast := by
  rcases h.stays_or_moves hx with ⟨hsession, hcast⟩ | ⟨_, hshift⟩
  · rw [hsession, hcast]
    exact hall
  · exact hshift.awaitsAll hnobody

/-- The ticket that is waited for is taken, whoever sets out then. -/
theorem arrive_awaitsAll (hx : x.Sound) {i : Interaction} (hactive : x.active = some i)
    (hawaits : x.awaits? = some (actor, ticket)) {s : Scene} (hnobody : s.cast.tickets = []) :
    (x.arrive i.token ticket s).session.AwaitsAll (x.arrive i.token ticket s).scene.cast := by
  unfold arrive
  rcases feed_cases hx i.token (.arrive ticket) s with
    ⟨_, _, _, _, hnot⟩ | ⟨j, p', s', notes, hactive', _, htakes, hreply⟩
  · rw [Session.awaits?, hactive] at hawaits
    obtain ⟨hstatus, hticket⟩ := Performance.awaits?_eq_some_iff.1 hawaits
    exact absurd (.arrive hstatus hticket) (hnot i hactive rfl _ _ _)
  · rw [hreply]
    exact (taken_moves hx hactive' htakes).2.awaitsAll hnobody

theorem StandsAt.exists_active {token : Token} {waitsFor : Suspension}
    (h : x.StandsAt token (.paused waitsFor)) :
    ∃ i, x.active = some i ∧ i.token = token ∧ i.performance.status = .paused waitsFor := by
  cases hactive : x.active with
  | none => simp [StandsAt, hactive] at h
  | some i => exact ⟨i, rfl, h.of_active hactive⟩

theorem StandsAt.awaits?_eq_none {token : Token} {status : Status} (h : x.StandsAt token status)
    (hother : ∀ walker, status ≠ .paused (.walk walker)) : x.awaits? = none := by
  refine Option.eq_none_iff_forall_ne_some.2 fun walk hwalk => ?_
  obtain ⟨i, hactive, hawaits⟩ := Option.bind_eq_some_iff.1 hwalk
  have hstatus := (Performance.awaits?_eq_some_iff.1 hawaits).1
  exact hother walk.1 ((h.of_active hactive).2.symm.trans hstatus)

theorem StandsAt.exists_awaits? {token : Token} (h : x.StandsAt token (.paused (.walk actor)))
    (hx : x.Sound) : ∃ ticket, x.awaits? = some (actor, ticket) := by
  obtain ⟨i, hactive, _, hstatus⟩ := h.exists_active
  have hmatches := (hx i hactive).1.status_matches
  rw [hstatus] at hmatches
  obtain ⟨_, ⟨ticket, hticket, _⟩, _⟩ := hmatches
  refine ⟨ticket, ?_⟩
  rw [Session.awaits?, hactive]
  exact Performance.awaits?_eq_some_iff.2 ⟨hstatus, hticket⟩

theorem abandon_of_active {i : Interaction} (hactive : x.active = some i) (s : Scene) :
    x.abandon i.token s = ⟨(x.close i s).1, (x.close i s).2.1, (x.close i s).2.2, .ok ()⟩ := by
  simp [abandon, holder, hactive]

end Session

namespace Terminal

namespace Game

/-- The cast of a game. -/
def cast (g : Game) : Cast :=
  g.world.scene.cast

/-- The game is in order, and nobody walks but the one who is waited for. -/
structure Attended (g : Game) : Prop extends g.InOrder where
  all : g.session.AwaitsAll g.cast

namespace Attended

variable {g : Game}

theorem with_output (h : g.Attended) (output : String) : ({ g with output } : Game).Attended :=
  ⟨⟨h.sound, h.stands, h.announces⟩, h.all⟩

theorem render (h : g.Attended) : g.render.Attended := by
  have hready := h.toInOrder.render.1
  obtain ⟨screen, output, hrender, _⟩ := render_spec h.announces
  refine ⟨hready.toInOrder, ?_⟩
  rw [hrender]
  exact h.all

theorem nobody (h : g.Attended) (hother : ∀ walker, g.status ≠ .paused (.walk walker)) :
    g.cast.tickets = [] :=
  h.all.of_none (h.stands.awaits?_eq_none hother)

theorem walker (h : g.Attended) {actor : String} (hwalk : g.status = .paused (.walk actor)) :
    ∃ ticket, g.session.awaits? = some (actor, ticket) ∧ g.cast.tickets = [ticket] := by
  have hstands := h.stands
  rw [hwalk] at hstands
  obtain ⟨ticket, hawaits⟩ := hstands.exists_awaits? h.sound
  exact ⟨ticket, hawaits, h.all.of_some hawaits⟩

end Attended

/-! ## Calls -/

section Calls

variable {g : Game} {waitsFor : Suspension}

theorem InOrder.exists_active (h : g.InOrder) (hpaused : g.status = .paused waitsFor) :
    ∃ i, g.session.active = some i ∧ i.token = g.token := by
  have hstands := h.stands
  rw [hpaused] at hstands
  obtain ⟨i, hactive, htoken, _⟩ := hstands.exists_active
  exact ⟨i, hactive, htoken⟩

theorem InOrder.feed_ok (h : g.InOrder) (hpaused : g.status = .paused waitsFor) (cue : Cue)
    (s : Scene) : ∃ status, (g.session.feed g.token cue s).answer = .ok status := by
  obtain ⟨i, hactive, htoken⟩ := h.exists_active hpaused
  obtain ⟨status, hanswer, _⟩ := Session.feed_gets_on h.sound hactive cue s
  rw [htoken] at hanswer
  exact ⟨status, hanswer⟩

theorem take_of_ok {reply : Reply Status} {status : Status} (h : reply.answer = .ok status) :
    g.take reply =
      .next { g with session := reply.session, world.scene := reply.scene, status } := by
  rw [take, h]

/-- A cue that is fed in while nobody walks. -/
theorem Attended.feed (h : g.Attended) (hpaused : g.status = .paused waitsFor)
    (hnobody : g.cast.tickets = []) (cue : Cue) :
    ∃ g', g.take (g.session.feed g.token cue g.world.scene) = .next g' ∧ g'.Attended := by
  obtain ⟨status, hanswer⟩ := h.feed_ok hpaused cue g.world.scene
  have htake := take_of_ok (g := g) hanswer
  have hstep := Session.feed_step h.sound g.token cue g.world.scene
  exact ⟨_, htake, (onward_of_feed h.toInOrder htake).1.inOrder,
    hstep.awaitsAll h.sound h.all hnobody⟩

/-- The ticket that is waited for is handed in, once nobody walks any more. -/
theorem InOrder.handIn_awaited (h : g.InOrder) {actor : String} {ticket : Ticket}
    (hpaused : g.status = .paused waitsFor) (hawaits : g.session.awaits? = some (actor, ticket))
    (hnobody : g.cast.tickets = []) :
    ∃ g', g.handIn none [ticket] = (.next g', some g'.status) ∧ g'.Attended := by
  obtain ⟨status, hanswer⟩ := h.feed_ok hpaused (.arrive ticket) g.world.scene
  have htake := take_of_ok (g := g) hanswer
  obtain ⟨i, hactive, htoken⟩ := h.exists_active hpaused
  have hall := Session.arrive_awaitsAll h.sound hactive hawaits hnobody
  rw [htoken] at hall
  refine ⟨_, ?_, (onward_of_feed h htake).1.inOrder, hall⟩
  rw [handIn, Session.arrive, htake]
  rfl

theorem InOrder.quit_done (h : g.InOrder) (hpaused : g.status = .paused waitsFor) :
    ∃ g', g.quit = .done g' ∧ g'.cast = g.cast := by
  obtain ⟨i, hactive, htoken⟩ := h.exists_active hpaused
  rw [quit, ← htoken, Session.abandon_of_active hactive]
  exact ⟨_, rfl, rfl⟩

end Calls

/-! ## Frames -/

/-- The game once a frame has passed, with the tickets of the frame still to be handed in. -/
def ticked (g : Game) : Game :=
  { g with world := (g.world.tick frameMs).1 }

/-- The tickets that the next frame hands over. -/
def returned (g : Game) : List Ticket :=
  (g.world.tick frameMs).2

/-- The frames that lead from the top of one frame of a walk to that of another one, each with the
number of frames that are left. -/
inductive Frames : Game → Nat → Game → Nat → Prop where
  | here (g : Game) (frames : Nat) : Frames g frames g frames
  | frame {g g₁ g' : Game} {frames left : Nat} {answer : Option Status} :
      g.ticked.handIn none g.returned = (.next g₁, answer) →
      (∀ status, answer = some status → ∃ walker, status = .paused (.walk walker)) →
      g₁.cast.anyoneWalking = true → Frames g₁ frames g' left → Frames g (frames + 1) g' left

section Frames

variable {g g₁ : Game} {actor : String}

theorem simulateWalk_succ (g : Game) (actor : String) (frames : Nat) :
    g.simulateWalk actor (frames + 1) =
      match g.ticked.handIn none g.returned with
      | (.next g₁, answer) =>
        let goOn :=
          if g₁.cast.anyoneWalking then g₁.simulateWalk actor frames
          else .failed g₁ (.endlessWalk actor)
        match answer with
        | none => goOn
        | some (.paused (.walk _)) => goOn
        | some _ => .next g₁
      | (round, _) => round := rfl

theorem simulateWalk_goes_on {answer : Option Status}
    (h : g.ticked.handIn none g.returned = (.next g₁, answer))
    (hanswer : ∀ status, answer = some status → ∃ walker, status = .paused (.walk walker))
    (hwalking : g₁.cast.anyoneWalking = true) (frames : Nat) :
    g.simulateWalk actor (frames + 1) = g₁.simulateWalk actor frames := by
  rw [simulateWalk_succ, h]
  simp only [hwalking, if_true]
  cases answer with
  | none => rfl
  | some status =>
      obtain ⟨walker, rfl⟩ := hanswer status rfl
      rfl

theorem simulateWalk_stops {status : Status}
    (h : g.ticked.handIn none g.returned = (.next g₁, some status))
    (hother : ∀ walker, status ≠ .paused (.walk walker)) (frames : Nat) :
    g.simulateWalk actor (frames + 1) = .next g₁ := by
  rw [simulateWalk_succ, h]
  dsimp only
  split
  · rename_i hnone
    cases hnone
  · rename_i walker hwalk
    exact absurd (Option.some.inj hwalk) (hother walker)
  · rfl

theorem Attended.ticked_inOrder (h : g.Attended) : g.ticked.InOrder :=
  h.toInOrder.tick frameMs

/-- A frame brings the walker further, or hands in the only ticket. -/
theorem Attended.frame (h : g.Attended) {walker : String}
    (hwalk : g.status = .paused (.walk walker)) :
    ∃ g₁ answer, g.ticked.handIn none g.returned = (.next g₁, answer) ∧ g₁.Attended ∧
      (answer = none ∧ g₁.status = g.status ∨ answer = some g₁.status) := by
  obtain ⟨ticket, hawaits, htickets⟩ := h.walker hwalk
  rcases Cast.tick_of_one htickets frameMs with ⟨hkept, hnone⟩ | ⟨hnobody, hone⟩
  · have hreturned : g.returned = [] := hnone
    rw [hreturned]
    refine ⟨g.ticked, none, rfl, ⟨h.ticked_inOrder, ?_⟩, .inl ⟨rfl, rfl⟩⟩
    exact hkept.trans (htickets.symm.trans h.all)
  · have hreturned : g.returned = [ticket] := hone
    obtain ⟨g₁, hhand, hattended⟩ := h.ticked_inOrder.handIn_awaited hwalk hawaits hnobody
    rw [hreturned]
    exact ⟨g₁, _, hhand, hattended, .inr rfl⟩

theorem Attended.handed (h : g.Attended) {walker : String} {answer : Option Status}
    (hwalk : g.status = .paused (.walk walker))
    (hhand : g.ticked.handIn none g.returned = (.next g₁, answer)) :
    g₁.Attended ∧ (answer = none ∧ g₁.status = g.status ∨ answer = some g₁.status) := by
  obtain ⟨g₂, answer', hhand', hattended, hanswer⟩ := h.frame hwalk
  obtain ⟨hsame, rfl⟩ := Prod.mk.inj (hhand.symm.trans hhand')
  obtain rfl := Round.next.inj hsame
  exact ⟨hattended, hanswer⟩

/-- An answer of a game that waits for a walk is about a walk. -/
theorem walks_on {answer : Option Status} {next : String}
    (hanswer : answer = none ∧ g₁.status = g.status ∨ answer = some g₁.status)
    (hnext : g₁.status = .paused (.walk next)) :
    ∀ status, answer = some status → ∃ walker, status = .paused (.walk walker) := by
  rintro status rfl
  rcases hanswer with ⟨hnone, _⟩ | hsome
  · cases hnone
  · exact ⟨next, (Option.some.inj hsome).trans hnext⟩

theorem Attended.walking (h : g.Attended) {walker : String}
    (hwalk : g.status = .paused (.walk walker)) : g.cast.anyoneWalking = true := by
  obtain ⟨_, _, htickets⟩ := h.walker hwalk
  exact Cast.anyoneWalking_eq_true htickets

/-- A walk comes back, or its frames are used up. -/
theorem Attended.simulateWalk (h : g.Attended) {walker : String}
    (hwalk : g.status = .paused (.walk walker)) (actor : String) (frames : Nat) :
    (∃ g', g.simulateWalk actor frames = .next g' ∧ g'.Attended) ∨
      ∃ g', g.simulateWalk actor frames = .failed g' (.endlessWalk actor) ∧
        g.Frames frames g' 0 := by
  induction frames generalizing g walker with
  | zero => exact .inr ⟨g, rfl, .here g 0⟩
  | succ frames ih =>
      obtain ⟨g₁, answer, hhand, hattended, hanswer⟩ := h.frame hwalk
      by_cases hgoes : ∃ next, g₁.status = .paused (.walk next)
      · obtain ⟨next, hnext⟩ := hgoes
        have hstill := walks_on hanswer hnext
        have hwalking := hattended.walking hnext
        rw [simulateWalk_goes_on hhand hstill hwalking]
        exact (ih hattended hnext).imp_right fun ⟨g', hfailed, hframes⟩ =>
          ⟨g', hfailed, .frame hhand hstill hwalking hframes⟩
      · have hother : ∀ next, g₁.status ≠ .paused (.walk next) := not_exists.1 hgoes
        rcases hanswer with ⟨_, hsame⟩ | rfl
        · exact absurd (hsame.trans hwalk) (hother walker)
        · exact .inl ⟨g₁, simulateWalk_stops hhand hother frames, hattended⟩

theorem Attended.frames {g' : Game} {frames left : Nat} (h : g.Attended)
    (hwalk : ∃ walker, g.status = .paused (.walk walker)) (hframes : g.Frames frames g' left) :
    g'.Attended ∧ ∃ walker, g'.status = .paused (.walk walker) := by
  induction hframes with
  | here => exact ⟨h, hwalk⟩
  | @frame g g₁ _ _ _ answer hhand hgoes _ _ ih =>
      obtain ⟨walker, hwalk⟩ := hwalk
      obtain ⟨hattended, hanswer⟩ := h.handed hwalk hhand
      refine ih hattended ?_
      rcases hanswer with ⟨_, hsame⟩ | hsome
      · exact ⟨walker, hsame.trans hwalk⟩
      · exact hgoes _ hsome

end Frames

/-! ## Turns -/

/-- The game when a walk is announced, at the top of its first frame. -/
def announced (g : Game) (actor : String) : Game :=
  g.printLine s!"({actor} is walking...)"

/-- A turn or a game goes on in order, ends with nobody walking, or gives up a walk. -/
inductive Orderly (givenUp : String → Game → Prop) : Round → Prop where
  | next {g : Game} : g.Attended → Orderly givenUp (.next g)
  | done {g : Game} : g.cast.tickets = [] → Orderly givenUp (.done g)
  | failed {g : Game} {actor : String} : givenUp actor g →
      Orderly givenUp (.failed g (.endlessWalk actor))

theorem Orderly.mono {p q : String → Game → Prop} {round : Round} (h : Orderly p round)
    (hpq : ∀ actor g, p actor g → q actor g) : Orderly q round := by
  cases h with
  | next hattended => exact .next hattended
  | done hnobody => exact .done hnobody
  | failed hgivenUp => exact .failed (hpq _ _ hgivenUp)

/-- A walk is given up in a turn, with its frames used up. -/
def GivesUp (g : Game) (actor : String) (g' : Game) : Prop :=
  g.status = .paused (.walk actor) ∧ (g.beforeRound.announced actor).Frames walkFrames g' 0

section Turns

variable {g : Game}

/-- A prompt is answered while nobody walks. -/
theorem Attended.answer (h : g.Attended) (hstill : g.world.scene.screen.isTyping = false)
    {waitsFor : Suspension} (hpaused : g.status = .paused waitsFor)
    (hother : ∀ walker, waitsFor ≠ .walk walker) (line : String)
    (givenUp : String → Game → Prop) : Orderly givenUp (g.answer line) := by
  have hnobody : g.cast.tickets = [] := h.nobody fun walker hwalk =>
    hother walker (Status.paused.inj (hpaused.symm.trans hwalk))
  have hfeed (cue : Cue) :
      Orderly givenUp (g.take (g.session.feed g.token cue g.world.scene)) := by
    obtain ⟨g', htake, hattended⟩ := h.feed hpaused hnobody cue
    rw [htake]
    exact .next hattended
  unfold Game.answer
  dsimp only
  split
  · obtain ⟨g', hquit, hcast⟩ := h.toInOrder.quit_done hpaused
    rw [hquit]
    exact .done (by rw [hcast, hnobody])
  · split
    · split
      · exact hfeed _
      · exact .next (h.with_output _)
    · rw [Session.confirm_of_still hstill]
      exact hfeed .confirm

theorem Attended.beforeRound (h : g.Attended) :
    g.beforeRound.Attended ∧ g.beforeRound.status = g.status ∧
      g.beforeRound.world = g.world := by
  obtain ⟨output, hbefore⟩ := g.beforeRound_eq
  rw [hbefore]
  exact ⟨h.with_output output, rfl, rfl⟩

theorem Attended.announce (h : g.Attended) {actor : String}
    (hwalk : g.status = .paused (.walk actor)) :
    (g.beforeRound.announced actor).Attended ∧
      (g.beforeRound.announced actor).status = .paused (.walk actor) := by
  obtain ⟨hattended, hstatus, _⟩ := h.beforeRound
  exact ⟨hattended.with_output _, hstatus.trans hwalk⟩

theorem Attended.announced_frames {g' : Game} (h : g.Attended) {actor : String} {left : Nat}
    (hwalk : g.status = .paused (.walk actor))
    (hframes : (g.beforeRound.announced actor).Frames walkFrames g' left) :
    g'.Attended ∧ ∃ walker, g'.status = .paused (.walk walker) := by
  obtain ⟨hattended, hstatus⟩ := h.announce hwalk
  exact hattended.frames ⟨actor, hstatus⟩ hframes

/-- Somebody is still walking when a walk is given up. -/
theorem Attended.walking_of_givesUp {g' : Game} (h : g.Attended) {actor : String}
    (hgivesUp : g.GivesUp actor g') : g'.cast.anyoneWalking = true := by
  obtain ⟨hattended, walker, hwalk⟩ := h.announced_frames hgivesUp.1 hgivesUp.2
  exact hattended.walking hwalk

theorem Attended.step (h : g.Attended) (hstill : g.world.scene.screen.isTyping = false)
    (line : String) :
    Orderly (fun actor g' => g.status = .paused (.walk actor) ∧
      (g.announced actor).Frames walkFrames g' 0) (g.step line) := by
  unfold Game.step
  split
  · rename_i actor hwalk
    have hannounced : (g.announced actor).Attended := h.with_output _
    have hwalks := hannounced.simulateWalk hwalk actor walkFrames
    rw [announced] at hwalks
    rcases hwalks with ⟨g', hnext, hattended⟩ | ⟨g', hfailed, hframes⟩
    · rw [hnext]
      exact .next hattended
    · rw [hfailed]
      exact .failed ⟨hwalk, hframes⟩
  · rename_i waitsFor hother hpaused
    exact h.answer hstill hpaused hother line _
  · rename_i hidle
    exact .done (h.nobody fun walker hwalk => hidle _ hwalk)

theorem Attended.round (h : g.Attended) (hstill : g.world.scene.screen.isTyping = false)
    (line : String) : Orderly g.GivesUp (g.round line) := by
  obtain ⟨hattended, hstatus, hworld⟩ := h.beforeRound
  rw [← hworld] at hstill
  have hstep : Orderly g.GivesUp (g.beforeRound.step line) :=
    (hattended.step hstill line).mono fun _ _ ⟨hwalk, hframes⟩ =>
      ⟨hstatus.symm.trans hwalk, hframes⟩
  rw [round_eq]
  cases hround : g.beforeRound.step line with
  | next g₁ =>
      rw [hround] at hstep
      cases hstep with
      | next hattended => exact .next hattended.render
  | done | failed => rwa [hround] at hstep

theorem Ready.attended_of_leads {g' : Game} {lines rest : List String} (hready : g.Ready)
    (h : g.Attended) (hleads : g.Leads lines g' rest) : g'.Attended := by
  induction hleads with
  | here => exact h
  | @turn g g₁ _ lines _ hround _ ih =>
      have horderly := h.round hready.still (g.read lines).1
      rw [hround] at horderly
      cases horderly with
      | next hattended => exact ih (hready.round hround).1 hattended

theorem Ready.run_orderly (hready : g.Ready) (h : g.Attended) (lines : List String) (turns : Nat) :
    Orderly (fun actor g' => ∃ g₁ rest, g.Leads lines g₁ rest ∧ g₁.GivesUp actor g')
      (g.run lines turns) := by
  induction turns generalizing g lines with
  | zero => exact .next h
  | succ turns ih =>
      have horderly := h.round hready.still (g.read lines).1
      rw [run_succ]
      cases hround : g.round (g.read lines).1 with
      | next g₁ =>
          rw [hround] at horderly
          cases horderly with
          | next hattended =>
              have hrest := ih (hready.round hround).1 hattended (g.read lines).2
              exact hrest.mono fun actor g' ⟨g₂, rest, hleads, hgivesUp⟩ =>
                ⟨g₂, rest, .turn hround hleads, hgivesUp⟩
      | done | failed =>
          rw [hround] at horderly
          exact horderly.mono fun actor g' hgivesUp => ⟨g, lines, .here g lines, hgivesUp⟩

end Turns

/-! ## What holds at every moment -/

/-- At most one actor walks, now and a frame later, and the session expects whoever arrives in that
frame. -/
structure OneWalker (g : Game) : Prop where
  now : g.cast.walkers ≤ 1
  ticked : g.ticked.cast.walkers ≤ 1
  returned : g.returned.length ≤ 1
  expected : ∀ ticket ∈ g.returned, ∃ status,
    (g.ticked.session.arrive g.token ticket g.ticked.world.scene).answer = .ok status

/-- Nobody walks, and no call that a line may lead to is refused. -/
structure Attentive (g : Game) : Prop where
  nobody : g.cast.anyoneWalking = false
  confirm : ∃ status, (g.session.confirm g.token g.world.scene).answer = .ok status
  choose : ∀ index, ∃ status, (g.session.choose g.token index g.world.scene).answer = .ok status
  abandon : (g.session.abandon g.token g.world.scene).answer = .ok ()

theorem Attended.oneWalker {g : Game} (h : g.Attended) : g.OneWalker := by
  have hnow : g.cast.walkers ≤ 1 := h.all.walkers_le
  have htick : g.ticked.cast.walkers + g.returned.length = g.cast.walkers :=
    g.cast.walkers_tick frameMs
  refine ⟨hnow, by omega, by omega, fun ticket hticket => ?_⟩
  by_cases hwalk : ∃ walker, g.status = .paused (.walk walker)
  · obtain ⟨walker, hwalk⟩ := hwalk
    exact h.ticked_inOrder.feed_ok hwalk (.arrive ticket) _
  -- nobody is there to hand anything over
  · have hnobody := h.nobody (not_exists.1 hwalk)
    rw [← g.cast.length_tickets, hnobody, List.length_nil] at htick
    have hnone : g.returned = [] := List.length_eq_zero_iff.1 (by omega)
    rw [hnone] at hticket
    exact absurd hticket List.not_mem_nil

theorem asks_iff {status : Status} :
    asks status = true ↔ status = .paused .confirm ∨ status = .paused .choice := by
  unfold asks
  split <;> simp_all

theorem Ready.attentive {g : Game} (hready : g.Ready) (h : g.Attended)
    (hasks : asks g.status = true) : g.Attentive := by
  obtain ⟨waitsFor, hpaused, hother⟩ : ∃ waitsFor, g.status = .paused waitsFor ∧
      ∀ walker, g.status ≠ .paused (.walk walker) := by
    rcases asks_iff.1 hasks with hconfirm | hchoice
    · exact ⟨_, hconfirm, by simp [hconfirm]⟩
    · exact ⟨_, hchoice, by simp [hchoice]⟩
  have hanswer (cue : Cue) := h.feed_ok hpaused cue g.world.scene
  refine ⟨Cast.anyoneWalking_eq_false (h.nobody hother), ?_, fun index => hanswer _, ?_⟩
  · rw [Session.confirm_of_still hready.still]
    exact hanswer .confirm
  · obtain ⟨i, hactive, htoken⟩ := h.exists_active hpaused
    rw [← htoken, Session.abandon_of_active hactive]

/-- Only saving can fail when the loop is over. -/
theorem conclude_failed {g g' : Game} {saveFolder : Option String} {failure : Failure}
    (h : g.conclude saveFolder = .failed g' failure) :
    ∃ folder, saveFolder = some folder ∧
      ((∃ player, failure = .playerMissing player) ∨ ∃ error, failure = .progress error) := by
  unfold conclude at h
  dsimp only at h
  split at h
  · rename_i folder
    refine ⟨folder, rfl, ?_⟩
    unfold saveProgress at h
    split at h
    · exact .inl ⟨_, (Round.failed.inj h).2.symm⟩
    · dsimp only at h
      split at h
      · cases h
      · exact .inr ⟨_, (Round.failed.inj h).2.symm⟩
  · cases h

end Game

/-! ## The whole command -/

theorem Setup.begin_attended {setup : Setup} {o : Options} {d : Disk} {g : Game}
    (h : setup.begin o d = .next g) : g.Attended := by
  obtain ⟨token, status, hanswer, rfl⟩ := Setup.begin_eq_next h
  have hnobody := Town.world_tickets setup.town setup.settings setup.store d
  have hsound := Story.opening_sound setup.settings (setup.town.world setup.settings setup.store d)
  refine Game.Attended.render ⟨(Setup.begun_inOrder hanswer).1, ?_⟩
  exact (setup.beginning_step o d).awaitsAll hsound hnobody hnobody

/-- The moments of a game behind its beginning: the tops of its turns, and of the frames of its
walks. -/
inductive Moment (o : Options) (d : Disk) (lines : List String) : Game → Prop where
  | turn {g : Game} {rest : List String} : Reaches o d lines g rest → Moment o d lines g
  | frame {g g' : Game} {rest : List String} {actor : String} {left : Nat} :
      Reaches o d lines g rest → g.status = .paused (.walk actor) →
      (g.beforeRound.announced actor).Frames walkFrames g' left → Moment o d lines g'

/-- The loop of a game ends, and the game is as it is then. -/
def LoopEnds (o : Options) (d : Disk) (lines : List String) (g : Game) : Prop :=
  ∃ setup first turns, Setup.load o d = .ok setup ∧ setup.begin o d = .next first ∧
    first.run lines turns = .done g

section

variable {o : Options} {d : Disk} {lines rest : List String} {g : Game}

theorem Reaches.attended (h : Reaches o d lines g rest) : g.Attended := by
  obtain ⟨setup, first, _, hbegin, hleads⟩ := h
  exact (Setup.begin_ready hbegin).1.attended_of_leads (Setup.begin_attended hbegin) hleads

theorem Moment.attended (h : Moment o d lines g) : g.Attended := by
  cases h with
  | turn hreaches => exact hreaches.attended
  | frame hreaches hwalk hframes => exact (hreaches.attended.announced_frames hwalk hframes).1

/-- However many turns a game is given, it goes on in order, ends or gives up a walk. -/
theorem Setup.run_orderly {setup : Setup} {first : Game} (hload : Setup.load o d = .ok setup)
    (hbegin : setup.begin o d = .next first) (lines : List String) (turns : Nat) :
    Game.Orderly (fun actor g' => ∃ g rest, Reaches o d lines g rest ∧ g.GivesUp actor g')
      (first.run lines turns) := by
  have horderly := (Setup.begin_ready hbegin).1.run_orderly (Setup.begin_attended hbegin) lines
    turns
  exact horderly.mono fun _ _ ⟨g, rest, hleads, hgivesUp⟩ =>
    ⟨g, rest, ⟨setup, first, hload, hbegin, hleads⟩, hgivesUp⟩

theorem LoopEnds.nobody (h : LoopEnds o d lines g) : g.cast.anyoneWalking = false := by
  obtain ⟨setup, first, turns, hload, hbegin, hrun⟩ := h
  have horderly := Setup.run_orderly hload hbegin lines turns
  rw [hrun] at horderly
  cases horderly with
  | done hnobody => exact Cast.anyoneWalking_eq_false hnobody

/-- Behind its beginning a game fails only where a walk is given up or progress is saved. -/
theorem play_fails {setup : Setup} {first : Game} {failure : Failure}
    (hload : Setup.load o d = .ok setup) (hbegin : setup.begin o d = .next first)
    (hfails : (play o d lines).result = some (.error failure)) :
    (∃ g rest actor g', Reaches o d lines g rest ∧ g.GivesUp actor g' ∧
      failure = .endlessWalk actor) ∨
    ∃ g folder, LoopEnds o d lines g ∧ o.saveFolder = some folder ∧
      ((∃ player, failure = .playerMissing player) ∨ ∃ error, failure = .progress error) := by
  have horderly := Setup.run_orderly hload hbegin lines (setup.turns lines)
  simp only [play, hload, hbegin, Game.finish] at hfails
  cases hrun : first.run lines (setup.turns lines) with
  | next g => simp [hrun, Game.Round.report] at hfails
  | done g =>
      simp only [hrun] at hfails
      cases hconclude : g.conclude o.saveFolder with
      | next | done => simp [hconclude, Game.Round.report] at hfails
      | failed g' failure' =>
          rw [hconclude] at hfails
          obtain rfl : failure' = failure := by simpa [Game.Round.report] using hfails
          obtain ⟨folder, hfolder, hfailure⟩ := Game.conclude_failed hconclude
          exact .inr ⟨g, folder, ⟨setup, first, _, hload, hbegin, hrun⟩, hfolder, hfailure⟩
  | failed g' failure' =>
      simp only [hrun] at hfails
      obtain rfl : failure' = failure := by simpa [Game.Round.report] using hfails
      rw [hrun] at horderly
      cases horderly with
      | @failed _ actor hgivenUp =>
          obtain ⟨g, rest, hreaches, hgivesUp⟩ := hgivenUp
          exact .inl ⟨g, rest, actor, g', hreaches, hgivesUp, rfl⟩

end

/-- **One walker at a time.** Whatever the files, whoever is talked to and whatever the lines of the
input, at every moment behind the beginning of a game at most one actor walks, and a frame hands
over at most one ticket, which the session takes without an error.  At every prompt nobody walks,
and neither confirming nor choosing nor giving up is answered with an error; nobody walks either
when the loop is over, so when progress is saved.  This leaves two ways to fail: all the frames that
a turn has for walks have passed and somebody is walking still, or progress cannot be saved. -/
theorem one_walker_at_a_time (o : Options) (d : Disk) (lines : List String) :
    (∀ g, Moment o d lines g → g.OneWalker) ∧
    (∀ g rest, Reaches o d lines g rest → Game.asks g.status = true → g.Attentive) ∧
    (∀ g, LoopEnds o d lines g → g.cast.anyoneWalking = false) ∧
    ∀ setup first failure, Setup.load o d = .ok setup → setup.begin o d = .next first →
      (play o d lines).result = some (.error failure) →
      (∃ g rest actor g', Reaches o d lines g rest ∧ g.GivesUp actor g' ∧
        g'.cast.anyoneWalking = true ∧ failure = .endlessWalk actor) ∨
      ∃ g folder, LoopEnds o d lines g ∧ o.saveFolder = some folder ∧
        ((∃ player, failure = .playerMissing player) ∨ ∃ error, failure = .progress error) := by
  refine ⟨fun g hmoment => hmoment.attended.oneWalker, fun g rest hreaches hasks =>
    hreaches.ready.attentive hreaches.attended hasks, fun g hends => hends.nobody, ?_⟩
  intro setup first failure hload hbegin hfails
  refine (play_fails hload hbegin hfails).imp_left ?_
  rintro ⟨g, rest, actor, g', hreaches, hgivesUp, hfailure⟩
  exact ⟨g, rest, actor, g', hreaches, hgivesUp, hreaches.attended.walking_of_givesUp hgivesUp,
    hfailure⟩

/-- Ann walks off and asks then. -/
def walkingTown : String :=
  "\x7b\"player\":\x7b\"name\":\"Ben\",\"pos\":\x7b\"x\":0,\"y\":0\x7d\x7d,
    \"npcs\":[\x7b\"name\":\"Ann\",\"pos\":\x7b\"x\":1,\"y\":0\x7d,\"talking\":[
    \x7b\"events\":[\x7b\"type\":\"walk\",\"tileDistance\":3,\"direction\":\"up\"\x7d,
    \x7b\"type\":\"textMessage\",\"text\":\"Well?\"\x7d]\x7d]\x7d]\x7d"

def walkingDisk : Disk :=
  townDisk walkingTown.toUTF8

set_option maxRecDepth 2000 in
theorem firstStatus?_walking :
    firstStatus? asking walkingDisk = some (.paused (.walk "Ann")) := by
  have hload : loadTown walkingDisk asking.town = _ :=
    loadTown_of_read walkingTown (read_townDisk _) String.toList_ofList
  rw [firstStatus?, Setup.load, hload]
  decide +kernel

/-- Ann asks, and what is given as the folder for progress is a file. -/
def askingToSave : Options :=
  { asking with saveFolder := some "town" }

theorem firstStatus?_askingToSave :
    firstStatus? askingToSave askingDisk = some (.paused .choice) :=
  firstStatus?_asking

/-- Whether a command has failed since progress could not be saved. -/
def Report.losesProgress (r : Report) : Bool :=
  match r.result with
  | some (.error (.progress _)) => true
  | _ => false

theorem Report.losesProgress_iff {r : Report} :
    r.losesProgress = true ↔ ∃ error, r.result = some (.error (.progress error)) := by
  unfold losesProgress
  split <;> simp_all

set_option maxRecDepth 2000 in
theorem losesProgress_askingToSave :
    (play askingToSave askingDisk ["q"]).losesProgress = true := by
  have hload : loadTown askingDisk askingToSave.town = _ :=
    loadTown_of_read askingTown (read_townDisk _) String.toList_ofList
  rw [play, Setup.load, hload]
  decide +kernel

theorem one_walker_at_a_time_walking :
    (∃ g, Reaches asking walkingDisk [] g [] ∧ g.status = .paused (.walk "Ann") ∧ g.OneWalker) ∧
    (∃ g, Reaches askingToSave askingDisk ["q"] g ["q"] ∧ g.status = .paused .choice ∧
      g.Attentive) ∧
    ∃ g error, (play askingToSave askingDisk ["q"]).result = some (.error (.progress error)) ∧
      LoopEnds askingToSave askingDisk ["q"] g ∧ g.cast.anyoneWalking = false := by
  obtain ⟨g, hwalk, hwalking⟩ := reaches_of_firstStatus? firstStatus?_walking []
  obtain ⟨g', hprompt, hchoice⟩ := reaches_of_firstStatus? firstStatus?_askingToSave ["q"]
  obtain ⟨error, hfails⟩ := Report.losesProgress_iff.1 losesProgress_askingToSave
  have hasks : Game.asks g'.status = true := by
    rw [hchoice]
    rfl
  obtain ⟨_, hattentive, hnobody, hfailure⟩ :=
    one_walker_at_a_time askingToSave askingDisk ["q"]
  refine ⟨⟨g, hwalk, hwalking, (one_walker_at_a_time asking walkingDisk []).1 g (.turn hwalk)⟩,
    ⟨g', hprompt, hchoice, hattentive g' _ hprompt hasks⟩, ?_⟩
  obtain ⟨setup, first, hload, hbegin, _⟩ := hprompt
  rcases hfailure setup first _ hload hbegin hfails with
    ⟨_, _, _, _, _, _, _, hwalk⟩ | ⟨ended, _, hends, _⟩
  · cases hwalk
  · exact ⟨ended, error, hfails, hends, hnobody ended hends⟩

end Terminal

end Cutscene
