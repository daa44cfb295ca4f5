import Cutscene.Proofs.Session.Shift
import Cutscene.Proofs.Session.Walks
/-!
# Nobody else is touched

A call may pass over any number of events before it comes to rest, and still it changes one actor at
most and moves none.  Which one is told from the event that it comes to (`Performance.ComesTo`): a
message turns its speaker and a walk sends its walker off, each of them the first actor of a name
(`Cast.Only`); a call that comes to neither leaves the cast as it is (`Framed`).
-/

namespace Cutscene

open Journal (Note)

/-! ## One actor -/

namespace Cast

/-- The speaker of a message has turned, where there is one. -/
def Addressed (c : Cast) (b : Binding) (facing : Facing) (c' : Cast) : Prop :=
  (b.initiator = none ∧ c' = c) ∨ ∃ speaker, b.initiator = some speaker ∧
    c.Only speaker (fun a => { a with
      direction := facing.resolve a.position a.direction ((c.get? b.player).map (·.position)) }) c'

/-- The walker of a walk was there, and has gone off with a ticket. -/
def Departed (c : Cast) (b : Binding) (w : Walk) (ticket : Ticket) (c' : Cast) : Prop :=
  b.walker w.actor ∈ c.names ∧
    c.Only (b.walker w.actor) (fun a => { a with
      direction := w.direction
      movement := .walk
      journey := some ⟨a.position.offset w.direction (w.tiles.toFloat32 * a.tileSize),
        w.direction, ticket⟩ }) c'

theorem turnSpeaker_addressed (c : Cast) (b : Binding) (facing : Facing) :
    c.Addressed b facing (c.turnSpeaker b facing) := by
  unfold Addressed turnSpeaker
  cases b.initiator with
  | none => exact .inl ⟨rfl, rfl⟩
  | some speaker =>
      refine .inr ⟨speaker, rfl, ?_⟩
      rw [Option.bind_some]
      cases hget : c.get? speaker with
      | none => exact .missing (unnamed_of_get?_none hget)
      | some a =>
          obtain ⟨k, hfirst⟩ := exists_firstAt_of_get? hget
          exact .changed hfirst (hfirst.actors_modify _)

theorem walk_departed {c : Cast} {b : Binding} {w : Walk} {a : Actor}
    (h : c.get? (b.walker w.actor) = some a) (ticket : Ticket) :
    c.Departed b w ticket (c.walk (b.walker w.actor) w.tiles w.direction ticket) :=
  ⟨mem_names_of_get? h, c.only_modify _ _⟩

variable {c c' : Cast} {b : Binding}

theorem Addressed.standing_eq {facing : Facing} (h : c.Addressed b facing c') :
    c'.actors.map Actor.standing = c.actors.map Actor.standing := by
  rcases h with ⟨_, rfl⟩ | ⟨speaker, _, honly⟩
  · rfl
  · exact honly.standing_eq fun _ => rfl

theorem Departed.standing_eq {w : Walk} {ticket : Ticket} (h : c.Departed b w ticket c') :
    c'.actors.map Actor.standing = c.actors.map Actor.standing :=
  h.2.standing_eq fun _ => rfl

end Cast

/-! ## Where a call comes to -/

/-- A performance waits at an event, and the notes of a call end with its coming there. -/
structure Performance.ComesTo (p : Performance) (notes : List Note) (e : Event) : Prop where
  current : p.current? = some e
  paused : ∃ waitsFor, p.status = .paused waitsFor ∧
    notes.getLast? = some (.paused p.cursor waitsFor)

/-- What a call makes of the cast that leaves notes and perhaps a performance, when the next walk
gets a ticket. -/
structure Framed (p? : Option Performance) (notes : List Note) (ticket : Ticket) (c c' : Cast) :
    Prop where
  standing : c'.actors.map Actor.standing = c.actors.map Actor.standing
  turned : ∀ p m, p? = some p → p.ComesTo notes (.message m) →
    ∃ b, p.binding = some b ∧ c.Addressed b m.facing c'
  sent : ∀ p w, p? = some p → p.ComesTo notes (.walk w) →
    ∃ b, p.binding = some b ∧ c.Departed b w ticket c' ∧
      p.awaitedTicket? = some ticket ∧ p.nextTicket = ticket + 1
  otherwise : (∀ p m, p? = some p → ¬ p.ComesTo notes (.message m)) →
    (∀ p w, p? = some p → ¬ p.ComesTo notes (.walk w)) → c' = c

variable {p? : Option Performance} {notes : List Note} {ticket : Ticket} {c c' : Cast}

/-- A call that has come to no event leaves the cast as it is. -/
theorem Framed.still (h : ∀ p e, p? = some p → ¬ p.ComesTo notes e) (ticket : Ticket) (c : Cast) :
    Framed p? notes ticket c c where
  standing := rfl
  turned p _ hp hcomes := absurd hcomes (h p _ hp)
  sent p _ hp hcomes := absurd hcomes (h p _ hp)
  otherwise _ _ := rfl

theorem Framed.of_message {p : Performance} {b : Binding} {m : Message}
    (hcomes : p.ComesTo notes (.message m)) (hb : p.binding = some b)
    (h : c.Addressed b m.facing c') : Framed (some p) notes ticket c c' where
  standing := h.standing_eq
  turned := by
    rintro _ m' hp hcomes'
    obtain rfl := Option.some.inj hp
    obtain rfl : m = m' := Event.message.inj (Option.some.inj (hcomes.current.symm.trans
      hcomes'.current))
    exact ⟨b, hb, h⟩
  sent := by
    rintro _ w hp hcomes'
    obtain rfl := Option.some.inj hp
    cases Option.some.inj (hcomes.current.symm.trans hcomes'.current)
  otherwise hno _ := absurd hcomes (hno p m rfl)

theorem Framed.of_walk {p : Performance} {b : Binding} {w : Walk}
    (hcomes : p.ComesTo notes (.walk w)) (hb : p.binding = some b)
    (hawaited : p.awaitedTicket? = some ticket) (hnext : p.nextTicket = ticket + 1)
    (h : c.Departed b w ticket c') : Framed (some p) notes ticket c c' where
  standing := h.standing_eq
  turned := by
    rintro _ m hp hcomes'
    obtain rfl := Option.some.inj hp
    cases Option.some.inj (hcomes.current.symm.trans hcomes'.current)
  sent := by
    rintro _ w' hp hcomes'
    obtain rfl := Option.some.inj hp
    obtain rfl : w = w' := Event.walk.inj (Option.some.inj (hcomes.current.symm.trans
      hcomes'.current))
    exact ⟨b, hb, h, hawaited, hnext⟩
  otherwise _ hno := absurd hcomes (hno p w rfl)

/-- Notes of no pause. -/
def Unpaused (notes : List Note) : Prop :=
  ∀ n ∈ notes, ∀ index waitsFor, n ≠ .paused index waitsFor

theorem Unpaused.not_comesTo (h : Unpaused notes) (p : Performance) (e : Event) :
    ¬ p.ComesTo notes e := by
  rintro ⟨_, waitsFor, _, hlast⟩
  exact h _ (List.mem_of_getLast? hlast) _ _ rfl

theorem Performance.comesTo_append {xs : List Note} (hxs : Unpaused xs) {p : Performance}
    {e : Event} : p.ComesTo (xs ++ notes) e ↔ p.ComesTo notes e := by
  have hlast (n : Note) (hn : ∃ index waitsFor, n = .paused index waitsFor) :
      (xs ++ notes).getLast? = some n ↔ notes.getLast? = some n := by
    rw [List.getLast?_append]
    cases notes.getLast? with
    | some m => rw [Option.some_or]
    | none =>
        rw [Option.none_or]
        refine iff_of_false (fun hsome => ?_) (by simp)
        obtain ⟨index, waitsFor, rfl⟩ := hn
        exact hxs _ (List.mem_of_getLast? hsome) _ _ rfl
  constructor
  · rintro ⟨hcurrent, waitsFor, hstatus, hpaused⟩
    exact ⟨hcurrent, waitsFor, hstatus, (hlast _ ⟨_, _, rfl⟩).1 hpaused⟩
  · rintro ⟨hcurrent, waitsFor, hstatus, hpaused⟩
    exact ⟨hcurrent, waitsFor, hstatus, (hlast _ ⟨_, _, rfl⟩).2 hpaused⟩

theorem Framed.unpaused (h : Unpaused notes) (ticket : Ticket) (c : Cast) :
    Framed p? notes ticket c c :=
  .still (fun p e _ => h.not_comesTo p e) ticket c

/-- Notes of no pause in front make no difference. -/
theorem Framed.prepend {xs : List Note} (h : Framed p? notes ticket c c') (hxs : Unpaused xs) :
    Framed p? (xs ++ notes) ticket c c' where
  standing := h.standing
  turned p m hp hcomes := h.turned p m hp ((Performance.comesTo_append hxs).1 hcomes)
  sent p w hp hcomes := h.sent p w hp ((Performance.comesTo_append hxs).1 hcomes)
  otherwise hmessage hwalk := h.otherwise
    (fun p m hp hcomes => hmessage p m hp ((Performance.comesTo_append hxs).2 hcomes))
    (fun p w hp hcomes => hwalk p w hp ((Performance.comesTo_append hxs).2 hcomes))

/-! ## The calls of a performance -/

namespace Performance

theorem Stretch.comesTo {b : Binding} {p : Performance} {s : Scene} {t : Turn}
    (h : Stretch b p s t) (hgoes : t.performance.status ≠ .finished) (e : Event)
    (hcurrent : t.performance.current? = some e) : t.performance.ComesTo t.notes e := by
  obtain ⟨waitsFor, hstatus, hlast⟩ := h.getLast?_notes hgoes
  exact ⟨hcurrent, waitsFor, hstatus, hlast⟩

theorem not_comesTo_of_finished {p : Performance} (h : p.status = .finished) (notes : List Note)
    (e : Event) : ¬ p.ComesTo notes e := by
  rintro ⟨_, waitsFor, hstatus, _⟩
  cases h.symm.trans hstatus

theorem Stretch.framed {b : Binding} {p : Performance} {s : Scene} {t : Turn}
    (h : Stretch b p s t) (hb : p.binding = some b) :
    Framed (some t.performance) t.notes p.nextTicket s.cast t.scene.cast := by
  have hending := h.ending
  have hcomes := h.comesTo
  generalize t.performance = p' at hending hcomes
  generalize t.scene.cast = c' at hending
  cases hending with
  | atEnd =>
      refine .still (fun p' e hp => ?_) _ _
      obtain rfl := Option.some.inj hp
      exact not_comesTo_of_finished rfl _ e
  | message _ hevent =>
      exact .of_message (hcomes nofun _ hevent) hb (s.cast.turnSpeaker_addressed b _)
  | choice _ hevent =>
      exact .of_message (hcomes nofun _ hevent) hb (s.cast.turnSpeaker_addressed b _)
  | walk _ hevent hactor =>
      exact .of_walk (hcomes nofun _ hevent) hb rfl rfl (Cast.walk_departed hactor _)

theorem proceed_framed (p : Performance) (s : Scene) :
    Framed (some (p.proceed s).performance) (p.proceed s).notes p.nextTicket s.cast
      (p.proceed s).scene.cast := by
  cases hb : p.binding with
  | some b => exact (proceed_stretch hb s).framed hb
  | none =>
      simp only [proceed, hb]
      exact .unpaused (by simp [Unpaused]) _ _

theorem purge_unpaused (p : Performance) (s : Scene) : Unpaused (p.purge s).notes := by
  intro n hn
  obtain ⟨key, _, rfl⟩ := List.mem_map.1 hn
  exact nofun

theorem Takes.unpaused {p p' : Performance} {s s' : Scene} {cue : Cue} {notes : List Note}
    (h : p.Takes s cue p' s' notes) : Unpaused notes := by
  cases h <;> simp [Unpaused]

theorem start_framed (p : Performance) (player : String) (initiator : Option String) (s : Scene) :
    Framed (some (p.start player initiator s).performance) (p.start player initiator s).notes
      p.nextTicket s.cast (p.start player initiator s).scene.cast := by
  obtain ⟨t, hstretch, hturn⟩ := p.start_stretch player initiator s
  rw [hturn]
  refine (hstretch.framed rfl).prepend fun n hn => ?_
  rcases List.mem_append.1 hn with hn | hn
  · exact p.purge_unpaused s n hn
  · rw [List.mem_singleton.1 hn]
    exact nofun

theorem resume_framed (p : Performance) (cue : Cue) (s : Scene) :
    Framed (some (p.resume cue s).performance) (p.resume cue s).notes p.nextTicket s.cast
      (p.resume cue s).scene.cast := by
  rcases p.resume_cases cue s with ⟨p', s', notes, htakes, hturn⟩ | ⟨notes, hignores, hturn, _⟩
  · obtain ⟨_, _, _, hticket, hcast⟩ := htakes.frame
    rw [hturn, ← hcast, ← hticket]
    exact (proceed_framed { p' with cursor := p'.cursor + 1 } s').prepend htakes.unpaused
  · rw [hturn]
    exact .unpaused hignores.remarks.unpaused _ _

theorem answer_framed (p : Performance) (call : Call) (s : Scene) :
    Framed (some (p.answer call s).performance) (p.answer call s).notes p.nextTicket s.cast
      (p.answer call s).scene.cast := by
  cases call with
  | start player initiator => exact p.start_framed player initiator s
  | onward call =>
      cases call with
      | proceed => exact p.proceed_framed s
      | resume cue => exact p.resume_framed cue s
  | reset => exact .unpaused (p.purge_unpaused s) _ _

end Performance

/-! ## The calls of a session -/

namespace Session

/-- The performance of the interaction under way. -/
def performance? (x : Session) : Option Performance :=
  x.active.map (·.performance)

theorem close_framed (x : Session) (i : Interaction) (s : Scene) (notes : List Note)
    (ticket : Ticket) :
    Framed (x.close i s).1.performance? notes ticket s.cast (x.close i s).2.1.cast := by
  have hfree : (x.close i s).1.performance? = none := rfl
  rw [hfree]
  refine .still (fun p e hp => ?_) ticket s.cast
  cases hp

theorem settle_framed (x : Session) (i : Interaction) {t : Turn} {ticket : Ticket} {c : Cast}
    (h : Framed (some t.performance) t.notes ticket c t.scene.cast) :
    Framed (x.settle i t).session.performance? (x.settle i t).notes ticket c
      (x.settle i t).scene.cast := by
  by_cases hstatus : t.performance.status = .finished
  · have hnever (p : Performance) (e : Event) (hp : some t.performance = some p) :
        ¬ p.ComesTo t.notes e := by
      obtain rfl := Option.some.inj hp
      exact Performance.not_comesTo_of_finished hstatus _ e
    -- a performance that is over stands at no event, so the cast is the same and the end leaves it
    have hsame := h.otherwise (fun p m => hnever p _) fun p w => hnever p _
    rw [settle_finished hstatus, ← hsame]
    exact x.close_framed _ t.scene _ ticket
  · rw [settle_waiting hstatus]
    exact h

theorem feed_framed (x : Session) (token : Token) (cue : Cue) (s : Scene) :
    Framed (x.feed token cue s).session.performance? (x.feed token cue s).notes x.frontier s.cast
      (x.feed token cue s).scene.cast := by
  unfold feed
  rcases x.holder_cases token with ⟨i, hactive, _, hholder⟩ | ⟨error, hholder, _⟩
  · rw [hholder, frontier_of_active hactive]
    exact x.settle_framed i (i.performance.resume_framed cue s)
  · rw [hholder]
    exact .unpaused Performance.Remarks.nil.unpaused _ _

theorem confirm_framed (x : Session) (token : Token) (s : Scene) :
    Framed (x.confirm token s).session.performance? (x.confirm token s).notes x.frontier s.cast
      (x.confirm token s).scene.cast := by
  unfold confirm
  rcases x.holder_cases token with ⟨i, _, _, hholder⟩ | ⟨error, hholder, _⟩
  · simp only [hholder]
    split
    · exact .unpaused Performance.Remarks.nil.unpaused _ _
    · exact x.feed_framed token .confirm s
  · simp only [hholder]
    exact .unpaused Performance.Remarks.nil.unpaused _ _

theorem abandon_framed (x : Session) (token : Token) (s : Scene) :
    Framed (x.abandon token s).session.performance? (x.abandon token s).notes x.frontier s.cast
      (x.abandon token s).scene.cast := by
  unfold abandon
  rcases x.holder_cases token with ⟨i, _, _, hholder⟩ | ⟨error, hholder, _⟩
  · simp only [hholder]
    exact x.close_framed i s _ _
  · simp only [hholder]
    exact .unpaused Performance.Remarks.nil.unpaused _ _

theorem begin_framed (x : Session) (npc player : String) (entries : List Script) (s : Scene) :
    Framed (x.begin npc player entries s).session.performance? (x.begin npc player entries s).notes
      x.frontier s.cast (x.begin npc player entries s).scene.cast := by
  rcases x.begin_cases npc player entries s with
    ⟨notes, error, hreply, hremarks⟩ | ⟨script, selection, notes, hfree, _, _, hremarks, hreply⟩
  · rw [hreply]
    exact .unpaused hremarks.unpaused _ _
  · have hstart := (x.opened npc script selection).performance.start_framed player (some npc) s
    have hlaunched := settle_framed { x with nextToken := x.nextToken + 1 }
      (x.opened npc script selection) hstart
    have hbegun : Unpaused [.begun x.nextToken npc selection.index] := by simp [Unpaused]
    rw [hreply, x.launch_eq, frontier_of_free hfree]
    exact (hlaunched.prepend hbegun).prepend hremarks.unpaused

end Session

theorem Story.act_framed (g : Story) {m : Move} (hm : ∀ ms, m ≠ .tick ms) :
    Framed (g.act m).story.session.performance? (g.act m).notes g.session.frontier g.cast
      (g.act m).story.cast := by
  cases m with
  | begin npc player entries => exact g.session.begin_framed npc player entries g.world.scene
  | confirm token => exact g.session.confirm_framed token g.world.scene
  | choose token index => exact g.session.feed_framed token (.choose index) g.world.scene
  | arrive token ticket => exact g.session.feed_framed token (.arrive ticket) g.world.scene
  | abandon token => exact g.session.abandon_framed token g.world.scene
  | tick ms => exact absurd rfl (hm ms)

/-- **Nobody else is touched.** Every call of a performance, and every move of a session that is no
frame, leaves the actors and their order, names, positions and motion as they are.  If it comes to a
message, the speaker alone has turned, if it comes to a walk, the walker alone has gone off with the
next ticket, and otherwise the cast is the same. -/
theorem calls_touch_one_actor :
    (∀ (p : Performance) (call : Performance.Call) (s : Scene),
      Framed (some (p.answer call s).performance) (p.answer call s).notes p.nextTicket s.cast
        (p.answer call s).scene.cast) ∧
    ∀ (g : Story) (m : Move), (∃ ms, m = .tick ms) ∨
      Framed (g.act m).story.session.performance? (g.act m).notes g.session.frontier g.cast
        (g.act m).story.cast := by
  refine ⟨fun p call s => p.answer_framed call s, fun g m => ?_⟩
  by_cases hm : ∃ ms, m = .tick ms
  · exact .inl hm
  · exact .inr (g.act_framed (not_exists.1 hm))

end Cutscene
