import Cutscene.Proofs.Cast.Tickets
import Cutscene.Proofs.Session.Story
/-!
# Tickets of a session

The next ticket is the session's or that of the interaction under way.  A step of the session gives
it to a walker, whose walk is then waited for, or leaves the tickets as they are (`Shift`); and it
keeps the session `Sound`, which lets an ignored cue leave the session as it is.
-/

namespace Cutscene

open Journal (Note)

namespace Performance

/-- The walk that is waited for: who walks, and with which ticket. -/
def awaits? (p : Performance) : Option (String × Ticket) :=
  match p.status with
  | .paused (.walk actor) => p.awaitedTicket?.map (actor, ·)
  | _ => none

theorem awaits?_eq_some_iff {p : Performance} {actor : String} {ticket : Ticket} :
    p.awaits? = some (actor, ticket) ↔
      p.status = .paused (.walk actor) ∧ p.awaitedTicket? = some ticket := by
  unfold awaits?
  split
  · rename_i walker hstatus
    simp only [hstatus, Option.map_eq_some_iff, Prod.mk.injEq, Status.paused.injEq,
      Suspension.walk.injEq]
    constructor
    · rintro ⟨_, hticket, hactor, rfl⟩
      exact ⟨hactor, hticket⟩
    · rintro ⟨hactor, hticket⟩
      exact ⟨ticket, hticket, hactor, rfl⟩
  · rename_i hother
    simpa using fun hstatus => absurd hstatus (hother actor)

end Performance

namespace Session

/-- The ticket that the next walk gets. -/
def frontier (x : Session) : Ticket :=
  match x.active with
  | some i => i.performance.nextTicket
  | none => x.nextTicket

theorem frontier_of_active {x : Session} {i : Interaction} (h : x.active = some i) :
    x.frontier = i.performance.nextTicket := by
  rw [frontier, h]

theorem frontier_of_free {x : Session} (h : x.active = none) : x.frontier = x.nextTicket := by
  rw [frontier, h]

/-- The walk that the interaction under way waits for. -/
def awaits? (x : Session) : Option (String × Ticket) :=
  x.active.bind (·.performance.awaits?)

/-- What becomes of the tickets when the next one is `n`: they stay as they are and no walk is
waited for, or an actor is sent on a walk with the next ticket, which is then waited for. -/
inductive Shift (n : Ticket) (c : Cast) (frontier : Ticket) (awaited : Option (String × Ticket)) :
    Cast → Prop where
  | quiet {c' : Cast} : frontier = n → awaited = none → c'.tickets = c.tickets →
      Shift n c frontier awaited c'
  | sent {actor : String} {a : Actor} (tiles : UInt32) (direction : Direction) :
      c.get? actor = some a → frontier = n + 1 → awaited = some (actor, n) →
      Shift n c frontier awaited (c.walk actor tiles direction n)

end Session

open Session (Shift)

@[simp] theorem Cast.tickets_turnSpeaker (c : Cast) (b : Binding) (facing : Facing) :
    (c.turnSpeaker b facing).tickets = c.tickets := by
  unfold Cast.turnSpeaker
  split
  · rfl
  · exact c.tickets_face _ _

/-- The walk that is waited for after a shift has just begun. -/
theorem Session.Shift.ticketOf? {n frontier : Ticket} {c c' : Cast}
    {awaited : Option (String × Ticket)} (h : Shift n c frontier awaited c') {actor : String}
    {ticket : Ticket} (hawaited : awaited = some (actor, ticket)) :
    c'.ticketOf? actor = some ticket := by
  cases h with
  | quiet _ hnone _ => simp [hnone] at hawaited
  | sent tiles direction hactor _ hsome =>
      obtain ⟨rfl, rfl⟩ := Prod.mk.inj (Option.some.inj (hsome.symm.trans hawaited))
      exact Cast.ticketOf?_walk hactor tiles direction _

/-- A shift keeps the tickets of the cast apart from each other and from those out of its hands. -/
theorem Outstanding.shift {n frontier : Ticket} {c c' : Cast} {out : List Ticket}
    {awaited : Option (String × Ticket)} (h : Outstanding n (c.tickets ++ out))
    (hshift : Shift n c frontier awaited c') : Outstanding frontier (c'.tickets ++ out) := by
  cases hshift with
  | quiet hfrontier _ htickets =>
      rw [hfrontier, htickets]
      exact h
  | @sent _ a tiles direction hactor hfrontier _ =>
      obtain ⟨rest, hsub, -, hperm⟩ := Cast.tickets_walk hactor tiles direction n
      rw [hfrontier]
      exact (h.of_sublist (hsub.append_right out)).cons.of_perm (hperm.append_right out)

theorem Outstanding.tick {n : Ticket} {c : Cast} {out : List Ticket}
    (h : Outstanding n (c.tickets ++ out)) (ms : Float32) :
    Outstanding n ((c.tick ms).1.tickets ++ (out ++ (c.tick ms).2)) := by
  have hkept : ((c.tick ms).1.tickets ++ ((c.tick ms).2 ++ out)).Perm (c.tickets ++ out) := by
    rw [← List.append_assoc]
    exact (c.tick_perm ms).append_right out
  exact h.of_perm ((List.perm_append_comm.append_left _).trans hkept)

theorem Performance.Ending.shift {b : Binding} {p p' : Performance} {c c' : Cast}
    (h : Ending b p c p' c') : Shift p.nextTicket c p'.nextTicket p'.awaits? c' := by
  cases h with
  | atEnd => exact .quiet rfl rfl rfl
  | message => exact .quiet rfl rfl (c.tickets_turnSpeaker b _)
  | choice => exact .quiet rfl rfl (c.tickets_turnSpeaker b _)
  | walk _ _ hactor => exact .sent _ _ hactor rfl rfl

namespace Session

theorem close_active (x : Session) (active : Option Interaction) (i : Interaction) (s : Scene) :
    ({ x with active } : Session).close i s = x.close i s := rfl

@[simp] theorem close_cast (x : Session) (i : Interaction) (s : Scene) :
    (x.close i s).2.1.cast = s.cast := rfl

/-- A turn that is settled shifts the tickets as the turn did. -/
theorem settle_shift {x : Session} {i : Interaction} {t : Turn} {n : Ticket} {c : Cast}
    (h : Shift n c t.performance.nextTicket t.performance.awaits? t.scene.cast) :
    Shift n c (x.settle i t).session.frontier (x.settle i t).session.awaits?
      (x.settle i t).scene.cast := by
  by_cases hstatus : t.performance.status = .finished
  · rw [settle_finished hstatus]
    simp only [close_cast]
    generalize t.scene.cast = c' at h ⊢
    cases h with
    | quiet hfrontier _ htickets => exact .quiet hfrontier rfl htickets
    -- a performance that waits for a walk has not come to its end
    | sent _ _ _ _ hawaits =>
        simp [(Performance.awaits?_eq_some_iff.1 hawaits).1] at hstatus
  · rw [settle_waiting hstatus]
    exact h

theorem settle_sound {x : Session} (i : Interaction) {t : Turn} {b : Binding}
    (hconsistent : t.performance.Consistent) (hbound : t.performance.binding = some b) :
    (x.settle i t).session.Sound := by
  by_cases hstatus : t.performance.status = .finished
  · rw [settle_finished hstatus]
    intro j hj
    simp [close] at hj
  · rw [settle_waiting hstatus]
    intro j hj
    obtain rfl := Option.some.inj hj
    refine ⟨hconsistent, ?_⟩
    cases hs : t.performance.status with
    | idle => simp [hconsistent.idle_iff.1 hs] at hbound
    | paused waitsFor => exact ⟨waitsFor, rfl⟩
    | finished => exact absurd hs hstatus

theorem settle_moves {x y : Session} {c : Cast} {i : Interaction} {t : Turn} {p : Performance}
    {b : Binding} {s : Scene} {notes : List Note} (h : Performance.Stretch b p.cleared s t)
    (hb : p.binding = some b) (hle : p.cursor ≤ p.script.length)
    (hticket : p.nextTicket = x.frontier) (hcast : s.cast = c) :
    (y.settle i (t.after notes)).session.Sound ∧
      Shift x.frontier c (y.settle i (t.after notes)).session.frontier
        (y.settle i (t.after notes)).session.awaits? (y.settle i (t.after notes)).scene.cast := by
  have hending := h.ending
  refine ⟨settle_sound i (hending.consistent hb hle) (hending.binding_eq.trans hb), ?_⟩
  apply settle_shift
  rw [← hticket, ← hcast]
  exact hending.shift

theorem taken_moves {x : Session} (hx : x.Sound) {i : Interaction} {p' : Performance}
    {s s' : Scene} {cue : Cue} {notes : List Note} (hactive : x.active = some i)
    (htakes : i.performance.Takes s cue p' s' notes) :
    (x.settle i ((p'.proceedPast s').after notes)).session.Sound ∧
      Shift x.frontier s.cast (x.settle i ((p'.proceedPast s').after notes)).session.frontier
        (x.settle i ((p'.proceedPast s').after notes)).session.awaits?
        (x.settle i ((p'.proceedPast s').after notes)).scene.cast := by
  obtain ⟨b, hb, hlt, hstretch⟩ := htakes.stretch (hx i hactive).1
  obtain ⟨hscript, _, hbinding, hticket, hcast⟩ := htakes.frame
  refine settle_moves hstretch (hbinding.trans hb) ?_ ?_ hcast
  · rw [hscript]
    exact hlt
  · rw [frontier_of_active hactive]
    exact hticket

/-- A step leaves session and cast alone, or keeps the session sound and shifts the tickets. -/
theorem Step.stays_or_moves {x x' : Session} {s s' : Scene} {token? : Option Token}
    {notes : List Note} (h : x.Step s token? x' s' notes) (hx : x.Sound) :
    (x' = x ∧ s'.cast = s.cast) ∨
      (x'.Sound ∧ Shift x.frontier s.cast x'.frontier x'.awaits? s'.cast) := by
  cases h with
  | stays => exact .inl ⟨rfl, rfl⟩
  | skips => exact .inl ⟨rfl, rfl⟩
  | takes hactive htakes => exact .inr (taken_moves hx hactive htakes)
  | closes hactive =>
      refine .inr ⟨fun j hj => by simp [close] at hj, .quiet ?_ rfl rfl⟩
      rw [frontier_of_active hactive]
      rfl
  | @launches npc player script selection _ hfree =>
      obtain ⟨t, hstretch, hturn⟩ := Performance.start_stretch
        { script, journal := x.settings.journal, nextTicket := x.nextTicket } player (some npc) s
      simp only [launch, hturn]
      exact .inr (settle_moves hstretch rfl (Nat.zero_le _) (frontier_of_free hfree).symm rfl)

theorem Step.sound {x x' : Session} {s s' : Scene} {token? : Option Token} {notes : List Note}
    (h : x.Step s token? x' s' notes) (hx : x.Sound) : x'.Sound := by
  rcases h.stays_or_moves hx with ⟨hsession, _⟩ | ⟨hsound, _⟩
  · rwa [hsession]
  · exact hsound

end Session

namespace Story

theorem opening_sound (settings : Settings) (w : World) : (opening settings w).session.Sound := by
  simp [opening, Session.Sound]

theorem opening_outstanding {settings : Settings} {w : World}
    (h : w.scene.cast.anyoneWalking = false) :
    Outstanding (opening settings w).session.frontier
      ((opening settings w).cast.tickets ++ []) := by
  simp only [cast, opening, Cast.tickets_eq_nil h]
  exact .nil _

/-- Every move but a frame leaves session and cast alone, or shifts the tickets. -/
theorem act_stays_or_shifts {g : Story} (hg : g.session.Sound) {m : Move}
    (hm : ∀ ms, m ≠ .tick ms) :
    ((g.act m).story.session = g.session ∧ (g.act m).story.cast = g.cast) ∨
    Shift g.session.frontier g.cast (g.act m).story.session.frontier
      (g.act m).story.session.awaits? (g.act m).story.cast :=
  ((act_step hg hm).stays_or_moves hg).imp_right And.right

theorem act_sound {g : Story} (hg : g.session.Sound) (m : Move) :
    (g.act m).story.session.Sound := by
  by_cases hm : ∃ ms, m = .tick ms
  · obtain ⟨ms, rfl⟩ := hm
    exact hg
  · exact (act_step hg (not_exists.1 hm)).sound hg

end Story

end Cutscene
