import Cutscene.Proofs.Cast.Frames
import Cutscene.Proofs.Selection.Leaders
import Cutscene.Proofs.Terminal.Chains
/-!
# Scripts of nothing but walks

How many frames walks take that follow each other is told without playing them, from where their
walkers stand (`Legs`): a game that waits for the first of them comes to the end of its script in
just these frames (`Game.SetsOut.exists_allBack`).
-/

namespace Cutscene

open Journal (Note)

namespace Performance

variable {b : Binding} {p : Performance} {s : Scene} {t : Turn}

/-- A stretch comes no further than a walk whose walker is there. -/
theorem Stretch.of_walk {w : Walk} {a : Actor} (h : Stretch b p s t)
    (hcurrent : p.current? = some (.walk w)) (hactor : s.cast.get? (b.walker w.actor) = some a) :
    t.performance = p.suspend (.walk (b.walker w.actor) p.nextTicket) ∧
      t.scene.cast = s.cast.walk (b.walker w.actor) w.tiles w.direction p.nextTicket := by
  cases h with
  | atEnd hnone => simp [hcurrent] at hnone
  | pass hevent hpass =>
      obtain rfl := Option.some.inj (hcurrent.symm.trans hevent)
      cases hpass with
      | walkerMissing hmissing => simp [hactor] at hmissing
  | halt hevent hhalt =>
      obtain rfl := Option.some.inj (hcurrent.symm.trans hevent)
      cases hhalt with
      | walk => exact ⟨rfl, rfl⟩

theorem Stretch.of_none (h : Stretch b p s t) (hnone : p.current? = none) :
    t.performance.status = .finished := by
  cases h with
  | atEnd => rfl
  | pass hevent | halt hevent => simp [hnone] at hevent

end Performance

namespace Session

/-- The interaction under way waits for a walk, and its script has these walks behind it and nothing
else. -/
def Marches (x : Session) (b : Binding) (ws : List Walk) : Prop :=
  ∃ i walker, x.active = some i ∧ i.performance.status = .paused (.walk walker) ∧
    i.performance.binding = some b ∧
    i.performance.script.events.drop (i.performance.cursor + 1) = ws.map .walk

variable {x : Session} {b : Binding} {w : Walk} {ws : List Walk} {a : Actor} {s : Scene}

/-- An interaction that comes to a walk with other walks behind it. -/
theorem marches_of_stretch {i : Interaction} {p : Performance} {t : Turn} {notes : List Note}
    (hstretch : Performance.Stretch b p s t) (hbinding : p.binding = some b)
    (hevents : p.script.events.drop p.cursor = (w :: ws).map .walk)
    (hactor : s.cast.get? (b.walker w.actor) = some a) :
    (x.settle i (t.after notes)).session.Marches b ws ∧
      (x.settle i (t.after notes)).answer = .ok (.paused (.walk (b.walker w.actor))) ∧
      ∃ ticket, (x.settle i (t.after notes)).scene.cast =
        s.cast.walk (b.walker w.actor) w.tiles w.direction ticket := by
  have hcurrent : p.current? = some (.walk w) := by
    rw [Performance.current?, ← List.head?_drop, hevents]
    rfl
  have hbehind : p.script.events.drop (p.cursor + 1) = ws.map .walk := by
    rw [← List.tail_drop, hevents]
    rfl
  obtain ⟨hperformance, hcast⟩ := hstretch.of_walk hcurrent hactor
  have hstatus : t.performance.status = .paused (.walk (b.walker w.actor)) := by
    rw [hperformance]
    rfl
  have hwaits : (t.after notes).performance.status ≠ .finished := by
    rw [Turn.after, hstatus]
    simp
  rw [settle_waiting hwaits]
  refine ⟨⟨_, _, rfl, hstatus, ?_, ?_⟩, congrArg Except.ok hstatus, _, hcast⟩
  · exact (congrArg Performance.binding hperformance).trans hbinding
  · dsimp only [Turn.after]
    rw [hperformance]
    exact hbehind

/-- The ticket of the walk that is waited for leads to the next walk, or to the end of the
script. -/
theorem Marches.arrive (h : x.Marches b ws) (hx : x.Sound) {i : Interaction}
    (hactive : x.active = some i) {walker : String} {ticket : Ticket}
    (hawaits : x.awaits? = some (walker, ticket)) (s : Scene) :
    (ws = [] → (x.arrive i.token ticket s).answer = .ok .finished) ∧
      ∀ w rest a, ws = w :: rest → s.cast.get? (b.walker w.actor) = some a →
        (x.arrive i.token ticket s).session.Marches b rest ∧
          (x.arrive i.token ticket s).answer = .ok (.paused (.walk (b.walker w.actor))) ∧
          ∃ next, (x.arrive i.token ticket s).scene.cast =
            s.cast.walk (b.walker w.actor) w.tiles w.direction next := by
  obtain ⟨j, _, hactive', _, hbinding, hevents⟩ := h
  obtain rfl := Option.some.inj (hactive'.symm.trans hactive)
  rw [Session.awaits?, hactive] at hawaits
  obtain ⟨hstatus, hticket⟩ := Performance.awaits?_eq_some_iff.1 hawaits
  obtain ⟨p', s', notes, htakes, hresume⟩ | ⟨_, _, _, hnot⟩ :=
    Performance.arrive_cases hstatus ticket s
  case inr => exact absurd (.arrive hstatus hticket) (hnot _ _ _)
  obtain ⟨b', hb', _, hstretch⟩ := htakes.stretch (hx _ hactive).1
  obtain rfl := Option.some.inj (hbinding.symm.trans hb')
  obtain ⟨hscript, _, hbinding', _, hcast⟩ := htakes.frame
  rw [Session.arrive, feed_eq_settle hactive, hresume, ← hcast]
  rw [← hscript] at hevents
  constructor
  · rintro rfl
    rw [settle_answer]
    refine congrArg Except.ok (hstretch.of_none ?_)
    rw [Performance.current?, ← List.head?_drop]
    exact congrArg List.head? hevents
  · rintro w rest a rfl hactor
    exact marches_of_stretch hstretch (hbinding'.trans hbinding) hevents hactor

/-- A script of walks that is the only one begins with the first walk. -/
theorem begin_marches (hfree : x.active = none) {npc player : String} {script : Script}
    (hrequired : script.required = []) (hevents : script.events = (w :: ws).map .walk)
    (hactor : s.cast.get? (Binding.walker ⟨player, some npc⟩ w.actor) = some a) :
    (x.begin npc player [script] s).session.Marches ⟨player, some npc⟩ ws ∧
      (∃ token, (x.begin npc player [script] s).answer =
        .ok (token, .paused (.walk (Binding.walker ⟨player, some npc⟩ w.actor)))) ∧
      ∃ ticket, (x.begin npc player [script] s).scene.cast =
        s.cast.walk (Binding.walker ⟨player, some npc⟩ w.actor) w.tiles w.direction ticket := by
  have hselect : selectEntry [script] s.store = some (.eligible 0) := by
    simp [selectEntry, Script.isEligible, hrequired, Store.containsAll]
  obtain ⟨notes, hbegin⟩ := begin_of_selectEntry hfree hselect rfl npc player
    fun hfallback => absurd hfallback Bool.false_ne_true
  obtain ⟨t, hstretch, hstart⟩ := (x.opened npc script (.eligible 0)).performance.start_stretch
    player (some npc) s
  rw [hbegin, launch_eq, launched, hstart]
  obtain ⟨hmarches, hanswer, hcast⟩ := marches_of_stretch hstretch rfl hevents hactor
  refine ⟨hmarches, ⟨x.nextToken, ?_⟩, hcast⟩
  exact congrArg (Except.map (x.nextToken, ·)) hanswer

end Session

namespace Terminal

/-- Walks one after another, with the frames that each of them takes from where those in front of it
have left its walker. -/
inductive Legs (b : Binding) : Cast → List Walk → List Nat → Prop where
  | nil (c : Cast) : Legs b c [] []
  | cons {c : Cast} {w : Walk} {a : Actor} {n : Nat} {ws : List Walk} {ns : List Nat} :
      c.get? (b.walker w.actor) = some a → a.TakesFrames w frameMs n →
      Legs b (c.modify (b.walker w.actor) fun _ => a.brought w) ws ns →
      Legs b c (w :: ws) (n :: ns)

theorem Legs.exists_walker {b : Binding} {c : Cast} {w : Walk} {ws : List Walk} {ns : List Nat}
    (h : Legs b c (w :: ws) ns) : ∃ a, c.get? (b.walker w.actor) = some a := by
  cases h with
  | cons hget => exact ⟨_, hget⟩

namespace Game

variable {g : Game} {b : Binding} {c : Cast} {w : Walk} {ws : List Walk} {a : Actor} {n : Nat}

theorem handIn_of_ok {ticket : Ticket} {status : Status}
    (h : (g.session.arrive g.token ticket g.world.scene).answer = .ok status) :
    g.handIn none [ticket] =
      (.next { g with
        session := (g.session.arrive g.token ticket g.world.scene).session
        world.scene := (g.session.arrive g.token ticket g.world.scene).scene
        status }, some status) := by
  rw [handIn, take_of_ok h]
  rfl

/-- The frames of a walk, up to the one in which its ticket comes back. -/
theorem elapses_of_takesFrames {name : String} {ticket : Ticket} {p : Position}
    (hcast : g.cast = c.modify name fun _ => a.onWay w ticket p) (hidle : c.tickets = [])
    (hget : c.get? name = some a)
    (htakes : Position.TakesFrames (a.target w) w.direction (a.walkSpeed * frameMs) p n) :
    ∃ k g₀, n = k + 1 ∧ g.Elapses k g₀ ∧ g₀.session = g.session ∧ g₀.returned = [ticket] ∧
      g₀.ticked.cast = c.modify name fun _ => a.brought w := by
  have hframe (g : Game) : (g.ticked.cast, g.returned) = g.cast.tick frameMs := rfl
  induction htakes generalizing g with
  | last hthere =>
      have hlast := hframe g
      rw [hcast, Cast.tick_onWay hidle hget, if_neg hthere] at hlast
      obtain ⟨hcast', hsome⟩ := Prod.mk.inj hlast
      exact ⟨0, g, rfl, .here g, rfl, hsome, hcast'⟩
  | more hon _ ih =>
      have hnext := hframe g
      rw [hcast, Cast.tick_onWay hidle hget, if_pos hon] at hnext
      obtain ⟨hcast', hnone⟩ := Prod.mk.inj hnext
      obtain ⟨k, g₀, rfl, helapses, hsession, hrest⟩ := ih hcast'
      exact ⟨k + 1, g₀, rfl, .frame hnone helapses, hsession, hrest⟩

/-- The game waits for the first of some walks, the others stand behind it in the script, and its
walker is setting out where nobody else walks. -/
structure SetsOut (g : Game) (b : Binding) (c : Cast) (w : Walk) (ws : List Walk) : Prop extends
    g.Attended where
  status_eq : g.status = .paused (.walk (b.walker w.actor))
  marches : g.session.Marches b ws
  idle : c.tickets = []
  cast_eq : ∃ ticket, g.cast = c.walk (b.walker w.actor) w.tiles w.direction ticket

/-- A walk comes back in its own frames, and the next one sets out then. -/
theorem SetsOut.comesBack (h : g.SetsOut b c w ws) (hget : c.get? (b.walker w.actor) = some a)
    (htakes : a.TakesFrames w frameMs n) :
    ∃ g₁, g.ComesBack n g₁ ∧ (ws = [] → g₁.status = .finished) ∧
      ∀ w' rest a', ws = w' :: rest →
        (c.modify (b.walker w.actor) fun _ => a.brought w).get? (b.walker w'.actor) = some a' →
        g₁.SetsOut b (c.modify (b.walker w.actor) fun _ => a.brought w) w' rest := by
  obtain ⟨ticket, hcast⟩ := h.cast_eq
  rw [Cast.walk_eq_onWay hget] at hcast
  obtain ⟨k, g₀, rfl, helapses, hsession, hreturned, hcast₀⟩ :=
    elapses_of_takesFrames hcast h.idle hget htakes
  obtain ⟨hattended, hstatus⟩ := h.toAttended.elapses h.status_eq helapses
  obtain ⟨awaited, hawaits, htickets⟩ := hattended.walker hstatus
  -- the ticket that comes back is the awaited one
  obtain rfl : awaited = ticket := by
    rcases Cast.tick_of_one htickets frameMs with ⟨_, hnone⟩ | ⟨_, hone⟩
    · exact absurd (hreturned.symm.trans hnone) (List.cons_ne_nil _ _)
    · exact List.head_eq_of_cons_eq (hone.symm.trans hreturned)
  obtain ⟨status, hanswer⟩ := hattended.ticked_inOrder.feed_ok hstatus (.arrive awaited)
    g₀.ticked.world.scene
  have hhand := handIn_of_ok hanswer
  rw [← hreturned] at hhand
  have hback := ComesBack.behind helapses (by simp [hreturned]) hhand
  have hattended₁ := h.toAttended.comesBack h.status_eq hback
  obtain ⟨i, hactive, htoken⟩ := hattended.exists_active hstatus
  have hmarches : g₀.session.Marches b ws := by
    rw [hsession]
    exact h.marches
  have harrive := hmarches.arrive hattended.sound hactive hawaits g₀.ticked.world.scene
  rw [htoken] at harrive
  refine ⟨_, hback, fun hlast => ?_, fun w' rest a' hnext hget' => ?_⟩
  · exact Except.ok.inj (hanswer.symm.trans (harrive.1 hlast))
  · have hgoes := harrive.2 w' rest a' hnext
    rw [show g₀.ticked.world.scene.cast = _ from hcast₀] at hgoes
    obtain ⟨hmarches', hanswer', hcast'⟩ := hgoes hget'
    exact ⟨hattended₁, Except.ok.inj (hanswer.symm.trans hanswer'), hmarches',
      Cast.tickets_modify h.idle hget rfl, hcast'⟩

/-- **Walks with nothing in between.** They come back one after another, each in the frames that it
takes from where its walker stands. -/
theorem SetsOut.exists_allBack {ns : List Nat} (h : g.SetsOut b c w ws)
    (hlegs : Legs b c (w :: ws) ns) : ∃ g', g.AllBack ns g' := by
  induction ws generalizing g c w ns with
  | nil =>
      cases hlegs with
      | cons hget htakes hrest =>
          cases hrest
          obtain ⟨g₁, hback, hend, _⟩ := h.comesBack hget htakes
          exact ⟨g₁, .walk h.status_eq hback (.here g₁), by simp [hend rfl]⟩
  | cons w' ws ih =>
      cases hlegs with
      | cons hget htakes hrest =>
          obtain ⟨g₁, hback, _, hnext⟩ := h.comesBack hget htakes
          obtain ⟨a', hget'⟩ := hrest.exists_walker
          obtain ⟨g', hall⟩ := ih (hnext w' ws a' rfl hget') hrest
          exact ⟨g', .walk h.status_eq hback hall.walks, hall.stops⟩

theorem SetsOut.announced (h : g.SetsOut b c w ws) (actor : String) :
    (g.beforeRound.announced actor).SetsOut b c w ws := by
  obtain ⟨output, hbefore⟩ := g.beforeRound_eq
  rw [hbefore]
  exact ⟨h.toAttended.with_output _, h.status_eq, h.marches, h.idle, h.cast_eq⟩

end Game

/-- A game whose only script is one of walks. -/
theorem Setup.begin_setsOut (setup : Setup) (o : Options) (d : Disk) {script : Script} {w : Walk}
    {ws : List Walk} {a : Actor} (hentries : setup.entries = [script])
    (hrequired : script.required = []) (hevents : script.events = (w :: ws).map .walk)
    (hactor : (setup.town.world setup.settings setup.store d).scene.cast.get?
      (Binding.walker ⟨setup.town.player.name, some o.npc⟩ w.actor) = some a) :
    ∃ g, setup.begin o d = .next g ∧ g.SetsOut ⟨setup.town.player.name, some o.npc⟩
      (setup.town.world setup.settings setup.store d).scene.cast w ws := by
  obtain ⟨hmarches, ⟨token, hanswer⟩, hcast⟩ := Session.begin_marches
    (x := { settings := setup.settings }) rfl hrequired hevents hactor
  rw [← hentries] at hmarches hanswer hcast
  have hbegun : (setup.beginning o d).answer = .begun (.ok (token, _)) :=
    congrArg Answer.begun hanswer
  have hbegin := Setup.begin_of_answer hbegun
  obtain ⟨screen, output, hrender, _⟩ := Game.render_spec (Setup.begun_inOrder hbegun).1.announces
  have hattended := Setup.begin_attended hbegin
  rw [hrender] at hbegin hattended
  exact ⟨_, hbegin, hattended, rfl, hmarches, Town.world_tickets .., hcast⟩

end Terminal

end Cutscene
