import Cutscene.Proofs.Performance.NextStop
import Cutscene.Proofs.Session.Headway
/-!
# What appears in a call

The transcript of the screen tells what has appeared, in order.  A call that gets on adds the
balances of the payments on its way and then what it comes to wait at (`Session.display`); every
other call adds nothing (`Session.feed_appears`).
-/

namespace Cutscene

/-- What appears for the event that the interaction under way waits at. -/
def Session.display (x : Session) : List ScreenEntry :=
  (x.active.bind (·.performance.current?)).elim [] Event.display

/-- The interaction under way is over then, or further on in its script. -/
def Session.Advances (x x' : Session) : Prop :=
  ∃ i, x.active = some i ∧ ∀ i', x'.active = some i' →
    i'.token = i.token ∧ i'.performance.script = i.performance.script ∧
      i.performance.cursor < i'.performance.cursor

/-- Some balances, and then what a session waits at. -/
def Session.IsArrival (x : Session) (entries : List ScreenEntry) : Prop :=
  ∃ labels : List String, entries = labels.map .balance ++ x.display

namespace Performance

variable {b : Binding} {p p' : Performance} {s s' : Scene} {t : Turn} {notes : List Journal.Note}

/-- What appears for the event that a performance has come to rest at. -/
def display (p : Performance) : List ScreenEntry :=
  if p.status = .finished then [] else p.current?.elim [] Event.display

/-- A stretch adds balances to the transcript, and then the event that it ends at. -/
theorem Stretch.appears (h : Stretch b p s t) :
    ∃ labels : List String, t.scene.screen.transcript =
      s.screen.transcript ++ (labels.map .balance ++ t.performance.display) := by
  induction h with
  | @atEnd p s => exact ⟨[], (List.append_nil _).symm⟩
  | @pass p s s' e notes t _ hpass _ ih =>
      obtain ⟨labels, ih⟩ := ih
      refine ⟨(runningBalances s.wallet.balance e.amount?.toList).map moneyText ++ labels, ?_⟩
      rw [hpass.paid.2, List.append_assoc, ← List.append_assoc (List.map _ _)] at ih
      rw [List.map_append, List.map_map]
      exact ih
  | @halt p s s' e pause notes hcurrent hhalt =>
      refine ⟨[], ?_⟩
      have hdisplay : (p.suspend pause).display = e.display := by
        cases pause <;> simp only [display, current?, suspend, reduceCtorEq, if_false] <;>
          exact congrArg (·.elim [] Event.display) hcurrent
      rw [hdisplay]
      exact hhalt.shown.2.2

theorem Takes.transcript {cue : Cue} (h : p.Takes s cue p' s' notes) :
    s'.screen.transcript = s.screen.transcript := by
  cases h <;> rfl

end Performance

namespace Session

theorem settle_display (x : Session) (i : Interaction) (t : Turn) :
    (x.settle i t).scene.screen.transcript = t.scene.screen.transcript ∧
      (x.settle i t).session.display = t.performance.display := by
  by_cases hstatus : t.performance.status = .finished
  · rw [settle_finished hstatus, Performance.display, if_pos hstatus]
    exact ⟨rfl, rfl⟩
  · rw [settle_waiting hstatus, Performance.display, if_neg hstatus]
    exact ⟨rfl, rfl⟩

theorem settle_advances {x : Session} {i : Interaction} (hactive : x.active = some i) {t : Turn}
    (hscript : t.performance.script = i.performance.script)
    (hcursor : i.performance.cursor < t.performance.cursor) :
    x.Advances (x.settle i t).session := by
  refine ⟨i, hactive, fun i' hi' => ?_⟩
  by_cases hstatus : t.performance.status = .finished
  · rw [settle_finished hstatus] at hi'
    cases hi'
  · rw [settle_waiting hstatus] at hi'
    cases hi'
    exact ⟨rfl, hscript, hcursor⟩

theorem Advances.trans {x x₁ x₂ : Session} (h : x.Advances x₁) (h' : x₁.Advances x₂) :
    x.Advances x₂ := by
  obtain ⟨i, hactive, hon⟩ := h
  obtain ⟨i₁, hactive₁, hon₁⟩ := h'
  obtain ⟨htoken, hscript, hcursor⟩ := hon i₁ hactive₁
  refine ⟨i, hactive, fun i₂ hi₂ => ?_⟩
  obtain ⟨htoken₁, hscript₁, hcursor₁⟩ := hon₁ i₂ hi₂
  exact ⟨htoken₁.trans htoken, hscript₁.trans hscript, Nat.lt_trans hcursor hcursor₁⟩

theorem StandsAt.display_eq_nil {x : Session} (hx : x.Sound) {token : Token} {actor : String}
    (h : x.StandsAt token (.paused (.walk actor))) : x.display = [] := by
  cases hactive : x.active with
  | none => rw [display, hactive, Option.bind_none, Option.elim_none]
  | some i =>
      have hmatches := (hx i hactive).1.status_matches
      rw [(h.of_active hactive).2] at hmatches
      obtain ⟨⟨w, _, hcurrent, _⟩, _⟩ := hmatches
      rw [display, hactive, Option.bind_some, hcurrent]
      rfl

/-- A cue changes nothing, or the session gets on, and what appears is an arrival. -/
theorem feed_appears {x : Session} (hx : x.Sound) (token : Token) (cue : Cue) (s : Scene) :
    ((x.feed token cue s).session = x ∧ (x.feed token cue s).scene = s) ∨
    x.Advances (x.feed token cue s).session ∧ ∃ entries,
      (x.feed token cue s).scene.screen.transcript = s.screen.transcript ++ entries ∧
      (x.feed token cue s).session.IsArrival entries := by
  rcases feed_cases hx token cue s with
    ⟨notes, answer, hreply, _⟩ | ⟨i, p', s', notes, hactive, _, htakes, hreply⟩
  · rw [hreply]
    exact .inl ⟨rfl, rfl⟩
  · obtain ⟨b, _, _, hstretch⟩ := htakes.stretch (hx i hactive).1
    obtain ⟨hscript, _⟩ := htakes.frame
    have hending := hstretch.ending
    obtain ⟨labels, htranscript⟩ := hstretch.appears
    obtain ⟨hkept, hdisplay⟩ := x.settle_display i ((p'.proceedPast s').after notes)
    rw [hreply]
    refine .inr ⟨settle_advances hactive (hending.script_eq.trans hscript) hending.cursor_le,
      _, ?_, labels, rfl⟩
    rw [hkept, hdisplay, ← htakes.transcript]
    exact htranscript

theorem launched_appears (x : Session) (npc player : String) (script : Script)
    (selection : Selection) (s : Scene) :
    ∃ entries, (x.launched npc player script selection s).scene.screen.transcript =
        s.screen.transcript ++ entries ∧
      (x.launched npc player script selection s).session.IsArrival entries := by
  obtain ⟨t, hstretch, hturn⟩ :=
    (x.opened npc script selection).performance.start_stretch player (some npc) s
  obtain ⟨labels, htranscript⟩ := hstretch.appears
  obtain ⟨hkept, hdisplay⟩ := settle_display { x with nextToken := x.nextToken + 1 }
    (x.opened npc script selection)
    ((x.opened npc script selection).performance.start player (some npc) s)
  refine ⟨_, ?_, labels, rfl⟩
  rw [launched, hkept, hdisplay, hturn]
  exact htranscript

theorem begin_appears {x : Session} {npc player : String} {entries : List Script} {s : Scene}
    {begun : Token × Status} (h : (x.begin npc player entries s).answer = .ok begun) :
    ∃ shown, (x.begin npc player entries s).scene.screen.transcript =
        s.screen.transcript ++ shown ∧
      (x.begin npc player entries s).session.IsArrival shown := by
  rcases x.begin_cases npc player entries s with
    ⟨notes, error, hreply, _⟩ | ⟨script, selection, notes, _, _, _, _, hreply⟩
  · simp [hreply] at h
  · rw [hreply, launch_eq]
    exact x.launched_appears npc player script selection s

end Session

end Cutscene
