import Cutscene.Proofs.Session.Chronicle
/-!
# How much is left of an interaction

`Session.left` counts the events that are left of the interaction under way.  A cue that is taken
makes them fewer, a cue that is ignored leaves the session as it is, and the answer tells the holder
of the token how the interaction stands then (`Session.feed_gets_on`).
-/

namespace Cutscene

namespace Session

/-- The number of events that the interaction under way has left, with the one that it waits at. -/
def left (x : Session) : Nat :=
  match x.active with
  | none => 0
  | some i => i.performance.script.length - i.performance.cursor

/-- What the holder of a token takes for the status of its interaction is its status. -/
def StandsAt (x : Session) (token : Token) (status : Status) : Prop :=
  match x.active with
  | none => status = .finished
  | some i => i.token = token ∧ i.performance.status = status

theorem left_of_active {x : Session} {i : Interaction} (h : x.active = some i) :
    x.left = i.performance.script.length - i.performance.cursor := by
  rw [left, h]

theorem StandsAt.of_active {x : Session} {token : Token} {status : Status}
    (h : x.StandsAt token status) {i : Interaction} (hactive : x.active = some i) :
    i.token = token ∧ i.performance.status = status := by
  rwa [StandsAt, hactive] at h

theorem settle_standsAt (x : Session) (i : Interaction) (t : Turn) :
    (x.settle i t).session.StandsAt i.token t.performance.status := by
  by_cases hstatus : t.performance.status = .finished
  · rw [settle_finished hstatus]
    exact hstatus
  · rw [settle_waiting hstatus]
    exact ⟨rfl, rfl⟩

theorem settle_left_le (x : Session) (i : Interaction) (t : Turn) :
    (x.settle i t).session.left ≤ t.performance.script.length - t.performance.cursor := by
  by_cases hstatus : t.performance.status = .finished
  · rw [settle_finished hstatus]
    exact Nat.zero_le _
  · rw [settle_waiting hstatus]
    exact Nat.le_refl _

theorem launch_standsAt {x : Session} {npc player : String} {script : Script}
    {selection : Selection} {s : Scene} {token : Token} {status : Status}
    (h : (x.launch npc player script selection s).answer = .ok (token, status)) :
    (x.launch npc player script selection s).session.StandsAt token status := by
  rw [launch_eq, launched, settle_answer] at h
  obtain ⟨rfl, rfl⟩ := Prod.mk.inj (Except.ok.inj h)
  exact settle_standsAt _ (x.opened npc script selection) _

theorem launch_left_le (x : Session) (npc player : String) (script : Script)
    (selection : Selection) (s : Scene) :
    (x.launch npc player script selection s).session.left ≤ script.length := by
  rw [launch_eq, launched]
  apply Nat.le_trans (settle_left_le _ _ _)
  apply Nat.le_trans (Nat.sub_le _ _)
  have hscript := (x.opened npc script selection).performance.answer_script
    (.start player (some npc)) s
  exact Nat.le_of_eq (congrArg Script.length hscript)

theorem length_getD_le (entries : List Script) (n : Nat) :
    (entries.getD n {}).length ≤ (entries.flatMap (·.events)).length := by
  induction entries generalizing n with
  | nil => exact Nat.zero_le _
  | cons script entries ih =>
      rw [List.flatMap_cons, List.length_append]
      cases n with
      | zero => exact Nat.le_add_right _ _
      | succ n => exact Nat.le_trans (ih n) (Nat.le_add_left _ _)

/-- Whoever begins is told the token and the status of an interaction with one of the entries. -/
theorem begin_standsAt {x : Session} {npc player : String} {entries : List Script} {s : Scene}
    {token : Token} {status : Status}
    (h : (x.begin npc player entries s).answer = .ok (token, status)) :
    (x.begin npc player entries s).session.StandsAt token status ∧
      (x.begin npc player entries s).session.left ≤ (entries.flatMap (·.events)).length := by
  rcases x.begin_cases npc player entries s with
    ⟨notes, error, hreply, _⟩ | ⟨script, selection, notes, _, _, hscript, _, hreply⟩
  · simp [hreply] at h
  · rw [hreply] at h ⊢
    have hlength := length_getD_le entries selection.index
    rw [← hscript] at hlength
    exact ⟨launch_standsAt h, Nat.le_trans (x.launch_left_le _ _ _ _ _) hlength⟩

theorem feed_eq_settle {x : Session} {i : Interaction} (hactive : x.active = some i) (cue : Cue)
    (s : Scene) : x.feed i.token cue s = x.settle i (i.performance.resume cue s) := by
  simp [feed, holder, hactive]

theorem settle_ignored {x : Session} (hx : x.Sound) {i : Interaction} (hactive : x.active = some i)
    (s : Scene) (notes : List Journal.Note) :
    (x.settle i ⟨i.performance, s, notes⟩).session = x := by
  obtain ⟨_, waitsFor, hstatus⟩ := hx i hactive
  have hgoes : i.performance.status ≠ .finished := by simp [hstatus]
  rw [settle_waiting hgoes, ← hactive]

theorem settle_taken_lt {x : Session} (hx : x.Sound) {i : Interaction} (hactive : x.active = some i)
    {s s' : Scene} {cue : Cue} {p' : Performance} {notes : List Journal.Note}
    (htakes : i.performance.Takes s cue p' s' notes) :
    (x.settle i ((p'.proceedPast s').after notes)).session.left < x.left := by
  obtain ⟨b, _, hlt, hstretch⟩ := htakes.stretch (hx i hactive).1
  obtain ⟨hscript, _⟩ := htakes.frame
  have hending := hstretch.ending
  have hlength : (p'.proceedPast s').performance.script.length = i.performance.script.length := by
    rw [hending.script_eq, ← hscript]
    rfl
  have hcursor : i.performance.cursor + 1 ≤ (p'.proceedPast s').performance.cursor :=
    hending.cursor_le
  have hle := x.settle_left_le i ((p'.proceedPast s').after notes)
  have hbound : (x.settle i ((p'.proceedPast s').after notes)).session.left ≤
      i.performance.script.length - (i.performance.cursor + 1) := by
    apply Nat.le_trans hle
    rw [← hlength]
    exact Nat.sub_le_sub_left hcursor _
  rw [left_of_active hactive]
  omega

/-- The holder of a token is answered how its interaction stands, and that it has got on or has
ignored the cue. -/
theorem feed_gets_on {x : Session} (hx : x.Sound) {i : Interaction} (hactive : x.active = some i)
    (cue : Cue) (s : Scene) :
    ∃ status, (x.feed i.token cue s).answer = .ok status ∧
      (x.feed i.token cue s).session.StandsAt i.token status ∧
      ((x.feed i.token cue s).session.left < x.left ∨
        ((x.feed i.token cue s).session = x ∧ status = i.performance.status ∧
          i.performance.IsIgnored cue s)) := by
  rw [feed_eq_settle hactive]
  refine ⟨_, settle_answer x i _, x.settle_standsAt i _, ?_⟩
  rcases i.performance.resume_cases cue s with
    ⟨p', s', notes, htakes, hturn⟩ | hignored
  · rw [hturn]
    exact .inl (settle_taken_lt hx hactive htakes)
  · obtain ⟨notes, _, hturn, _⟩ := id hignored
    rw [hturn]
    exact .inr ⟨settle_ignored hx hactive s notes, rfl, hignored⟩

theorem confirm_of_still {x : Session} {s : Scene} (h : s.screen.isTyping = false) (token : Token) :
    x.confirm token s = x.feed token .confirm s := by
  unfold confirm
  rcases x.holder_cases token with ⟨i, _, _, hholder⟩ | ⟨error, hholder, _⟩
  · simp only [hholder, h]
    exact if_neg Bool.false_ne_true
  · simp only [hholder, feed]

end Session

theorem Performance.not_isIgnored_confirm {p : Performance} (h : p.status = .paused .confirm)
    (s : Scene) : ¬ p.IsIgnored .confirm s := by
  rintro ⟨_, _, _, hnot⟩
  exact hnot p s [] (.confirm h)

end Cutscene
