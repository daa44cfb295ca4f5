import Cutscene.Proofs.Session.Chronicle
/-!
# What an interaction leaves of the flags

An `Episode` is an interaction from its beginning on, with nobody else at the flags.  As long as it
is under way the flags are on their `Course`, and the call that ends it removes those of the choices
(`aftermath_of_course`).  So the values that it leaves are read off its notes, and a flag that a
choice has set is gone even if it was there before.
-/

namespace Cutscene

open Deed (effects)
open Journal (Note Picked behind deeds)

/-! ## Under way and over -/

namespace Session

/-- What an interaction has made of the flags that it began with, once it is over. -/
structure Aftermath (script : Script) (before : Store) (log : List Note) (s : Scene) : Prop where
  told : ∃ n ≤ script.length, Tally script n (deeds {} log)
  gone : ∀ key, Picked key log → s.store.get? key = none
  left : ∀ key, ¬ Picked key log →
    s.store.get? key = effects key (before.get? key) (deeds {} log)

theorem close_deeds (x : Session) (i : Interaction) (s : Scene) (here : Journal.Place) :
    deeds here (x.close i s).2.2 = [] := by
  rw [x.close_eq, Journal.deeds_append, Journal.deeds_asides (farewell_asides i s)]
  rfl

theorem aftermath_of_course {x : Session} {i : Interaction} {before : Store} {log : List Note}
    {s : Scene} (h : i.performance.Course before log s) :
    Aftermath i.performance.script before (log ++ (x.close i s).2.2) (x.close i s).2.1 := by
  have hdeeds : deeds {} (log ++ (x.close i s).2.2) = deeds {} log := by
    rw [Journal.deeds_append, x.close_deeds, List.append_nil]
  have hpicked (key : String) : Picked key (log ++ (x.close i s).2.2) ↔ Picked key log := by
    rw [Journal.picked_append]
    exact or_iff_left (x.close_unpicked i s key)
  refine ⟨?_, ?_, ?_⟩
  · rw [hdeeds]
    exact ⟨i.performance.cursor, h.kept.consistent.cursor_le, h.kept.tally⟩
  · intro key hkey
    rw [close_get?, if_pos ((h.chosen key).2 ((hpicked key).1 hkey))]
  · intro key hkey
    have hunchosen : ¬ i.performance.chosen.contains key = true :=
      fun hchosen => hkey ((hpicked key).2 ((h.chosen key).1 hchosen))
    rw [close_get?, if_neg hunchosen, hdeeds]
    exact h.flags key

/-- An interaction with a script is under way, or it is over. -/
inductive Stage (x : Session) (script : Script) (before : Store) (log : List Note) (s : Scene) :
    Prop where
  | underway {i : Interaction} : x.active = some i → i.performance.script = script →
      i.performance.Course before log s → Stage x script before log s
  | closed : x.active = none → Aftermath script before log s → Stage x script before log s

theorem Stage.append_asides {x : Session} {script : Script} {before : Store}
    {log notes : List Note} {s s' : Scene} (h : x.Stage script before log s)
    (hasides : ∀ n ∈ notes, n.isAside = true)
    (hstore : ∀ key, s'.store.get? key = s.store.get? key) :
    x.Stage script before (log ++ notes) s' := by
  cases h with
  | underway hactive hscript hcourse =>
      exact .underway hactive hscript (hcourse.append_asides hasides hstore)
  | closed hfree hafter =>
      have hdeeds : deeds {} (log ++ notes) = deeds {} log := by
        rw [Journal.deeds_append, Journal.deeds_asides hasides, List.append_nil]
      have hpicked (key : String) : Picked key (log ++ notes) ↔ Picked key log := by
        rw [Journal.picked_append]
        exact or_iff_left (Journal.not_picked_of_asides hasides key)
      refine .closed hfree ⟨?_, ?_, ?_⟩
      · rw [hdeeds]
        exact hafter.told
      · intro key hkey
        rw [hstore]
        exact hafter.gone key ((hpicked key).1 hkey)
      · intro key hkey
        rw [hstore, hdeeds]
        exact hafter.left key fun h => hkey ((hpicked key).2 h)

theorem settle_stage {x : Session} {i : Interaction} {t : Turn} {script : Script} {before : Store}
    {log : List Note} (hscript : t.performance.script = script)
    (hcourse : t.performance.Course before (log ++ t.notes) t.scene) :
    (x.settle i t).session.Stage script before (log ++ (x.settle i t).notes)
      (x.settle i t).scene := by
  by_cases hstatus : t.performance.status = .finished
  · rw [settle_finished hstatus, ← List.append_assoc, ← hscript]
    exact .closed rfl (aftermath_of_course (i := { i with performance := t.performance }) hcourse)
  · rw [settle_waiting hstatus]
    exact .underway rfl hscript hcourse

theorem Stage.step {x x' : Session} {script : Script} {before : Store} {log notes : List Note}
    {s s' : Scene} (h : x.Stage script before log s) (hstep : x.Step s none x' s' notes) :
    x'.Stage script before (log ++ notes) s' := by
  cases hstep with
  | stays hremarks => exact h.append_asides hremarks.asides fun _ => rfl
  | skips => exact h.append_asides (by simp) fun _ => rfl
  | @takes i p' s₁ cue taken hactive htakes =>
      cases h with
      | @underway j hj hscript hcourse =>
          obtain rfl := Option.some.inj (hactive.symm.trans hj)
          have htaken := htakes.course hcourse
          rw [List.append_assoc] at htaken
          refine settle_stage (t := (p'.proceedPast s₁).after taken) ?_ htaken
          exact (Performance.proceed_script _ s₁).trans (htakes.frame.1.trans hscript)
      | closed hfree => simp [hactive] at hfree
  | @closes i hactive =>
      cases h with
      | @underway j hj hscript hcourse =>
          obtain rfl := Option.some.inj (hactive.symm.trans hj)
          rw [← hscript]
          exact .closed rfl (aftermath_of_course hcourse)
      | closed hfree => simp [hactive] at hfree

/-- A beginning that is not refused begins with the flags as they are, and with the entry that is
selected by them. -/
theorem begin_stage {x : Session} {npc player : String} {entries : List Script} {s : Scene}
    {token : Token} {status : Status}
    (h : (x.begin npc player entries s).answer = .ok (token, status)) :
    x.active = none ∧ ∃ selection, selectEntry entries s.store = some selection ∧
      (x.begin npc player entries s).session.Stage (entries.getD selection.index {}) s.store
        (x.begin npc player entries s).notes (x.begin npc player entries s).scene := by
  rcases x.begin_cases npc player entries s with
    ⟨notes, error, hreply, _⟩ |
      ⟨script, selection, notes, hfree, hselect, hscript, hremarks, hreply⟩
  · simp [hreply] at h
  · refine ⟨hfree, selection, hselect, ?_⟩
    rw [← hscript, hreply]
    have hdeeds : deeds {} (notes ++ [.begun x.nextToken npc selection.index]) = [] := by
      rw [Journal.deeds_append, Journal.deeds_asides hremarks.asides]
      rfl
    have hunpicked :=
      Journal.not_picked_begun hremarks.asides x.nextToken npc selection.index
    have hcourse := Performance.start_course (p := (x.opened npc script selection).performance)
      rfl player (some npc) s hdeeds hunpicked
    have hstage := settle_stage (x := { x with nextToken := x.nextToken + 1 })
      (i := x.opened npc script selection) (Performance.answer_script _ (.start player _) s) hcourse
    rw [List.append_assoc] at hstage
    exact hstage

end Session

/-! ## Episodes -/

namespace Story

/-- The notes of an interaction from its beginning on and the story that it has led to, as long as
no other interaction begins and nobody else changes the flags. -/
inductive Episode (g₀ : Story) (entries : List Script) : List Note → Story → Prop where
  | begins (npc player : String) {token : Token} {status : Status} :
      (g₀.act (.begin npc player entries)).answer = .begun (.ok (token, status)) →
      Episode g₀ entries (g₀.act (.begin npc player entries)).notes
        (g₀.act (.begin npc player entries)).story
  | goesOn {log : List Note} {g : Story} (m : Move) : Episode g₀ entries log g →
      (g.act m).token? = none → Episode g₀ entries (log ++ (g.act m).notes) (g.act m).story
  | meanwhile {log : List Note} {g : Story} {s : Scene} : Episode g₀ entries log g →
      (∀ key, s.store.get? key = g.world.scene.store.get? key) →
      Episode g₀ entries log (g.elsewhere s)

variable {g₀ g : Story} {entries : List Script} {log : List Note}

theorem Episode.sound (h : Episode g₀ entries log g) : g.session.Sound := by
  induction h with
  | begins npc player hbegin =>
      have hfree := (Session.begin_stage (Answer.begun.inj hbegin)).1
      refine act_sound (fun i hi => ?_) _
      simp [hfree] at hi
  | goesOn m _ _ ih => exact act_sound ih m
  | meanwhile _ _ ih => exact ih

theorem Episode.stage (h : Episode g₀ entries log g) :
    ∃ selection, selectEntry entries g₀.world.scene.store = some selection ∧
      g.session.Stage (entries.getD selection.index {}) g₀.world.scene.store log
        g.world.scene := by
  induction h with
  | begins npc player hbegin => exact (Session.begin_stage (Answer.begun.inj hbegin)).2
  | @goesOn log g m h htoken ih =>
      obtain ⟨selection, hselect, hstage⟩ := ih
      refine ⟨selection, hselect, ?_⟩
      by_cases hm : ∃ ms, m = .tick ms
      · obtain ⟨ms, rfl⟩ := hm
        exact hstage.append_asides (by simp [act]) fun _ => rfl
      · have hstep := act_step h.sound (not_exists.1 hm)
        rw [htoken] at hstep
        exact hstage.step hstep
  | @meanwhile log g s _ hstore ih =>
      obtain ⟨selection, hselect, hstage⟩ := ih
      refine ⟨selection, hselect, ?_⟩
      have hnothing : ∀ n ∈ ([] : List Note), n.isAside = true := by simp
      have hkept := hstage.append_asides hnothing hstore
      rwa [List.append_nil] at hkept

theorem Episode.aftermath (h : Episode g₀ entries log g) (hclosed : g.session.active = none) :
    ∃ selection, selectEntry entries g₀.world.scene.store = some selection ∧
      Session.Aftermath (entries.getD selection.index {}) g₀.world.scene.store log
        g.world.scene := by
  obtain ⟨selection, hselect, hstage⟩ := h.stage
  refine ⟨selection, hselect, ?_⟩
  cases hstage with
  | underway hactive => simp [hactive] at hclosed
  | closed _ hafter => exact hafter

/-- **What an interaction leaves of the flags.** Once an interaction is over at whose flags nobody
else was, a flag that none of its choices has set has the value that the flag events of its script
have made of the value from before, those that were played and in their order; so it is untouched if
none of them names it.  And no flag is left that a choice has set. -/
theorem flags_after_episode (h : Episode g₀ entries log g) (hclosed : g.session.active = none) :
    ∃ selection n, selectEntry entries g₀.world.scene.store = some selection ∧
      (deeds {} log).filter (·.2.isAuthored) = (entries.getD selection.index {}).deeds 0 n ∧
      (∀ key, ¬ Picked key log → g.world.scene.store.get? key =
        effects key (g₀.world.scene.store.get? key) ((deeds {} log).filter (·.2.isAuthored))) ∧
      (∀ key, ¬ Picked key log →
        (∀ d ∈ (deeds {} log).filter (·.2.isAuthored), d.2.key? ≠ some key) →
        g.world.scene.store.get? key = g₀.world.scene.store.get? key) ∧
      ∀ key, Picked key log → g.world.scene.store.get? key = none := by
  obtain ⟨selection, hselect, hafter⟩ := h.aftermath hclosed
  obtain ⟨n, _, htally⟩ := hafter.told
  have hleft : ∀ key, ¬ Picked key log → g.world.scene.store.get? key =
      effects key (g₀.world.scene.store.get? key) ((deeds {} log).filter (·.2.isAuthored)) := by
    intro key hkey
    rw [hafter.left key hkey, Deed.effects_authored _ (Journal.unchosen_of_not_picked hkey {})]
  refine ⟨selection, n, hselect, htally.authored, hleft, ?_, hafter.gone⟩
  intro key hkey hunnamed
  rw [hleft key hkey, Deed.effects_of_unnamed _ hunnamed]

def meetAndAsk : Script :=
  ⟨[], .addFlag "met" "yes" :: askToStay.events⟩

/-- Ann has met Ben, and Ben has said that he stays. -/
def annHasHeard : Story :=
  (((opening {} annAlone).act (.begin "Ann" "Ben" [meetAndAsk])).story.act (.choose 1 0)).story

theorem episode_heard :
    ∃ log, Episode (opening {} annAlone) [meetAndAsk] log annHasHeard ∧
      deeds {} log = [(0, .set "met" "yes"), (1, .choose ⟨"Yes", "stays"⟩)] := by
  exact ⟨_, .goesOn (.choose 1 0) (.begins "Ann" "Ben" (by rfl)) (by rfl), by rfl⟩

theorem flags_after_episode_heard :
    ∃ log, Episode (opening {} annAlone) [meetAndAsk] log annHasHeard ∧
      annHasHeard.session.active = none ∧
      annHasHeard.world.scene.store.get? "met" = some "yes" ∧
      annHasHeard.world.scene.store.get? "stays" = none := by
  obtain ⟨log, hepisode, hdeeds⟩ := episode_heard
  have hclosed : annHasHeard.session.active = none := by rfl
  obtain ⟨_, _, _, _, hleft, _, hgone⟩ := flags_after_episode hepisode hclosed
  refine ⟨log, hepisode, hclosed, ?_, ?_⟩
  · rw [hleft "met" (by simp [Journal.picked_iff {}, hdeeds]), hdeeds]
    rfl
  · exact hgone "stays" (by simp [Journal.picked_iff {}, hdeeds])

/-- **A flag lasts unless a choice has set it.** Once an interaction is over at whose flags nobody
else was, a flag is there just when none of its choices has set it, and it was set by an event and
not removed since, or was there before and has not been removed. -/
theorem flag_lasts_iff (h : Episode g₀ entries log g) (hclosed : g.session.active = none)
    (key : String) :
    g.world.scene.store.contains key = true ↔
      ¬ Picked key log ∧
        ((g₀.world.scene.store.contains key = true ∧ ∀ i, (i, .remove key) ∉ deeds {} log) ∨
          Deed.Sets key (deeds {} log)) := by
  obtain ⟨_, _, hafter⟩ := h.aftermath hclosed
  by_cases hkey : Picked key log
  · rw [Store.contains, hafter.gone key hkey]
    simp [hkey]
  · rw [Store.contains, hafter.left key hkey,
      Deed.effects_isSome_iff _ (Journal.unchosen_of_not_picked hkey {})]
    simp only [hkey, not_false_eq_true, true_and]
    rfl

theorem flag_lasts_iff_heard :
    ∃ log, Episode (opening {} annAlone) [meetAndAsk] log annHasHeard ∧
      annHasHeard.session.active = none ∧
      Deed.Sets "met" (deeds {} log) ∧
      annHasHeard.world.scene.store.contains "met" = true := by
  obtain ⟨log, hepisode, hdeeds⟩ := episode_heard
  have hclosed : annHasHeard.session.active = none := by rfl
  have hunpicked : ¬ Picked "met" log := by simp [Journal.picked_iff {}, hdeeds]
  have hsets : Deed.Sets "met" (deeds {} log) := by
    rw [hdeeds]
    exact ⟨0, "yes", [(1, .choose ⟨"Yes", "stays"⟩)], List.suffix_rfl, by simp⟩
  exact ⟨log, hepisode, hclosed, hsets,
    (flag_lasts_iff hepisode hclosed "met").2 ⟨hunpicked, .inr hsets⟩⟩

/-- It is known that someone stays before Ann asks Ben. -/
def annKnows : Story :=
  opening {} { annAlone with
    scene := { annAlone.scene with store := .memory (.ofList [("stays", "for a year")]) } }

/-- Ben has said that he stays, too. -/
def annHasForgotten : Story :=
  ((annKnows.act (.begin "Ann" "Ben" [askToStay])).story.act (.choose 1 0)).story

/-- A flag that was there before and that no event has removed is gone when a choice has set it. -/
theorem known_flag_lost :
    ∃ log, Episode annKnows [askToStay] log annHasForgotten ∧
      annHasForgotten.session.active = none ∧
      annKnows.world.scene.store.contains "stays" = true ∧
      (∀ i, (i, .remove "stays") ∉ deeds {} log) ∧
      annHasForgotten.world.scene.store.contains "stays" = false := by
  have hepisode : ∃ log, Episode annKnows [askToStay] log annHasForgotten ∧
      deeds {} log = [(0, .choose ⟨"Yes", "stays"⟩)] := by
    exact ⟨_, .goesOn (.choose 1 0) (.begins "Ann" "Ben" (by rfl)) (by rfl), by rfl⟩
  obtain ⟨log, hepisode, hdeeds⟩ := hepisode
  have hclosed : annHasForgotten.session.active = none := by rfl
  obtain ⟨_, _, hafter⟩ := hepisode.aftermath hclosed
  have hgone := hafter.gone "stays" (by simp [Journal.picked_iff {}, hdeeds])
  refine ⟨log, hepisode, hclosed, by rfl, by simp [hdeeds], ?_⟩
  rw [Store.contains, hgone]
  rfl

end Story

end Cutscene
