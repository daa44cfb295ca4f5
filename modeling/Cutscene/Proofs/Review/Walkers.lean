import Cutscene.Proofs.Session.Walks
import Cutscene.Terminal.Check
/-!
# Walks of unknown actors

A review finds fault with the walks that name an actor whom nobody knows, and with no others
(`exists_blamesWalk_iff`).  Those are the walks that are passed over in the town
(`Town.skipped_iff_blamed`).
-/

namespace Cutscene

/-! ## What a review says of walks -/

namespace Review

/-- A finding is that the walk at an event of an entry names an actor whom nobody knows. -/
def Finding.BlamesWalk (f : Finding) (entry event : Nat) : Prop :=
  f.entry = some entry ∧ f.event = some event ∧ ∃ actor, f.flaw = .unknownWalker actor

theorem unknownWalker_not_mem_choiceFlaws (actor : String) (seen : List String)
    (choices : List Choice) : .unknownWalker actor ∉ choiceFlaws seen choices := by
  induction choices generalizing seen with
  | nil => simp [choiceFlaws]
  | cons c choices ih => simp [choiceFlaws, ih]

theorem unknownWalker_mem_eventFlaws {known : List String} {actor : String} {e : Event} :
    .unknownWalker actor ∈ eventFlaws known e ↔
      ∃ w, e = .walk w ∧ w.actor = some actor ∧ actor ∉ known := by
  cases e with
  | message m => simp [eventFlaws, unknownWalker_not_mem_choiceFlaws]
  | walk w => simp [eventFlaws]
  | addFlag key value => simp [eventFlaws]
  | removeFlag key => simp [eventFlaws]
  | transaction amount => simp [eventFlaws]

theorem exists_blamesWalk_entry {npc : String} {known : List String} {script : Script}
    {index entry event : Nat} :
    (∃ f ∈ entryFindings npc known script index, f.BlamesWalk entry event) ↔
      index = entry ∧ ∃ w actor, script.events[event]? = some (.walk w) ∧
        w.actor = some actor ∧ actor ∉ known := by
  simp only [entryFindings, List.mem_append, List.mem_flatMap, List.mem_map]
  constructor
  · rintro ⟨f, hempty | ⟨⟨e, i⟩, hevent, flaw, hflaw, rfl⟩, hentry, hindex, actor, hactor⟩
    · rw [List.mem_ite_nil_right, List.mem_singleton] at hempty
      simp [hempty.2] at hactor
    · obtain rfl : flaw = .unknownWalker actor := hactor
      obtain rfl : i = event := Option.some.inj hindex
      obtain ⟨w, rfl, hwalker, hunknown⟩ := unknownWalker_mem_eventFlaws.1 hflaw
      have hevent := List.mem_zipIdx_iff_getElem?.1 hevent
      exact ⟨Option.some.inj hentry, w, actor, hevent, hwalker, hunknown⟩
  · rintro ⟨rfl, w, actor, hevent, hwalker, hunknown⟩
    have hflaw := unknownWalker_mem_eventFlaws.2 ⟨w, rfl, hwalker, hunknown⟩
    have hzip : (Event.walk w, event) ∈ script.events.zipIdx :=
      List.mem_zipIdx_iff_getElem?.2 hevent
    exact ⟨_, .inr ⟨_, hzip, _, hflaw, rfl⟩, rfl, rfl, actor, rfl⟩

theorem not_blamesWalk_reach {npc : String} {first : Script} {rest : List Script} {f : Finding}
    (hf : f ∈ reachFindings npc first rest) (entry event : Nat) : ¬ f.BlamesWalk entry event := by
  obtain ⟨⟨script, i⟩, _, hmap⟩ := List.mem_filterMap.1 hf
  obtain ⟨flaw, _, rfl⟩ := Option.map_eq_some_iff.1 hmap
  rintro ⟨_, hevent, _⟩
  simp at hevent

/-- A review finds fault with the walks that name an actor whom nobody knows, and with no others. -/
theorem exists_blamesWalk_iff {npc : String} {entries : List Script} {known : List String}
    {entry event : Nat} :
    (∃ f ∈ findings npc entries known, f.BlamesWalk entry event) ↔
      ∃ script w actor, entries[entry]? = some script ∧
        script.events[event]? = some (.walk w) ∧ w.actor = some actor ∧ actor ∉ known := by
  cases entries with
  | nil => simp [findings, Finding.BlamesWalk]
  | cons first rest =>
      simp only [findings, List.mem_append, List.mem_flatMap]
      constructor
      · rintro ⟨f, ⟨⟨script, i⟩, hscript, hf⟩ | hreach, hblames⟩
        · obtain ⟨rfl, w, actor, hwalk⟩ := exists_blamesWalk_entry.1 ⟨f, hf, hblames⟩
          exact ⟨script, w, actor, List.mem_zipIdx_iff_getElem?.1 hscript, hwalk⟩
        · exact absurd hblames (not_blamesWalk_reach hreach entry event)
      · rintro ⟨script, w, actor, hscript, hwalk⟩
        have hblamed : ∃ f ∈ entryFindings npc known script entry, f.BlamesWalk entry event :=
          exists_blamesWalk_entry.2 ⟨rfl, w, actor, hwalk⟩
        obtain ⟨f, hf, hblames⟩ := hblamed
        have hzip : (script, entry) ∈ (first :: rest).zipIdx :=
          List.mem_zipIdx_iff_getElem?.2 hscript
        exact ⟨f, .inl ⟨_, hzip, hf⟩, hblames⟩

end Review

/-! ## The review of a town -/

namespace Town

theorem names_world (t : Town) (settings : Settings) (store : Store) (disk : Disk) :
    (t.world settings store disk).scene.cast.names = t.actorNames := by
  simp [world, Cast.names, actorNames, Placement.actor]

/-- A resident who walks without being named is in the town. -/
theorem walker_missing_iff {t : Town} {r : Resident} (hr : r ∈ t.residents)
    (actor : Option String) :
    (⟨t.player.name, some r.name⟩ : Binding).walker actor ∉ t.actorNames ↔
      ∃ name, actor = some name ∧ name ∉ t.actorNames := by
  cases actor with
  | none =>
      have hthere : r.name ∈ t.actorNames :=
        List.mem_cons_of_mem _ (List.mem_map_of_mem hr)
      simp [Binding.walker, hthere]
  | some name => simp [Binding.walker]

open Journal (Dispatched Skipped Awaited)
open Story (Chronicle opening)

variable {t : Town} {settings : Settings} {store : Store} {disk : Disk} {before after : History}
  {g₀ g : Story} {begun : Beat} {r : Resident} {token : Token} {status : Status}

theorem blamed_iff {entry index : Nat} {script : Script} {w : Walk} (hr : r ∈ t.residents)
    (hscript : r.talking[entry]? = some script) (hevent : script.events[index]? = some (.walk w)) :
    (∃ f ∈ Review.findings r.name r.talking t.actorNames, f.BlamesWalk entry index) ↔
      (⟨t.player.name, some r.name⟩ : Binding).walker w.actor ∉ t.actorNames := by
  rw [Review.exists_blamesWalk_iff, walker_missing_iff hr]
  constructor
  · rintro ⟨script', w', name, hscript', hevent', hname, hunknown⟩
    obtain rfl := Option.some.inj (hscript.symm.trans hscript')
    obtain rfl := Event.walk.inj (Option.some.inj (hevent.symm.trans hevent'))
    exact ⟨name, hname, hunknown⟩
  · rintro ⟨name, hname, hunknown⟩
    exact ⟨script, w, name, hscript, hevent, hname, hunknown⟩

/-- **The review of a town foretells which walks are passed over.** A resident of a town is talked
to, in the world that the town was placed in and whatever has happened there since, as long as
nobody has joined or left the cast.  The notes that the interaction has led to when the next one
begins, or at any time before, tell of no walk but those of the entry that was picked, and each of
them was passed over if the review finds fault with it and was waited for otherwise.  So every walk
is waited for in a town without such a fault.  While nothing is noted behind a walk that is waited
for, the interaction stands still at it. -/
theorem skipped_iff_blamed (hr : r ∈ t.residents)
    (hbefore : Chronicle Scene.SameNames (opening settings (t.world settings store disk)) before g₀)
    (hbegin : g₀.act (.begin r.name t.player.name r.talking) = begun)
    (hanswer : begun.answer = .begun (.ok (token, status)))
    (hafter : Chronicle Scene.SameNames begun.story after g) (halone : after.given = []) :
    ∃ entry script, r.talking[entry]? = some script ∧ .begun token r.name entry ∈ begun.notes ∧
      ∀ index w next, Dispatched (begun.notes ++ after.log) index w next →
        script.events[index]? = some (.walk w) ∧
        (Skipped index next ↔
          ∃ f ∈ Review.findings r.name r.talking t.actorNames, f.BlamesWalk entry index) ∧
        (Awaited index next ↔
          ¬ ∃ f ∈ Review.findings r.name r.talking t.actorNames, f.BlamesWalk entry index) ∧
        ((∀ f ∈ (Terminal.Verdict.ofTown t).findings, ∀ name, f.flaw ≠ .unknownWalker name) →
          Awaited index next) ∧
        ∀ actor, next.getLast? = some (.paused index (.walk actor)) →
          ∃ i, g.session.active = some i ∧ i.performance.cursor = index ∧
            i.performance.status = .paused (.walk actor) := by
  subst hbegin
  obtain ⟨entry, script, hscript, hbegun, hwalking⟩ :=
    Session.begin_walking (Answer.begun.inj hanswer)
  have hnames : g₀.world.scene.cast.names = t.actorNames :=
    hbefore.names_eq.trans (t.names_world settings store disk)
  rw [hnames] at hwalking
  obtain ⟨_, hwalked⟩ := hafter.walking (Story.act_sound hbefore.sound _) hwalking halone
  refine ⟨entry, script, hscript, hbegun, fun index w next hwalk => ?_⟩
  obtain ⟨hevent, hthere, hmissing⟩ := hwalked.foretold index w next hwalk
  have hblamed := blamed_iff hr hscript hevent
  rw [hblamed, not_not]
  refine ⟨hevent, ⟨fun hskipped hmem => ?_, hmissing⟩, ⟨fun hawaited => ?_, hthere⟩,
    fun hclean => ?_, fun actor hlast => ?_⟩
  · exact Journal.not_skipped_of_awaited (hthere hmem) hskipped
  · by_contra hunknown
    exact Journal.not_skipped_of_awaited hawaited (hmissing hunknown)
  · refine hthere (not_not.1 fun hunknown => ?_)
    obtain ⟨f, hf, _, _, name, hflaw⟩ := hblamed.2 hunknown
    exact hclean f (List.mem_flatMap.2 ⟨r, hr, hf⟩) name hflaw
  · obtain ⟨front, hfront⟩ := hwalk
    refine hwalked.halted index (.walk actor) (Eq.trans (congrArg List.getLast? hfront.symm) ?_)
    rw [List.getLast?_append, List.getLast?_cons, hlast]
    rfl

/-- Ann sends off a stranger, whom nobody knows, and then walks off herself. -/
def strangerTown : Town where
  player := { name := "Ben", position := ⟨0, 0⟩ }
  residents := [{ name := "Ann", position := ⟨1, 0⟩, talking :=
    [⟨[], [.walk ⟨2, .left, some "Cid"⟩, .walk ⟨3, .up, none⟩]⟩] }]

/-- Ann of this town is talked to. -/
def strangerSent : Beat :=
  (opening {} (strangerTown.world {} (.memory .empty) {})).act
    (.begin "Ann" "Ben" [⟨[], [.walk ⟨2, .left, some "Cid"⟩, .walk ⟨3, .up, none⟩]⟩])

theorem skipped_iff_blamed_stranger :
    strangerSent.answer = .begun (.ok (1, .paused (.walk "Ann"))) ∧
      ∃ ann ∈ strangerTown.residents, ∃ next,
        Dispatched strangerSent.notes 0 ⟨2, .left, some "Cid"⟩ next ∧ Skipped 0 next ∧
        ∃ f ∈ Review.findings "Ann" ann.talking strangerTown.actorNames, f.BlamesWalk 0 0 := by
  have hopens : Chronicle Scene.SameNames
    (opening {} (strangerTown.world {} (.memory .empty) {})) [] _ := .opens
  have hann : _ ∈ strangerTown.residents := List.mem_singleton_self _
  have hanswer : strangerSent.answer = .begun (.ok (1, .paused (.walk "Ann"))) := by rfl
  obtain ⟨entry, script, hscript, _, hwalks⟩ :=
    skipped_iff_blamed hann hopens rfl hanswer .opens rfl
  have hsent : Dispatched (strangerSent.notes ++ History.log []) 0 ⟨2, .left, some "Cid"⟩
      (strangerSent.notes.drop 3) := ⟨strangerSent.notes.take 2, by rfl⟩
  have hskipped : Skipped 0 (strangerSent.notes.drop 3) := ⟨⟨"Cid"⟩, _, rfl⟩
  obtain rfl : entry = 0 := by
    have hlt := (List.getElem?_eq_some_iff.1 hscript).1
    exact Nat.lt_one_iff.1 hlt
  have hblamed := (hwalks 0 _ _ hsent).2.1.1 hskipped
  exact ⟨hanswer, _, hann, _, hsent, hskipped, hblamed⟩

end Town

end Cutscene
