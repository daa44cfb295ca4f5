import Cutscene.Proofs.Selection.Pick
import Cutscene.Proofs.Session.Chronicle
/-!
# Walks that are passed over

A walk is passed over when its walker is missing in the cast.  No call, no frame and nobody who
leaves the names of the cast alone changes who is in it (`Chronicle.names_eq`), so it is settled
before an interaction begins which of its walks are passed over (`Foretold`); `Chronicle.walking`
says that an interaction keeps to it for as long as it lasts.
-/

namespace Cutscene

open Journal (Note)

/-! ## Who is in the cast -/

namespace Cast

/-- The names of the actors, in the order of the cast. -/
def names (c : Cast) : List String :=
  c.actors.map (·.name)

theorem get?_eq_none_iff {c : Cast} {name : String} : c.get? name = none ↔ name ∉ c.names := by
  rw [get?, List.find?_eq_none, names, List.mem_map]
  constructor
  · rintro hmissed ⟨a, ha, hname⟩
    exact hmissed a ha (by simp [hname])
  · intro hmissed a ha hname
    exact hmissed ⟨a, ha, by simpa using hname⟩

theorem mem_names_of_get? {c : Cast} {name : String} {a : Actor} (h : c.get? name = some a) :
    name ∈ c.names := by
  by_contra hmissed
  simp [get?_eq_none_iff.2 hmissed] at h

theorem names_modify (c : Cast) (name : String) {f : Actor → Actor}
    (hf : ∀ a, (f a).name = a.name) : (c.modify name f).names = c.names := by
  obtain ⟨actors⟩ := c
  simp only [names, modify]
  induction actors with
  | nil => rfl
  | cons a actors ih =>
      rw [modifyFirst]
      split
      · simp [hf]
      · simpa using ih

theorem names_tick (c : Cast) (ms : Float32) : (c.tick ms).1.names = c.names := by
  simp only [names, tick, List.map_map]
  exact List.map_congr_left fun a _ => name_tick a ms

end Cast

namespace Scene

theorem names_noted (s : Scene) (n : Note) : (s.noted n).cast.names = s.cast.names := by
  cases n with
  | turned speaker direction facing => exact s.cast.names_modify speaker fun _ => rfl
  | sent actor tiles direction ticket => exact s.cast.names_modify actor fun _ => rfl
  | _ => rfl

theorem names_replay (s : Scene) (notes : List Note) :
    (s.replay notes).cast.names = s.cast.names := by
  induction notes generalizing s with
  | nil => rfl
  | cons n notes ih => rw [replay_cons, ih, names_noted]

theorem Becomes.names_eq {s s' : Scene} {notes : List Note} (h : s.Becomes notes s') :
    s'.cast.names = s.cast.names := by
  rw [h.cast_eq, names_replay]

/-- Whoever changes one scene into the other lets everyone stay in the cast. -/
def SameNames (s s' : Scene) : Prop :=
  s'.cast.names = s.cast.names

end Scene

namespace Story

theorem names_act {g : Story} (hg : g.session.Sound) (m : Move) :
    (g.act m).story.cast.names = g.cast.names := by
  by_cases hm : ∃ ms, m = .tick ms
  · obtain ⟨ms, rfl⟩ := hm
    exact g.cast.names_tick ms
  · exact (act_step hg (not_exists.1 hm)).becomes.names_eq

theorem Chronicle.names_eq {settings : Settings} {w : World} {history : History} {g : Story}
    (h : Chronicle Scene.SameNames (opening settings w) history g) :
    g.cast.names = w.scene.cast.names := by
  induction h with
  | opens => rfl
  | move m h ih => exact (names_act h.sound m).trans ih
  | meanwhile _ hsame ih => exact Eq.trans hsame ih

end Story

/-! ## What becomes of a walk -/

namespace Journal

/-- The notes tell that the walk with an index was dispatched, and go on with `next`. -/
def Dispatched (notes : List Note) (index : Nat) (w : Walk) (next : List Note) : Prop :=
  (.reached index (.walk w) :: next) <:+ notes

/-- The walk was passed over, because its walker was missing. -/
def Skipped (index : Nat) (next : List Note) : Prop :=
  ∃ error, [.walkerMissing error index] <+: next

/-- The walker was sent off, and the script waits for it. -/
def Awaited (index : Nat) (next : List Note) : Prop :=
  ∃ actor tiles direction ticket,
    [.sent actor tiles direction ticket, .paused index (.walk actor)] <+: next

theorem not_skipped_of_awaited {index : Nat} {next : List Note} (h : Awaited index next) :
    ¬ Skipped index next := by
  obtain ⟨actor, tiles, direction, ticket, rest, rfl⟩ := h
  rintro ⟨error, rest', heq⟩
  simp at heq

theorem dispatched_append {xs ys : List Note} {index : Nat} {w : Walk} {next : List Note}
    (h : Dispatched (xs ++ ys) index w next) :
    Dispatched ys index w next ∨ ∃ next', Dispatched xs index w next' ∧ next = next' ++ ys := by
  obtain ⟨front, heq⟩ := h
  rcases List.append_eq_append_iff.1 heq with ⟨rest, rfl, hrest⟩ | ⟨rest, rfl, hrest⟩
  · cases rest with
    | nil => exact .inl ⟨[], by simpa using hrest⟩
    | cons n rest =>
        obtain ⟨rfl, rfl⟩ := List.cons.inj hrest
        exact .inr ⟨rest, ⟨front, rfl⟩, rfl⟩
  · exact .inl ⟨rest, hrest.symm⟩

/-- The notes tell of no event that was reached. -/
def Undispatched (notes : List Note) : Prop :=
  ∀ n ∈ notes, ∀ index e, n ≠ .reached index e

theorem undispatched_of_plain {notes : List Note} (h : ∀ n ∈ notes, n.isPlain = true) :
    Undispatched notes := by
  rintro n hn index e rfl
  simpa [Note.isPlain] using h _ hn

theorem Undispatched.append {xs ys : List Note} (hxs : Undispatched xs) (hys : Undispatched ys) :
    Undispatched (xs ++ ys) :=
  fun n hn => (List.mem_append.1 hn).elim (hxs n) (hys n)

theorem Undispatched.not_dispatched {notes : List Note} (h : Undispatched notes) {index : Nat}
    {w : Walk} {next : List Note} : ¬ Dispatched notes index w next :=
  fun hwalk => h _ (hwalk.subset List.mem_cons_self) index (.walk w) rfl

/-- What the names of the cast tell beforehand of every walk in the notes: it is the walk that the
script has at its index, it is passed over if its walker is missing, and is awaited otherwise. -/
def Foretold (names : List String) (b : Binding) (script : Script) (notes : List Note) : Prop :=
  ∀ index w next, Dispatched notes index w next →
    script.events[index]? = some (.walk w) ∧
      (b.walker w.actor ∈ names → Awaited index next) ∧
      (b.walker w.actor ∉ names → Skipped index next)

variable {names : List String} {b : Binding} {script : Script}

theorem Undispatched.foretold {notes : List Note} (h : Undispatched notes) :
    Foretold names b script notes :=
  fun _ _ _ hwalk => absurd hwalk h.not_dispatched

theorem foretold_plain {notes : List Note} (h : ∀ n ∈ notes, n.isPlain = true) :
    Foretold names b script notes :=
  (undispatched_of_plain h).foretold

theorem Foretold.append {xs ys : List Note} (hxs : Foretold names b script xs)
    (hys : Foretold names b script ys) : Foretold names b script (xs ++ ys) := by
  intro index w next hwalk
  rcases dispatched_append hwalk with hlater | ⟨next', hearlier, rfl⟩
  · exact hys index w next hlater
  · obtain ⟨hevent, hthere, hmissing⟩ := hxs index w next' hearlier
    refine ⟨hevent, fun hmem => ?_, fun hmem => ?_⟩
    · obtain ⟨actor, tiles, direction, ticket, hprefix⟩ := hthere hmem
      exact ⟨actor, tiles, direction, ticket, hprefix.trans (List.prefix_append next' ys)⟩
    · obtain ⟨error, hprefix⟩ := hmissing hmem
      exact ⟨error, hprefix.trans (List.prefix_append next' ys)⟩

/-- An event that is no walk has nothing foretold of it. -/
theorem foretold_other {i : Nat} {e : Event} {notes : List Note} (he : ∀ w, e ≠ .walk w)
    (h : ∀ n ∈ notes, n.isPlain = true) : Foretold names b script (.reached i e :: notes) := by
  intro index w next hwalk
  rcases List.suffix_cons_iff.1 hwalk with heq | hwalk
  · exact absurd (Note.reached.inj (List.cons.inj heq).1).2.symm (he w)
  · exact absurd hwalk (undispatched_of_plain h).not_dispatched

/-- A walk is the one dispatch in its own notes. -/
theorem dispatched_self {i : Nat} {v : Walk} {notes : List Note} (h : Undispatched notes)
    {index : Nat} {w : Walk} {next : List Note}
    (hwalk : Dispatched (.reached i (.walk v) :: notes) index w next) :
    index = i ∧ w = v ∧ next = notes := by
  rcases List.suffix_cons_iff.1 hwalk with heq | hwalk
  · obtain ⟨hnote, hnext⟩ := List.cons.inj heq
    obtain ⟨hindex, hevent⟩ := Note.reached.inj hnote
    exact ⟨hindex, Event.walk.inj hevent, hnext⟩
  · exact absurd hwalk h.not_dispatched

end Journal

open Journal (Foretold)

namespace Performance

theorem passes_foretold {s s' : Scene} {b : Binding} {p : Performance} {e : Event}
    {notes : List Note} (hcurrent : p.current? = some e) (h : s.Passes b p.cursor e s' notes) :
    Foretold s.cast.names b p.script (.reached p.cursor e :: notes) := by
  cases h with
  | @walkerMissing v hmissing =>
      intro index w next hwalk
      obtain ⟨rfl, rfl, rfl⟩ := Journal.dispatched_self (by simp [Journal.Undispatched]) hwalk
      have hmissed := Cast.get?_eq_none_iff.1 hmissing
      exact ⟨hcurrent, fun hmem => absurd hmem hmissed, fun _ => ⟨_, List.prefix_rfl⟩⟩
  | withheld => exact Journal.foretold_other (by simp) (by simp [Note.isPlain])
  | addFlag => exact Journal.foretold_other (by simp) (by simp [Note.isPlain])
  | removeFlag => exact Journal.foretold_other (by simp) (by simp [Note.isPlain])
  | transaction => exact Journal.foretold_other (by simp) (by simp [Note.isPlain])

theorem halts_foretold {s s' : Scene} {b : Binding} {p : Performance} {e : Event} {pause : Pause}
    {notes : List Note} (hcurrent : p.current? = some e)
    (h : s.Halts b p.nextTicket e pause s' notes) :
    Foretold s.cast.names b p.script
      (.reached p.cursor e :: notes ++ [.paused p.cursor pause.waitsFor]) := by
  have hpaused : ∀ n ∈ [Note.paused p.cursor pause.waitsFor], n.isPlain = true := by
    simp [Note.isPlain]
  cases h with
  | @walk v a hactor =>
      intro index w next hwalk
      obtain ⟨rfl, rfl, rfl⟩ := Journal.dispatched_self (by simp [Journal.Undispatched]) hwalk
      have hthere := Cast.mem_names_of_get? hactor
      exact ⟨hcurrent, fun _ => ⟨_, _, _, _, List.prefix_rfl⟩, fun hmem => absurd hthere hmem⟩
  | @message m =>
      have hplain := Journal.plain_of_asides (s.present_asides b m)
      exact (Journal.foretold_other (by simp) hplain).append (Journal.foretold_plain hpaused)
  | @choice m =>
      have hplain := Journal.plain_of_asides (s.present_asides b m)
      exact (Journal.foretold_other (by simp) hplain).append (Journal.foretold_plain hpaused)

theorem Stretch.foretold {b : Binding} {p : Performance} {s : Scene} {t : Turn}
    (h : Stretch b p s t) : Foretold s.cast.names b p.script t.notes := by
  induction h with
  | @atEnd p s _ =>
      exact Journal.foretold_plain (Journal.plain_of_asides (p.finish_asides s))
  | pass hcurrent hpass _ ih =>
      rw [hpass.cast_eq] at ih
      exact (passes_foretold hcurrent hpass).append ih
  | halt hcurrent hhalt => exact halts_foretold hcurrent hhalt

@[simp] theorem suspend_status (p : Performance) (pause : Pause) :
    (p.suspend pause).status = .paused pause.waitsFor := by
  cases pause <;> rfl

/-- A stretch that does not end its script tells last where the performance waits, and for what. -/
theorem Stretch.getLast?_notes {b : Binding} {p : Performance} {s : Scene} {t : Turn}
    (h : Stretch b p s t) (hgoes : t.performance.status ≠ .finished) :
    ∃ waitsFor, t.performance.status = .paused waitsFor ∧
      t.notes.getLast? = some (.paused t.performance.cursor waitsFor) := by
  induction h with
  | @atEnd p s _ =>
      exact absurd rfl hgoes
  | pass hcurrent hpass _ ih =>
      obtain ⟨waitsFor, hstatus, hlast⟩ := ih hgoes
      refine ⟨waitsFor, hstatus, ?_⟩
      rw [Turn.after, List.getLast?_append, hlast, Option.some_or]
  | halt hcurrent hhalt =>
      refine ⟨_, suspend_status _ _, ?_⟩
      rw [suspend_cursor, List.getLast?_append]
      rfl

end Performance

/-! ## An interaction and its walks -/

namespace Session

/-- As far as an interaction has come, its walks have gone as the names of the cast foretold, and
where the notes end with a pause the interaction waits there. -/
structure Walking (x : Session) (names : List String) (b : Binding) (script : Script)
    (log : List Note) (s : Scene) : Prop where
  names_eq : s.cast.names = names
  foretold : Foretold names b script log
  own : ∀ i, x.active = some i → i.performance.script = script ∧ i.performance.binding = some b
  halted : ∀ index waitsFor, log.getLast? = some (.paused index waitsFor) →
    ∃ i, x.active = some i ∧ i.performance.cursor = index ∧
      i.performance.status = .paused waitsFor

variable {x : Session} {names : List String} {b : Binding} {script : Script} {log : List Note}

theorem Walking.elsewhere {s s' : Scene} (h : x.Walking names b script log s)
    (hsame : s.SameNames s') : x.Walking names b script log s' :=
  { h with names_eq := hsame.trans h.names_eq }

theorem Walking.remarks {s : Scene} {notes : List Note} (h : x.Walking names b script log s)
    (hremarks : Performance.Remarks notes) : x.Walking names b script (log ++ notes) s where
  names_eq := h.names_eq
  foretold := h.foretold.append (Journal.foretold_plain (Journal.plain_of_asides hremarks.asides))
  own := h.own
  halted := by
    intro index waitsFor hlast
    rw [List.getLast?_append] at hlast
    cases hnotes : notes.getLast? with
    | none => exact h.halted index waitsFor (by simpa [hnotes] using hlast)
    | some n =>
        obtain rfl : n = .paused index waitsFor := by simpa [hnotes] using hlast
        exact absurd rfl (hremarks.unpaused _ (List.mem_of_getLast? hnotes) index waitsFor)

theorem close_foretold (x : Session) (i : Interaction) (s : Scene) :
    Foretold names b script (x.close i s).2.2 := by
  obtain ⟨notes, hplain, hnotes⟩ := x.close_notes i s
  have hended : Journal.Undispatched [.ended i.token i.npc] := by simp [Journal.Undispatched]
  rw [hnotes]
  exact ((Journal.undispatched_of_plain hplain).append hended).foretold

theorem close_walking {i : Interaction} {s : Scene} (hnames : s.cast.names = names)
    (hlog : Foretold names b script log) :
    (x.close i s).1.Walking names b script (log ++ (x.close i s).2.2) (x.close i s).2.1 where
  names_eq := (x.close_becomes i s).names_eq.trans hnames
  foretold := hlog.append (x.close_foretold i s)
  own := by simp [close]
  halted := by
    obtain ⟨notes, _, hnotes⟩ := x.close_notes i s
    simp [hnotes, ← List.append_assoc]

/-- A stretch that is settled goes as foretold. -/
theorem settle_walking {i : Interaction} {p : Performance} {s : Scene} {t : Turn}
    {notes : List Note} (hstretch : Performance.Stretch b p s t) (hnames : s.cast.names = names)
    (hscript : p.script = script) (hb : p.binding = some b)
    (hlog : Foretold names b script (log ++ notes)) :
    (x.settle i (t.after notes)).session.Walking names b script
      (log ++ (x.settle i (t.after notes)).notes) (x.settle i (t.after notes)).scene := by
  subst hnames hscript
  have hkept : t.scene.cast.names = s.cast.names := hstretch.becomes.names_eq
  have hending := hstretch.ending
  have hforetold := hlog.append hstretch.foretold
  rw [List.append_assoc] at hforetold
  by_cases hstatus : t.performance.status = .finished
  · rw [settle_finished (t := t.after notes) hstatus, ← List.append_assoc]
    exact close_walking hkept hforetold
  · rw [settle_waiting (t := t.after notes) hstatus]
    obtain ⟨waitsFor, hwaits, hlast⟩ := hstretch.getLast?_notes hstatus
    refine ⟨hkept, hforetold, fun j hj => ?_, fun index waitsFor' hlog => ?_⟩
    · obtain rfl := Option.some.inj hj
      exact ⟨hending.script_eq, hending.binding_eq.trans hb⟩
    · simp only [Turn.after, List.getLast?_append, hlast, Option.some_or, Option.some.injEq,
        Note.paused.injEq] at hlog
      obtain ⟨rfl, rfl⟩ := hlog
      exact ⟨_, rfl, rfl, hwaits⟩

theorem Walking.step {x' : Session} {s s' : Scene} {notes : List Note}
    (h : x.Walking names b script log s) (hx : x.Sound) (hstep : x.Step s none x' s' notes) :
    x'.Walking names b script (log ++ notes) s' := by
  cases hstep with
  | stays hremarks => exact h.remarks hremarks
  | skips =>
      rw [List.append_nil]
      exact h.elsewhere rfl
  | @takes i p' s₁ cue taken hactive htakes =>
      obtain ⟨hscript, hbinding⟩ := h.own i hactive
      obtain ⟨b', hb', _, hstretch⟩ := htakes.stretch (hx i hactive).1
      obtain rfl := Option.some.inj (hb'.symm.trans hbinding)
      obtain ⟨hscript', _, hbinding', _, hcast⟩ := htakes.frame
      have hnames : s₁.cast.names = names := by rw [hcast, h.names_eq]
      have hlog := h.foretold.append (Journal.foretold_plain htakes.plain)
      exact settle_walking hstretch hnames (hscript'.trans hscript) (hbinding'.trans hbinding) hlog
  | @closes i hactive => exact close_walking h.names_eq h.foretold

theorem launch_walking (npc player : String) {script : Script} (selection : Selection) {s : Scene}
    {notes : List Note} (hplain : ∀ n ∈ notes, n.isPlain = true) :
    (x.launch npc player script selection s).session.Walking s.cast.names ⟨player, some npc⟩ script
      (notes ++ (x.launch npc player script selection s).notes)
      (x.launch npc player script selection s).scene := by
  have hbegun : Journal.Undispatched [.begun x.nextToken npc selection.index] := by
    simp [Journal.Undispatched]
  obtain ⟨t, hstretch, hturn⟩ :=
    (x.opened npc script selection).performance.start_stretch player (some npc) s
  have hasides := (x.opened npc script selection).performance.start_asides player (some npc) s
  have hbefore := ((Journal.undispatched_of_plain hplain).append hbegun).append
    (Journal.undispatched_of_plain (Journal.plain_of_asides hasides))
  have hlaunched := settle_walking (x := { x with nextToken := x.nextToken + 1 })
    (i := x.opened npc script selection) hstretch rfl rfl rfl hbefore.foretold
  rw [← hturn, List.append_assoc] at hlaunched
  rw [x.launch_eq]
  exact hlaunched

/-- The walks of a beginning go as foretold. -/
theorem begin_walking {npc player : String} {entries : List Script} {s : Scene} {token : Token}
    {status : Status} (h : (x.begin npc player entries s).answer = .ok (token, status)) :
    ∃ entry script, entries[entry]? = some script ∧
      .begun token npc entry ∈ (x.begin npc player entries s).notes ∧
      (x.begin npc player entries s).session.Walking s.cast.names ⟨player, some npc⟩ script
        (x.begin npc player entries s).notes (x.begin npc player entries s).scene := by
  rcases x.begin_cases npc player entries s with
    ⟨notes, error, hreply, _⟩ |
      ⟨script, selection, notes, _, hselect, hscript, hremarks, hreply⟩
  · simp [hreply] at h
  obtain ⟨script', hget⟩ := exists_getElem?_of_selectEntry hselect
  obtain rfl : script = script' := by
    rw [hscript, List.getD_eq_getElem?_getD, hget, Option.getD_some]
  obtain ⟨status', hanswer⟩ := x.launch_answer npc player script selection s
  obtain rfl : token = x.nextToken := by
    rw [hreply, hanswer] at h
    exact (Prod.mk.inj (Except.ok.inj h)).1.symm
  refine ⟨selection.index, script, hget, ?_, ?_⟩
  · rw [hreply, x.launch_eq]
    simp
  · rw [hreply]
    exact launch_walking npc player selection (Journal.plain_of_asides hremarks.asides)

end Session

namespace Story

/-- An interaction keeps to its walks until another one begins. -/
theorem Chronicle.walking {g₁ g : Story} {history : History} {names : List String} {b : Binding}
    {script : Script} {log : List Note} (h : Chronicle Scene.SameNames g₁ history g)
    (hsound : g₁.session.Sound) (hbegun : g₁.session.Walking names b script log g₁.world.scene)
    (halone : history.given = []) :
    g.session.Sound ∧
      g.session.Walking names b script (log ++ history.log) g.world.scene := by
  induction h with
  | opens =>
      have hlog : log ++ History.log [] = log := List.append_nil log
      rw [hlog]
      exact ⟨hsound, hbegun⟩
  | @move history g m _ ih =>
      rw [History.given_concat, List.append_eq_nil_iff] at halone
      obtain ⟨hearlier, hnone⟩ := halone
      obtain ⟨hsound, hwalking⟩ := ih hearlier
      refine ⟨act_sound hsound m, ?_⟩
      rw [History.log_concat, ← List.append_assoc]
      by_cases hm : ∃ ms, m = .tick ms
      · obtain ⟨ms, rfl⟩ := hm
        rw [show (g.act (.tick ms)).notes = [] from rfl, List.append_nil]
        exact hwalking.elsewhere (g.cast.names_tick ms)
      · have hstep := act_step hsound (not_exists.1 hm)
        rw [Option.toList_eq_nil_iff.1 hnone] at hstep
        exact hwalking.step hsound hstep
  | meanwhile _ hsame ih =>
      obtain ⟨hsound, hwalking⟩ := ih halone
      exact ⟨hsound, hwalking.elsewhere hsame⟩

end Story

end Cutscene
