import Cutscene.Proofs.Flags.File
import Cutscene.Proofs.Session.Chronicle
/-!
# What reaches the disk

Flags with a file behind them are written to it by a flush alone, and a session asks for no flush
before an interaction ends.  `Scene.Backed` holds of such flags at every moment, whatever flushes
have failed: each note keeps to it (`Scene.Backed.noted`), so each move does, since its notes tell
all that it did to flags and disk (`Story.act_replay`).
-/

namespace Cutscene

open Journal (Note)

/-! ## Flags with a file behind them, in a scene -/

namespace Scene

variable {path : String} {s s' : Scene} {f : FlagFile}

/-- The flags of a scene have the file at a path behind them, which holds them unless something is
pending. -/
def Backed (path : String) (s : Scene) : Prop :=
  ∃ f twin, s.store = .file f ∧ FlagFile.Mirrored path f twin s.disk

theorem Backed.of_same (h : s.Backed path) (hstore : s'.store = s.store)
    (hdisk : s'.disk.find? path = s.disk.find? path) : s'.Backed path := by
  obtain ⟨f, twin, hfile, hmirrored⟩ := h
  exact ⟨f, twin, hstore.trans hfile, hmirrored.meanwhile fun _ => hdisk⟩

theorem Backed.set (h : s.Backed path) (key value : String) :
    ({ s with store := s.store.set key value } : Scene).Backed path := by
  obtain ⟨f, twin, hfile, hmirrored⟩ := h
  exact ⟨_, _, congrArg (·.set key value) hfile, hmirrored.set key value⟩

theorem Backed.erase (h : s.Backed path) (key : String) :
    ({ s with store := s.store.erase key } : Scene).Backed path := by
  obtain ⟨f, twin, hfile, hmirrored⟩ := h
  exact ⟨_, _, congrArg (·.erase key) hfile, hmirrored.erase key⟩

theorem flush_of_file (h : s.store = .file f) :
    s.flush.1 = { s with disk := (f.flush s.disk).1, store := .file (f.flush s.disk).2.1 } ∧
      (s.flush.2 = none ↔ (f.flush s.disk).2.2 = .ok ()) := by
  simp only [flush, h, Store.flush, true_and]
  cases (f.flush s.disk).2.2 <;> simp

theorem Backed.flush (h : s.Backed path) : s.flush.1.Backed path := by
  obtain ⟨f, twin, hfile, hmirrored⟩ := h
  rw [(flush_of_file hfile).1]
  exact ⟨_, twin, rfl, hmirrored.flush⟩

theorem Backed.noted (h : s.Backed path) (n : Note) : (s.noted n).Backed path := by
  cases n with
  | flagSet key value => exact h.set key value
  | picked option => exact h.set option.flag chosenValue
  | flagRemoved key => exact h.erase key
  | purged key => exact h.erase key
  | flushed => exact h.flush
  | _ => exact h

theorem Backed.replay (h : s.Backed path) (notes : List Note) : (s.replay notes).Backed path := by
  induction notes generalizing s with
  | nil => exact h
  | cons n notes ih => exact ih (h.noted n)

/-- A flush is the only thing done to the disk. -/
theorem replay_disk {notes : List Note} (h : ∀ n ∈ notes, n.isFlush = false) :
    (s.replay notes).disk = s.disk := by
  induction notes generalizing s with
  | nil => rfl
  | cons n notes ih =>
      have hn := h n List.mem_cons_self
      have hnoted : (s.noted n).disk = s.disk := by
        cases n <;> first | rfl | simp [Note.isFlush] at hn
      rw [replay_cons, ih fun m hm => h m (List.mem_cons_of_mem _ hm), hnoted]

/-- A flush that succeeds leaves the flags at the path, and one that fails leaves them pending. -/
theorem Backed.flush_saves (h : s.Backed path) (hfile : s.store = .file f) :
    (s.flush.2 = none → s.flush.1.store = .file ⟨path, f.flags, false⟩ ∧
      FlagFile.load s.flush.1.disk path = .ok ⟨path, f.flags, false⟩) ∧
    (s.flush.2 ≠ none → s.flush.1.store = .file f ∧ f.dirty = true) := by
  obtain ⟨f', twin, hfile', hmirrored⟩ := h
  obtain rfl := Store.file.inj (hfile.symm.trans hfile')
  obtain rfl := hmirrored.path_eq
  have hnext := hmirrored.flush
  obtain ⟨hscene, hfailure⟩ := flush_of_file hfile
  rw [hscene, Ne, hfailure]
  rcases f.flush_cases s.disk with
    ⟨hclean, hflush⟩ | ⟨hdirty, d', error, hflush⟩ | ⟨_, d', hflush, _⟩
  · have hf : f = ⟨f.path, f.flags, false⟩ := by rw [← hclean]
    rw [hflush, ← hf]
    exact ⟨fun _ => ⟨rfl, hmirrored.saved hclean⟩, fun hfailed => absurd rfl hfailed⟩
  · rw [hflush]
    exact ⟨fun hok => (nomatch hok), fun _ => ⟨rfl, hdirty⟩⟩
  · rw [hflush] at hnext ⊢
    exact ⟨fun _ => ⟨rfl, hnext.saved rfl⟩, fun hfailed => absurd rfl hfailed⟩

/-- What others may do to a scene whose flags have a file at a path: set and remove flags, and
anything that leaves alone both the flags and what is at the path. -/
inductive KeepsFile (path : String) (s : Scene) : Scene → Prop where
  | set (key value : String) : KeepsFile path s { s with store := s.store.set key value }
  | erase (key : String) : KeepsFile path s { s with store := s.store.erase key }
  | apart {s' : Scene} : s'.store = s.store → s'.disk.find? path = s.disk.find? path →
      KeepsFile path s s'

theorem KeepsFile.backed (h : s.KeepsFile path s') (hs : s.Backed path) : s'.Backed path := by
  cases h with
  | set key value => exact hs.set key value
  | erase key => exact hs.erase key
  | apart hstore hdisk => exact hs.of_same hstore hdisk

theorem KeepsFile.find?_eq (h : s.KeepsFile path s') :
    s'.disk.find? path = s.disk.find? path := by
  cases h with
  | set | erase => rfl
  | apart _ hdisk => exact hdisk

end Scene

/-! ## Calls that end an interaction -/

/-- What a call that ends an interaction makes of the file at a path: `f` is the store once the
flags of choices are gone, and `failure` tells whether it could be written. -/
structure Session.Saves (x : Session) (path : String) (s s' : Scene) (token : Token)
    (notes : List Note) (f : FlagFile) (failure : Option StoreError) : Prop where
  /-- Up to its only flush, the call leaves the disk as it was. -/
  flushed_once : ∃ front npc, notes = front ++ [.flushed npc failure, .ended token npc] ∧
    (s.replay front).store = .file f ∧ (s.replay front).disk = s.disk ∧
    (s.replay front).flush.2 = failure
  purged : ∀ key, x.Ephemeral notes key → f.flags.get? key = none
  saved : failure = none → s'.store = .file ⟨path, f.flags, false⟩ ∧
    FlagFile.load s'.disk path = .ok ⟨path, f.flags, false⟩
  pending : failure ≠ none → s'.store = .file f ∧ f.dirty = true

theorem Session.Cleared.saves {x x' : Session} {path : String} {s s' : Scene} {token : Token}
    {notes : List Note} (h : x.Cleared s token x' s' notes) (hs : s.Backed path) :
    ∃ f failure, x.Saves path s s' token notes f failure := by
  obtain ⟨front, npc, hnotes, hunflushed, hgone⟩ := h.flushed_once
  have hfront := hs.replay front
  obtain ⟨f, _, hfile, _⟩ := hs.replay front
  have hflush := hfront.flush_saves hfile
  have hafter : s.replay notes = (s.replay front).flush.1 := by
    rw [hnotes, Scene.replay_append]
    rfl
  refine ⟨f, _, ⟨front, npc, hnotes, hfile, Scene.replay_disk hunflushed, rfl⟩, ?_, ?_, ?_⟩
  · intro key hkey
    have hstore := hgone key hkey
    rw [hfile] at hstore
    simpa [Store.contains, Store.get?, Store.flags] using hstore
  · rw [h.becomes, hafter]
    exact hflush.1
  · rw [h.becomes, hafter]
    exact hflush.2

namespace Story

variable {path : String} {g g' : Story}

/-- Other than to cast, money and screen, a move does what its notes tell. -/
theorem act_replay (hg : g.session.Sound) (m : Move) :
    (g.act m).story.world.scene.store = (g.world.scene.replay (g.act m).notes).store ∧
      (g.act m).story.world.scene.disk = (g.world.scene.replay (g.act m).notes).disk := by
  by_cases hm : ∃ ms, m = .tick ms
  · obtain ⟨ms, rfl⟩ := hm
    exact ⟨rfl, rfl⟩
  · have hbecomes := (act_step hg (not_exists.1 hm)).becomes
    rw [hbecomes]
    exact ⟨rfl, rfl⟩

theorem act_backed (hg : g.session.Sound) (h : g.world.scene.Backed path) (m : Move) :
    (g.act m).story.world.scene.Backed path := by
  obtain ⟨hstore, hdisk⟩ := act_replay hg m
  exact (h.replay (g.act m).notes).of_same hstore (by rw [hdisk])

/-- A move that ends no interaction leaves the disk as it is. -/
theorem act_disk (hg : g.session.Sound) {m : Move}
    (hopen : (g.act m).answer.closed? m.token? = none) :
    (g.act m).story.world.scene.disk = g.world.scene.disk := by
  rw [(act_replay hg m).2]
  exact Scene.replay_disk ((act_cleared hg m).2 hopen)

theorem Chronicle.backed {settings : Settings} {w : World} {history : History}
    (h : Chronicle (Scene.KeepsFile path) (opening settings w) history g)
    (hw : w.scene.Backed path) : g.world.scene.Backed path := by
  induction h with
  | opens => exact hw
  | move m h ih => exact act_backed h.sound ih m
  | meanwhile _ hkeeps ih => exact hkeeps.backed ih

theorem Chronicle.trans {allowed : Scene → Scene → Prop} {g₀ : Story} {before between : History}
    (h : Chronicle allowed g₀ before g) (h' : Chronicle allowed g between g') :
    Chronicle allowed g₀ (before ++ between) g' := by
  induction h' with
  | opens =>
      rw [List.append_nil]
      exact h
  | move m _ ih =>
      rw [← List.append_assoc]
      exact ih.move m
  | meanwhile _ hallowed ih => exact ih.meanwhile hallowed

/-- While no interaction ends, the file stays as it is. -/
theorem Chronicle.find?_eq {settings : Settings} {w : World} {before between : History}
    (h : Chronicle (Scene.KeepsFile path) (opening settings w) before g)
    (h' : Chronicle (Scene.KeepsFile path) g between g') (hopen : between.closed = []) :
    g'.world.scene.disk.find? path = g.world.scene.disk.find? path := by
  induction h' with
  | opens => rfl
  | @move between g' m h' ih =>
      rw [History.closed_concat, List.append_eq_nil_iff, Option.toList_eq_nil_iff] at hopen
      rw [act_disk (h.trans h').sound hopen.2, ih hopen.1]
  | meanwhile _ hkeeps ih => rw [elsewhere, hkeeps.find?_eq, ih hopen]

/-- **Nothing unfinished is saved.** Take flags with a file, whatever was done to them since they
were opened, and a session that from now on is alone in flushing them, while others set and remove
flags and leave the file alone.  Flushes may fail.  From any moment on, such as one before a
beginning, the file stays as it is until a call ends an interaction.  If the flush of this call
succeeds, what is opened at the path is all the flags that the store has, none of which a choice of
the interaction set.  If it fails, the store keeps them all as pending, so that they are among those
of the next flush that succeeds. -/
theorem nothing_unfinished_saved {settings : Settings} {w : World} {f : FlagFile} {twin : Store}
    {before between : History} (hstore : w.scene.store = .file f)
    (hlives : FlagFile.Lives path f twin w.scene.disk)
    (h : Chronicle (Scene.KeepsFile path) (opening settings w) before g)
    (h' : Chronicle (Scene.KeepsFile path) g between g') (hopen : between.closed = []) :
    g'.world.scene.disk.find? path = g.world.scene.disk.find? path ∧
    ∀ m token, (g'.act m).answer.closed? m.token? = some token →
      ∃ f failure, g'.session.Saves path g'.world.scene (g'.act m).story.world.scene token
        (g'.act m).notes f failure := by
  have hall := h.trans h'
  have hbacked := hall.backed ⟨f, twin, hstore, hlives.mirrored⟩
  refine ⟨h.find?_eq h' hopen, fun m token hclosed => ?_⟩
  exact ((act_cleared hall.sound m).1 token hclosed).saves hbacked

/-- Ann alone, with flags on a disk that is locked. -/
def annLocked : World :=
  { annAlone with scene := { annAlone.scene with
      store := .file ⟨"flags", .empty, false⟩
      disk := { condition := .locked } } }

/-- Ann has met Ben and has been answered, and the disk that was locked then no longer is. -/
def annUnlocked : Story :=
  let g := (opening {} annLocked).after
    [.begin "Ann" "Ben" [⟨[], .addFlag "met Ann" "yes" :: askToStay.events⟩], .choose 1 0]
  g.elsewhere { g.world.scene with disk := {} }

/-- Ann has asked again. -/
def annAsksAgain : Story :=
  (annUnlocked.act (.begin "Ann" "Ben" [askToStay])).story

theorem nothing_unfinished_saved_again :
    ∃ before between, Chronicle (Scene.KeepsFile "flags") (opening {} annLocked) before
        annUnlocked ∧
      Chronicle (Scene.KeepsFile "flags") annUnlocked between annAsksAgain ∧
      between.closed = [] ∧
      annUnlocked.world.scene.store = .file ⟨"flags", .ofList [("met Ann", "yes")], true⟩ ∧
      annAsksAgain.world.scene.disk.find? "flags" = annUnlocked.world.scene.disk.find? "flags" ∧
      FlagFile.load (annAsksAgain.act (.choose 2 1)).story.world.scene.disk "flags" =
        .ok ⟨"flags", .ofList [("met Ann", "yes")], false⟩ := by
  have hlives : FlagFile.Lives "flags" ⟨"flags", .empty, false⟩ _ annLocked.scene.disk :=
    .opened rfl
  have hbefore : Chronicle (Scene.KeepsFile "flags") (opening {} annLocked) _ annUnlocked :=
    .meanwhile (.move (.choose 1 0) (.move (.begin "Ann" "Ben"
      [⟨[], .addFlag "met Ann" "yes" :: askToStay.events⟩]) .opens)) (.apart rfl rfl)
  have hbetween : Chronicle (Scene.KeepsFile "flags") annUnlocked _ annAsksAgain :=
    .move (.begin "Ann" "Ben" [askToStay]) .opens
  obtain ⟨hkept, hends⟩ := nothing_unfinished_saved rfl hlives hbefore hbetween rfl
  obtain ⟨f, failure, hsaves⟩ := hends (.choose 2 1) 2 rfl
  have hstore : (annAsksAgain.act (.choose 2 1)).story.world.scene.store =
      .file ⟨"flags", .ofList [("met Ann", "yes")], false⟩ := by rfl
  refine ⟨_, _, hbefore, hbetween, rfl, rfl, hkept, ?_⟩
  cases failure with
  | none =>
      obtain ⟨hfile, hload⟩ := hsaves.saved rfl
      rw [hload, ← Store.file.inj (hfile.symm.trans hstore)]
  | some error =>
      obtain ⟨hfile, hdirty⟩ := hsaves.pending nofun
      rw [Store.file.inj (hfile.symm.trans hstore)] at hdirty
      cases hdirty

end Story

end Cutscene
