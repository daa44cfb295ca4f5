import Cutscene.Flags.Store
import Cutscene.Proofs.Disk.Writing
import Cutscene.Proofs.Format.Flags
/-!
# Flags with a file behind them

A store of flags with a file answers as one in memory does, and as long as it has nothing to write,
its file holds its flags (`FlagFile.Mirrored`).  Each call keeps to this, whether or not the disk
takes what is written.
-/

namespace Cutscene.FlagFile

variable {path : String} {f : FlagFile} {twin : Store} {d d' : Disk}

/-- What is opened at a path is settled by what is found there. -/
theorem load_congr (h : d'.find? path = d.find? path) : load d' path = load d path := by
  have hcontains : d'.contains path = d.contains path := by rw [Disk.contains, Disk.contains, h]
  cases hfind : d.find? path with
  | none =>
      have hnone : d.contains path = false := by rw [Disk.contains, hfind, Option.isSome_none]
      rw [load, load, hcontains, hnone]
      rfl
  | some node => rw [load, load, hcontains, Disk.read_of_find? hfind,
      Disk.read_of_find? (h.trans hfind)]

theorem load_saved {flags : FlagMap} (h : d.find? path = some (.file (Format.saveFlags flags))) :
    load d path = .ok ⟨path, flags, false⟩ := by
  have hthere : d.contains path = true := by rw [Disk.contains, h, Option.isSome_some]
  have hloaded : Format.loadFlags (Format.saveFlags flags) = .ok flags := by
    rw [Format.saveFlags, Format.loadFlags_toUTF8, Format.decodeText_ofFlags]
    rfl
  rw [load, if_pos hthere, Disk.read_of_find? h, Disk.Node.contents]
  simp only [Except.mapError, bind, Except.bind, hloaded]
  rfl

theorem load_ok (h : load d path = .ok f) : f.path = path ∧ f.dirty = false := by
  rw [load] at h
  split at h
  · obtain ⟨bytes, _, h⟩ := Json.bind_eq_ok.1 h
    obtain ⟨flags, _, h⟩ := Json.bind_eq_ok.1 h
    cases h
    exact ⟨rfl, rfl⟩
  · cases h
    exact ⟨rfl, rfl⟩

/-! ## Flushing -/

/-- A flush does nothing as nothing is pending, fails and leaves the store as it is, or writes the
flags to the file. -/
theorem flush_cases (f : FlagFile) (d : Disk) :
    (f.dirty = false ∧ f.flush d = (d, f, .ok ())) ∨
    (f.dirty = true ∧ ∃ d' error, f.flush d = (d', f, .error error)) ∨
    (f.dirty = true ∧ ∃ d', f.flush d = (d', { f with dirty := false }, .ok ()) ∧
      d'.find? f.path = some (.file (Format.saveFlags f.flags))) := by
  unfold flush
  cases hdirty : f.dirty with
  | false => exact .inl ⟨rfl, rfl⟩
  | true =>
      right
      rw [Bool.not_true, if_neg Bool.false_ne_true]
      split
      · exact .inl ⟨rfl, _, _, rfl⟩
      · split
        · exact .inl ⟨rfl, _, _, rfl⟩
        · rename_i hwrite
          exact .inr ⟨rfl, _, rfl, Disk.find?_of_write hwrite⟩

/-! ## A store and its twin in memory -/

/-- A file of flags and a store in memory answer alike, and what is at the path is these flags
unless something is pending. -/
structure Mirrored (path : String) (f : FlagFile) (twin : Store) (d : Disk) : Prop where
  path_eq : f.path = path
  get?_eq : ∀ key, (Store.file f).get? key = twin.get? key
  saved : f.dirty = false → load d path = .ok f

theorem Mirrored.opened (h : load d path = .ok f) : Mirrored path f (.memory f.flags) d where
  path_eq := (load_ok h).1
  get?_eq _ := rfl
  saved _ := h

theorem Mirrored.set (h : Mirrored path f twin d) (key value : String) :
    Mirrored path (f.set key value) (twin.set key value) d where
  path_eq := h.path_eq
  get?_eq k := by
    have hset := (Store.file f).get?_set key value k
    rw [Store.get?_set, ← h.get?_eq, ← hset]
    rfl
  saved hclean := by simp [FlagFile.set] at hclean

theorem Mirrored.erase (h : Mirrored path f twin d) (key : String) :
    Mirrored path (f.erase key) (twin.erase key) d where
  path_eq := by
    unfold FlagFile.erase
    split <;> exact h.path_eq
  get?_eq k := by
    have herase := (Store.file f).get?_erase key k
    rw [Store.get?_erase, ← h.get?_eq, ← herase]
    rfl
  saved hclean := by
    -- a flag that was not there leaves the store as it was
    unfold FlagFile.erase at hclean ⊢
    split at hclean
    · cases hclean
    · rename_i habsent
      rw [if_neg habsent]
      exact h.saved hclean

theorem Mirrored.flush (h : Mirrored path f twin d) :
    Mirrored path (f.flush d).2.1 twin (f.flush d).1 := by
  rcases f.flush_cases d with ⟨_, hflush⟩ | ⟨hdirty, d', error, hflush⟩ | ⟨_, d', hflush, hwritten⟩
  · rw [hflush]
    exact h
  · rw [hflush]
    exact ⟨h.path_eq, h.get?_eq, fun hclean => by simp [hdirty] at hclean⟩
  · rw [hflush]
    have hpath : f.path = path := h.path_eq
    subst hpath
    exact ⟨rfl, h.get?_eq, fun _ => load_saved hwritten⟩

theorem Mirrored.meanwhile (h : Mirrored path f twin d)
    (hdisk : f.dirty = false → d'.find? path = d.find? path) : Mirrored path f twin d' where
  path_eq := h.path_eq
  get?_eq := h.get?_eq
  saved hclean := by rw [load_congr (hdisk hclean), h.saved hclean]

/-- What becomes of a file of flags that was opened at a path: the store, a store in memory that
began with the same flags and has had the same flags set and removed, and the disk.  Between two
calls anything may happen to the disk, such as its filling up or what a failed flush leaves behind,
as long as nobody changes what is at the path while nothing is pending. -/
inductive Lives (path : String) : FlagFile → Store → Disk → Prop where
  | opened {d : Disk} {f : FlagFile} : load d path = .ok f → Lives path f (.memory f.flags) d
  | set {f : FlagFile} {twin : Store} {d : Disk} (key value : String) : Lives path f twin d →
      Lives path (f.set key value) (twin.set key value) d
  | erase {f : FlagFile} {twin : Store} {d : Disk} (key : String) : Lives path f twin d →
      Lives path (f.erase key) (twin.erase key) d
  | flush {f : FlagFile} {twin : Store} {d : Disk} : Lives path f twin d →
      Lives path (f.flush d).2.1 twin (f.flush d).1
  | meanwhile {f : FlagFile} {twin : Store} {d d' : Disk} : Lives path f twin d →
      (f.dirty = false → d'.find? path = d.find? path) → Lives path f twin d'

theorem Lives.mirrored (h : Lives path f twin d) : Mirrored path f twin d := by
  induction h with
  | opened hload => exact .opened hload
  | set key value _ ih => exact ih.set key value
  | erase key _ ih => exact ih.erase key
  | flush _ ih => exact ih.flush
  | meanwhile _ hdisk ih => exact ih.meanwhile hdisk

/-- **A file behind flags keeps them and changes nothing else.** Whatever has been done to flags
with a file since they were opened, and whatever flushes failed, they answer as flags in memory do
to which the same was done.  A flush that fails changes neither the flags nor that they are pending.
While nothing is pending, opening the path again gives the same flags, and so it does after a flush
that succeeds. -/
theorem flags_survive_reopening (h : Lives path f twin d) :
    (∀ key, (Store.file f).get? key = twin.get? key ∧
      (Store.file f).contains key = twin.contains key) ∧
    (∀ error, (f.flush d).2.2 = .error error → (f.flush d).2.1 = f) ∧
    (f.dirty = false → load d path = .ok f) ∧
    ((f.flush d).2.2 = .ok () → (f.flush d).2.1 = { f with dirty := false } ∧
      load (f.flush d).1 path = .ok { f with dirty := false }) := by
  have hnow := h.mirrored
  have hnext := hnow.flush
  refine ⟨fun key => ⟨hnow.get?_eq key, ?_⟩, fun error herror => ?_, hnow.saved, fun hok => ?_⟩
  · rw [Store.contains, hnow.get?_eq, Store.contains]
  · rcases f.flush_cases d with ⟨_, hflush⟩ | ⟨_, d', _, hflush⟩ | ⟨_, d', hflush, _⟩
    · rw [hflush]
    · rw [hflush]
    · simp [hflush] at herror
  · have hclean : (f.flush d).2.1 = { f with dirty := false } := by
      rcases f.flush_cases d with ⟨hdirty, hflush⟩ | ⟨_, d', _, hflush⟩ | ⟨_, d', hflush, _⟩
      · rw [hflush, ← hdirty]
      · simp [hflush] at hok
      · rw [hflush]
    have hsaved := hnext.saved (by rw [hclean])
    rw [hclean] at hsaved
    exact ⟨hclean, hsaved⟩

/-- A flag is set where there is no file yet, and flushed. -/
def metAnn : FlagFile :=
  FlagFile.set ⟨"flags", .empty, false⟩ "met Ann" "yes"

theorem flags_survive_reopening_met :
    Lives "flags" metAnn (.set (.memory .empty) "met Ann" "yes") {} ∧
      (metAnn.flush {}).2.2 = .ok () ∧
      load (metAnn.flush {}).1 "flags" = .ok { metAnn with dirty := false } := by
  have hload : load {} "flags" = .ok ⟨"flags", .empty, false⟩ := by rfl
  have hlives : Lives "flags" metAnn _ {} := .set "met Ann" "yes" (.opened hload)
  have hflush : (metAnn.flush {}).2.2 = .ok () := by rfl
  exact ⟨hlives, hflush, ((flags_survive_reopening hlives).2.2.2 hflush).2⟩

end Cutscene.FlagFile
