import Cutscene.Disk
import Cutscene.Format.Flags
/-!
# Flag stores

Flags are kept in memory alone, or in memory with a file behind them that is only written by
`flush`. Both answer alike (`Store.get?`, `Store.set`, `Store.erase`); a store with a file also
remembers whether it differs from the file.
-/

namespace Cutscene

/-- Flags with a file behind them. -/
structure FlagFile where
  path : String
  flags : FlagMap
  dirty : Bool := false
  deriving DecidableEq

/-- Why flags could not be read from or written to their file. -/
inductive StoreError where
  | disk (path : String) (failure : Disk.Failure)
  | corrupt (path : String) (error : Format.FlagsError)
  deriving DecidableEq

namespace StoreError

/-- The wording around a reason. -/
def wording (path : String) (corrupt : Bool) (reason : String) : String :=
  if corrupt then "Flag file " ++ path ++ " is not a JSON object of strings: " ++ reason
  else "IO error on flag file " ++ path ++ ": " ++ reason

/-- What is wrong, without a position in the file. -/
def reason : StoreError → String
  | disk path failure => wording path false failure.message
  | corrupt path error => wording path true error.reason

/-- What is wrong and where. -/
def message : StoreError → String
  | disk path failure => wording path false failure.message
  | corrupt path error => wording path true error.message

end StoreError

namespace FlagFile

/-- Opens the flags of a file; without a file there are none. -/
def load (d : Disk) (path : String) : Except StoreError FlagFile := do
  if d.contains path then
    let bytes ← (d.read path).mapError (.disk path)
    let flags ← (Format.loadFlags bytes).mapError (.corrupt path)
    return ⟨path, flags, false⟩
  else
    return ⟨path, .empty, false⟩

/-- Sets a flag. -/
def set (s : FlagFile) (key value : String) : FlagFile :=
  { s with flags := s.flags.insert key value, dirty := true }

/-- Removes a flag, if it is there. -/
def erase (s : FlagFile) (key : String) : FlagFile :=
  if s.flags.contains key then { s with flags := s.flags.erase key, dirty := true } else s

/-- Writes the flags to their file if they differ from it. -/
def flush (s : FlagFile) (d : Disk) : Disk × FlagFile × Except StoreError Unit :=
  if !s.dirty then (d, s, .ok ())
  else
    match d.makeFolders (Disk.Path.parent s.path) with
    | (d, .error failure) => (d, s, .error (.disk s.path failure))
    | (d, .ok ()) =>
      match d.write s.path (Format.saveFlags s.flags) with
      | (d, .error failure) => (d, s, .error (.disk s.path failure))
      | (d, .ok ()) => (d, { s with dirty := false }, .ok ())

end FlagFile

/-- A store of flags. -/
inductive Store where
  | memory (flags : FlagMap)
  | file (f : FlagFile)
  deriving DecidableEq

namespace Store

instance : Inhabited Store := ⟨memory .empty⟩

/-- The flags of a store. -/
def flags : Store → FlagMap
  | memory flags => flags
  | file f => f.flags

/-- The value of a flag. -/
def get? (s : Store) (key : String) : Option String :=
  s.flags.get? key

/-- Whether a flag is present. -/
def contains (s : Store) (key : String) : Bool :=
  (s.get? key).isSome

/-- Whether every one of these flags is present. -/
def containsAll (s : Store) (keys : List String) : Bool :=
  keys.all s.contains

/-- Sets a flag. -/
def set (s : Store) (key value : String) : Store :=
  match s with
  | memory flags => memory (flags.insert key value)
  | file f => file (f.set key value)

/-- Removes a flag. -/
def erase (s : Store) (key : String) : Store :=
  match s with
  | memory flags => memory (flags.erase key)
  | file f => file (f.erase key)

/-- Writes pending changes to the disk, where there is a file behind the store. -/
def flush (s : Store) (d : Disk) : Disk × Store × Except StoreError Unit :=
  match s with
  | memory flags => (d, memory flags, .ok ())
  | file f =>
    let (d, f, result) := f.flush d
    (d, file f, result)

@[simp] theorem get?_set (s : Store) (key value k : String) :
    (s.set key value).get? k = if k = key then some value else s.get? k := by
  cases s <;> simp [get?, set, flags, FlagFile.set]

@[simp] theorem get?_erase (s : Store) (key k : String) :
    (s.erase key).get? k = if k = key then none else s.get? k := by
  cases s with
  | memory m => simp [get?, erase, flags]
  | file f =>
    simp only [get?, erase, flags, FlagFile.erase]
    split
    · simp
    · rename_i h
      split
      · subst k
        simpa [SortedMap.contains] using h
      · rfl

theorem get?_foldl_erase (s : Store) (keys : List String) (k : String) :
    (keys.foldl erase s).get? k = if k ∈ keys then none else s.get? k := by
  induction keys generalizing s with
  | nil => simp
  | cons key keys ih =>
    rw [List.foldl_cons, ih, get?_erase]
    by_cases hk : k = key
    · simp [hk]
    · simp [hk]

/-- A flush is about the file alone, whether or not it succeeds. -/
@[simp] theorem get?_flush (s : Store) (d : Disk) (k : String) :
    (s.flush d).2.1.get? k = s.get? k := by
  cases s with
  | memory m => rfl
  | file f =>
    have hflags : (f.flush d).2.1.flags = f.flags := by
      unfold FlagFile.flush
      split
      · rfl
      · split
        · rfl
        · split <;> rfl
    simp only [get?, flush, flags, hflags]

end Store

end Cutscene
