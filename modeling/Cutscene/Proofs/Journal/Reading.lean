import Cutscene.Journal.Note
/-!
# Reading the notes

What happened where is read off the notes in their order: `begun` tells which interaction the notes
behind it belong to, and `reached` at which event.  `read` collects what a list of notes says, with
the place at hand; `read_append` and `behind_append` take a history apart into its calls.
-/

namespace Cutscene.Journal

/-- An interaction and an index in its script. -/
structure Place where
  token : Nat := 0
  index : Nat := 0
  deriving DecidableEq, Repr

/-- Where the notes behind a note belong to. -/
def Note.move (here : Place) : Note → Place
  | begun token _ _ => { here with token }
  | reached index _ => { here with index }
  | _ => here

/-- Where one is behind a list of notes. -/
def behind (here : Place) (notes : List Note) : Place :=
  notes.foldl Note.move here

/-- Whether a note is an aside: it tells neither of an event or an interaction, nor of anything done
to flags, their file or money, nor of a walk. -/
def Note.isAside : Note → Bool
  | reached _ _ | begun _ _ _ | ended _ _ => false
  | flagSet _ _ | flagRemoved _ | paid _ _ | picked _ | flushed _ _ => false
  | sent _ _ _ _ => false
  | _ => true

/-- Whether a note is one of those that playing events leaves. -/
def Note.isPlayed : Note → Bool
  | reached _ _ | paused _ _ | finished _ _ => true
  | withheld _ _ | turned _ _ _ | speakerMissing _ => true
  | sent _ _ _ _ | walkerMissing _ _ => true
  | flagSet _ _ | flagRemoved _ | paid _ _ => true
  | _ => false

/-- Collects what each note says at its place. -/
def read {α : Type} (f : Place → Note → Option α) : Place → List Note → List α
  | _, [] => []
  | here, n :: notes => (f here n).toList ++ read f (n.move here) notes

variable {α : Type} (f : Place → Note → Option α)

@[simp] theorem behind_nil (here : Place) : behind here [] = here := rfl

@[simp] theorem behind_cons (here : Place) (n : Note) (notes : List Note) :
    behind here (n :: notes) = behind (n.move here) notes := rfl

@[simp] theorem behind_append (here : Place) (xs ys : List Note) :
    behind here (xs ++ ys) = behind (behind here xs) ys :=
  List.foldl_append

@[simp] theorem read_nil (here : Place) : read f here [] = [] := rfl

theorem read_cons (here : Place) (n : Note) (notes : List Note) :
    read f here (n :: notes) = (f here n).toList ++ read f (n.move here) notes := rfl

@[simp] theorem read_append (here : Place) (xs ys : List Note) :
    read f here (xs ++ ys) = read f here xs ++ read f (behind here xs) ys := by
  induction xs generalizing here with
  | nil => rfl
  | cons n xs ih => simp [read_cons, ih]

theorem mem_read {here : Place} {notes : List Note} {x : α} (h : x ∈ read f here notes) :
    ∃ n ∈ notes, ∃ there, f there n = some x := by
  induction notes generalizing here with
  | nil => simp at h
  | cons n notes ih =>
      rw [read_cons] at h
      rcases List.mem_append.1 h with h | h
      · exact ⟨n, List.mem_cons_self, here, Option.mem_toList.1 h⟩
      · obtain ⟨m, hm, hread⟩ := ih h
        exact ⟨m, List.mem_cons_of_mem _ hm, hread⟩

theorem exists_mem_read {n : Note} {notes : List Note} (hn : n ∈ notes) (here : Place) :
    ∃ there, ∀ x, f there n = some x → x ∈ read f here notes := by
  induction notes generalizing here with
  | nil => simp at hn
  | cons m notes ih =>
      rcases List.mem_cons.1 hn with rfl | hn
      · refine ⟨here, fun x hx => ?_⟩
        rw [read_cons, hx]
        exact List.mem_append_left _ List.mem_cons_self
      · obtain ⟨there, hthere⟩ := ih hn (m.move here)
        exact ⟨there, fun x hx => List.mem_append_right _ (hthere x hx)⟩

/-- Notes that do not move the place leave it as it is. -/
theorem behind_of_still {notes : List Note} (h : ∀ n ∈ notes, ∀ here, n.move here = here)
    (here : Place) : behind here notes = here := by
  induction notes with
  | nil => rfl
  | cons n notes ih =>
      rw [behind_cons, h n List.mem_cons_self]
      exact ih fun m hm => h m (List.mem_cons_of_mem _ hm)

/-- Nothing is collected from notes that the reader passes over wherever they stand. -/
theorem read_eq_nil {notes : List Note} (h : ∀ n ∈ notes, ∀ here, f here n = none)
    (here : Place) : read f here notes = [] := by
  induction notes generalizing here with
  | nil => rfl
  | cons n notes ih =>
      rw [read_cons, h n List.mem_cons_self]
      exact ih (fun m hm => h m (List.mem_cons_of_mem _ hm)) _

theorem Note.move_aside {n : Note} (h : n.isAside = true) (here : Place) : n.move here = here := by
  cases n <;> first | rfl | simp [isAside] at h

/-- Asides leave the place as it is. -/
theorem behind_asides {notes : List Note} (h : ∀ n ∈ notes, n.isAside = true) (here : Place) :
    behind here notes = here :=
  behind_of_still (fun n hn => n.move_aside (h n hn)) here

end Cutscene.Journal
