import Cutscene.Progress.Slots
import Cutscene.Proofs.Disk.Writing
import Cutscene.Proofs.Format.Town
import Mathlib.Data.List.Basic
import Mathlib.Data.List.Induction
/-!
# Slots in a table and in a folder

A folder of slots answers every call as a table of slots does, namely with what was last saved under
the key and not deleted since (`SlotFolder.answers_as_table`).  This asks that the file operations
succeed, and that the keys in use name different places, at which nothing was in the beginning.
-/

namespace Cutscene

open Json

/-! ## Written progress -/

namespace Format

theorem progress_ofProgress {p : Progress} (h : p.position.ReadsBack) :
    progress (ofProgress p).tree = .ok p := by
  have hmap : Tree.scalar Found.getText (Doc.text p.map).tree = .ok p.map := rfl
  have hposition := position_ofPosition h
  have hdirection := direction_ofDirection p.direction
  have hkey : Tree.scalar Found.getText (Doc.text p.key).tree = .ok p.key := rfl
  have hfields : Tree.recordMembers progressRecord 0 [] {} (Doc.memberTrees
      [("currentMap", .text p.map), ("playerPos", ofPosition p.position),
        ("playerDirection", ofDirection p.direction), ("saveKey", .text p.key)]) =
      .ok ⟨some p.map, some p.position, some p.direction, some p.key⟩ := by
    refine (Tree.recordMembers_cons rfl (field_read hmap) rfl _ _ _).trans ?_
    refine (Tree.recordMembers_cons rfl (field_read hposition) rfl _ _ _).trans ?_
    refine (Tree.recordMembers_cons rfl (field_read hdirection) rfl _ _ _).trans ?_
    exact (Tree.recordMembers_cons rfl (field_read hkey) rfl _ _ _).trans rfl
  exact Tree.record_written hfields rfl

theorem fits_ofProgress {p : Progress} (h : p.position.ReadsBack) : (ofProgress p).Fits 2 := by
  refine .object fun m hm => ?_
  simp only [List.mem_cons, List.not_mem_nil, or_false] at hm
  rcases hm with rfl | rfl | rfl | rfl
  · exact .text _
  · exact fits_ofPosition h
  · exact .text _
  · exact .text _

theorem decodeText_ofProgress {p : Progress} (h : p.position.ReadsBack) :
    decodeText progress (ofProgress p).pretty = .ok p :=
  decodeText_written ((fits_ofProgress h).mono (by decide)) (progress_ofProgress h) true

end Format

/-! ## Calls -/

/-- A call that saves, loads or deletes progress. -/
inductive SlotCall where
  | save (p : Progress)
  | load (key : String)
  | delete (key : String)

/-- The key of the slot that a call is about. -/
def SlotCall.key : SlotCall → String
  | save p => p.key
  | load key => key
  | delete key => key

/-- What a call gives. -/
inductive SlotAnswer where
  | done (result : Except SlotError Unit)
  | loaded (result : Except SlotError (Option Progress))

namespace SlotTable

/-- What a call to a table gives. -/
def answer (t : SlotTable) : SlotCall → SlotAnswer
  | .save _ => .done (.ok ())
  | .load key => .loaded (.ok (t.load key))
  | .delete key => .done ((t.delete key).map fun _ => ())

/-- The table behind a call. -/
def after (t : SlotTable) : SlotCall → SlotTable
  | .save p => t.save p
  | .load _ => t
  | .delete key => (t.delete key).toOption.getD t

/-- What calls to a table give one after the other. -/
def answers (t : SlotTable) : List SlotCall → List SlotAnswer
  | [] => []
  | c :: calls => t.answer c :: (t.after c).answers calls

end SlotTable

namespace SlotFolder

/-- What a call to a folder on a disk gives. -/
def answer (f : SlotFolder) (d : Disk) : SlotCall → SlotAnswer
  | .save p => .done (f.save d p).2
  | .load key => .loaded (f.load d key)
  | .delete key => .done (f.delete d key).2

/-- The disk behind a call. -/
def after (f : SlotFolder) (d : Disk) : SlotCall → Disk
  | .save p => (f.save d p).1
  | .load _ => d
  | .delete key => (f.delete d key).1

/-- What calls to a folder give one after the other. -/
def answers (f : SlotFolder) (d : Disk) : List SlotCall → List SlotAnswer
  | [] => []
  | c :: calls => f.answer d c :: f.answers (f.after d c) calls

/-- The file operations that a call asks for succeed. -/
def Succeeds (f : SlotFolder) (d : Disk) : SlotCall → Prop
  | .save p => ∃ made written, d.makeFolders (Disk.Path.parent (f.file p.key)) = (made, .ok ()) ∧
      made.write (f.file p.key) (Format.ofProgress p).pretty.toUTF8 = (written, .ok ())
  | .load key => d.contains (f.file key) = true → ∃ bytes, d.read (f.file key) = .ok bytes
  | .delete key => d.contains (f.file key) = true →
      ∃ removed, d.remove (f.file key) = (removed, .ok ())

/-- The file operations of calls one after the other succeed. -/
def AllSucceed (f : SlotFolder) : Disk → List SlotCall → Prop
  | _, [] => True
  | d, c :: calls => f.Succeeds d c ∧ f.AllSucceed (f.after d c) calls

/-- The place of the file of a slot. -/
def slotPlace (f : SlotFolder) (d : Disk) (key : String) : String :=
  Disk.place (d.goal (f.file key))

end SlotFolder

/-! ## What a table holds -/

/-- Progress was saved under a key, and nothing but loading has happened to the slot since. -/
def Holds (past : List SlotCall) (key : String) (p : Progress) : Prop :=
  ∃ before since, past = before ++ .save p :: since ∧ p.key = key ∧
    ∀ c ∈ since, c.key = key → c = .load key

/-- What a call gives behind the calls of the past: loading what the slot holds, and deleting an
error just when it holds nothing. -/
def Due (past : List SlotCall) : SlotCall → SlotAnswer → Prop
  | .save _, a => a = .done (.ok ())
  | .load key, a => ∃ found, a = .loaded (.ok found) ∧ ∀ p, found = some p ↔ Holds past key p
  | .delete key, a => (a = .done (.ok ()) ∧ ∃ p, Holds past key p) ∨
      (a = .done (.error (.notFound key)) ∧ ∀ p, ¬ Holds past key p)

theorem not_holds_nil (key : String) (p : Progress) : ¬ Holds [] key p := by
  rintro ⟨before, since, heq, _⟩
  simp at heq

theorem holds_concat {past : List SlotCall} {c : SlotCall} {key : String} {p : Progress} :
    Holds (past ++ [c]) key p ↔
      (c = .save p ∧ p.key = key) ∨ ((c.key = key → c = .load key) ∧ Holds past key p) := by
  constructor
  · rintro ⟨before, since, heq, hkey, hsince⟩
    rcases List.eq_nil_or_concat' since with rfl | ⟨since, last, rfl⟩
    · obtain ⟨_, hlast⟩ := List.append_inj' heq rfl
      exact .inl ⟨by simpa using hlast, hkey⟩
    · rw [← List.cons_append, ← List.append_assoc] at heq
      obtain ⟨rfl, hlast⟩ := List.append_inj' heq rfl
      obtain rfl : c = last := by simpa using hlast
      exact .inr ⟨hsince c (by simp), before, since, rfl, hkey,
        fun other hother => hsince other (List.mem_append_left _ hother)⟩
  · rintro (⟨rfl, hkey⟩ | ⟨hc, before, since, rfl, hkey, hsince⟩)
    · exact ⟨past, [], rfl, hkey, by simp⟩
    · refine ⟨before, since ++ [c], by simp, hkey, fun other hother => ?_⟩
      rcases List.mem_append.1 hother with hother | hother
      · exact hsince other hother
      · rw [List.mem_singleton.1 hother]
        exact hc

namespace SlotTable

variable {t t' : SlotTable} {key : String}

theorem delete_eq (t : SlotTable) (key : String) :
    t.delete key = if (t.load key).isSome then .ok ⟨t.slots.erase key⟩
      else .error (.notFound key) :=
  rfl

/-- A call makes no difference to the other slots. -/
theorem load_after_of_ne {c : SlotCall} (h : c.key ≠ key) :
    (t.after c).load key = t.load key := by
  cases c with
  | save p =>
      have hkey : key ≠ p.key := Ne.symm h
      simp [after, save, load, hkey]
  | load k => rfl
  | delete k =>
      have hkey : key ≠ k := Ne.symm h
      rw [after, delete_eq]
      split
      · simp [Except.toOption, load, hkey]
      · rfl

theorem load_after_save (t : SlotTable) (p : Progress) :
    (t.after (.save p)).load p.key = some p := by
  simp [after, save, load]

theorem load_after_delete (t : SlotTable) (key : String) :
    (t.after (.delete key)).load key = none := by
  rw [after, delete_eq]
  split
  · simp [Except.toOption, load]
  · rename_i hnone
    exact Option.not_isSome_iff_eq_none.1 hnone

theorem load_eq_some_iff {past : List SlotCall} {p : Progress} :
    (past.foldl after {}).load key = some p ↔ Holds past key p := by
  induction past using List.reverseRecOn generalizing p with
  | nil =>
      have hnone : (({} : SlotTable).load key) = none := rfl
      simp [hnone, not_holds_nil]
  | append_singleton past c ih =>
      rw [List.foldl_concat, holds_concat]
      by_cases hkey : c.key = key
      · cases c with
        | save q =>
            obtain rfl : q.key = key := hkey
            rw [load_after_save]
            constructor
            · intro h
              obtain rfl := Option.some.inj h
              exact .inl ⟨rfl, rfl⟩
            · rintro (⟨h, _⟩ | ⟨h, _⟩)
              · rw [SlotCall.save.inj h]
              · cases h rfl
        | load k =>
            obtain rfl : k = key := hkey
            rw [after]
            simp [ih, SlotCall.key]
        | delete k =>
            obtain rfl : k = key := hkey
            rw [load_after_delete]
            simp [SlotCall.key]
      · have hother : ¬ (c = .save p ∧ p.key = key) := by
          rintro ⟨rfl, hp⟩
          exact hkey hp
        rw [load_after_of_ne hkey, ih, or_iff_right hother, and_iff_right (absurd · hkey)]

/-- A table that has seen the calls of the past gives what is due. -/
theorem answer_due (past : List SlotCall) (c : SlotCall) :
    Due past c ((past.foldl after {}).answer c) := by
  cases c with
  | save p => rfl
  | load key => exact ⟨_, rfl, fun p => load_eq_some_iff⟩
  | delete key =>
      rw [answer, delete_eq]
      cases hload : (past.foldl after {}).load key with
      | some p => exact .inl ⟨rfl, p, load_eq_some_iff.1 hload⟩
      | none =>
          refine .inr ⟨rfl, fun p hp => ?_⟩
          rw [← load_eq_some_iff, hload] at hp
          cases hp

theorem length_answers (t : SlotTable) (calls : List SlotCall) :
    (t.answers calls).length = calls.length := by
  induction calls generalizing t with
  | nil => rfl
  | cons c calls ih => rw [answers, List.length_cons, ih, List.length_cons]

theorem answers_append (t : SlotTable) (past calls : List SlotCall) :
    t.answers (past ++ calls) = t.answers past ++ (past.foldl after t).answers calls := by
  induction past generalizing t with
  | nil => rfl
  | cons c past ih => rw [List.cons_append, answers, ih, answers, List.foldl_cons, List.cons_append]

theorem getElem?_answers (past : List SlotCall) (c : SlotCall) (later : List SlotCall) :
    (({} : SlotTable).answers (past ++ c :: later))[past.length]? =
      some ((past.foldl after {}).answer c) := by
  rw [answers_append, ← length_answers {} past, List.getElem?_append_right (Nat.le_refl _),
    Nat.sub_self]
  rfl

/-- What a slot says can be told from that slot alone. -/
theorem answer_congr {c : SlotCall} (h : t.load c.key = t'.load c.key) :
    t.answer c = t'.answer c ∧ (t.after c).load c.key = (t'.after c).load c.key := by
  cases c with
  | save p => exact ⟨rfl, by rw [SlotCall.key, load_after_save, load_after_save]⟩
  | load k => exact ⟨congrArg (fun found => SlotAnswer.loaded (.ok found)) h, h⟩
  | delete k =>
      have hload : t.load k = t'.load k := h
      constructor
      · rw [answer, answer, delete_eq, delete_eq, hload]
        cases t'.load k <;> rfl
      · rw [SlotCall.key, load_after_delete, load_after_delete]

/-- Every slot answers as it would if it were the only one. -/
theorem filter_answers (h : t.load key = t'.load key) (calls : List SlotCall) :
    (calls.zip (t.answers calls)).filter (·.1.key = key) =
      (calls.filter (·.key = key)).zip (t'.answers (calls.filter (·.key = key))) := by
  induction calls generalizing t t' with
  | nil => rfl
  | cons c calls ih =>
      rw [answers, List.zip_cons_cons]
      by_cases hkey : c.key = key
      · subst hkey
        obtain ⟨hanswer, hafter⟩ := answer_congr h
        rw [List.filter_cons_of_pos (by simp), List.filter_cons_of_pos (by simp), ih hafter,
          answers, List.zip_cons_cons, hanswer]
      · rw [List.filter_cons_of_neg (by simpa using hkey),
          List.filter_cons_of_neg (by simpa using hkey)]
        exact ih ((load_after_of_ne hkey).trans h)

end SlotTable

/-! ## What a folder holds -/

namespace SlotFolder

variable {f : SlotFolder} {d d' : Disk} {t : SlotTable} {c : SlotCall} {key : String}
  {held : Option Progress} {calls : List SlotCall}

/-- The slot of a key on a disk holds progress that can be read, or no file. -/
def Keeps (f : SlotFolder) (d : Disk) (key : String) : Option Progress → Prop
  | none => ∀ bytes, d.at? (d.goal (f.file key)) ≠ some (.file bytes)
  | some p => p.position.ReadsBack ∧
      d.find? (f.file key) = some (.file (Format.ofProgress p).pretty.toUTF8)

/-- What keeps the folders and what is at the place of a slot keeps the slot. -/
theorem Keeps.congr (h : f.Keeps d key held) (hfolders : d.KeepsFolders d')
    (hat : d'.at? (d.goal (f.file key)) = d.at? (d.goal (f.file key))) :
    f.Keeps d' key held := by
  cases held with
  | none =>
      intro bytes
      rw [Disk.goal_congr hfolders.home_eq, hat]
      exact h bytes
  | some p =>
      have hthere := (Disk.find?_eq_some.1 h.2).2
      exact ⟨h.1, hfolders.find?_eq_some h.2 (hat.trans hthere)⟩

theorem Keeps.grows (h : f.Keeps d key held) (hgrows : d.Grows d') : f.Keeps d' key held := by
  cases held with
  | none =>
      intro bytes hfile
      rw [Disk.goal_congr hgrows.home_eq] at hfile
      exact h bytes (hgrows.file_of_file hfile)
  | some p =>
      have hthere := (Disk.find?_eq_some.1 h.2).2
      exact ⟨h.1, hgrows.keepsFolders.find?_eq_some h.2 (hgrows.at?_eq_some hthere)⟩

/-- What cannot be found is no progress. -/
theorem Keeps.of_find?_eq_none (h : f.Keeps d key held) (hnone : d.find? (f.file key) = none) :
    f.Keeps d key none := by
  cases held with
  | none => exact h
  | some p => cases hnone.symm.trans h.2

theorem slotPlace_congr (h : d'.home = d.home) (key : String) :
    f.slotPlace d' key = f.slotPlace d key := by
  rw [slotPlace, slotPlace, Disk.goal_congr h]

/-! ## Calls to a folder -/

theorem save_eq {p : Progress} {made written : Disk} {text : ByteArray}
    (htext : (Format.ofProgress p).pretty.toUTF8 = text)
    (hmake : d.makeFolders (Disk.Path.parent (f.file p.key)) = (made, .ok ()))
    (hwrite : made.write (f.file p.key) text = (written, .ok ())) :
    f.save d p = (written, .ok ()) := by
  unfold save
  rw [htext]
  dsimp only
  rw [hmake]
  dsimp only
  rw [hwrite]
  rfl

/-- Saving makes folders and then puts a file at the place of the slot. -/
theorem save_of_succeeds {p : Progress} (hok : f.Succeeds d (.save p)) : ∃ made, d.Grows made ∧
    made.at? (made.goal (f.file p.key)) ≠ some .folder ∧
    f.save d p = (made.put (made.goal (f.file p.key))
      (.file (Format.ofProgress p).pretty.toUTF8), .ok ()) ∧
    (f.save d p).1.find? (f.file p.key) = some (.file (Format.ofProgress p).pretty.toUTF8) := by
  obtain ⟨made, written, hmake, hwrite⟩ := hok
  have hgrows := d.makeFolders_grows (Disk.Path.parent (f.file p.key))
  rw [hmake] at hgrows
  obtain ⟨_, hfree, rfl⟩ := Disk.write_eq_ok hwrite
  have hsave := save_eq rfl hmake hwrite
  refine ⟨made, hgrows, hfree, hsave, ?_⟩
  rw [hsave]
  exact Disk.find?_of_write hwrite

/-- Deleting erases the place of the slot, if a file is there. -/
theorem delete_of_succeeds (hok : f.Succeeds d (.delete key)) :
    (d.find? (f.file key) = none ∧ f.delete d key = (d, .error (.notFound key))) ∨
    ∃ old, d.find? (f.file key) = some (.file old) ∧ f.delete d key =
      ({ d with nodes := d.nodes.erase (f.slotPlace d key) }, .ok ()) := by
  unfold delete
  dsimp only
  by_cases hthere : d.contains (f.file key) = true
  · obtain ⟨removed, hremove⟩ := hok hthere
    obtain ⟨old, hold, rfl⟩ := Disk.remove_eq_ok hremove
    rw [if_pos hthere, hremove]
    exact .inr ⟨old, hold, rfl⟩
  · rw [if_neg hthere]
    exact .inl ⟨Option.not_isSome_iff_eq_none.1 hthere, rfl⟩

theorem home_after (hok : f.Succeeds d c) : (f.after d c).home = d.home := by
  cases c with
  | save p =>
      obtain ⟨made, hgrows, _, hsave, _⟩ := save_of_succeeds hok
      rw [after, hsave]
      exact hgrows.home_eq
  | load key => rfl
  | delete key =>
      rcases delete_of_succeeds hok with ⟨_, hdelete⟩ | ⟨_, _, hdelete⟩
      · rw [after, hdelete]
      · rw [after, hdelete]

/-- A call keeps every slot at another place. -/
theorem Keeps.after_of_ne (h : f.Keeps d key held) (hok : f.Succeeds d c)
    (hother : f.slotPlace d key ≠ f.slotPlace d c.key) : f.Keeps (f.after d c) key held := by
  cases c with
  | save p =>
      obtain ⟨made, hgrows, hfree, hsave, _⟩ := save_of_succeeds hok
      have hplace : Disk.place (made.goal (f.file key)) ≠
          Disk.place (made.goal (f.file p.key)) := by
        rw [Disk.goal_congr hgrows.home_eq, Disk.goal_congr hgrows.home_eq]
        exact hother
      rw [after, hsave]
      exact (h.grows hgrows).congr (.put hfree) (Disk.at?_put_of_ne hplace)
  | load _ => exact h
  | delete _ =>
      rcases delete_of_succeeds hok with ⟨_, hdelete⟩ | ⟨old, hold, hdelete⟩
      · rw [after, hdelete]
        exact h
      · have hthere := (Disk.find?_eq_some.1 hold).2
        rw [after, hdelete]
        exact h.congr (.erase (by simp [hthere])) (Disk.at?_erase_of_ne hother)

/-- A slot that holds what the table holds still does behind a call to it. -/
theorem Keeps.after_self (h : f.Keeps d c.key (t.load c.key)) (hok : f.Succeeds d c)
    (hback : ∀ p, c = .save p → p.position.ReadsBack) :
    f.Keeps (f.after d c) c.key ((t.after c).load c.key) := by
  cases c with
  | save p =>
      obtain ⟨_, _, _, _, hfind⟩ := save_of_succeeds hok
      rw [SlotCall.key, SlotTable.load_after_save]
      exact ⟨hback p rfl, hfind⟩
  | load _ => exact h
  | delete key =>
      rw [SlotCall.key, SlotTable.load_after_delete]
      rcases delete_of_succeeds hok with ⟨hnone, hdelete⟩ | ⟨old, hold, hdelete⟩
      · rw [after, hdelete]
        exact h.of_find?_eq_none hnone
      · have hthere := (Disk.find?_eq_some.1 hold).2
        have hbelow : d.goal (f.file key) ≠ [] := by
          intro hroot
          rw [hroot] at hthere
          cases hthere
        have herased := Disk.at?_erase_self (d := d) hbelow
        intro bytes hfile
        rw [after, hdelete] at hfile
        exact absurd (herased.symm.trans hfile) nofun

theorem Keeps.load_eq (h : f.Keeps d key held) (hok : f.Succeeds d (.load key)) :
    f.load d key = .ok held := by
  unfold load
  dsimp only
  cases held with
  | none =>
      have habsent : ¬ d.contains (f.file key) = true := by
        intro hthere
        obtain ⟨bytes, hread⟩ := hok hthere
        obtain ⟨node, hfind⟩ := Option.isSome_iff_exists.1 hthere
        rw [Disk.read_of_find? hfind] at hread
        cases node with
        | file old => exact h old (Disk.find?_eq_some.1 hfind).2
        | folder => cases hread
      rw [if_neg habsent]
      rfl
  | some p =>
      obtain ⟨hback, hfind⟩ := h
      have hthere : d.contains (f.file key) = true := by
        rw [Disk.contains, hfind]
        rfl
      rw [if_pos hthere, Disk.readText_of_read (Disk.read_of_find? hfind)]
      simp only [Except.mapError, bind, Except.bind, Format.decodeText_ofProgress hback]
      rfl

/-- The call gives the same. -/
theorem Keeps.answer_eq (h : f.Keeps d c.key (t.load c.key)) (hok : f.Succeeds d c) :
    f.answer d c = t.answer c := by
  cases c with
  | save p =>
      obtain ⟨_, _, _, hsave, _⟩ := save_of_succeeds hok
      rw [answer, hsave]
      rfl
  | load key => exact congrArg SlotAnswer.loaded (h.load_eq hok)
  | delete key =>
      rw [answer, SlotTable.answer, SlotTable.delete_eq]
      rw [SlotCall.key] at h
      rcases delete_of_succeeds hok with ⟨hnone, hdelete⟩ | ⟨old, hold, hdelete⟩
      · rw [hdelete]
        cases hload : t.load key with
        | none => rfl
        | some p =>
            rw [hload] at h
            cases hnone.symm.trans h.2
      · rw [hdelete]
        cases hload : t.load key with
        | none =>
            rw [hload] at h
            exact absurd (Disk.find?_eq_some.1 hold).2 (h old)
        | some p => rfl

/-! ## Calls one after the other -/

theorem answers_eq
    (hback : ∀ p, .save p ∈ calls → p.position.ReadsBack)
    (hdistinct : ∀ c ∈ calls, ∀ c' ∈ calls,
      f.slotPlace d c.key = f.slotPlace d c'.key → c.key = c'.key)
    (hkeeps : ∀ c ∈ calls, f.Keeps d c.key (t.load c.key)) (hok : f.AllSucceed d calls) :
    f.answers d calls = t.answers calls := by
  induction calls generalizing d t with
  | nil => rfl
  | cons c calls ih =>
      obtain ⟨hc, hcalls⟩ := hok
      have hkept := hkeeps c List.mem_cons_self
      have hlater : ∀ {c'}, c' ∈ calls → c' ∈ c :: calls := List.mem_cons_of_mem c
      have hrest : f.answers (f.after d c) calls = (t.after c).answers calls := by
        refine ih (fun p hp => hback p (hlater hp)) (fun c' hc' c'' hc'' hplace => ?_)
          (fun c' hc' => ?_) hcalls
        · rw [slotPlace_congr (home_after hc), slotPlace_congr (home_after hc)] at hplace
          exact hdistinct c' (hlater hc') c'' (hlater hc'') hplace
        · by_cases hsame : c'.key = c.key
          · rw [hsame]
            exact hkept.after_self hc fun p hp => hback p (hp ▸ List.mem_cons_self)
          · have hother : f.slotPlace d c'.key ≠ f.slotPlace d c.key :=
              fun hplace => hsame (hdistinct c' (hlater hc') c List.mem_cons_self hplace)
            rw [SlotTable.load_after_of_ne (Ne.symm hsame)]
            exact (hkeeps c' (hlater hc')).after_of_ne hc hother
      rw [answers, SlotTable.answers, hkept.answer_eq hc, hrest]

/-- **A folder of slots is as good as a table.** Progress is saved, loaded and deleted in a folder,
under keys that name different places where nothing was in the beginning, and the file operations
succeed; the coordinates are numbers whose texts are read as these.  Then every call gives what it
gives in a table, namely what is due behind the calls before it; and the calls to one slot give
what they would give without those to the others. -/
theorem answers_as_table (hback : ∀ p, .save p ∈ calls → p.position.ReadsBack)
    (hdistinct : ∀ c ∈ calls, ∀ c' ∈ calls,
      f.slotPlace d c.key = f.slotPlace d c'.key → c.key = c'.key)
    (hempty : ∀ c ∈ calls, d.at? (d.goal (f.file c.key)) = none) (hok : f.AllSucceed d calls) :
    f.answers d calls = ({} : SlotTable).answers calls ∧
    (∀ past c later, calls = past ++ c :: later →
      ∃ a, (f.answers d calls)[past.length]? = some a ∧ Due past c a) ∧
    ∀ key, (calls.zip (f.answers d calls)).filter (·.1.key = key) =
      (calls.filter (·.key = key)).zip
        (({} : SlotTable).answers (calls.filter (·.key = key))) := by
  have hkeeps : ∀ c ∈ calls, f.Keeps d c.key (({} : SlotTable).load c.key) := by
    intro c hc bytes hfile
    rw [hempty c hc] at hfile
    cases hfile
  have hanswers := answers_eq hback hdistinct hkeeps hok
  rw [hanswers]
  refine ⟨rfl, fun past c later hcalls => ?_, fun key => SlotTable.filter_answers rfl calls⟩
  rw [hcalls]
  exact ⟨_, SlotTable.getElem?_answers past c later, SlotTable.answer_due past c⟩

/-- Keys without slashes name different places. -/
theorem slotPlace_inj {key key' : String} (hkey : '/' ∉ key.toList) (hkey' : '/' ∉ key'.toList)
    (h : f.slotPlace d key = f.slotPlace d key') : key = key' := by
  have hname : ∀ key : String, '/' ∉ key.toList → Disk.Path.IsName (key ++ ".save.json") := by
    intro key hkey
    have hlong : ∀ short : String, short.length < 10 → key ++ ".save.json" ≠ short := by
      rintro _ hshort rfl
      have hlength : ".save.json".length = 10 := rfl
      rw [String.length_append] at hshort
      omega
    exact ⟨by simp [hkey], hlong _ (by decide), hlong _ (by decide), hlong _ (by decide)⟩
  obtain ⟨here, hgoal⟩ := d.goal_join f.path
  rw [slotPlace, slotPlace, file, file, hgoal _ (hname key hkey), hgoal _ (hname key' hkey')] at h
  exact (String.append_left_inj ".save.json").1 (Disk.place_concat_inj h)

/-- The working folder, where nothing is. -/
def saves : SlotFolder :=
  ⟨""⟩

/-- Where the player stands, in a slot. -/
def standing (key : String) : Progress :=
  { position := ⟨100.5, -0.0⟩, direction := .left, key }

def savings : List SlotCall :=
  [.load "a", .save (standing "a"), .save (standing "b"), .delete "a", .delete "a", .load "b"]

theorem AllSucceed.cons (hok : f.Succeeds d c) (hafter : f.after d c = d')
    (h : f.AllSucceed d' calls) : f.AllSucceed d (c :: calls) :=
  ⟨hok, hafter ▸ h⟩

theorem AllSucceed.save {p : Progress} {made written : Disk} {text : ByteArray}
    (htext : (Format.ofProgress p).pretty.toUTF8 = text)
    (hmake : d.makeFolders (Disk.Path.parent (f.file p.key)) = (made, .ok ()))
    (hwrite : made.write (f.file p.key) text = (written, .ok ()))
    (h : f.AllSucceed written calls) : f.AllSucceed d (.save p :: calls) :=
  .cons ⟨made, written, hmake, htext ▸ hwrite⟩ (congrArg Prod.fst (save_eq htext hmake hwrite)) h

theorem makeFolders_saves (d : Disk) {key : String} (hkey : key ∈ ["a", "b"]) :
    d.makeFolders (Disk.Path.parent (saves.file key)) = (d, .ok ()) := by
  have hparent : ∀ key ∈ ["a", "b"], Disk.Path.parent (saves.file key) = "" := by decide +kernel
  rw [hparent key hkey]
  rfl

/-- The working folder with a file in both slots. -/
def bothSaved (a b : ByteArray) : Disk :=
  (Disk.put {} ["a.save.json"] (.file a)).put ["b.save.json"] (.file b)

/-- The working folder with a file in the second slot. -/
def secondSaved (b : ByteArray) : Disk :=
  { nodes := .ofList [("b.save.json/", .file b)] }

theorem allSucceed_savings : saves.AllSucceed {} savings := by
  -- what the texts are makes no difference to the disk
  obtain ⟨a, ha⟩ : ∃ text, (Format.ofProgress (standing "a")).pretty.toUTF8 = text := ⟨_, rfl⟩
  obtain ⟨b, hb⟩ : ∃ text, (Format.ofProgress (standing "b")).pretty.toUTF8 = text := ⟨_, rfl⟩
  have hempty : saves.Succeeds {} (.load "a") := nofun
  have hfirst : Disk.write {} (saves.file "a") a =
      (Disk.put {} ["a.save.json"] (.file a), .ok ()) := by rfl
  have hsecond : (Disk.put {} ["a.save.json"] (.file a)).write (saves.file "b") b =
      (bothSaved a b, .ok ()) := by rfl
  have hremove : (bothSaved a b).remove (saves.file "a") = (secondSaved b, .ok ()) := by rfl
  have hdelete : saves.after (bothSaved a b) (.delete "a") = secondSaved b := by rfl
  have hgone : (secondSaved b).contains (saves.file "a") = false := by rfl
  have hagain : saves.after (secondSaved b) (.delete "a") = secondSaved b := by rfl
  have hread : (secondSaved b).read (saves.file "b") = .ok b := by rfl
  refine .cons hempty rfl (.save ha (makeFolders_saves _ (by simp [standing])) hfirst
    (.save hb (makeFolders_saves _ (by simp [standing])) hsecond
      (.cons (fun _ => ⟨_, hremove⟩) hdelete
        (.cons (fun h => ?_) hagain ⟨fun _ => ⟨b, hread⟩, trivial⟩))))
  rw [hgone] at h
  cases h

theorem answers_as_table_savings : saves.AllSucceed {} savings ∧
    (∃ a, (saves.answers {} savings)[5]? = some a ∧ Due (savings.take 5) (.load "b") a) ∧
    Holds (savings.take 5) "b" (standing "b") := by
  have hback : ∀ p, .save p ∈ savings → p.position.ReadsBack := by
    intro p hp
    have hp : p = standing "a" ∨ p = standing "b" := by simpa [savings] using hp
    rcases hp with rfl | rfl
    · exact ⟨by rw [ReadsBack32]; rfl, by rw [ReadsBack32]; rfl⟩
    · exact ⟨by rw [ReadsBack32]; rfl, by rw [ReadsBack32]; rfl⟩
  have hkeys : ∀ c ∈ savings, c.key = "a" ∨ c.key = "b" := by
    simp [savings, standing, SlotCall.key]
  have hplain : ∀ c ∈ savings, '/' ∉ c.key.toList := by
    intro c hc
    rcases hkeys c hc with h | h <;> simp [h]
  have hempty : ∀ c ∈ savings, Disk.at? {} (Disk.goal {} (saves.file c.key)) = none := by
    intro c hc
    rcases hkeys c hc with h | h <;> rw [h] <;> rfl
  obtain ⟨_, hdue, _⟩ := answers_as_table hback
    (fun c hc c' hc' => slotPlace_inj (hplain c hc) (hplain c' hc')) hempty allSucceed_savings
  obtain ⟨a, ha, hload⟩ := hdue (savings.take 5) (.load "b") [] rfl
  have hsince : ∀ c ∈ [SlotCall.delete "a", .delete "a"], c.key = "b" → c = .load "b" := by
    simp [SlotCall.key]
  exact ⟨allSucceed_savings, ⟨a, ha, hload⟩, savings.take 2, [.delete "a", .delete "a"], rfl, rfl,
    hsince⟩

end SlotFolder

end Cutscene
