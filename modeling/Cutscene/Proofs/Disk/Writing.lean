import Cutscene.Disk
/-!
# Reading what was written

A file stands where nobody walks through: the way to it leads through folders only.  So what leaves
the folders in place leaves every way as it is (`Disk.KeepsFolders.resolve`), whether folders are
made, or a file is written or removed, and a file that was written is found again under its path,
with its bytes (`Disk.find?_of_write`).  Where a way leads can be told from its path alone
(`Disk.goal`).
-/

namespace Cutscene.Disk

variable {d d' : Disk} {names here : List String} {node : Node} {path : String} {bytes : ByteArray}

/-! ## What is put at a place -/

theorem at?_put_self (hnames : names ≠ []) : (d.put names node).at? names = some node := by
  simp [at?, put, hnames]

theorem at?_put_of_ne (hplace : place here ≠ place names) :
    (d.put names node).at? here = d.at? here := by
  rw [at?, at?, put, SortedMap.get?_insert, if_neg hplace]

/-- Two lists of names may give one place, but then the same thing is there. -/
theorem at?_congr (hplace : place here = place names) (hhere : here ≠ []) (hnames : names ≠ []) :
    d.at? here = d.at? names := by
  simp [at?, hhere, hnames, hplace]

theorem ne_nil_of_at? (h : d.at? names ≠ some .folder) : names ≠ [] := by
  rintro rfl
  exact h rfl

theorem place_ne_of_folder (hnames : d.at? names ≠ some .folder) (hbelow : here ≠ [])
    (hhere : d.at? here = some .folder) : place here ≠ place names := by
  intro hplace
  rw [at?_congr hplace hbelow (ne_nil_of_at? hnames)] at hhere
  exact hnames hhere

/-! ## Ways -/

/-- Every folder of a disk is one on another with the same working folder. -/
structure KeepsFolders (d d' : Disk) : Prop where
  home_eq : d'.home = d.home
  folder : ∀ names, d.at? names = some .folder → d'.at? names = some .folder

namespace KeepsFolders

theorem put (hnames : d.at? names ≠ some .folder) : d.KeepsFolders (d.put names node) where
  home_eq := rfl
  folder here hhere := by
    by_cases hbelow : here = []
    · rw [hbelow]
      rfl
    · rw [at?_put_of_ne (place_ne_of_folder hnames hbelow hhere), hhere]

theorem enter (h : d.KeepsFolders d') {next : List String} {part : String}
    (henter : d.enter here part = .ok next) : d'.enter here part = .ok next := by
  unfold Disk.enter at henter
  split at henter
  · cases henter
  · cases henter
  · rename_i hhere
    rw [Disk.enter, h.folder here hhere]
    exact henter

theorem enterAll (h : d.KeepsFolders d') {parts there : List String}
    (henter : parts.foldlM d.enter here = .ok there) : parts.foldlM d'.enter here = .ok there := by
  induction parts generalizing here with
  | nil => exact henter
  | cons part parts ih =>
      rw [List.foldlM_cons] at henter ⊢
      cases hnext : d.enter here part with
      | error failure =>
          rw [hnext] at henter
          cases henter
      | ok next =>
          rw [hnext] at henter
          rw [h.enter hnext]
          exact ih henter

theorem resolve (h : d.KeepsFolders d') (hresolve : d.resolve path = .ok names) :
    d'.resolve path = .ok names := by
  have hstart : d'.start path = d.start path := by rw [start, start, h.home_eq]
  unfold Disk.resolve at hresolve ⊢
  cases hcheck : checkPath path with
  | error failure =>
      rw [hcheck] at hresolve
      cases hresolve
  | ok _ =>
      rw [hcheck] at hresolve
      rw [hstart]
      exact h.enterAll hresolve

end KeepsFolders

/-! ## Places told from paths -/

/-- Where a part of a path leads by its text alone. -/
def follow (here : List String) (part : String) : List String :=
  if part = "" ∨ part = "." then here
  else if part = ".." then here.dropLast
  else here ++ [part]

/-- The place that a path names, whether or not the way to it is there. -/
def goal (d : Disk) (path : String) : List String :=
  (Path.parts path).foldl follow (d.start path)

theorem goal_congr (h : d'.home = d.home) (path : String) : d'.goal path = d.goal path := by
  rw [goal, goal, start, start, h]

theorem enter_eq_follow {next : List String} {part : String} (h : d.enter here part = .ok next) :
    next = follow here part := by
  unfold enter at h
  split at h
  · cases h
  · cases h
  · unfold follow
    split at h
    · rename_i hidle
      rw [if_pos hidle]
      exact (Except.ok.inj h).symm
    · rename_i hidle
      rw [if_neg hidle]
      split at h
      · rename_i hback
        rw [if_pos hback]
        exact (Except.ok.inj h).symm
      · rename_i hback
        rw [if_neg hback]
        split at h
        · cases h
        · exact (Except.ok.inj h).symm

theorem enterAll_eq_follow {parts there : List String}
    (h : parts.foldlM d.enter here = .ok there) : there = parts.foldl follow here := by
  induction parts generalizing here with
  | nil => exact (Except.ok.inj h).symm
  | cons part parts ih =>
      rw [List.foldlM_cons] at h
      cases hnext : d.enter here part with
      | error failure =>
          rw [hnext] at h
          cases h
      | ok next =>
          rw [hnext] at h
          rw [List.foldl_cons, ← enter_eq_follow hnext]
          exact ih h

/-- A path leads to the place that it names, if it leads anywhere. -/
theorem resolve_eq_goal (h : d.resolve path = .ok names) : names = d.goal path := by
  unfold resolve at h
  cases hcheck : checkPath path with
  | error failure =>
      rw [hcheck] at h
      cases h
  | ok _ =>
      rw [hcheck] at h
      exact enterAll_eq_follow h

theorem find?_eq_some : d.find? path = some node ↔
    d.resolve path = .ok (d.goal path) ∧ d.at? (d.goal path) = some node := by
  unfold find?
  split
  · rename_i there hresolve
    obtain rfl := resolve_eq_goal hresolve
    simp [hresolve]
  · rename_i failure hresolve
    simp [hresolve]

/-- What is found at a path is still found while the folders and the thing itself stay in place. -/
theorem KeepsFolders.find?_eq_some (h : d.KeepsFolders d') (hfind : d.find? path = some node)
    (hat : d'.at? (d.goal path) = some node) : d'.find? path = some node := by
  rw [Disk.find?_eq_some, goal_congr h.home_eq]
  exact ⟨h.resolve (Disk.find?_eq_some.1 hfind).1, hat⟩

/-! ## Names in a folder -/

namespace Path

theorem splitParts_slash (cs rest : List Char) :
    splitParts (cs ++ '/' :: rest) = splitParts cs ++ splitParts rest := by
  induction cs with
  | nil => rfl
  | cons c cs ih =>
      obtain ⟨part, parts, hparts⟩ := List.exists_cons_of_ne_nil (splitParts_ne_nil cs)
      by_cases hc : c = '/'
      · simp [splitParts, hc, ih]
      · simp [splitParts, hc, ih, hparts]

theorem splitParts_of_no_slash {cs : List Char} (h : '/' ∉ cs) : splitParts cs = [cs] := by
  induction cs with
  | nil => rfl
  | cons c cs ih =>
      have hc : c ≠ '/' := fun hc => h (hc ▸ List.mem_cons_self)
      simp [splitParts, hc, ih fun hmem => h (List.mem_cons_of_mem c hmem)]

/-- A part of a path that is a name. -/
structure IsName (name : String) : Prop where
  no_slash : '/' ∉ name.toList
  ne_empty : name ≠ ""
  ne_dot : name ≠ "."
  ne_dots : name ≠ ".."

theorem isFromTop_eq_false {name : String} (h : IsName name) : isFromTop name = false := by
  rw [isFromTop, beq_eq_false_iff_ne]
  exact fun hhead => h.no_slash (List.mem_of_head? hhead)

theorem parts_slash (folder name : String) :
    parts (folder ++ "/" ++ name) = parts folder ++ parts name := by
  have hchars : (folder ++ "/" ++ name).toList = folder.toList ++ '/' :: name.toList := by simp
  rw [parts, hchars, splitParts_slash, List.map_append, parts, parts]

theorem parts_of_isName {name : String} (h : IsName name) : parts name = [name] := by
  rw [parts, splitParts_of_no_slash h.no_slash]
  simp

theorem exists_slash_of_endsInSlash {path : String} (h : endsInSlash path = true) :
    ∃ before, path = before ++ "/" := by
  rw [endsInSlash, beq_iff_eq, List.getLast?_eq_some_iff] at h
  obtain ⟨cs, hcs⟩ := h
  refine ⟨String.ofList cs, String.toList_inj.1 ?_⟩
  simp [hcs]

/-- The name of something in a folder is the last part of its path. -/
theorem parts_join (folder : String) : ∃ before, ∀ name, IsName name →
    parts (join folder name) = before ++ [name] ∧
    isFromTop (join folder name) = isFromTop folder := by
  by_cases hempty : folder = ""
  · refine ⟨[], fun name hname => ?_⟩
    have hjoin : join folder name = name := if_pos (.inr hempty)
    rw [hjoin, parts_of_isName hname, isFromTop_eq_false hname, hempty]
    exact ⟨rfl, rfl⟩
  · have hnot : ∀ name, IsName name → ¬ (isFromTop name = true ∨ folder = "") := by
      rintro name hname (htop | h)
      · rw [isFromTop_eq_false hname] at htop
        cases htop
      · exact hempty h
    have htop : ∀ rest, isFromTop (folder ++ rest) = isFromTop folder := by
      intro rest
      obtain ⟨c, cs, hcs⟩ := List.exists_cons_of_ne_nil (mt String.toList_eq_nil_iff.1 hempty)
      simp [isFromTop, hcs]
    by_cases hslash : endsInSlash folder = true
    · obtain ⟨before, hbefore⟩ := exists_slash_of_endsInSlash hslash
      refine ⟨parts before, fun name hname => ?_⟩
      have hjoin : join folder name = folder ++ name := by
        rw [join, if_neg (hnot name hname), if_pos hslash]
      rw [hjoin, htop, hbefore, parts_slash, parts_of_isName hname]
      exact ⟨rfl, rfl⟩
    · refine ⟨parts folder, fun name hname => ?_⟩
      have hjoin : join folder name = folder ++ "/" ++ name := by
        rw [join, if_neg (hnot name hname), if_neg hslash]
      rw [hjoin, parts_slash, parts_of_isName hname, String.append_assoc, htop]
      exact ⟨rfl, rfl⟩

end Path

/-- Whatever is in a folder is at the place of the folder, under its name. -/
theorem goal_join (d : Disk) (folder : String) :
    ∃ here, ∀ name, Path.IsName name → d.goal (Path.join folder name) = here ++ [name] := by
  obtain ⟨before, hjoin⟩ := Path.parts_join folder
  refine ⟨before.foldl follow (d.start folder), fun name hname => ?_⟩
  obtain ⟨hparts, htop⟩ := hjoin name hname
  rw [goal, hparts, List.foldl_append, List.foldl_cons, List.foldl_nil]
  rw [start, htop, ← start, follow, if_neg (not_or.2 ⟨hname.ne_empty, hname.ne_dot⟩),
    if_neg hname.ne_dots]

theorem place_concat_inj {here : List String} {name name' : String}
    (h : place (here ++ [name]) = place (here ++ [name'])) : name = name' := by
  have hplace : ∀ name, place (here ++ [name]) = place here ++ (name ++ "/") := by
    intro name
    simp [place, String.join]
  rw [hplace, hplace] at h
  exact (String.append_left_inj "/").1 ((String.append_right_inj (place here)).1 h)

/-! ## Making folders -/

/-- A disk has become another by making folders where nothing was. -/
structure Grows (d d' : Disk) : Prop where
  home_eq : d'.home = d.home
  at?_eq : ∀ names, d'.at? names = d.at? names ∨
    d.at? names = none ∧ d'.at? names = some .folder

namespace Grows

theorem refl (d : Disk) : d.Grows d :=
  ⟨rfl, fun _ => .inl rfl⟩

theorem trans {d'' : Disk} (h : d.Grows d') (h' : d'.Grows d'') : d.Grows d'' where
  home_eq := h'.home_eq.trans h.home_eq
  at?_eq names := by
    rcases h.at?_eq names with hsame | ⟨hnone, hfolder⟩
    · rw [← hsame]
      exact h'.at?_eq names
    · rcases h'.at?_eq names with hsame' | ⟨hnone', _⟩
      · exact .inr ⟨hnone, hsame'.trans hfolder⟩
      · rw [hfolder] at hnone'
        cases hnone'

theorem put (hnames : d.at? names = none) : d.Grows (d.put names .folder) where
  home_eq := rfl
  at?_eq here := by
    by_cases hplace : place here = place names
    · by_cases hbelow : here = []
      · rw [hbelow]
        exact .inl rfl
      · have hfree : d.at? names ≠ some .folder := by simp [hnames]
        have hthere := ne_nil_of_at? hfree
        rw [at?_congr hplace hbelow hthere, at?_congr hplace hbelow hthere]
        exact .inr ⟨hnames, at?_put_self hthere⟩
    · exact .inl (at?_put_of_ne hplace)

theorem keepsFolders (h : d.Grows d') : d.KeepsFolders d' where
  home_eq := h.home_eq
  folder names hfolder := by
    rcases h.at?_eq names with hsame | ⟨hnone, _⟩
    · rw [hsame, hfolder]
    · rw [hfolder] at hnone
      cases hnone

theorem at?_eq_some (h : d.Grows d') (hat : d.at? names = some node) :
    d'.at? names = some node := by
  rcases h.at?_eq names with hsame | ⟨hnone, _⟩
  · rw [hsame, hat]
  · rw [hat] at hnone
    cases hnone

theorem file_of_file (h : d.Grows d') (hat : d'.at? names = some (.file bytes)) :
    d.at? names = some (.file bytes) := by
  rcases h.at?_eq names with hsame | ⟨_, hfolder⟩
  · rw [← hsame, hat]
  · rw [hat] at hfolder
    cases hfolder

end Grows

theorem makeFoldersFrom_grows (d : Disk) (made : Bool) (here parts : List String) :
    d.Grows (d.makeFoldersFrom made here parts).1 := by
  induction parts generalizing d made here with
  | nil => exact .refl d
  | cons part parts ih =>
      unfold makeFoldersFrom
      split
      · exact .refl d
      · split
        · exact ih d made _
        · exact .refl d
        · rename_i hnone
          split
          · exact .refl d
          · exact (Grows.put hnone).trans (ih _ true _)

theorem makeFolders_grows (d : Disk) (path : String) : d.Grows (d.makeFolders path).1 := by
  unfold makeFolders
  split
  · exact .refl d
  · split
    · exact .refl d
    · exact makeFoldersFrom_grows d false _ _

/-! ## Writing and removing files -/

/-- A file that is written is put at the end of its way. -/
theorem write_eq_ok (h : d.write path bytes = (d', .ok ())) :
    d.resolve path = .ok (d.goal path) ∧ d.at? (d.goal path) ≠ some .folder ∧
      d' = d.put (d.goal path) (.file bytes) := by
  unfold write at h
  split at h
  · cases h
  · split at h
    · cases h
    · rename_i there hresolve
      obtain rfl := resolve_eq_goal hresolve
      split at h
      · cases h
      · rename_i hfree
        split at h
        · cases h
        · cases h
        · cases h
          exact ⟨hresolve, hfree, rfl⟩

/-- A file that was written is found again. -/
theorem find?_of_write (h : d.write path bytes = (d', .ok ())) :
    d'.find? path = some (.file bytes) := by
  obtain ⟨hresolve, hfree, rfl⟩ := write_eq_ok h
  rw [find?, (KeepsFolders.put hfree).resolve hresolve]
  exact at?_put_self (ne_nil_of_at? hfree)

/-- A file that is removed was at the end of its way. -/
theorem remove_eq_ok (h : d.remove path = (d', .ok ())) :
    ∃ old, d.find? path = some (.file old) ∧
      d' = { d with nodes := d.nodes.erase (place (d.goal path)) } := by
  unfold remove at h
  split at h
  · cases h
  · rename_i there hresolve
    obtain rfl := resolve_eq_goal hresolve
    split at h
    · cases h
    · cases h
    · rename_i old hat
      split at h
      · cases h
      · cases h
        exact ⟨old, find?_eq_some.2 ⟨hresolve, hat⟩, rfl⟩

theorem at?_erase_of_ne (hplace : place here ≠ place names) :
    ({ d with nodes := d.nodes.erase (place names) } : Disk).at? here = d.at? here := by
  rw [at?, at?, SortedMap.get?_erase, if_neg hplace]

theorem at?_erase_self (hnames : names ≠ []) :
    ({ d with nodes := d.nodes.erase (place names) } : Disk).at? names = none := by
  simp [at?, hnames]

theorem KeepsFolders.erase (hnames : d.at? names ≠ some .folder) :
    d.KeepsFolders { d with nodes := d.nodes.erase (place names) } where
  home_eq := rfl
  folder here hhere := by
    by_cases hbelow : here = []
    · rw [hbelow]
      rfl
    · rw [at?_erase_of_ne (place_ne_of_folder hnames hbelow hhere), hhere]

/-! ## Reading -/

/-- What can be read of a node. -/
def Node.contents : Node → Except Failure ByteArray
  | file bytes => .ok bytes
  | folder => .error .isFolder

theorem read_of_find? (h : d.find? path = some node) : d.read path = node.contents := by
  obtain ⟨hresolve, hat⟩ := find?_eq_some.1 h
  simp only [read, hresolve, bind, Except.bind, hat]
  cases node <;> rfl

theorem readText_of_read {text : String} (h : d.read path = .ok text.toUTF8) :
    d.readText path = .ok text := by
  have hvalid : String.fromUTF8? text.toUTF8 = some text := dif_pos text.isValidUTF8
  rw [readText, h]
  simp only [bind, Except.bind, hvalid]
  rfl

end Cutscene.Disk
