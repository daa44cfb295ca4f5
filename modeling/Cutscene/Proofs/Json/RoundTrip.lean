import Cutscene.Json.Decode
import Cutscene.Proofs.Json.Extent
import Cutscene.Proofs.Json.Texts
import Mathlib.Tactic.SplitIfs
/-!
# Documents that were written

A document whose numbers are spelt as numbers and whose containers are not too deep inside one
another (`Doc.Fits`) is read as it was written, on one line or on many, whatever stands behind it
(`Doc.Fits.scans`).  The tree that is read is `Doc.tree`, so that decoding a written text comes down
to decoding this tree (`decodeText_written`).
-/

namespace Cutscene.Json

/-! ## What is read of a document -/

/-- A text without space. -/
def Tight (cs : List Char) : Prop :=
  ∀ c ∈ cs, isSpace c = false

instance (cs : List Char) : Decidable (Tight cs) :=
  List.decidableBAll (isSpace · = false) cs

/-- The characters are a number and nothing else. -/
structure Spells (cs : List Char) (n : Number) : Prop where
  scan_eq : Tree.scan cs = (.number (.ok n), [])
  tight : Tight cs

namespace Doc

mutual

/-- The tree that is read of a document. -/
def tree : Doc → Tree
  | .null => .null
  | .bool b => .bool b
  | .number spelling => (Tree.scan spelling.toList).1
  | .text s => .text (.ok s)
  | .list items => .list (itemTrees items) .closed
  | .object members => .object (memberTrees members) .closed

def itemTrees : List Doc → List Tree
  | [] => []
  | d :: ds => d.tree :: itemTrees ds

def memberTrees : List (String × Doc) → List (Except Fault String × Tree)
  | [] => []
  | (key, d) :: ds => (.ok key, d.tree) :: memberTrees ds

end

theorem itemTrees_eq (ds : List Doc) : itemTrees ds = ds.map tree := by
  induction ds with
  | nil => rfl
  | cons d ds ih => rw [itemTrees, ih, List.map_cons]

theorem memberTrees_eq (ds : List (String × Doc)) :
    memberTrees ds = ds.map fun m => (.ok m.1, m.2.tree) := by
  induction ds with
  | nil => rfl
  | cons m ds ih => rw [memberTrees, ih, List.map_cons]

/-- The numbers of a document are spelt as numbers, and at most `room` of its containers stand
inside one another. -/
inductive Fits : Nat → Doc → Prop where
  | null {room : Nat} : Fits room .null
  | bool {room : Nat} (b : Bool) : Fits room (.bool b)
  | number {room : Nat} {spelling : String} {n : Number} : Spells spelling.toList n →
      Fits room (.number spelling)
  | text {room : Nat} (s : String) : Fits room (.text s)
  | list {room : Nat} {items : List Doc} : (∀ d ∈ items, Fits room d) →
      Fits (room + 1) (.list items)
  | object {room : Nat} {members : List (String × Doc)} : (∀ m ∈ members, Fits room m.2) →
      Fits (room + 1) (.object members)

variable {room : Nat} {d : Doc}

theorem Fits.mono {room' : Nat} (h : d.Fits room) (hle : room ≤ room') : d.Fits room' := by
  induction h generalizing room' with
  | null => exact .null
  | bool b => exact .bool b
  | number hspells => exact .number hspells
  | text s => exact .text s
  | list _ ih =>
      obtain ⟨room', rfl⟩ := Nat.exists_eq_add_of_le' (Nat.zero_lt_of_lt hle)
      exact .list fun d hd => ih d hd (by omega)
  | object _ ih =>
      obtain ⟨room', rfl⟩ := Nat.exists_eq_add_of_le' (Nat.zero_lt_of_lt hle)
      exact .object fun m hm => ih m hm (by omega)

theorem Fits.list_map {α : Type} {write : α → Doc} {xs : List α}
    (h : ∀ x ∈ xs, (write x).Fits room) : (Doc.list (xs.map write)).Fits (room + 1) := by
  refine .list fun d hd => ?_
  obtain ⟨x, hx, rfl⟩ := List.mem_map.1 hd
  exact h x hx

theorem Fits.isComplete (h : d.Fits room) : d.tree.isComplete = true := by
  cases h with
  | number hspells => rw [tree, hspells.scan_eq, Tree.isComplete] <;> simp
  | _ => rfl

end Doc

/-! ## Space -/

theorem isSpace_of_isDigit {c : Char} (h : c.isDigit = true) : isSpace c = false := by
  simp [isSpace, ne_of_isDigit h]

theorem spaces_lineBreak (indented : Bool) (level : Nat) :
    Spaces (Doc.lineBreak indented level) := by
  cases indented with
  | false => exact List.forall_mem_nil _
  | true =>
      refine List.forall_mem_cons.2 ⟨rfl, fun c hc => ?_⟩
      rw [List.eq_of_mem_replicate hc]
      rfl

theorem skipSpace_lineBreak (indented : Bool) (level : Nat) (cs : List Char) :
    skipSpace (Doc.lineBreak indented level ++ cs) = skipSpace cs :=
  skipSpace_spaces (spaces_lineBreak indented level) cs

namespace Tree

/-! ## Scalars -/

theorem scanWord_cases (t : Tree) (word cs : List Char) :
    (scanWord t word cs).1 = t ∨ ∃ fault, (scanWord t word cs).1 = broke fault := by
  induction word generalizing cs with
  | nil => exact .inl rfl
  | cons w word ih =>
      cases cs with
      | nil => exact .inr ⟨_, rfl⟩
      | cons c cs =>
          rw [scanWord]
          split
          · exact ih cs
          · exact .inr ⟨_, rfl⟩

theorem scanWord_written (t : Tree) (word rest : List Char) :
    scanWord t word (word ++ rest) = (t, rest) := by
  induction word with
  | nil => rfl
  | cons w word ih => rw [List.cons_append, scanWord, if_pos rfl, ih]

theorem scanValue_digit {c : Char} (h : c.isDigit = true) (depth fuel : Nat) (cs : List Char) :
    scanValue depth (fuel + 1) (c :: cs) = scanNumber false (c :: cs) := by
  rw [scanValue, skipSpace_cons (isSpace_of_isDigit h)]
  simp [h, ne_of_isDigit h]

theorem scanValue_minus (depth fuel : Nat) (cs : List Char) :
    scanValue depth (fuel + 1) ('-' :: cs) = scanNumber true cs := by
  rw [scanValue, skipSpace_cons rfl]
  simp

/-- A number begins with a sign or a digit. -/
theorem scanNumber_of_scanValue {depth fuel : Nat} {c : Char} {cs left : List Char}
    {n : Except Fault Number} (hspace : isSpace c = false)
    (h : scanValue depth (fuel + 1) (c :: cs) = (.number n, left)) :
    (c = '-' ∧ scanNumber true cs = (.number n, left)) ∨
      (c.isDigit = true ∧ scanNumber false (c :: cs) = (.number n, left)) := by
  have hword (t : Tree) (word : List Char) (ht : ∀ n, t ≠ .number n) :
      scanWord t word cs ≠ (.number n, left) := by
    intro heq
    rcases scanWord_cases t word cs with hsame | ⟨fault, hbroke⟩
    · exact ht n (by rw [← hsame, heq])
    · simp [heq, broke] at hbroke
  have hbury (opening : List Char) (t : Tree) (ht : ∀ n, t ≠ .number n) :
      bury depth opening t ≠ .number n := by
    unfold bury
    split
    · simp
    · exact ht n
  rw [scanValue, skipSpace_cons hspace] at h
  dsimp only at h
  split_ifs at h with _ _ _ hminus hdigit
  · exact absurd h (hword _ _ (by simp))
  · exact absurd h (hword _ _ (by simp))
  · exact absurd h (hword _ _ (by simp))
  · exact .inl ⟨hminus, h⟩
  · exact .inr ⟨hdigit, h⟩
  · unfold scanText at h
    split at h <;> cases h
  · exact absurd (Prod.mk.inj h).1 (hbury _ _ (by simp))
  · exact absurd (Prod.mk.inj h).1 (hbury _ _ (by simp))
  · cases h

theorem scanValue_number {cs rest : List Char} {n : Number} (h : Spells cs n) (depth fuel : Nat)
    (hrest : EndsNumber rest) :
    scanValue depth (fuel + 1) (cs ++ rest) = (.number (.ok n), rest) := by
  obtain ⟨hscan, htight⟩ := h
  cases cs with
  | nil => cases hscan
  | cons c cs =>
      have hspace := htight c List.mem_cons_self
      have hall {negative : Bool} {body : List Char}
          (h : scanNumber negative body = (.number (.ok n), [])) :
          scanNumber negative (body ++ rest) = (.number (.ok n), rest) := by
        obtain ⟨xs, hbody, hxs⟩ := scanNumber_cut h
        rw [hbody, List.append_nil]
        exact hxs rest hrest
      rcases scanNumber_of_scanValue hspace hscan with ⟨rfl, hnumber⟩ | ⟨hdigit, hnumber⟩
      · rw [List.cons_append, scanValue_minus]
        exact hall hnumber
      · rw [List.cons_append, scanValue_digit hdigit]
        exact hall hnumber

theorem scanValue_text (s : String) (depth fuel : Nat) (rest : List Char) :
    scanValue depth (fuel + 1) (textLiteral s ++ rest) = (.text (.ok s), rest) := by
  have hliteral : textLiteral s ++ rest = '"' :: (s.toList.flatMap escapeChar ++ '"' :: rest) := by
    simp [textLiteral]
  rw [hliteral, scanValue, skipSpace_cons rfl]
  simp [scanText, Literal.scan_written]

/-- Space in front of a value does not matter. -/
theorem scanValue_congr {cs cs' : List Char} (h : skipSpace cs = skipSpace cs')
    (depth fuel : Nat) : scanValue depth (fuel + 1) cs = scanValue depth (fuel + 1) cs' := by
  rw [scanValue, scanValue, h]

/-! ## Between the entries of a container -/

theorem bury_of_lt {depth : Nat} (h : depth < depthLimit) (opening : List Char) (t : Tree) :
    bury depth opening t = t := by
  rw [bury, if_neg (by omega)]

theorem nextItem_close (first indented : Bool) (level : Nat) (rest : List Char) :
    nextItem first (Doc.lineBreak indented level ++ ']' :: rest) = .error (.closed, rest) := by
  rw [nextItem_eq_closed, skipSpace_lineBreak, skipSpace_cons rfl]

theorem nextItem_first {c : Char} (hspace : isSpace c = false) (hclose : c ≠ ']')
    (indented : Bool) (level : Nat) (cs : List Char) :
    nextItem true (Doc.lineBreak indented level ++ c :: cs) = .ok (c :: cs) := by
  rw [nextItem_first_eq_ok, skipSpace_lineBreak, skipSpace_cons hspace]
  exact ⟨rfl, List.cons_ne_nil c cs, by simpa using hclose⟩

theorem nextItem_later {c : Char} (hspace : isSpace c = false) (hclose : c ≠ ']')
    (indented : Bool) (level : Nat) (cs : List Char) :
    nextItem false (',' :: (Doc.lineBreak indented level ++ c :: cs)) = .ok (c :: cs) := by
  refine nextItem_later_eq_ok.2 ⟨_, skipSpace_cons rfl _, ?_, by simpa using hclose⟩
  rw [skipSpace_lineBreak, skipSpace_cons hspace]

theorem nextKey_close (first indented : Bool) (level : Nat) (rest : List Char) :
    nextKey first (Doc.lineBreak indented level ++ '}' :: rest) = .error (.closed, rest) := by
  rw [nextKey_eq_closed, skipSpace_lineBreak, skipSpace_cons rfl]

theorem nextKey_first (indented : Bool) (level : Nat) (cs : List Char) :
    nextKey true (Doc.lineBreak indented level ++ '"' :: cs) = .ok cs := by
  rw [nextKey_first_eq_ok, skipSpace_lineBreak, skipSpace_cons rfl]

theorem nextKey_later (indented : Bool) (level : Nat) (cs : List Char) :
    nextKey false (',' :: (Doc.lineBreak indented level ++ '"' :: cs)) = .ok cs := by
  refine nextKey_later_eq_ok.2 ⟨_, skipSpace_cons rfl _, ?_⟩
  rw [skipSpace_lineBreak, skipSpace_cons rfl]

theorem afterKey_colon (indented : Bool) (cs : List Char) :
    ∃ cs', afterKey (Doc.colon indented ++ cs) = .ok cs' ∧ skipSpace cs' = skipSpace cs := by
  cases indented with
  | false => exact ⟨cs, rfl, rfl⟩
  | true => exact ⟨' ' :: cs, rfl, rfl⟩

end Tree

/-! ## Containers -/

namespace Doc

theorem Fits.chars_head {room : Nat} {d : Doc} (h : d.Fits room) (indented : Bool) (level : Nat) :
    ∃ c cs, d.chars indented level = c :: cs ∧ isSpace c = false ∧ c ≠ ']' := by
  cases h with
  | null => exact ⟨_, _, rfl, rfl, by decide⟩
  | bool b => cases b <;> exact ⟨_, _, rfl, rfl, by decide⟩
  | @number _ spelling n hspells =>
      rw [chars]
      obtain ⟨hscan, htight⟩ := hspells
      cases hcs : spelling.toList with
      | nil =>
          rw [hcs] at hscan
          cases hscan
      | cons c cs =>
          rw [hcs] at hscan htight
          have hspace := htight c List.mem_cons_self
          refine ⟨c, cs, rfl, hspace, ?_⟩
          rintro rfl
          rcases Tree.scanNumber_of_scanValue hspace hscan with ⟨hminus, _⟩ | ⟨hdigit, _⟩
          · simp at hminus
          · simp at hdigit
  | text s => exact ⟨'"', _, by rw [chars, textLiteral, List.cons_append], rfl, by decide⟩
  | @list _ items _ =>
      cases items with
      | nil => exact ⟨_, _, by rw [chars], rfl, by decide⟩
      | cons d ds => exact ⟨_, _, by rw [chars]; rfl, rfl, by decide⟩
  | @object _ members _ =>
      cases members with
      | nil => exact ⟨_, _, by rw [chars], rfl, by decide⟩
      | cons m ds => exact ⟨_, _, by rw [chars]; rfl, rfl, by decide⟩

/-- A document is read as it was written, wherever it stands. -/
def Scans (room : Nat) (d : Doc) : Prop :=
  ∀ indented level depth fuel rest, depth + room ≤ depthLimit →
    2 * (d.chars indented level).length ≤ fuel → EndsNumber rest →
    Tree.scanValue depth fuel (d.chars indented level ++ rest) = (d.tree, rest)

theorem endsNumber_lineBreak {c : Char} (hc : EndsNumber [c]) (indented : Bool) (level : Nat)
    (rest : List Char) : EndsNumber (lineBreak indented level ++ c :: rest) :=
  (spaces_lineBreak indented level).endsNumber.append (endsNumber_cons.2 (endsNumber_cons.1 hc))

theorem endsNumber_items (indented : Bool) (level below : Nat) (ds : List Doc) (rest : List Char) :
    EndsNumber (itemChars indented level ds ++ (lineBreak indented below ++ ']' :: rest)) := by
  cases ds with
  | nil => exact endsNumber_lineBreak (endsNumber_cons.2 (by decide)) indented below rest
  | cons d ds =>
      rw [itemChars]
      exact endsNumber_cons.2 (by decide)

theorem endsNumber_members (indented : Bool) (level below : Nat) (ds : List (String × Doc))
    (rest : List Char) :
    EndsNumber (memberChars indented level ds ++ (lineBreak indented below ++ '}' :: rest)) := by
  cases ds with
  | nil => exact endsNumber_lineBreak (endsNumber_cons.2 (by decide)) indented below rest
  | cons m ds =>
      rw [memberChars]
      exact endsNumber_cons.2 (by decide)

/-- The items of a list behind the first one. -/
theorem scanItems_written {room : Nat} {ds : List Doc}
    (hds : ∀ d ∈ ds, d.Fits room ∧ d.Scans room) {indented : Bool} {level below depth fuel : Nat}
    {rest : List Char} (hdepth : depth + room ≤ depthLimit)
    (hfuel : 2 * (itemChars indented level ds).length + 1 ≤ fuel) :
    Tree.scanItems depth fuel false
      (itemChars indented level ds ++ (lineBreak indented below ++ ']' :: rest)) =
      (ds.map tree, .closed, rest) := by
  induction ds generalizing fuel with
  | nil =>
      obtain ⟨fuel, rfl⟩ := Nat.exists_eq_add_of_le' (Nat.zero_lt_of_lt hfuel)
      rw [itemChars, List.nil_append, Tree.scanItems, Tree.nextItem_close]
      rfl
  | cons d ds ih =>
      obtain ⟨hfits, hscans⟩ := hds d List.mem_cons_self
      obtain ⟨c, cs, hchars, hspace, hclose⟩ := hfits.chars_head indented level
      have hlength : (itemChars indented level (d :: ds)).length = 1 +
          (lineBreak indented level).length + (d.chars indented level).length +
            (itemChars indented level ds).length := by
        simp [itemChars]
        omega
      obtain ⟨fuel, rfl⟩ := Nat.exists_eq_add_of_le' (Nat.zero_lt_of_lt hfuel)
      have hmore := ih (fun d hd => hds d (List.mem_cons_of_mem _ hd))
        (show 2 * (itemChars indented level ds).length + 1 ≤ fuel by omega)
      have hvalue := hscans indented level depth fuel _ hdepth (by omega)
        (endsNumber_items indented level below ds rest)
      have hitems : itemChars indented level (d :: ds) ++
          (lineBreak indented below ++ ']' :: rest) =
          ',' :: (lineBreak indented level ++ (d.chars indented level ++
            (itemChars indented level ds ++ (lineBreak indented below ++ ']' :: rest)))) := by
        simp [itemChars]
      rw [hchars] at hvalue hitems
      rw [hitems, Tree.scanItems, List.cons_append, Tree.nextItem_later hspace hclose]
      rw [List.cons_append] at hvalue
      simp only [hvalue, hfits.isComplete, if_true, hmore, List.map_cons]

/-- One member of an object, from behind the quote that opens its key. -/
theorem scanMember_written {room : Nat} (key : String) {d : Doc} (hscans : d.Scans room)
    {indented : Bool} {level depth fuel : Nat} {rest : List Char}
    (hdepth : depth + room ≤ depthLimit)
    (hfuel : 2 * (d.chars indented level).length < fuel) (hrest : EndsNumber rest) :
    ∃ cs cs', Literal.scan (key.toList.flatMap escapeChar ++ '"' :: cs) = (.closed (.ok key), cs) ∧
      textLiteral key ++ colon indented ++ d.chars indented level ++ rest =
        '"' :: (key.toList.flatMap escapeChar ++ '"' :: cs) ∧
      Tree.afterKey cs = .ok cs' ∧ Tree.scanValue depth fuel cs' = (d.tree, rest) := by
  obtain ⟨cs', hafter, hskip⟩ :=
    Tree.afterKey_colon indented (d.chars indented level ++ rest)
  obtain ⟨fuel, rfl⟩ := Nat.exists_eq_add_of_le' (Nat.zero_lt_of_lt hfuel)
  have hvalue := hscans indented level depth (fuel + 1) rest hdepth (by omega) hrest
  refine ⟨_, cs', Literal.scan_written key _, ?_, hafter, ?_⟩
  · simp [textLiteral]
  · rw [Tree.scanValue_congr hskip, hvalue]

/-- The members of an object behind the first one. -/
theorem scanMembers_written {room : Nat} {ds : List (String × Doc)}
    (hds : ∀ m ∈ ds, m.2.Fits room ∧ m.2.Scans room) {indented : Bool}
    {level below depth fuel : Nat} {rest : List Char} (hdepth : depth + room ≤ depthLimit)
    (hfuel : 2 * (memberChars indented level ds).length + 1 ≤ fuel) :
    Tree.scanMembers depth fuel false
      (memberChars indented level ds ++ (lineBreak indented below ++ '}' :: rest)) =
      (ds.map fun m => (.ok m.1, m.2.tree), .closed, rest) := by
  induction ds generalizing fuel with
  | nil =>
      obtain ⟨fuel, rfl⟩ := Nat.exists_eq_add_of_le' (Nat.zero_lt_of_lt hfuel)
      rw [memberChars, List.nil_append, Tree.scanMembers, Tree.nextKey_close]
      rfl
  | cons m ds ih =>
      obtain ⟨key, d⟩ := m
      obtain ⟨hfits, hscans⟩ := hds (key, d) List.mem_cons_self
      have hlength : (memberChars indented level ((key, d) :: ds)).length = 1 +
          (lineBreak indented level).length + (textLiteral key).length +
            (colon indented).length + (d.chars indented level).length +
              (memberChars indented level ds).length := by
        simp [memberChars]
        omega
      have hkey : 2 ≤ (textLiteral key).length := by simp [textLiteral]
      obtain ⟨fuel, rfl⟩ := Nat.exists_eq_add_of_le' (Nat.zero_lt_of_lt hfuel)
      have hmore := ih (fun m hm => hds m (List.mem_cons_of_mem _ hm))
        (show 2 * (memberChars indented level ds).length + 1 ≤ fuel by omega)
      have hspare : 2 * (d.chars indented level).length < fuel := by omega
      obtain ⟨cs, cs', hscan, hchars, hafter, hvalue⟩ := scanMember_written key hscans hdepth hspare
        (endsNumber_members indented level below ds rest)
      have hmembers : memberChars indented level ((key, d) :: ds) ++
          (lineBreak indented below ++ '}' :: rest) =
          ',' :: (lineBreak indented level ++ (textLiteral key ++ colon indented ++
            d.chars indented level ++
              (memberChars indented level ds ++ (lineBreak indented below ++ '}' :: rest)))) := by
        simp [memberChars]
      rw [hmembers, hchars, Tree.scanMembers, Tree.nextKey_later]
      simp only [hscan, hafter, hvalue, hfits.isComplete, if_true, hmore, List.map_cons]

theorem scans_list {room : Nat} {items : List Doc}
    (hitems : ∀ d ∈ items, d.Fits room ∧ d.Scans room) : (Doc.list items).Scans (room + 1) := by
  intro indented level depth fuel rest hdepth hfuel _
  have hburied := fun opening t => Tree.bury_of_lt (show depth < depthLimit by omega) opening t
  cases items with
  | nil =>
      have hfuel' : 4 ≤ fuel := by simpa [chars] using hfuel
      obtain ⟨fuel, rfl⟩ := Nat.exists_eq_add_of_le' hfuel'
      have hclosed : Tree.nextItem true (']' :: rest) = .error (.closed, rest) :=
        Tree.nextItem_close true false 0 rest
      rw [chars, List.cons_append, Tree.scanValue, skipSpace_cons rfl]
      simp [Tree.scanItems, hclosed, hburied, tree, itemTrees]
  | cons d ds =>
      obtain ⟨hfits, hscans⟩ := hitems d List.mem_cons_self
      obtain ⟨c, cs, hhead, hspace, hclose⟩ := hfits.chars_head indented (level + 1)
      have hlength : ((Doc.list (d :: ds)).chars indented level).length = 2 +
          (lineBreak indented (level + 1)).length + (d.chars indented (level + 1)).length +
            (itemChars indented (level + 1) ds).length + (lineBreak indented level).length := by
        simp [chars]
        omega
      obtain ⟨fuel, rfl⟩ := Nat.exists_eq_add_of_le' (show 2 ≤ fuel by omega)
      have hmore : Tree.scanItems (depth + 1) fuel false (itemChars indented (level + 1) ds ++
          (lineBreak indented level ++ ']' :: rest)) = (ds.map tree, .closed, rest) :=
        scanItems_written (fun d hd => hitems d (List.mem_cons_of_mem _ hd)) (by omega) (by omega)
      have hvalue := hscans indented (level + 1) (depth + 1) fuel _ (by omega) (by omega)
        (endsNumber_items indented (level + 1) level ds rest)
      have hlist : (Doc.list (d :: ds)).chars indented level ++ rest =
          '[' :: (lineBreak indented (level + 1) ++ (d.chars indented (level + 1) ++
            (itemChars indented (level + 1) ds ++ (lineBreak indented level ++ ']' :: rest)))) := by
        simp [chars]
      rw [hhead, List.cons_append] at hvalue hlist
      rw [hlist, Tree.scanValue, skipSpace_cons rfl]
      simp [Tree.scanItems, Tree.nextItem_first hspace hclose, hvalue, hfits.isComplete, hmore,
        hburied, tree, itemTrees, itemTrees_eq]

theorem scans_object {room : Nat} {members : List (String × Doc)}
    (hmembers : ∀ m ∈ members, m.2.Fits room ∧ m.2.Scans room) :
    (Doc.object members).Scans (room + 1) := by
  intro indented level depth fuel rest hdepth hfuel _
  have hburied := fun opening t => Tree.bury_of_lt (show depth < depthLimit by omega) opening t
  cases members with
  | nil =>
      have hfuel' : 4 ≤ fuel := by simpa [chars] using hfuel
      obtain ⟨fuel, rfl⟩ := Nat.exists_eq_add_of_le' hfuel'
      have hclosed : Tree.nextKey true ('}' :: rest) = .error (.closed, rest) :=
        Tree.nextKey_close true false 0 rest
      rw [chars, List.cons_append, Tree.scanValue, skipSpace_cons rfl]
      simp [Tree.scanMembers, hclosed, hburied, tree, memberTrees]
  | cons m ds =>
      obtain ⟨key, d⟩ := m
      obtain ⟨hfits, hscans⟩ := hmembers (key, d) List.mem_cons_self
      have hlength : ((Doc.object ((key, d) :: ds)).chars indented level).length = 2 +
          (lineBreak indented (level + 1)).length + (textLiteral key).length +
            (colon indented).length + (d.chars indented (level + 1)).length +
              (memberChars indented (level + 1) ds).length + (lineBreak indented level).length := by
        simp [chars]
        omega
      have hkey : 2 ≤ (textLiteral key).length := by simp [textLiteral]
      obtain ⟨fuel, rfl⟩ := Nat.exists_eq_add_of_le' (show 2 ≤ fuel by omega)
      have hmore : Tree.scanMembers (depth + 1) fuel false (memberChars indented (level + 1) ds ++
          (lineBreak indented level ++ '}' :: rest)) =
          (ds.map fun m => (.ok m.1, m.2.tree), .closed, rest) :=
        scanMembers_written (fun m hm => hmembers m (List.mem_cons_of_mem _ hm)) (by omega)
          (by omega)
      have hspare : 2 * (d.chars indented (level + 1)).length < fuel := by omega
      obtain ⟨cs, cs', hscan, hchars, hafter, hvalue⟩ := scanMember_written key hscans
        (show depth + 1 + room ≤ depthLimit by omega) hspare
        (endsNumber_members indented (level + 1) level ds rest)
      have hobject : (Doc.object ((key, d) :: ds)).chars indented level ++ rest =
          '{' :: (lineBreak indented (level + 1) ++ (textLiteral key ++ colon indented ++
            d.chars indented (level + 1) ++ (memberChars indented (level + 1) ds ++
              (lineBreak indented level ++ '}' :: rest)))) := by
        simp [chars]
      rw [hobject, hchars, Tree.scanValue, skipSpace_cons rfl]
      simp [Tree.scanMembers, Tree.nextKey_first, hscan, hafter, hvalue, hfits.isComplete, hmore,
        hburied, tree, memberTrees, memberTrees_eq]

theorem scans_scalar {room : Nat} {d : Doc} (h : d.Fits room)
    (hscan : ∀ indented level depth fuel rest, EndsNumber rest →
      Tree.scanValue depth (fuel + 1) (d.chars indented level ++ rest) = (d.tree, rest)) :
    d.Scans room := by
  intro indented level depth fuel rest _ hfuel hrest
  obtain ⟨c, cs, hchars, _⟩ := h.chars_head indented level
  have hlength : (d.chars indented level).length = cs.length + 1 := by rw [hchars, List.length_cons]
  obtain ⟨fuel, rfl⟩ := Nat.exists_eq_add_of_le' (show 1 ≤ fuel by omega)
  exact hscan indented level depth fuel rest hrest

/-- A document that fits is read as it was written. -/
theorem Fits.scans {room : Nat} {d : Doc} (h : d.Fits room) : d.Scans room := by
  induction h with
  | null =>
      refine scans_scalar .null fun indented level depth fuel rest _ => ?_
      rw [chars, List.cons_append, Tree.scanValue, skipSpace_cons rfl]
      exact Tree.scanWord_written .null ['u', 'l', 'l'] rest
  | bool b =>
      refine scans_scalar (.bool b) fun indented level depth fuel rest _ => ?_
      cases b with
      | true =>
          rw [chars, List.cons_append, Tree.scanValue, skipSpace_cons rfl]
          exact Tree.scanWord_written (.bool true) ['r', 'u', 'e'] rest
      | false =>
          rw [chars, List.cons_append, Tree.scanValue, skipSpace_cons rfl]
          exact Tree.scanWord_written (.bool false) ['a', 'l', 's', 'e'] rest
  | number hspells =>
      refine scans_scalar (.number hspells) fun indented level depth fuel rest hrest => ?_
      rw [chars, tree, hspells.scan_eq]
      exact Tree.scanValue_number hspells depth fuel hrest
  | text s =>
      refine scans_scalar (.text s) fun indented level depth fuel rest _ => ?_
      rw [chars, tree]
      exact Tree.scanValue_text s depth fuel rest
  | list hitems ih => exact scans_list fun d hd => ⟨hitems d hd, ih d hd⟩
  | object hmembers ih => exact scans_object fun m hm => ⟨hmembers m hm, ih m hm⟩

end Doc

theorem mapError_eq_ok {ε ε' α : Type} {f : ε → ε'} {x : Except ε α} {a : α} :
    x.mapError f = .ok a ↔ x = .ok a := by
  cases x <;> simp [Except.mapError]

theorem decodeText_eq_ok {α : Type} {decode : Decoder α} {s : String} {x : α} :
    decodeText decode s = .ok x ↔
      decode (Tree.scan s.toList).1 = .ok x ∧ skipSpace (Tree.scan s.toList).2 = [] := by
  rw [decodeText, decodeChars, mapError_eq_ok, bind_eq_ok]
  constructor
  · rintro ⟨y, hy, hrest⟩
    split at hrest
    · rename_i hnothing
      cases hrest
      exact ⟨hy, hnothing⟩
    · cases hrest
  · rintro ⟨hx, hnothing⟩
    exact ⟨x, hx, by rw [hnothing]; rfl⟩

/-- A written document is decoded as its tree is. -/
theorem decodeText_written {α : Type} {decode : Decoder α} {d : Doc} {x : α}
    (hd : d.Fits depthLimit) (h : decode d.tree = .ok x) (indented : Bool) :
    decodeText decode (String.ofList (d.chars indented 0)) = .ok x := by
  have hscan := hd.scans indented 0 0 (Tree.scanFuel (d.chars indented 0)) [] (by omega)
    (Nat.le_add_right _ 2) (by simp [EndsNumber])
  rw [List.append_nil] at hscan
  rw [decodeText_eq_ok, String.toList_ofList, Tree.scan, hscan]
  exact ⟨h, rfl⟩

end Cutscene.Json
