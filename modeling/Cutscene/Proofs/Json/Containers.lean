import Cutscene.Proofs.Json.RoundTrip
import Mathlib.Data.List.Forall2
/-!
# Values inside one another

What is read of a value does not depend on what stands behind it (`reads_local`).  For containers
this comes down to their entries, which are read the same way in lists and in objects (`Sequence`):
each of them as far as it goes, with a comma between two of them.
-/

namespace Cutscene.Json

open Cutscene.Json.Tree

/-! ## What is read of a value -/

/-- This value stands at the front of a text, and that is the text behind it. -/
def Reads (depth fuel : Nat) (cs : List Char) (v : Value) (left : List Char) : Prop :=
  (scanValue depth fuel cs).1.read = .ok v ∧ (scanValue depth fuel cs).2 = left

/-- These are the items of a list from here on, and that is the text behind it. -/
def ReadsItems (depth fuel : Nat) (first : Bool) (cs : List Char) (vs : List Value)
    (left : List Char) : Prop :=
  readItems (scanItems depth fuel first cs).1 = .ok vs ∧
    (scanItems depth fuel first cs).2 = (.closed, left)

/-- These are the members of an object from here on, and that is the text behind it. -/
def ReadsMembers (depth fuel : Nat) (first : Bool) (cs : List Char)
    (vs : List (String × Value)) (left : List Char) : Prop :=
  readMembers (scanMembers depth fuel first cs).1 = .ok vs ∧
    (scanMembers depth fuel first cs).2 = (.closed, left)

/-- This member stands at the front of a text, and that is the text behind it. -/
def ReadsMember (depth fuel : Nat) (cs : List Char) (m : String × Value) (left : List Char) :
    Prop :=
  ∃ atKey behindKey atValue, skipSpace cs = '"' :: atKey ∧
    Literal.scan atKey = (.closed (.ok m.1), behindKey) ∧ skipSpace behindKey = ':' :: atValue ∧
      Reads depth fuel atValue m.2 left

section

variable {depth fuel : Nat} {first : Bool} {cs left : List Char} {v : Value}

theorem read_list_eq_ok {items : List Tree} {stop : Stop} : (Tree.list items stop).read = .ok v ↔
    ∃ vs, v = .list vs ∧ readItems items = .ok vs ∧ stop = .closed := by
  rw [Tree.read, bind_eq_ok]
  cases stop <;> simp [pure, Except.pure, and_comm, eq_comm]

theorem read_object_eq_ok {members : List (Except Fault String × Tree)} {stop : Stop} :
    (Tree.object members stop).read = .ok v ↔
      ∃ vs, v = .object vs ∧ readMembers members = .ok vs ∧ stop = .closed := by
  rw [Tree.read, bind_eq_ok]
  cases stop <;> simp [pure, Except.pure, and_comm, eq_comm]

theorem isComplete_of_read {t : Tree} (h : t.read = .ok v) : t.isComplete = true := by
  cases t with
  | list items stop =>
      obtain ⟨_, _, _, rfl⟩ := read_list_eq_ok.1 h
      rfl
  | object members stop =>
      obtain ⟨_, _, _, rfl⟩ := read_object_eq_ok.1 h
      rfl
  | buried | absent | broken => simp [Tree.read] at h
  | _ => rfl

theorem reads_zero : ¬ Reads depth 0 cs v left := by
  simp [Reads, scanValue, Tree.read]

theorem readsItems_zero {vs : List Value} : ¬ ReadsItems depth 0 first cs vs left := by
  simp [ReadsItems, scanItems, stopBehindBroken]

theorem readsMembers_zero {vs : List (String × Value)} :
    ¬ ReadsMembers depth 0 first cs vs left := by
  simp [ReadsMembers, scanMembers, stopBehindBroken]

theorem reads_congr {cs' : List Char} (h : skipSpace cs = skipSpace cs') :
    Reads depth fuel cs v left ↔ Reads depth fuel cs' v left := by
  cases fuel with
  | zero => exact iff_of_false reads_zero reads_zero
  | succ fuel => rw [Reads, Reads, scanValue_congr h]

/-- A value begins with something that closes no list. -/
theorem Reads.head (h : Reads depth fuel cs v left) :
    ∃ c more, skipSpace cs = c :: more ∧ c ≠ ']' := by
  cases fuel with
  | zero => exact absurd h reads_zero
  | succ fuel =>
      unfold Reads at h
      cases hcs : skipSpace cs with
      | nil => simp [scanValue, hcs, Tree.read] at h
      | cons c more =>
          refine ⟨c, more, rfl, ?_⟩
          rintro rfl
          simp [scanValue, hcs, Tree.read, broke] at h

/-! What can stand next in a container: its closing bracket, or an entry and what follows it. -/

theorem readsItems_succ {vs : List Value} : ReadsItems depth (fuel + 1) first cs vs left ↔
    (vs = [] ∧ skipSpace cs = ']' :: left) ∨
      ∃ cs' v more behind, vs = v :: more ∧ nextItem first cs = .ok cs' ∧
        Reads depth fuel cs' v behind ∧ ReadsItems depth fuel false behind more left := by
  rw [← nextItem_eq_closed first]
  unfold ReadsItems Reads
  rw [scanItems]
  cases nextItem first cs with
  | error stop =>
      obtain ⟨stop, rest⟩ := stop
      simp [readItems, eq_comm]
  | ok cs' =>
      dsimp only
      split
      · simp only [readItems, bind_eq_ok, pure, Except.pure, Except.ok.injEq]
        constructor
        · rintro ⟨⟨v, hv, more, hmore, rfl⟩, hstop⟩
          exact .inr ⟨cs', v, more, _, rfl, rfl, ⟨hv, rfl⟩, hmore, hstop⟩
        · rintro (⟨_, h⟩ | ⟨_, v, more, _, rfl, rfl, ⟨hv, rfl⟩, hmore, hstop⟩)
          · cases h
          · exact ⟨⟨v, hv, more, hmore, rfl⟩, hstop⟩
      · rename_i hbroken
        constructor
        · rintro ⟨_, h⟩
          cases h
        · rintro (⟨_, h⟩ | ⟨_, v, _, _, _, h, ⟨hv, _⟩, _⟩)
          · cases h
          · cases h
            exact absurd (isComplete_of_read hv) hbroken

theorem readsMembers_succ {vs : List (String × Value)} :
    ReadsMembers depth (fuel + 1) first cs vs left ↔
    (vs = [] ∧ skipSpace cs = '}' :: left) ∨
      ∃ atKey behindKey atValue m more behind, vs = m :: more ∧ nextKey first cs = .ok atKey ∧
        Literal.scan atKey = (.closed (.ok m.1), behindKey) ∧ afterKey behindKey = .ok atValue ∧
        Reads depth fuel atValue m.2 behind ∧ ReadsMembers depth fuel false behind more left := by
  rw [← nextKey_eq_closed first]
  unfold ReadsMembers Reads
  rw [scanMembers]
  cases nextKey first cs with
  | error stop =>
      obtain ⟨stop, rest⟩ := stop
      simp [readMembers, eq_comm]
  | ok atKey =>
      dsimp only
      split
      · rename_i hscan
        simp [hscan]
      · rename_i key behindKey hscan
        split
        · rename_i fault hafter
          simp [hscan, hafter, stopBehindBroken]
        · rename_i atValue hafter
          split
          · simp only [readMembers, bind_eq_ok, pure, Except.pure, Except.ok.injEq]
            constructor
            · rintro ⟨⟨name, rfl, v, hv, more, hmore, rfl⟩, hstop⟩
              exact .inr ⟨atKey, behindKey, atValue, (name, v), more, _, rfl, rfl, hscan, hafter,
                ⟨hv, rfl⟩, hmore, hstop⟩
            · rintro (⟨_, h⟩ | ⟨_, _, _, m, more, _, rfl, h, hkey, hcolon, ⟨hv, rfl⟩, hmore, hstop⟩)
              · cases h
              · cases h
                cases hscan.symm.trans hkey
                cases hafter.symm.trans hcolon
                exact ⟨⟨m.1, rfl, m.2, hv, more, hmore, rfl⟩, hstop⟩
          · rename_i hbroken
            constructor
            · rintro ⟨_, h⟩
              cases h
            · rintro (⟨_, h⟩ | ⟨_, _, _, m, _, _, _, h, hkey, hcolon, ⟨hv, _⟩, _⟩)
              · cases h
              · cases h
                cases hscan.symm.trans hkey
                cases hafter.symm.trans hcolon
                exact absurd (isComplete_of_read hv) hbroken

end

/-! ## Entries behind one another -/

section

variable {α : Type} {close : Char} {entry : Nat → List Char → α → List Char → Prop}
  {entries : Nat → Bool → List Char → List α → List Char → Prop}

/-- How the entries of a container are read: up to its closing bracket, and all but the first of
them behind a comma. -/
structure Sequence (close : Char) (entry : Nat → List Char → α → List Char → Prop)
    (entries : Nat → Bool → List Char → List α → List Char → Prop) : Prop where
  closing : isSpace close = false ∧ EndsNumber [close]
  zero : ∀ first cs as left, ¬ entries 0 first cs as left
  first : ∀ fuel cs as left, entries (fuel + 1) true cs as left ↔
    (as = [] ∧ skipSpace cs = close :: left) ∨
      ∃ a more behind, as = a :: more ∧ entry fuel cs a behind ∧
        entries fuel false behind more left
  later : ∀ fuel cs as left, entries (fuel + 1) false cs as left ↔
    (as = [] ∧ skipSpace cs = close :: left) ∨
      ∃ next a more behind, as = a :: more ∧ skipSpace cs = ',' :: next ∧
        entry fuel next a behind ∧ entries fuel false behind more left

/-- These characters are the entry, whatever stands behind them. -/
def Stands (entry : Nat → List Char → α → List Char → Prop) (xs : List Char) (a : α) : Prop :=
  ∀ fuel rest, 2 * xs.length ≤ fuel → EndsNumber rest → entry fuel (xs ++ rest) a rest

/-- What is read of an entry does not depend on what stands behind it. -/
def Local (entry : Nat → List Char → α → List Char → Prop) (fuel : Nat) : Prop :=
  ∀ cs a left, entry fuel cs a left → ∃ xs, cs = xs ++ left ∧ Stands entry xs a

/-- The text is the entry and space behind it. -/
def Fills (entry : Nat → List Char → α → List Char → Prop) (text : List Char) (a : α) : Prop :=
  ∃ xs sp, text = xs ++ sp ∧ Stands entry xs a ∧ Spaces sp

/-- The texts of entries behind another one. -/
def behindCommas (texts : List (List Char)) : List Char :=
  texts.flatMap (',' :: ·)

theorem behindCommas_cons (text : List Char) (texts : List (List Char)) :
    behindCommas (text :: texts) = ',' :: (text ++ behindCommas texts) := by
  simp [behindCommas]

/-- The text between the brackets of a container with these entries. -/
inductive Inside (entry : Nat → List Char → α → List Char → Prop) : List Char → List α → Prop where
  | empty {sp : List Char} : Spaces sp → Inside entry sp []
  | cons {text : List Char} {texts : List (List Char)} {a : α} {as : List α} :
      Fills entry text a → List.Forall₂ (Fills entry) texts as →
      Inside entry (text ++ behindCommas texts) (a :: as)

namespace Sequence

variable (h : Sequence close entry entries) {fuel : Nat} {cs left sp : List Char} {as : List α}
  {texts : List (List Char)}

include h

theorem cut_later (hlocal : ∀ n < fuel, Local entry n) (hs : entries fuel false cs as left) :
    ∃ sp texts, Spaces sp ∧ cs = sp ++ (behindCommas texts ++ close :: left) ∧
      List.Forall₂ (Fills entry) texts as := by
  induction fuel generalizing cs as with
  | zero => exact absurd hs (h.zero _ _ _ _)
  | succ fuel ih =>
      rcases (h.later _ _ _ _).1 hs with
        ⟨rfl, hclose⟩ | ⟨next, a, more, behind, rfl, hcomma, ha, hmore⟩
      · obtain ⟨_, sp, hsp, rfl⟩ := skipSpace_eq_cons.1 hclose
        exact ⟨sp, [], hsp, rfl, .nil⟩
      · obtain ⟨_, sp, hsp, rfl⟩ := skipSpace_eq_cons.1 hcomma
        obtain ⟨xs, rfl, hxs⟩ := hlocal fuel fuel.lt_succ_self _ _ _ ha
        obtain ⟨sp', texts, hsp', rfl, htexts⟩ :=
          ih (fun n hn => hlocal n (Nat.lt_succ_of_lt hn)) hmore
        exact ⟨sp, (xs ++ sp') :: texts, hsp, by simp [behindCommas],
          .cons ⟨xs, sp', rfl, hxs, hsp'⟩ htexts⟩

/-- Where the entries of a container stand. -/
theorem cut_first (hlocal : ∀ n < fuel, Local entry n) (hs : entries fuel true cs as left) :
    ∃ inside, cs = inside ++ close :: left ∧ Inside entry inside as := by
  cases fuel with
  | zero => exact absurd hs (h.zero _ _ _ _)
  | succ fuel =>
      rcases (h.first _ _ _ _).1 hs with ⟨rfl, hclose⟩ | ⟨a, more, behind, rfl, ha, hmore⟩
      · obtain ⟨_, sp, hsp, rfl⟩ := skipSpace_eq_cons.1 hclose
        exact ⟨sp, rfl, .empty hsp⟩
      · obtain ⟨xs, rfl, hxs⟩ := hlocal fuel fuel.lt_succ_self _ _ _ ha
        obtain ⟨sp, texts, hsp, rfl, htexts⟩ :=
          h.cut_later (fun n hn => hlocal n (Nat.lt_succ_of_lt hn)) hmore
        exact ⟨xs ++ sp ++ behindCommas texts, by simp, .cons ⟨xs, sp, rfl, hxs, hsp⟩ htexts⟩

theorem endsNumber_behind (texts : List (List Char)) (rest : List Char) :
    EndsNumber (behindCommas texts ++ close :: rest) := by
  cases texts with
  | nil => exact endsNumber_cons.2 (endsNumber_cons.1 h.closing.2)
  | cons text texts =>
      rw [behindCommas_cons]
      exact endsNumber_cons.2 (by decide)

theorem later_of_fills (htexts : List.Forall₂ (Fills entry) texts as) (hsp : Spaces sp)
    (rest : List Char) (hfuel : 2 * (behindCommas texts).length + 1 ≤ fuel) :
    entries fuel false (sp ++ (behindCommas texts ++ close :: rest)) as rest := by
  induction htexts generalizing sp fuel with
  | nil =>
      obtain ⟨fuel, rfl⟩ := Nat.exists_eq_add_of_le' (Nat.zero_lt_of_lt hfuel)
      exact (h.later _ _ _ _).2 (.inl ⟨rfl, skipSpace_eq_cons.2 ⟨h.closing.1, sp, hsp, rfl⟩⟩)
  | @cons text a texts as htext _ ih =>
      obtain ⟨xs, sp', rfl, hxs, hsp'⟩ := htext
      obtain ⟨fuel, rfl⟩ := Nat.exists_eq_add_of_le' (Nat.zero_lt_of_lt hfuel)
      simp only [behindCommas_cons, List.length_cons, List.length_append] at hfuel
      have hentry := hxs fuel (sp' ++ (behindCommas texts ++ close :: rest)) (by omega)
        (hsp'.endsNumber.append (h.endsNumber_behind texts rest))
      have hmore := ih hsp' (show 2 * (behindCommas texts).length + 1 ≤ fuel by omega)
      refine (h.later _ _ _ _).2 (.inr ⟨_, a, as, _, rfl, ?_, hentry, hmore⟩)
      rw [skipSpace_spaces hsp, behindCommas_cons, List.cons_append, skipSpace_cons (by rfl)]
      simp

/-- Entries are read where they stand. -/
theorem first_of_inside {inside : List Char} (hinside : Inside entry inside as) (rest : List Char)
    (hfuel : 2 * inside.length + 2 ≤ fuel) :
    entries fuel true (inside ++ close :: rest) as rest := by
  obtain ⟨fuel, rfl⟩ := Nat.exists_eq_add_of_le' (Nat.zero_lt_of_lt hfuel)
  cases hinside with
  | empty hsp =>
      exact (h.first _ _ _ _).2 (.inl ⟨rfl, skipSpace_eq_cons.2 ⟨h.closing.1, _, hsp, rfl⟩⟩)
  | @cons text texts a as htext htexts =>
      obtain ⟨xs, sp, rfl, hxs, hsp⟩ := htext
      simp only [List.length_append] at hfuel
      have hentry := hxs fuel (sp ++ (behindCommas texts ++ close :: rest)) (by omega)
        (hsp.endsNumber.append (h.endsNumber_behind texts rest))
      have hmore := h.later_of_fills htexts hsp rest
        (show 2 * (behindCommas texts).length + 1 ≤ fuel by omega)
      rw [List.append_assoc, List.append_assoc]
      exact (h.first _ _ _ _).2 (.inr ⟨a, as, _, rfl, hentry, hmore⟩)

end Sequence

end

theorem items_sequence (depth : Nat) : Sequence ']' (Reads depth) (ReadsItems depth) where
  closing := ⟨rfl, endsNumber_cons.2 (by decide)⟩
  zero _ _ _ _ := readsItems_zero
  first fuel cs vs left := by
    rw [readsItems_succ]
    refine or_congr_right ⟨?_, ?_⟩
    · rintro ⟨cs', v, more, behind, rfl, hnext, hv, hmore⟩
      obtain ⟨rfl, _⟩ := nextItem_first_eq_ok.1 hnext
      exact ⟨v, more, behind, rfl, (reads_congr (skipSpace_skipSpace cs)).1 hv, hmore⟩
    · rintro ⟨v, more, behind, rfl, hv, hmore⟩
      obtain ⟨c, cs', hcs, hopen⟩ := hv.head
      refine ⟨skipSpace cs, v, more, behind, rfl, nextItem_first_eq_ok.2 ⟨rfl, ?_⟩,
        (reads_congr (skipSpace_skipSpace cs)).2 hv, hmore⟩
      simp [hcs, hopen]
  later fuel cs vs left := by
    rw [readsItems_succ]
    refine or_congr_right ⟨?_, ?_⟩
    · rintro ⟨cs', v, more, behind, rfl, hnext, hv, hmore⟩
      obtain ⟨next, hcomma, rfl, _⟩ := nextItem_later_eq_ok.1 hnext
      exact ⟨next, v, more, behind, rfl, hcomma, (reads_congr (skipSpace_skipSpace next)).1 hv,
        hmore⟩
    · rintro ⟨next, v, more, behind, rfl, hcomma, hv, hmore⟩
      obtain ⟨c, cs', hcs, hopen⟩ := hv.head
      refine ⟨skipSpace next, v, more, behind, rfl,
        nextItem_later_eq_ok.2 ⟨next, hcomma, rfl, ?_⟩,
        (reads_congr (skipSpace_skipSpace next)).2 hv, hmore⟩
      simp [hcs, hopen]

theorem members_sequence (depth : Nat) :
    Sequence '}' (ReadsMember depth) (ReadsMembers depth) where
  closing := ⟨rfl, endsNumber_cons.2 (by decide)⟩
  zero _ _ _ _ := readsMembers_zero
  first fuel cs vs left := by
    simp only [readsMembers_succ, nextKey_first_eq_ok, afterKey_eq_ok]
    refine or_congr_right ⟨?_, ?_⟩
    · rintro ⟨atKey, behindKey, atValue, m, more, behind, rfl, hkey, hscan, hcolon, hv, hmore⟩
      exact ⟨m, more, behind, rfl, ⟨atKey, behindKey, atValue, hkey, hscan, hcolon, hv⟩, hmore⟩
    · rintro ⟨m, more, behind, rfl, ⟨atKey, behindKey, atValue, hkey, hscan, hcolon, hv⟩, hmore⟩
      exact ⟨atKey, behindKey, atValue, m, more, behind, rfl, hkey, hscan, hcolon, hv, hmore⟩
  later fuel cs vs left := by
    simp only [readsMembers_succ, nextKey_later_eq_ok, afterKey_eq_ok]
    refine or_congr_right ⟨?_, ?_⟩
    · rintro ⟨atKey, behindKey, atValue, m, more, behind, rfl, ⟨next, hcomma, hkey⟩, hscan, hcolon,
        hv, hmore⟩
      exact ⟨next, m, more, behind, rfl, hcomma,
        ⟨atKey, behindKey, atValue, hkey, hscan, hcolon, hv⟩, hmore⟩
    · rintro ⟨next, m, more, behind, rfl, hcomma,
        ⟨atKey, behindKey, atValue, hkey, hscan, hcolon, hv⟩, hmore⟩
      exact ⟨atKey, behindKey, atValue, m, more, behind, rfl, ⟨next, hcomma, hkey⟩, hscan, hcolon,
        hv, hmore⟩

/-! ## Members -/

/-- The text of a member in its parts: what stands in front of its key, between the quotes, in front
of the colon and behind it. -/
structure Member where
  before : List Char := []
  key : List Char
  gap : List Char := []
  value : List Char

namespace Member

/-- The text of a member. -/
def chars (m : Member) : List Char :=
  m.before ++ '"' :: m.key ++ '"' :: m.gap ++ ':' :: m.value

/-- The member has this name. -/
structure Named (m : Member) (name : String) : Prop where
  before : Spaces m.before
  key : Literal.scan (m.key ++ ['"']) = (.closed (.ok name), [])
  gap : Spaces m.gap

theorem Named.scan_key {m : Member} {name : String} (h : m.Named name) (rest : List Char) :
    Literal.scan (m.key ++ '"' :: rest) = (.closed (.ok name), rest) := by
  obtain ⟨xs, hkey, hscan⟩ := Literal.scan_eq_closed h.key
  obtain rfl : m.key = xs := List.append_cancel_right hkey
  exact hscan rest

theorem Named.unique {m : Member} {name name' : String} (h : m.Named name)
    (h' : m.Named name') : name = name' := by
  have hkey := h.key.symm.trans h'.key
  simpa using hkey

theorem Named.withValue {m : Member} {name : String} (h : m.Named name) (value : List Char) :
    { m with value }.Named name :=
  ⟨h.before, h.key, h.gap⟩

end Member

section

variable {depth fuel : Nat} {name : String} {v : Value}

theorem readsMember_chars {m : Member} (hm : m.Named name) {rest left : List Char}
    (hv : Reads depth fuel (m.value ++ rest) v left) :
    ReadsMember depth fuel (m.chars ++ rest) (name, v) left := by
  refine ⟨m.key ++ '"' :: (m.gap ++ ':' :: (m.value ++ rest)), m.gap ++ ':' :: (m.value ++ rest),
    m.value ++ rest, skipSpace_eq_cons.2 ⟨rfl, m.before, hm.before, ?_⟩, hm.scan_key _,
    skipSpace_eq_cons.2 ⟨rfl, m.gap, hm.gap, rfl⟩, hv⟩
  simp [Member.chars]

/-- Where the parts of a member stand. -/
theorem ReadsMember.cut (hlocal : Local (Reads depth) fuel) {cs left : List Char}
    (h : ReadsMember depth fuel cs (name, v) left) : ∃ m : Member, cs = m.chars ++ left ∧
      m.Named name ∧ Stands (Reads depth) m.value v := by
  obtain ⟨atKey, behindKey, atValue, hquote, hscan, hcolon, hv⟩ := h
  obtain ⟨_, before, hbefore, rfl⟩ := skipSpace_eq_cons.1 hquote
  obtain ⟨key, rfl, hkey⟩ := Literal.scan_eq_closed hscan
  obtain ⟨_, gap, hgap, rfl⟩ := skipSpace_eq_cons.1 hcolon
  obtain ⟨xs, rfl, hxs⟩ := hlocal _ _ _ hv
  exact ⟨⟨before, key, gap, xs⟩, by simp [Member.chars], ⟨hbefore, hkey [], hgap⟩, hxs⟩

theorem stands_chars {m : Member} (hm : m.Named name) (hv : Stands (Reads depth) m.value v) :
    Stands (ReadsMember depth) m.chars (name, v) := by
  intro fuel rest hfuel hrest
  have hlength : m.value.length ≤ m.chars.length := by
    simp only [Member.chars, List.length_append, List.length_cons]
    omega
  exact readsMember_chars hm (hv fuel rest (by omega) hrest)

theorem local_member (hlocal : Local (Reads depth) fuel) : Local (ReadsMember depth) fuel := by
  rintro cs ⟨name, v⟩ left h
  obtain ⟨m, rfl, hm, hv⟩ := h.cut hlocal
  exact ⟨m.chars, rfl, stands_chars hm hv⟩

end

/-! ## Values -/

section

variable {depth fuel : Nat} {cs left : List Char} {v : Value}

theorem read_bury {opening : List Char} {t : Tree} :
    (bury depth opening t).read = .ok v ↔ depth ≠ depthLimit ∧ t.read = .ok v := by
  unfold bury
  split <;> simp_all [Tree.read]

theorem scanValue_list : scanValue depth (fuel + 1) ('[' :: cs) =
    (bury depth ('[' :: cs) (.list (scanItems (depth + 1) fuel true cs).1
      (scanItems (depth + 1) fuel true cs).2.1), (scanItems (depth + 1) fuel true cs).2.2) := by
  rw [scanValue, skipSpace_cons rfl]
  rfl

theorem scanValue_object : scanValue depth (fuel + 1) ('{' :: cs) =
    (bury depth ('{' :: cs) (.object (scanMembers (depth + 1) fuel true cs).1
      (scanMembers (depth + 1) fuel true cs).2.1), (scanMembers (depth + 1) fuel true cs).2.2) := by
  rw [scanValue, skipSpace_cons rfl]
  rfl

theorem reads_list : Reads depth (fuel + 1) ('[' :: cs) v left ↔
    depth ≠ depthLimit ∧ ∃ vs, v = .list vs ∧ ReadsItems (depth + 1) fuel true cs vs left := by
  rw [Reads, scanValue_list, read_bury, read_list_eq_ok]
  unfold ReadsItems
  generalize scanItems (depth + 1) fuel true cs = r
  obtain ⟨items, stop, rest⟩ := r
  simp only [Prod.mk.injEq]
  tauto

theorem reads_object : Reads depth (fuel + 1) ('{' :: cs) v left ↔
    depth ≠ depthLimit ∧ ∃ vs, v = .object vs ∧ ReadsMembers (depth + 1) fuel true cs vs left := by
  rw [Reads, scanValue_object, read_bury, read_object_eq_ok]
  unfold ReadsMembers
  generalize scanMembers (depth + 1) fuel true cs = r
  obtain ⟨members, stop, rest⟩ := r
  simp only [Prod.mk.injEq]
  tauto

theorem Stands.spaces {sp xs : List Char} (h : Stands (Reads depth) xs v) (hsp : Spaces sp) :
    Stands (Reads depth) (sp ++ xs) v := by
  intro fuel rest hfuel hrest
  rw [List.length_append] at hfuel
  rw [List.append_assoc, reads_congr (skipSpace_spaces hsp _)]
  exact h fuel rest (by omega) hrest

theorem stands_scalar {c : Char} {xs : List Char} {t : Tree} (ht : t.read = .ok v)
    (hscan : ∀ fuel rest, EndsNumber rest →
      scanValue depth (fuel + 1) (c :: (xs ++ rest)) = (t, rest)) :
    Stands (Reads depth) (c :: xs) v := by
  intro fuel rest hfuel hrest
  rw [List.length_cons] at hfuel
  obtain ⟨fuel, rfl⟩ := Nat.exists_eq_add_of_le' (show 1 ≤ fuel by omega)
  rw [Reads, List.cons_append, hscan fuel rest hrest]
  exact ⟨ht, rfl⟩

theorem stands_list {inside : List Char} {vs : List Value} (hdepth : depth ≠ depthLimit)
    (h : Inside (Reads (depth + 1)) inside vs) :
    Stands (Reads depth) ('[' :: (inside ++ [']'])) (.list vs) := by
  intro fuel rest hfuel hrest
  simp only [List.length_cons, List.length_append, List.length_nil] at hfuel
  obtain ⟨fuel, rfl⟩ := Nat.exists_eq_add_of_le' (show 1 ≤ fuel by omega)
  have hitems := (items_sequence (depth + 1)).first_of_inside h rest
    (show 2 * inside.length + 2 ≤ fuel by omega)
  rw [List.cons_append, List.append_assoc, reads_list]
  exact ⟨hdepth, vs, rfl, hitems⟩

theorem stands_object {inside : List Char} {vs : List (String × Value)}
    (hdepth : depth ≠ depthLimit) (h : Inside (ReadsMember (depth + 1)) inside vs) :
    Stands (Reads depth) ('{' :: (inside ++ ['}'])) (.object vs) := by
  intro fuel rest hfuel hrest
  simp only [List.length_cons, List.length_append, List.length_nil] at hfuel
  obtain ⟨fuel, rfl⟩ := Nat.exists_eq_add_of_le' (show 1 ≤ fuel by omega)
  have hmembers := (members_sequence (depth + 1)).first_of_inside h rest
    (show 2 * inside.length + 2 ≤ fuel by omega)
  rw [List.cons_append, List.append_assoc, reads_object]
  exact ⟨hdepth, vs, rfl, hmembers⟩

theorem cut_word {c : Char} {t : Tree} {word : List Char}
    (hword : ∀ fuel cs, scanValue depth (fuel + 1) (c :: cs) = scanWord t word cs)
    (h : (scanWord t word cs).1.read = .ok v ∧ (scanWord t word cs).2 = left) :
    t.read = .ok v ∧ ∃ xs, cs = xs ++ left ∧ Stands (Reads depth) (c :: xs) v := by
  obtain ⟨hv, rfl⟩ := h
  rcases scanWord_cases t word cs with ht | ⟨fault, ht⟩
  · rw [ht] at hv
    refine ⟨hv, word, scanWord_cut (Prod.ext ht rfl) ?_, stands_scalar hv fun fuel rest _ =>
      (hword _ _).trans (scanWord_written t word rest)⟩
    rintro fault rfl
    cases hv
  · rw [ht] at hv
    cases hv

theorem read_scanNumber {negative : Bool}
    (h : (scanNumber negative cs).1.read = .ok v ∧ (scanNumber negative cs).2 = left) :
    ∃ n xs, (Tree.number (.ok n)).read = .ok v ∧ xs ≠ [] ∧ cs = xs ++ left ∧ ∀ rest,
      EndsNumber rest → scanNumber negative (xs ++ rest) = (.number (.ok n), rest) := by
  obtain ⟨hv, hleft⟩ := h
  obtain ⟨n, hn⟩ : ∃ n, (scanNumber negative cs).1 = .number (.ok n) := by
    revert hv
    unfold scanNumber
    split
    · rename_i x rest _
      cases hvalue : x.value rest with
      | error fault =>
          intro hv
          cases hv
      | ok n => exact fun _ => ⟨n, rfl⟩
    · intro hv
      cases hv
  obtain ⟨xs, hcs, hxs⟩ := scanNumber_cut (Prod.ext hn hleft)
  refine ⟨n, xs, hn ▸ hv, ?_, hcs, hxs⟩
  rintro rfl
  cases hxs [] (by simp [EndsNumber])

theorem read_scanText
    (h : (scanText cs).1.read = .ok v ∧ (scanText cs).2 = left) :
    ∃ s xs, (Tree.text (.ok s)).read = .ok v ∧ cs = xs ++ '"' :: left ∧ ∀ rest,
      scanText (xs ++ '"' :: rest) = (.text (.ok s), rest) := by
  obtain ⟨hv, hleft⟩ := h
  unfold scanText at hv hleft
  split at hv
  · rename_i content rest hscan
    rw [hscan] at hleft
    obtain rfl : rest = left := hleft
    cases content with
    | error fault => cases hv
    | ok s =>
        obtain ⟨xs, hcs, hxs⟩ := Literal.scan_eq_closed hscan
        exact ⟨s, xs, hv, hcs, fun rest => by rw [scanText, hxs rest]⟩
  · cases hv

/-- A value that begins with no bracket is no container, and goes as far as it is read. -/
theorem cut_scalar {c : Char} (hspace : isSpace c = false) (hlist : c ≠ '[') (hobject : c ≠ '{')
    (h : Reads depth (fuel + 1) (c :: cs) v left) :
    v.found.isContainer = false ∧ ∃ xs, cs = xs ++ left ∧ Stands (Reads depth) (c :: xs) v := by
  unfold Reads at h
  rw [scanValue, skipSpace_cons hspace] at h
  dsimp only at h
  split_ifs at h with hnull htrue hfalse hminus hdigit hquote
  · subst hnull
    have hword : ∀ fuel cs, scanValue depth (fuel + 1) ('n' :: cs) =
        scanWord .null ['u', 'l', 'l'] cs := fun fuel cs => by
      rw [scanValue, skipSpace_cons rfl]
      rfl
    obtain ⟨⟨⟩, hxs⟩ := cut_word hword h
    exact ⟨rfl, hxs⟩
  · subst htrue
    have hword : ∀ fuel cs, scanValue depth (fuel + 1) ('t' :: cs) =
        scanWord (.bool true) ['r', 'u', 'e'] cs := fun fuel cs => by
      rw [scanValue, skipSpace_cons rfl]
      rfl
    obtain ⟨⟨⟩, hxs⟩ := cut_word hword h
    exact ⟨rfl, hxs⟩
  · subst hfalse
    have hword : ∀ fuel cs, scanValue depth (fuel + 1) ('f' :: cs) =
        scanWord (.bool false) ['a', 'l', 's', 'e'] cs := fun fuel cs => by
      rw [scanValue, skipSpace_cons rfl]
      rfl
    obtain ⟨⟨⟩, hxs⟩ := cut_word hword h
    exact ⟨rfl, hxs⟩
  · subst hminus
    obtain ⟨n, xs, ⟨⟩, _, rfl, hxs⟩ := read_scanNumber h
    exact ⟨rfl, xs, rfl, stands_scalar rfl fun fuel rest hrest =>
      (scanValue_minus _ _ _).trans (hxs rest hrest)⟩
  · obtain ⟨n, xs, ⟨⟩, hsome, hcs, hxs⟩ := read_scanNumber h
    obtain ⟨d, xs, rfl⟩ := List.exists_cons_of_ne_nil hsome
    obtain ⟨rfl, rfl⟩ := List.cons.inj hcs
    exact ⟨rfl, xs, rfl, stands_scalar rfl fun fuel rest hrest =>
      (scanValue_digit hdigit _ _ _).trans (hxs rest hrest)⟩
  · subst hquote
    obtain ⟨s, xs, ⟨⟩, rfl, hxs⟩ := read_scanText h
    refine ⟨rfl, xs ++ ['"'], by simp, stands_scalar (t := .text (.ok s)) rfl fun fuel rest _ => ?_⟩
    rw [scanValue, skipSpace_cons rfl, List.append_assoc]
    exact hxs rest
  · cases h.1

theorem cut_list (hlocal : ∀ n < fuel, Local (Reads (depth + 1)) n)
    (h : Reads depth (fuel + 1) ('[' :: cs) v left) :
    depth ≠ depthLimit ∧ ∃ vs inside, v = .list vs ∧ cs = inside ++ ']' :: left ∧
      Inside (Reads (depth + 1)) inside vs := by
  obtain ⟨hdepth, vs, rfl, hitems⟩ := reads_list.1 h
  obtain ⟨inside, rfl, hinside⟩ := (items_sequence (depth + 1)).cut_first hlocal hitems
  exact ⟨hdepth, vs, inside, rfl, rfl, hinside⟩

theorem cut_object (hlocal : ∀ n < fuel, Local (Reads (depth + 1)) n)
    (h : Reads depth (fuel + 1) ('{' :: cs) v left) :
    depth ≠ depthLimit ∧ ∃ vs inside, v = .object vs ∧ cs = inside ++ '}' :: left ∧
      Inside (ReadsMember (depth + 1)) inside vs := by
  obtain ⟨hdepth, vs, rfl, hmembers⟩ := reads_object.1 h
  obtain ⟨inside, rfl, hinside⟩ := (members_sequence (depth + 1)).cut_first
    (fun n hn => local_member (hlocal n hn)) hmembers
  exact ⟨hdepth, vs, inside, rfl, rfl, hinside⟩

/-- What is read of a value does not depend on what stands behind it. -/
theorem reads_local (depth fuel : Nat) : Local (Reads depth) fuel := by
  induction fuel using Nat.strongRecOn generalizing depth with
  | _ fuel ih =>
      intro cs v left h
      cases fuel with
      | zero => exact absurd h reads_zero
      | succ fuel =>
          have hlocal : ∀ n < fuel, Local (Reads (depth + 1)) n := fun n hn =>
            ih n (Nat.lt_succ_of_lt hn) (depth + 1)
          obtain ⟨c, more, hcs, _⟩ := h.head
          obtain ⟨hspace, sp, hsp, rfl⟩ := skipSpace_eq_cons.1 hcs
          rw [reads_congr (skipSpace_spaces hsp _)] at h
          obtain ⟨xs, rfl, hxs⟩ : ∃ xs, more = xs ++ left ∧ Stands (Reads depth) (c :: xs) v := by
            by_cases hlist : c = '['
            · subst hlist
              obtain ⟨hdepth, vs, inside, rfl, rfl, hinside⟩ := cut_list hlocal h
              exact ⟨inside ++ [']'], by simp, stands_list hdepth hinside⟩
            by_cases hobject : c = '{'
            · subst hobject
              obtain ⟨hdepth, vs, inside, rfl, rfl, hinside⟩ := cut_object hlocal h
              exact ⟨inside ++ ['}'], by simp, stands_object hdepth hinside⟩
            exact (cut_scalar hspace hlist hobject h).2
          exact ⟨sp ++ c :: xs, by simp, hxs.spaces hsp⟩

end

end Cutscene.Json
