import Cutscene.Proofs.Json.Containers
/-!
# Where the parts of a document stand

The text of an object is made of the texts of its members, and the text of a list of those of its
items: every such text has these parts (`Means.objectText`, `Means.listText`), and whatever has such
parts is read as the container of what they mean (`ObjectText.Tells.means`,
`ListText.Tells.means`).
-/

namespace Cutscene.Json

open Cutscene.Json.Tree

/-! ## Texts of one value -/

/-- The text with `depth` containers around it is this value, and else there is only space. -/
def Means (depth : Nat) (cs : List Char) (v : Value) : Prop :=
  ∃ left, Reads depth (scanFuel cs) cs v left ∧ Spaces left

/-- The text of an object in its parts. -/
structure ObjectText where
  lead : List Char := []
  members : List Member
  trail : List Char := []

/-- The text of a list in its parts. -/
structure ListText where
  lead : List Char := []
  items : List (List Char)
  trail : List Char := []

/-- The whole text of an object. -/
def ObjectText.chars (o : ObjectText) : List Char :=
  o.lead ++ '{' :: [','].intercalate (o.members.map Member.chars) ++ '}' :: o.trail

/-- The whole text of a list. -/
def ListText.chars (l : ListText) : List Char :=
  l.lead ++ '[' :: [','].intercalate l.items ++ ']' :: l.trail

/-- The member has this name and this value. -/
structure Member.Tells (depth : Nat) (m : Member) (nv : String × Value) : Prop where
  named : m.Named nv.1
  value : Means depth m.value nv.2

/-- The parts are those of an object with these members. -/
structure ObjectText.Tells (depth : Nat) (o : ObjectText) (vs : List (String × Value)) : Prop where
  lead : Spaces o.lead
  members : List.Forall₂ (Member.Tells (depth + 1)) o.members vs
  trail : Spaces o.trail

/-- The parts are those of a list with these items. -/
structure ListText.Tells (depth : Nat) (l : ListText) (vs : List Value) : Prop where
  lead : Spaces l.lead
  items : List.Forall₂ (Means (depth + 1)) l.items vs
  trail : Spaces l.trail

section

variable {depth : Nat} {cs : List Char} {v : Value}

theorem means_iff_fills : Means depth cs v ↔ Fills (Reads depth) cs v := by
  constructor
  · rintro ⟨left, h, hleft⟩
    obtain ⟨xs, rfl, hxs⟩ := reads_local depth _ _ _ _ h
    exact ⟨xs, left, rfl, hxs, hleft⟩
  · rintro ⟨xs, sp, rfl, hxs, hsp⟩
    refine ⟨sp, hxs _ sp ?_ hsp.endsNumber, hsp⟩
    rw [scanFuel, List.length_append]
    omega

theorem intercalate_cons (text : List Char) (texts : List (List Char)) :
    [','].intercalate (text :: texts) = text ++ behindCommas texts := by
  induction texts generalizing text with
  | nil => simp [behindCommas]
  | cons next texts ih => rw [List.intercalate_cons_cons, ih, behindCommas_cons]; simp

theorem inside_intercalate {α : Type} {entry : Nat → List Char → α → List Char → Prop}
    {texts : List (List Char)} {as : List α} (h : List.Forall₂ (Fills entry) texts as) :
    Inside entry ([','].intercalate texts) as := by
  cases h with
  | nil => exact .empty (by simp [Spaces])
  | cons htext htexts =>
      rw [intercalate_cons]
      exact .cons htext htexts

theorem Inside.intercalate {α : Type} {entry : Nat → List Char → α → List Char → Prop}
    {inside : List Char} {as : List α} (h : Inside entry inside as) (hsome : as ≠ []) :
    ∃ texts, inside = [','].intercalate texts ∧ List.Forall₂ (Fills entry) texts as := by
  cases h with
  | empty => exact absurd rfl hsome
  | cons htext htexts => exact ⟨_, (intercalate_cons _ _).symm, .cons htext htexts⟩

/-- A text in the parts of a list is read as the list. -/
theorem ListText.Tells.means {l : ListText} {vs : List Value} (h : l.Tells depth vs)
    (hdepth : depth ≠ depthLimit) : Means depth l.chars (.list vs) := by
  have hinside : Inside (Reads (depth + 1)) ([','].intercalate l.items) vs :=
    inside_intercalate (h.items.imp fun _ _ => means_iff_fills.1)
  refine means_iff_fills.2 ⟨l.lead ++ '[' :: ([','].intercalate l.items ++ [']']), l.trail, ?_,
    (stands_list hdepth hinside).spaces h.lead, h.trail⟩
  simp [ListText.chars]

theorem Member.Tells.fills {m : Member} {nv : String × Value} (h : m.Tells depth nv) :
    Fills (ReadsMember depth) m.chars nv := by
  obtain ⟨xs, sp, hvalue, hxs, hsp⟩ := means_iff_fills.1 h.value
  refine ⟨{ m with value := xs }.chars, sp, ?_, stands_chars (h.named.withValue xs) hxs, hsp⟩
  simp [Member.chars, hvalue]

/-- A text in the parts of an object is read as the object. -/
theorem ObjectText.Tells.means {o : ObjectText} {vs : List (String × Value)}
    (h : o.Tells depth vs) (hdepth : depth ≠ depthLimit) : Means depth o.chars (.object vs) := by
  have hinside : Inside (ReadsMember (depth + 1))
      ([','].intercalate (o.members.map Member.chars)) vs :=
    inside_intercalate (List.forall₂_map_left_iff.2 (h.members.imp fun _ _ => Member.Tells.fills))
  refine means_iff_fills.2 ⟨o.lead ++
    '{' :: ([','].intercalate (o.members.map Member.chars) ++ ['}']), o.trail, ?_,
    (stands_object hdepth hinside).spaces h.lead, h.trail⟩
  simp [ObjectText.chars]

theorem ObjectText.Tells.head {o : ObjectText} {vs : List (String × Value)} (h : o.Tells depth vs) :
    (skipSpace o.chars).head? = some '{' := by
  rw [ObjectText.chars, List.append_assoc, skipSpace_spaces h.lead, List.cons_append,
    skipSpace_cons rfl]
  rfl

theorem exists_member {text : List Char} {nv : String × Value}
    (h : Fills (ReadsMember depth) text nv) :
    ∃ m : Member, text = m.chars ∧ m.Tells depth nv := by
  obtain ⟨xs, sp, rfl, hxs, hsp⟩ := h
  have hread := hxs (2 * xs.length) [] (Nat.le_refl _) (by simp [EndsNumber])
  obtain ⟨m, hm, hnamed, hvalue⟩ := hread.cut (reads_local depth _)
  refine ⟨{ m with value := m.value ++ sp }, ?_, hnamed.withValue _,
    means_iff_fills.2 ⟨m.value, sp, rfl, hvalue, hsp⟩⟩
  rw [List.append_nil, List.append_nil] at hm
  simp [hm, Member.chars]

theorem exists_members {texts : List (List Char)} {vs : List (String × Value)}
    (h : List.Forall₂ (Fills (ReadsMember depth)) texts vs) :
    ∃ ms : List Member, texts = ms.map Member.chars ∧
      List.Forall₂ (Member.Tells depth) ms vs := by
  induction h with
  | nil => exact ⟨[], rfl, .nil⟩
  | cons htext _ ih =>
      obtain ⟨m, rfl, hm⟩ := exists_member htext
      obtain ⟨ms, rfl, hms⟩ := ih
      exact ⟨m :: ms, rfl, .cons hm hms⟩

/-- The text of a container begins with a bracket. -/
theorem Means.bracket (h : Means depth cs v) (hv : v.found.isContainer = true) :
    ∃ lead c more fuel left, (c = '[' ∨ c = '{') ∧ cs = lead ++ c :: more ∧ Spaces lead ∧
      Reads depth (fuel + 1) (c :: more) v left ∧ Spaces left := by
  obtain ⟨left, hread, hleft⟩ := h
  obtain ⟨c, more, hcs, _⟩ := hread.head
  obtain ⟨hspace, lead, hlead, hsplit⟩ := skipSpace_eq_cons.1 hcs
  rw [reads_congr (hcs.trans (skipSpace_cons hspace more).symm)] at hread
  refine ⟨lead, c, more, 2 * cs.length + 1, left, ?_, hsplit, hlead, hread, hleft⟩
  by_contra hbracket
  obtain ⟨hlist, hobject⟩ := not_or.1 hbracket
  have hscalar := (cut_scalar hspace hlist hobject hread).1
  simp [hscalar] at hv

/-- The text of an object that is not empty has the parts of one. -/
theorem Means.objectText {vs : List (String × Value)} (h : Means depth cs (.object vs))
    (hsome : vs ≠ []) : ∃ o : ObjectText, cs = o.chars ∧ o.Tells depth vs := by
  obtain ⟨lead, c, more, fuel, left, rfl | rfl, rfl, hlead, hread, hleft⟩ := h.bracket rfl
  · obtain ⟨_, _, _, hv, _⟩ := cut_list (fun n _ => reads_local _ n) hread
    cases hv
  · obtain ⟨_, _, inside, ⟨⟩, rfl, hinside⟩ := cut_object (fun n _ => reads_local _ n) hread
    obtain ⟨texts, rfl, htexts⟩ := hinside.intercalate hsome
    obtain ⟨ms, rfl, hms⟩ := exists_members htexts
    exact ⟨⟨lead, ms, left⟩, by simp [ObjectText.chars], hlead, hms, hleft⟩

/-- The text of a list that is not empty has the parts of one. -/
theorem Means.listText {vs : List Value} (h : Means depth cs (.list vs)) (hsome : vs ≠ []) :
    ∃ l : ListText, cs = l.chars ∧ l.Tells depth vs := by
  obtain ⟨lead, c, more, fuel, left, rfl | rfl, rfl, hlead, hread, hleft⟩ := h.bracket rfl
  · obtain ⟨_, _, inside, ⟨⟩, rfl, hinside⟩ := cut_list (fun n _ => reads_local _ n) hread
    obtain ⟨texts, rfl, htexts⟩ := hinside.intercalate hsome
    exact ⟨⟨lead, texts, left⟩, by simp [ListText.chars], hlead,
      htexts.imp fun _ _ => means_iff_fills.2, hleft⟩
  · obtain ⟨_, _, _, hv, _⟩ := cut_object (fun n _ => reads_local _ n) hread
    cases hv

/-- A text means one value at most. -/
theorem Means.unique {v' : Value} (h : Means depth cs v) (h' : Means depth cs v') : v = v' := by
  obtain ⟨_, ⟨hread, _⟩, _⟩ := h
  obtain ⟨_, ⟨hread', _⟩, _⟩ := h'
  exact Except.ok.inj (hread.symm.trans hread')

theorem forall₂_replace {α β : Type} {R : α → β → Prop} {front back : List α} {a : α} {bs : List β}
    (h : List.Forall₂ R (front ++ a :: back) bs) : ∃ front' b back', bs = front' ++ b :: back' ∧
      R a b ∧ ∀ a' b', R a' b' → List.Forall₂ R (front ++ a' :: back) (front' ++ b' :: back') := by
  induction front generalizing bs with
  | nil =>
      cases h with
      | @cons _ b _ back' hab hback => exact ⟨[], b, back', rfl, hab, fun _ _ h => .cons h hback⟩
  | cons c front ih =>
      cases h with
      | @cons _ d _ _ hcd hmore =>
          obtain ⟨front', b, back', rfl, hab, hreplace⟩ := ih hmore
          exact ⟨d :: front', b, back', rfl, hab, fun a' b' h => .cons hcd (hreplace a' b' h)⟩

/-- One item of a list may be replaced. -/
theorem ListText.Tells.replace {lead trail text : List Char} {front back : List (List Char)}
    {vs : List Value} (h : ListText.Tells depth ⟨lead, front ++ text :: back, trail⟩ vs) :
    ∃ front' v back', vs = front' ++ v :: back' ∧ Means (depth + 1) text v ∧
      ∀ text' v', Means (depth + 1) text' v' →
        ListText.Tells depth ⟨lead, front ++ text' :: back, trail⟩ (front' ++ v' :: back') := by
  obtain ⟨front', v, back', hvs, hv, hreplace⟩ := forall₂_replace h.items
  exact ⟨front', v, back', hvs, hv, fun text' v' hv' =>
    ⟨h.lead, hreplace text' v' hv', h.trail⟩⟩

end

end Cutscene.Json
