import Cutscene.Proofs.Json.Spelling
/-!
# Decoding documents that were written

What the decoders make of the tree of a written document: lists item by item
(`Tree.listOf_written`), records field by field (`Tree.recordMembers_cons`,
`Value.recordMembers_cons`), and objects with a tag, whose other members are read completely before
they are decoded (`Tree.tagged_written`).  `Doc.Holds` says which value is read of a document then.
-/

namespace Cutscene.Json

namespace Tree

variable {α σ : Type}

theorem decodeItems_written {decode : Decoder α} {write : α → Doc} {xs : List α}
    (h : ∀ x ∈ xs, decode (write x).tree = .ok x) (i : Nat) :
    decodeItems decode i (Doc.itemTrees (xs.map write)) = .ok xs := by
  induction xs generalizing i with
  | nil => rfl
  | cons x xs ih =>
      obtain ⟨hx, hxs⟩ := List.forall_mem_cons.1 h
      rw [List.map_cons, Doc.itemTrees, decodeItems, hx, ih hxs]
      rfl

theorem listOf_written {decode : Decoder α} {write : α → Doc} {xs : List α}
    (h : ∀ x ∈ xs, decode (write x).tree = .ok x) :
    listOf decode (Doc.list (xs.map write)).tree = .ok xs := by
  rw [Doc.tree, listOf, decodeItems_written h]
  rfl

/-- A member that is there for the first time sets its field. -/
theorem recordMembers_cons {r : Record Tree Problem σ α} {key : String}
    {f : Field Tree Problem σ} {k : Nat} {d : Doc} {set : σ → σ}
    (hfield : r.field? key = some (f, k)) (hread : f.read d.tree = .ok set) {seen : List Nat}
    (hnew : seen.contains k = false) (i : Nat) (collected : σ) (rest : List (String × Doc)) :
    recordMembers r i seen collected (Doc.memberTrees ((key, d) :: rest)) =
      recordMembers r (i + 1) (k :: seen) (set collected) (Doc.memberTrees rest) := by
  rw [Doc.memberTrees, recordMembers]
  simp only [Except.mapError, bind, Except.bind, hfield, hnew, hread]
  rfl

theorem record_written {r : Record Tree Problem σ α} {members : List (String × Doc)}
    {collected : σ} {x : α}
    (hmembers : recordMembers r 0 [] r.initial (Doc.memberTrees members) = .ok collected)
    (hfinish : r.finish collected = .ok x) : record r (Doc.object members).tree = .ok x := by
  rw [Doc.tree, record, hmembers]
  simp only [bind, Except.bind, close, hfinish]
  rfl

end Tree

/-! ## Objects with a tag -/

namespace Doc

/-- Reading all of a document gives the value. -/
def Holds (d : Doc) (v : Value) : Prop :=
  d.tree.read = .ok v

/-- Members with the same keys, whose documents hold the values. -/
inductive MembersHold : List (String × Doc) → List (String × Value) → Prop where
  | nil : MembersHold [] []
  | cons (key : String) {d : Doc} {v : Value} {ds : List (String × Doc)}
      {vs : List (String × Value)} : d.Holds v → MembersHold ds vs →
      MembersHold ((key, d) :: ds) ((key, v) :: vs)

theorem holds_text (s : String) : (Doc.text s).Holds (.text s) := rfl

theorem holds_list {α : Type} {write : α → Doc} {value : α → Value} {xs : List α}
    (h : ∀ x ∈ xs, (write x).Holds (value x)) :
    (Doc.list (xs.map write)).Holds (.list (xs.map value)) := by
  have hitems : Tree.readItems (itemTrees (xs.map write)) = .ok (xs.map value) := by
    induction xs with
    | nil => rfl
    | cons x xs ih =>
        obtain ⟨hx, hxs⟩ := List.forall_mem_cons.1 h
        rw [List.map_cons, itemTrees, Tree.readItems, hx, ih hxs]
        rfl
  rw [Holds, tree, Tree.read, hitems]
  rfl

theorem MembersHold.append {ds ds' : List (String × Doc)} {vs vs' : List (String × Value)}
    (h : MembersHold ds vs) (h' : MembersHold ds' vs') : MembersHold (ds ++ ds') (vs ++ vs') := by
  induction h with
  | nil => exact h'
  | cons key hd _ ih => exact .cons key hd ih

theorem MembersHold.object {ds : List (String × Doc)} {vs : List (String × Value)}
    (h : MembersHold ds vs) : (Doc.object ds).Holds (.object vs) := by
  have hmembers : Tree.readMembers (memberTrees ds) = .ok vs := by
    induction h with
    | nil => rfl
    | cons key hd _ ih =>
        rw [memberTrees, Tree.readMembers, hd, ih]
        rfl
  rw [Holds, tree, Tree.read, hmembers]
  rfl

end Doc

namespace Tree

variable {α : Type}

theorem taggedMembers_others {tag : String} {known : List (String × α)} {chosen : Option α}
    {ds : List (String × Doc)} {vs : List (String × Value)} (h : Doc.MembersHold ds vs)
    (htag : ∀ m ∈ ds, m.1 ≠ tag) (i : Nat) :
    taggedMembers tag known i chosen (Doc.memberTrees ds) = .ok (chosen, vs) := by
  induction h generalizing i with
  | nil => rfl
  | @cons key d v ds vs hd _ ih =>
      obtain ⟨hkey, hkeys⟩ := List.forall_mem_cons.1 htag
      rw [Doc.memberTrees, taggedMembers]
      simp only [Except.mapError, bind, Except.bind, if_neg hkey]
      rw [show d.tree.read = .ok v from hd, ih hkeys]
      rfl

/-- An object whose first member is its tag. -/
theorem tagged_written {title tag name : String} {known : List (String × α)} {x : α}
    {ds : List (String × Doc)} {vs : List (String × Value)} (hname : lookUp known name = .ok x)
    (h : Doc.MembersHold ds vs) (htag : ∀ m ∈ ds, m.1 ≠ tag) :
    tagged title tag known (Doc.object ((tag, .text name) :: ds)).tree = .ok (x, .object vs) := by
  have hchosen : knownName known (.text (.ok name)) = .ok x := by
    rw [knownName, scalar_eq_ok]
    exact ⟨.text name, rfl, hname⟩
  have hmembers : taggedMembers tag known 0 none (Doc.memberTrees ((tag, .text name) :: ds)) =
      .ok (some x, vs) := by
    rw [Doc.memberTrees, taggedMembers, Doc.tree]
    simp only [Except.mapError, bind, Except.bind, hchosen, if_true]
    exact taggedMembers_others h htag 1
  rw [Doc.tree, tagged, hmembers]
  rfl

end Tree

namespace Value

variable {α β σ : Type}

theorem listOf_map {decode : Value → Except Cause α} {value : α → Value} {xs : List α}
    (h : ∀ x ∈ xs, decode (value x) = .ok x) : listOf decode (.list (xs.map value)) = .ok xs := by
  rw [listOf]
  induction xs with
  | nil => rfl
  | cons x xs ih =>
      obtain ⟨hx, hxs⟩ := List.forall_mem_cons.1 h
      rw [List.map_cons, List.mapM_cons, hx, ih hxs]
      rfl

/-- A member that is there for the first time sets its field. -/
theorem recordMembers_cons {r : Record Value Cause σ α} {key : String}
    {f : Field Value Cause σ} {k : Nat} {v : Value} {set : σ → σ}
    (hfield : r.field? key = some (f, k)) (hread : f.read v = .ok set) {seen : List Nat}
    (hnew : seen.contains k = false) (collected : σ) (rest : List (String × Value)) :
    recordMembers r seen collected ((key, v) :: rest) =
      recordMembers r (k :: seen) (set collected) rest := by
  rw [recordMembers, hfield]
  simp only [hnew, hread, bind, Except.bind]
  rfl

theorem record_object {r : Record Value Cause σ α} {members : List (String × Value)}
    {collected : σ} {x : α} (hmembers : recordMembers r [] r.initial members = .ok collected)
    (hfinish : r.finish collected = .ok x) : record r (.object members) = .ok x := by
  rw [record, hmembers]
  simp only [bind, Except.bind, hfinish]
  rfl

end Value

end Cutscene.Json
