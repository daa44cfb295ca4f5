/-!
# Maps in key order

A finite map from texts, kept as the list of its entries in increasing order of keys. Two maps with
the same values under every key are equal (`SortedMap.ext`), and each operation is known by what it
does to the value under a key (`get?_insert`, `get?_erase`).
-/

namespace Cutscene

namespace Entries

variable {α : Type}

/-- Keys increase from entry to entry. -/
def Sorted (entries : List (String × α)) : Prop :=
  entries.Pairwise fun a b => a.1 < b.1

instance (entries : List (String × α)) : Decidable (Sorted entries) :=
  inferInstanceAs (Decidable (entries.Pairwise _))

/-- Puts a value under a key, at the place of the key. -/
def insert (key : String) (value : α) : List (String × α) → List (String × α)
  | [] => [(key, value)]
  | (k, v) :: rest =>
    if key < k then (key, value) :: (k, v) :: rest
    else if key = k then (key, value) :: rest
    else (k, v) :: insert key value rest

/-- Removes the entry under a key. -/
def erase (key : String) (entries : List (String × α)) : List (String × α) :=
  entries.filter fun e => e.1 != key

theorem mem_insert {key : String} {value : α} {e : String × α} {entries : List (String × α)}
    (h : e ∈ insert key value entries) : e = (key, value) ∨ e ∈ entries := by
  induction entries with
  | nil => simpa [insert] using h
  | cons kv rest ih =>
    obtain ⟨k, v⟩ := kv
    simp only [insert] at h
    split at h
    · simpa using h
    · split at h
      · rcases List.mem_cons.1 h with h | h
        · exact .inl h
        · exact .inr (List.mem_cons_of_mem _ h)
      · rcases List.mem_cons.1 h with h | h
        · exact .inr (h ▸ List.mem_cons_self)
        · exact (ih h).imp_right (List.mem_cons_of_mem _)

theorem Sorted.insert {entries : List (String × α)} (h : Sorted entries) (key : String)
    (value : α) : Sorted (insert key value entries) := by
  induction entries with
  | nil => simp [Entries.insert, Sorted]
  | cons kv rest ih =>
    obtain ⟨k, v⟩ := kv
    obtain ⟨hk, hrest⟩ := List.pairwise_cons.1 h
    simp only [Entries.insert]
    split
    · rename_i hlt
      refine List.pairwise_cons.2 ⟨fun e he => ?_, h⟩
      rcases List.mem_cons.1 he with rfl | he
      · exact hlt
      · exact String.lt_trans hlt (hk e he)
    · split
      · rename_i heq
        subst heq
        exact List.pairwise_cons.2 ⟨fun e he => hk e he, hrest⟩
      · refine List.pairwise_cons.2 ⟨fun e he => ?_, ih hrest⟩
        rcases mem_insert he with rfl | he
        · show k < key
          grind
        · exact hk e he

theorem Sorted.erase {entries : List (String × α)} (h : Sorted entries) (key : String) :
    Sorted (erase key entries) :=
  List.Pairwise.filter _ h

theorem insert_of_last {entries : List (String × α)} {key : String} {value : α}
    (h : ∀ e ∈ entries, e.1 < key) : insert key value entries = entries ++ [(key, value)] := by
  induction entries with
  | nil => rfl
  | cons e rest ih =>
    obtain ⟨hk, hrest⟩ := List.forall_mem_cons.1 h
    have hnot : ¬ key < e.1 := String.lt_asymm hk
    have hne : key ≠ e.1 := (String.ne_of_lt hk).symm
    rw [insert, if_neg hnot, if_neg hne, ih hrest, List.cons_append]

theorem lookup_insert (entries : List (String × α)) (key : String) (value : α) (k : String) :
    (insert key value entries).lookup k = if k = key then some value else entries.lookup k := by
  induction entries with
  | nil => simp only [insert, List.lookup_cons, List.lookup_nil]; grind
  | cons kv rest ih =>
    obtain ⟨k', v'⟩ := kv
    simp only [insert]
    split
    · simp only [List.lookup_cons]; grind
    · split
      · simp only [List.lookup_cons]; grind
      · simp only [List.lookup_cons, ih]; grind

theorem lookup_erase (entries : List (String × α)) (key k : String) :
    (erase key entries).lookup k = if k = key then none else entries.lookup k := by
  induction entries with
  | nil => simp [erase]
  | cons kv rest ih =>
    obtain ⟨k', v'⟩ := kv
    unfold erase at ih ⊢
    by_cases hk : k' = key
    · rw [List.filter_cons_of_neg (by simp [hk])]
      rw [ih, List.lookup_cons]
      grind
    · rw [List.filter_cons_of_pos (by simp [hk])]
      rw [List.lookup_cons, List.lookup_cons, ih]
      grind

theorem Sorted.lookup_eq_some {entries : List (String × α)} (h : Sorted entries) {key : String}
    {value : α} : entries.lookup key = some value ↔ (key, value) ∈ entries := by
  induction entries with
  | nil => simp
  | cons kv rest ih =>
    obtain ⟨k, v⟩ := kv
    obtain ⟨hk, hrest⟩ := List.pairwise_cons.1 h
    rw [List.lookup_cons, List.mem_cons]
    by_cases hkey : key = k
    · subst hkey
      simp only [BEq.rfl, Option.some.injEq, Prod.mk.injEq, true_and]
      constructor
      · exact fun h => .inl h.symm
      · rintro (h | h)
        · exact h.symm
        · exact absurd (hk _ h) (String.lt_irrefl key)
    · have hne : (key == k) = false := by simpa using hkey
      simp only [hne, ih hrest, Prod.mk.injEq, hkey, false_and, false_or]

theorem Sorted.ext {a b : List (String × α)} (ha : Sorted a) (hb : Sorted b)
    (h : ∀ k, a.lookup k = b.lookup k) : a = b := by
  have hmem : ∀ e, e ∈ a ↔ e ∈ b := fun e => by
    rw [← ha.lookup_eq_some, ← hb.lookup_eq_some, h]
  induction a generalizing b with
  | nil =>
    cases b with
    | nil => rfl
    | cons e b => exact absurd ((hmem e).2 List.mem_cons_self) (by simp)
  | cons x a ih =>
    cases b with
    | nil => exact absurd ((hmem x).1 List.mem_cons_self) (by simp)
    | cons y b =>
      obtain ⟨hx, ha'⟩ := List.pairwise_cons.1 ha
      obtain ⟨hy, hb'⟩ := List.pairwise_cons.1 hb
      have hxy : x = y := by
        rcases List.mem_cons.1 ((hmem x).1 List.mem_cons_self) with h1 | h1
        · exact h1
        · rcases List.mem_cons.1 ((hmem y).2 List.mem_cons_self) with h2 | h2
          · exact h2.symm
          · exact absurd (String.lt_trans (hx y h2) (hy x h1)) (String.lt_irrefl _)
      subst hxy
      have hrest : ∀ e, e ∈ a ↔ e ∈ b := fun e => by
        constructor
        · intro he
          rcases List.mem_cons.1 ((hmem e).1 (List.mem_cons_of_mem _ he)) with rfl | h1
          · exact absurd (hx e he) (String.lt_irrefl _)
          · exact h1
        · intro he
          rcases List.mem_cons.1 ((hmem e).2 (List.mem_cons_of_mem _ he)) with rfl | h1
          · exact absurd (hy e he) (String.lt_irrefl _)
          · exact h1
      rw [ih ha' hb' (fun k => ?_) hrest]
      refine Option.ext fun v => ?_
      rw [Sorted.lookup_eq_some ha', Sorted.lookup_eq_some hb', hrest]

end Entries

/-- A finite map from texts. -/
structure SortedMap (α : Type) where
  entries : List (String × α)
  sorted : Entries.Sorted entries
  deriving DecidableEq

namespace SortedMap

variable {α : Type}

/-- The map without entries. -/
def empty : SortedMap α :=
  ⟨[], .nil⟩

instance : Inhabited (SortedMap α) := ⟨empty⟩

/-- The value under a key. -/
def get? (m : SortedMap α) (key : String) : Option α :=
  m.entries.lookup key

/-- Whether there is a value under a key. -/
def contains (m : SortedMap α) (key : String) : Bool :=
  (m.get? key).isSome

/-- Puts a value under a key, in the place of an earlier one. -/
def insert (m : SortedMap α) (key : String) (value : α) : SortedMap α :=
  ⟨Entries.insert key value m.entries, m.sorted.insert key value⟩

/-- Removes the value under a key. -/
def erase (m : SortedMap α) (key : String) : SortedMap α :=
  ⟨Entries.erase key m.entries, m.sorted.erase key⟩

/-- The keys in increasing order. -/
def keys (m : SortedMap α) : List String :=
  m.entries.map (·.1)

/-- The number of entries. -/
def size (m : SortedMap α) : Nat :=
  m.entries.length

/-- The map of a list of entries, of which the last one under a key counts. -/
def ofList (entries : List (String × α)) : SortedMap α :=
  entries.foldl (fun m e => m.insert e.1 e.2) empty

@[ext] theorem ext {m n : SortedMap α} (h : ∀ key, m.get? key = n.get? key) : m = n := by
  cases m with
  | mk a ha =>
    cases n with
    | mk b hb =>
      obtain rfl := ha.ext hb h
      rfl

theorem mem_keys_iff (m : SortedMap α) (key : String) : key ∈ m.keys ↔ m.contains key = true := by
  rw [contains, Option.isSome_iff_exists, keys, List.mem_map]
  constructor
  · rintro ⟨⟨k, value⟩, hmem, rfl⟩
    exact ⟨value, m.sorted.lookup_eq_some.2 hmem⟩
  · rintro ⟨value, hvalue⟩
    exact ⟨(key, value), m.sorted.lookup_eq_some.1 hvalue, rfl⟩

@[simp] theorem get?_empty (key : String) : (empty : SortedMap α).get? key = none := rfl

@[simp] theorem get?_insert (m : SortedMap α) (key : String) (value : α) (k : String) :
    (m.insert key value).get? k = if k = key then some value else m.get? k :=
  Entries.lookup_insert m.entries key value k

@[simp] theorem get?_erase (m : SortedMap α) (key k : String) :
    (m.erase key).get? k = if k = key then none else m.get? k :=
  Entries.lookup_erase m.entries key k

theorem entries_foldl_insert (m : SortedMap α) {rest : List (String × α)}
    (h : Entries.Sorted (m.entries ++ rest)) :
    (rest.foldl (fun m e => m.insert e.1 e.2) m).entries = m.entries ++ rest := by
  induction rest generalizing m with
  | nil => rw [List.foldl_nil, List.append_nil]
  | cons e rest ih =>
    have hbefore : ∀ a ∈ m.entries, a.1 < e.1 := fun a ha =>
      (List.pairwise_append.1 h).2.2 a ha e List.mem_cons_self
    have hinsert : (m.insert e.1 e.2).entries = m.entries ++ [e] := Entries.insert_of_last hbefore
    rw [List.foldl_cons, ih, hinsert, List.append_assoc, List.singleton_append]
    rwa [hinsert, List.append_assoc, List.singleton_append]

/-- A map is the map of its entries. -/
theorem ofList_entries (m : SortedMap α) : ofList m.entries = m := by
  have hentries : (ofList m.entries).entries = m.entries := entries_foldl_insert empty m.sorted
  generalize ofList m.entries = n at hentries
  cases n
  cases m
  cases hentries
  rfl

end SortedMap

/-- A finite set of texts. -/
abbrev TextSet := SortedMap Unit

end Cutscene
