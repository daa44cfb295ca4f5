import Cutscene.Proofs.Json.Decoding
import Cutscene.Proofs.Json.Layout
import Mathlib.Data.List.Perm.Basic
/-!
# The members of a record in any order

What a record is read as depends on the members that name its fields and on nothing else: not on
their order, if its fields do not get in each other's way (`Record.Commutes`), not on which of the
names of a field they use, and not on other members (`Rearranged.replaces`).  Of a tagged object all
that counts is which of its members is the tag and what the others are (`Tree.tagged_object`).
-/

namespace Cutscene.Json

/-- Two fields are set in either order with the same result. -/
def Field.Commute {ν ε σ : Type} (f g : Field ν ε σ) : Prop :=
  ∀ v w set set', f.read v = .ok set → g.read w = .ok set' → ∀ s, set (set' s) = set' (set s)

/-- The fields of a record do not get in each other's way. -/
def Record.Commutes {ν ε σ α : Type} (r : Record ν ε σ α) : Prop :=
  r.fields.Pairwise Field.Commute

namespace Record

variable {ν ε σ α : Type} {r : Record ν ε σ α}

theorem getElem?_of_field? {key : String} {f : Field ν ε σ} {k : Nat}
    (h : r.field? key = some (f, k)) : r.fields[k]? = some f :=
  List.mk_mem_zipIdx_iff_getElem?.1 (List.mem_of_find?_eq_some h)

theorem Commutes.commute (hr : r.Commutes) {f g : Field ν ε σ} {k l : Nat}
    (hf : r.fields[k]? = some f) (hg : r.fields[l]? = some g) (hlt : k < l) : f.Commute g := by
  obtain ⟨hk, rfl⟩ := List.getElem?_eq_some_iff.1 hf
  obtain ⟨hl, rfl⟩ := List.getElem?_eq_some_iff.1 hg
  exact List.pairwise_iff_getElem.1 hr k l hk hl hlt

/-- Two fields of one record are set in either order with the same result. -/
theorem Commutes.commute_of_ne (hr : r.Commutes) {f g : Field ν ε σ} {k l : Nat}
    (hf : r.fields[k]? = some f) (hg : r.fields[l]? = some g) (hne : k ≠ l) : f.Commute g := by
  rcases Nat.lt_or_gt_of_ne hne with hlt | hgt
  · exact hr.commute hf hg hlt
  · exact fun v w set set' hset hset' s => (hr.commute hg hf hgt w v set' set hset' hset s).symm

theorem field?_eq_none {name : String} :
    r.field? name = none ↔ ∀ f ∈ r.fields, name ∉ f.names := by
  rw [field?, List.find?_eq_none]
  constructor
  · intro h f hf
    obtain ⟨k, hk, rfl⟩ := List.getElem_of_mem hf
    simpa using h (r.fields[k], k) (List.mk_mem_zipIdx_iff_getElem?.2 (List.getElem?_eq_getElem hk))
  · rintro h ⟨f, k⟩ hf
    have hmem := List.mem_of_getElem? (List.mk_mem_zipIdx_iff_getElem?.1 hf)
    simpa using h f hmem

end Record

namespace Value

variable {σ α : Type} {r : Record Value Cause σ α} {seen : List Nat} {collected result : σ}
  {name : String} {v : Value} {rest : List (String × Value)}

theorem recordMembers_unknown (hfield : r.field? name = none) :
    recordMembers r seen collected ((name, v) :: rest) = recordMembers r seen collected rest := by
  rw [recordMembers, hfield]

theorem recordMembers_known {f : Field Value Cause σ} {k : Nat}
    (hfield : r.field? name = some (f, k)) :
    recordMembers r seen collected ((name, v) :: rest) = .ok result ↔
      k ∉ seen ∧ ∃ set, f.read v = .ok set ∧
        recordMembers r (k :: seen) (set collected) rest = .ok result := by
  rw [recordMembers, hfield]
  by_cases hseen : k ∈ seen
  · simp [hseen]
  · simp [hseen, bind_eq_ok]

/-- Only which fields were named before matters. -/
theorem recordMembers_seen {seen' : List Nat} (h : ∀ k, k ∈ seen ↔ k ∈ seen') :
    recordMembers r seen collected rest = recordMembers r seen' collected rest := by
  induction rest generalizing seen seen' collected with
  | nil => rfl
  | cons m rest ih =>
      obtain ⟨name, v⟩ := m
      have hcontains : ∀ k, seen.contains k = seen'.contains k := fun k => by simp [h k]
      have hmore : ∀ k collected, recordMembers r (k :: seen) collected rest =
          recordMembers r (k :: seen') collected rest :=
        fun k collected => ih fun l => by simp [h l]
      simp only [recordMembers, ih h, hcontains, hmore]

/-- The order of the members of a record does not matter. -/
theorem recordMembers_perm (hr : r.Commutes) {ms ms' : List (String × Value)} (h : ms.Perm ms') :
    recordMembers r seen collected ms = .ok result →
      recordMembers r seen collected ms' = .ok result := by
  induction h generalizing seen collected with
  | nil => exact id
  | cons m _ ih =>
      obtain ⟨name, v⟩ := m
      cases hfield : r.field? name with
      | none =>
          rw [recordMembers_unknown hfield, recordMembers_unknown hfield]
          exact ih
      | some fk =>
          obtain ⟨f, k⟩ := fk
          rw [recordMembers_known hfield, recordMembers_known hfield]
          rintro ⟨hnew, set, hset, hrest⟩
          exact ⟨hnew, set, hset, ih hrest⟩
  | swap m m' ms =>
      obtain ⟨name, v⟩ := m
      obtain ⟨name', v'⟩ := m'
      cases hfield : r.field? name with
      | none =>
          cases hfield' : r.field? name' with
          | none =>
              simp only [recordMembers_unknown hfield, recordMembers_unknown hfield']
              exact id
          | some gl =>
              simp only [recordMembers_unknown hfield, recordMembers_known hfield']
              exact id
      | some fk =>
          obtain ⟨f, k⟩ := fk
          cases hfield' : r.field? name' with
          | none =>
              simp only [recordMembers_known hfield, recordMembers_unknown hfield']
              exact id
          | some gl =>
              obtain ⟨g, l⟩ := gl
              simp only [recordMembers_known hfield, recordMembers_known hfield']
              rintro ⟨hl, set', hset', hk, set, hset, hrest⟩
              have hne := List.ne_of_not_mem_cons hk
              have hcommute := hr.commute_of_ne (Record.getElem?_of_field? hfield)
                (Record.getElem?_of_field? hfield') hne v v' set set' hset hset' collected
              refine ⟨List.not_mem_of_not_mem_cons hk, set, hset,
                List.not_mem_cons_of_ne_of_not_mem hne.symm hl, set', hset', ?_⟩
              rw [← hcommute, ← hrest]
              exact recordMembers_seen fun n => by simp [or_left_comm]
  | trans _ _ ih ih' => exact fun h => ih' (ih h)

theorem recordMembers_filter {tag : String} (htag : r.field? tag = none)
    (ms : List (String × Value)) :
    recordMembers r seen collected (ms.filter (·.1 ≠ tag)) = recordMembers r seen collected ms := by
  induction ms generalizing seen collected with
  | nil => rfl
  | cons m ms ih =>
      obtain ⟨name, v⟩ := m
      by_cases hname : name = tag
      · subst hname
        rw [List.filter_cons_of_neg (by simp), recordMembers_unknown htag, ih]
      · rw [List.filter_cons_of_pos (by simpa using hname)]
        simp only [recordMembers, ih]

theorem record_object_eq_ok {ms : List (String × Value)} {x : α} :
    record r (.object ms) = .ok x ↔ ∃ collected,
      recordMembers r [] r.initial ms = .ok collected ∧ r.finish collected = .ok x := by
  simp only [record, bind_eq_ok, mapError_eq_ok]

theorem listOf_replace {decode : Value → Except Cause α} {v' : Value}
    (h : ∀ x, decode v = .ok x → decode v' = .ok x) {front back : List Value} {xs : List α}
    (hxs : listOf decode (.list (front ++ v :: back)) = .ok xs) :
    listOf decode (.list (front ++ v' :: back)) = .ok xs := by
  rw [listOf] at hxs ⊢
  induction front generalizing xs with
  | nil =>
      rw [List.nil_append, List.mapM_cons] at hxs ⊢
      obtain ⟨x, hx, hxs⟩ := bind_eq_ok.1 hxs
      exact bind_eq_ok.2 ⟨x, h x hx, hxs⟩
  | cons w front ih =>
      rw [List.cons_append, List.mapM_cons] at hxs ⊢
      obtain ⟨x, hx, hxs⟩ := bind_eq_ok.1 hxs
      obtain ⟨more, hmore, hxs⟩ := bind_eq_ok.1 hxs
      exact bind_eq_ok.2 ⟨x, hx, bind_eq_ok.2 ⟨more, ih hmore, hxs⟩⟩

end Value

/-! ## Tags -/

namespace Tree

variable {α : Type} {tag : String} {known : List (String × α)} {x : α} {i : Nat}
  {members : List (Except Fault String × Tree)} {others : List (String × Value)}

/-- A tree that begins as a text is that text. -/
def Plain (t : Tree) : Prop :=
  ∀ s, t.found = .ok (.text s) → t.read = .ok (.text s)

theorem found_of_read {t : Tree} {v : Value} (h : t.read = .ok v) : t.found = .ok v.found := by
  cases t with
  | null | bool =>
      cases h
      rfl
  | number n =>
      cases n <;> cases h
      rfl
  | text s =>
      cases s <;> cases h
      rfl
  | list items stop =>
      obtain ⟨_, rfl, _⟩ := read_list_eq_ok.1 h
      rfl
  | object members stop =>
      obtain ⟨_, rfl, _⟩ := read_object_eq_ok.1 h
      rfl
  | buried | absent | broken => cases h

theorem plain_scanWord {t : Tree} (h : t.Plain) (word cs : List Char) :
    (scanWord t word cs).1.Plain := by
  rcases scanWord_cases t word cs with ht | ⟨fault, ht⟩
  · rwa [ht]
  · rw [ht]
    intro s hs
    cases hs

theorem plain_scanNumber (negative : Bool) (cs : List Char) :
    (scanNumber negative cs).1.Plain := by
  unfold scanNumber
  split
  · rename_i x rest _
    intro s hs
    cases hvalue : x.value rest <;> simp [found, hvalue, Except.map] at hs
  · exact fun s hs => by cases hs

theorem plain_scanText (cs : List Char) : (scanText cs).1.Plain := by
  unfold scanText
  split
  · rename_i content _ _
    intro s hs
    cases content <;> cases hs
    rfl
  · exact fun s hs => by cases hs

theorem plain_bury {depth : Nat} {opening : List Char} {t : Tree}
    (h : ∀ s, t.found ≠ .ok (.text s)) : (bury depth opening t).Plain := by
  unfold bury
  split <;> exact fun s hs => absurd hs (h s)

theorem plain_scanValue (depth fuel : Nat) (cs : List Char) :
    (scanValue depth fuel cs).1.Plain := by
  cases fuel with
  | zero => exact fun s hs => by cases hs
  | succ fuel =>
      rw [scanValue]
      cases skipSpace cs with
      | nil => exact fun s hs => by cases hs
      | cons c rest =>
          dsimp only
          split_ifs
          · exact plain_scanWord (fun s hs => by cases hs) _ _
          · exact plain_scanWord (fun s hs => by cases hs) _ _
          · exact plain_scanWord (fun s hs => by cases hs) _ _
          · exact plain_scanNumber _ _
          · exact plain_scanNumber _ _
          · exact plain_scanText _
          · exact plain_bury fun s hs => by cases hs
          · exact plain_bury fun s hs => by cases hs
          · exact fun s hs => by cases hs

theorem plain_scanMembers (depth fuel : Nat) (first : Bool) (cs : List Char) :
    ∀ m ∈ (scanMembers depth fuel first cs).1, m.2.Plain := by
  induction fuel generalizing first cs with
  | zero => simp [scanMembers]
  | succ fuel ih =>
      rw [scanMembers]
      split
      · simp
      · split
        · simp
        · split
          · exact List.forall_mem_cons.2 ⟨fun s hs => (by cases hs), by simp⟩
          · dsimp only
            split
            · exact List.forall_mem_cons.2 ⟨plain_scanValue _ _ _, ih _ _⟩
            · exact List.forall_mem_cons.2 ⟨plain_scanValue _ _ _, by simp⟩

theorem knownName_eq_ok {t : Tree} (h : t.Plain) : t.knownName known = .ok x ↔
    ∃ name, t.read = .ok (.text name) ∧ lookUp known name = .ok x := by
  rw [knownName, scalar_eq_ok]
  constructor
  · rintro ⟨found, hfound, hget⟩
    cases found with
    | text name => exact ⟨name, h name hfound, hget⟩
    | _ => cases hget
  · rintro ⟨name, hread, hname⟩
    exact ⟨.text name, found_of_read hread, hname⟩

theorem readMembers_cons {key : Except Fault String} {t : Tree} {vs : List (String × Value)} :
    readMembers ((key, t) :: members) = .ok vs ↔ ∃ name v more, vs = (name, v) :: more ∧
      key = .ok name ∧ t.read = .ok v ∧ readMembers members = .ok more := by
  simp only [readMembers, bind_eq_ok, pure, Except.pure, Except.ok.injEq]
  constructor
  · rintro ⟨name, hkey, v, hv, more, hmore, rfl⟩
    exact ⟨name, v, more, rfl, hkey, hv, hmore⟩
  · rintro ⟨name, v, more, rfl, hkey, hv, hmore⟩
    exact ⟨name, hkey, v, hv, more, hmore, rfl⟩

/-- A member that is not the tag is read completely. -/
theorem taggedMembers_other {key : Except Fault String} {t : Tree} {name : String}
    {chosen chosen' : Option α} (hkey : key = .ok name) (hname : name ≠ tag) :
    taggedMembers tag known i chosen ((key, t) :: members) = .ok (chosen', others) ↔
      ∃ v more, others = (name, v) :: more ∧ t.read = .ok v ∧
        taggedMembers tag known (i + 1) chosen members = .ok (chosen', more) := by
  subst hkey
  rw [taggedMembers]
  simp only [bind_eq_ok, mapError_eq_ok, Except.ok.injEq, exists_eq_left', if_neg hname, pure,
    Except.pure, Prod.mk.injEq, Prod.exists]
  constructor
  · rintro ⟨v, hv, _, more, hmore, rfl, rfl⟩
    exact ⟨v, more, rfl, hv, hmore⟩
  · rintro ⟨v, more, rfl, hv, hmore⟩
    exact ⟨v, hv, chosen', more, hmore, rfl, rfl⟩

theorem taggedMembers_tag {t : Tree} {chosen : Option α} :
    taggedMembers tag known i none ((.ok tag, t) :: members) = .ok (chosen, others) ↔
      ∃ x, t.knownName known = .ok x ∧
        taggedMembers tag known (i + 1) (some x) members = .ok (chosen, others) := by
  rw [taggedMembers]
  simp [bind_eq_ok, mapError_eq_ok]

/-- Behind the tag no other tag may stand. -/
theorem taggedMembers_chosen {chosen : Option α} :
    taggedMembers tag known i (some x) members = .ok (chosen, others) ↔
      chosen = some x ∧ readMembers members = .ok others ∧ ∀ m ∈ others, m.1 ≠ tag := by
  induction members generalizing i others with
  | nil =>
      simp only [taggedMembers, readMembers, Except.ok.injEq, Prod.mk.injEq]
      constructor
      · rintro ⟨rfl, rfl⟩
        exact ⟨rfl, rfl, by simp⟩
      · rintro ⟨rfl, rfl, _⟩
        exact ⟨rfl, rfl⟩
  | cons m members ih =>
      obtain ⟨key, t⟩ := m
      rw [readMembers_cons]
      cases key with
      | error fault => simp [taggedMembers, bind, Except.bind, Except.mapError]
      | ok name =>
          by_cases hname : name = tag
          · subst hname
            simp only [taggedMembers, Except.mapError, bind, Except.bind, if_true,
              Option.isSome_some]
            constructor
            · intro h
              cases h
            · rintro ⟨_, ⟨_, v, more, rfl, ⟨⟩, _⟩, hnone⟩
              exact absurd rfl (hnone _ List.mem_cons_self)
          · rw [taggedMembers_other rfl hname]
            simp only [ih]
            constructor
            · rintro ⟨v, more, rfl, hv, rfl, hmore, hnone⟩
              exact ⟨rfl, ⟨name, v, more, rfl, rfl, hv, hmore⟩,
                List.forall_mem_cons.2 ⟨hname, hnone⟩⟩
            · rintro ⟨rfl, ⟨_, v, more, rfl, ⟨⟩, hv, hmore⟩, hnone⟩
              exact ⟨v, more, rfl, hv, rfl, hmore, (List.forall_mem_cons.1 hnone).2⟩

/-- A tagged object has one tag, at any place, and its other members are read completely. -/
theorem taggedMembers_eq_ok (hplain : ∀ m ∈ members, m.2.Plain) :
    taggedMembers tag known i none members = .ok (some x, others) ↔
      ∃ name vs, readMembers members = .ok vs ∧ vs.filter (·.1 = tag) = [(tag, .text name)] ∧
        lookUp known name = .ok x ∧ others = vs.filter (·.1 ≠ tag) := by
  induction members generalizing i others with
  | nil =>
      simp [taggedMembers, readMembers]
  | cons m members ih =>
      obtain ⟨key, t⟩ := m
      obtain ⟨hplain, hplains⟩ := List.forall_mem_cons.1 hplain
      simp only [readMembers_cons]
      cases key with
      | error fault => simp [taggedMembers, bind, Except.bind, Except.mapError]
      | ok name =>
          by_cases hname : name = tag
          · subst hname
            simp only [taggedMembers_tag, taggedMembers_chosen, knownName_eq_ok hplain]
            constructor
            · rintro ⟨_, ⟨tagged, hv, hknown⟩, ⟨⟩, hothers, hnone⟩
              have hnone' : others.filter (·.1 = name) = [] :=
                List.filter_eq_nil_iff.2 fun m hm => by simpa using hnone m hm
              have hall : others.filter (·.1 ≠ name) = others :=
                List.filter_eq_self.2 fun m hm => by simpa using hnone m hm
              refine ⟨tagged, (name, .text tagged) :: others,
                ⟨name, _, others, rfl, rfl, hv, hothers⟩, ?_, hknown, ?_⟩
              · rw [List.filter_cons_of_pos (by simp), hnone']
              · rw [List.filter_cons_of_neg (by simp), hall]
            · rintro ⟨tagged, _, ⟨_, v, vs, rfl, ⟨⟩, hv, hvs⟩, htag, hknown, rfl⟩
              rw [List.filter_cons_of_pos (by simp)] at htag
              rw [List.filter_cons_of_neg (by simp)]
              obtain ⟨hhead, hnone⟩ := List.cons.inj htag
              obtain rfl : v = .text tagged := (Prod.mk.inj hhead).2
              have hnone' : ∀ m ∈ vs, m.1 ≠ name := fun m hm => by
                simpa using List.filter_eq_nil_iff.1 hnone m hm
              have hall : vs.filter (·.1 ≠ name) = vs :=
                List.filter_eq_self.2 fun m hm => by simpa using hnone' m hm
              rw [hall]
              exact ⟨x, ⟨tagged, hv, hknown⟩, rfl, hvs, hnone'⟩
          · rw [taggedMembers_other rfl hname]
            simp only [ih hplains]
            constructor
            · rintro ⟨v, more, rfl, hv, tagged, vs, hvs, htag, hknown, rfl⟩
              refine ⟨tagged, (name, v) :: vs, ⟨name, v, vs, rfl, rfl, hv, hvs⟩, ?_, hknown, ?_⟩
              · rwa [List.filter_cons_of_neg (by simpa using hname)]
              · rw [List.filter_cons_of_pos (by simpa using hname)]
            · rintro ⟨tagged, _, ⟨_, v, vs, rfl, ⟨⟩, hv, hvs⟩, htag, hknown, rfl⟩
              rw [List.filter_cons_of_neg (by simpa using hname)] at htag
              rw [List.filter_cons_of_pos (by simpa using hname)]
              exact ⟨v, _, rfl, hv, tagged, vs, hvs, htag, hknown, rfl⟩

/-- What is read of an object with a tag is said by its members. -/
theorem tagged_object {title : String} {stop : Stop} {v : Value}
    (hplain : ∀ m ∈ members, m.2.Plain) :
    tagged title tag known (.object members stop) = .ok (x, v) ↔ stop = .closed ∧
      ∃ name vs, readMembers members = .ok vs ∧ vs.filter (·.1 = tag) = [(tag, .text name)] ∧
        lookUp known name = .ok x ∧ v = .object (vs.filter (·.1 ≠ tag)) := by
  rw [tagged]
  simp only [bind_eq_ok]
  constructor
  · rintro ⟨⟨chosen, others⟩, hmembers, _, hclose, hv⟩
    cases stop with
    | cut => cases hclose
    | closed =>
        cases chosen with
        | none => cases hv
        | some y =>
            cases hv
            obtain ⟨name, vs, hvs, htag, hname, rfl⟩ := (taggedMembers_eq_ok hplain).1 hmembers
            exact ⟨rfl, name, vs, hvs, htag, hname, rfl⟩
  · rintro ⟨rfl, name, vs, hvs, htag, hname, rfl⟩
    have hmembers := (taggedMembers_eq_ok (i := 0) hplain).2 ⟨name, vs, hvs, htag, hname, rfl⟩
    exact ⟨_, hmembers, (), rfl, rfl⟩

end Tree

/-! ## Members written in another way -/

/-- The members of a record, with `depth` containers around each of them, written in another way:
in another order, under another name of the same field, or with one more among them that is none of
the fields.  The names of one field stand together in `names`. -/
inductive Rearranged (depth : Nat) (names : List (List String)) :
    List Member → List Member → Prop where
  | reorder {ms ms' : List Member} : ms.Perm ms' → Rearranged depth names ms ms'
  | rename {m : Member} {ms : List Member} {group : List String} {name name' : String}
      {key : List Char} : group ∈ names → name ∈ group → name' ∈ group → m.Named name →
      { m with key }.Named name' → Rearranged depth names (m :: ms) ({ m with key } :: ms)
  | insert {m : Member} {ms : List Member} {nv : String × Value} : m.Tells depth nv →
      (∀ group ∈ names, nv.1 ∉ group) → Rearranged depth names ms (m :: ms)
  | trans {ms ms' ms'' : List Member} : Rearranged depth names ms ms' →
      Rearranged depth names ms' ms'' → Rearranged depth names ms ms''

/-- All fields of the record are among `names`, where those of one field stand together. -/
structure Record.Follows {ν ε σ α : Type} (r : Record ν ε σ α) (names : List (List String)) :
    Prop where
  known : ∀ f ∈ r.fields, f.names ∈ names
  same : ∀ group ∈ names, ∀ name ∈ group, ∀ name' ∈ group, r.field? name = r.field? name'
  commutes : r.Commutes

/-- What is read of the first members is read of the second ones too, and so is a tag whose name is
none of a field. -/
structure Replaces (names : List (List String)) (vs vs' : List (String × Value)) : Prop where
  record : ∀ {σ α : Type} {r : Record Value Cause σ α}, r.Follows names → ∀ result,
    Value.recordMembers r [] r.initial vs = .ok result →
      Value.recordMembers r [] r.initial vs' = .ok result
  tag : ∀ tag v, [tag] ∈ names → (∀ group ∈ names, tag ∈ group → group = [tag]) →
    vs.filter (·.1 = tag) = [(tag, v)] → vs'.filter (·.1 = tag) = [(tag, v)]

namespace Replaces

variable {names : List (List String)} {vs vs' vs'' : List (String × Value)}

theorem of_perm (h : vs.Perm vs') : Replaces names vs vs' where
  record hr _ := Value.recordMembers_perm hr.commutes h
  tag tag v _ _ htag := by
    have hfilter := h.symm.filter (·.1 = tag)
    rw [htag] at hfilter
    exact List.perm_singleton.1 hfilter

theorem rename {group : List String} {name name' : String} (hgroup : group ∈ names)
    (hname : name ∈ group) (hname' : name' ∈ group) (v : Value) (vs : List (String × Value)) :
    Replaces names ((name, v) :: vs) ((name', v) :: vs) where
  record hr result hread := by
    have hsame := hr.same group hgroup _ hname _ hname'
    simp only [Value.recordMembers, hsame] at hread ⊢
    exact hread
  tag tag w _ hapart hfilter := by
    have htag : name = tag ↔ name' = tag := by
      constructor
      · rintro rfl
        simpa [hapart group hgroup hname] using hname'
      · rintro rfl
        simpa [hapart group hgroup hname'] using hname
    by_cases hcase : name = tag
    · rw [htag.1 hcase, ← hfilter, hcase]
    · have hcase' : name' ≠ tag := fun h => hcase (htag.2 h)
      rw [List.filter_cons_of_neg (by simpa using hcase)] at hfilter
      rw [List.filter_cons_of_neg (by simpa using hcase')]
      exact hfilter

theorem insert {nv : String × Value} (hnew : ∀ group ∈ names, nv.1 ∉ group) :
    Replaces names vs (nv :: vs) where
  record {_ _ r} hr _ hread := by
    have hfield : r.field? nv.1 = none :=
      Record.field?_eq_none.2 fun f hf => hnew _ (hr.known f hf)
    exact (Value.recordMembers_unknown hfield).trans hread
  tag tag v htag _ hfilter := by
    have hne : nv.1 ≠ tag := by
      rintro rfl
      exact hnew _ htag List.mem_cons_self
    rw [List.filter_cons_of_neg (by simpa using hne)]
    exact hfilter

theorem trans (h : Replaces names vs vs') (h' : Replaces names vs' vs'') :
    Replaces names vs vs'' where
  record hr result hread := h'.record hr result (h.record hr result hread)
  tag tag v htag hapart hfilter := h'.tag tag v htag hapart (h.tag tag v htag hapart hfilter)

theorem object {σ α : Type} {r : Record Value Cause σ α} {x : α} (h : Replaces names vs vs')
    (hr : r.Follows names) (hx : Value.record r (.object vs) = .ok x) :
    Value.record r (.object vs') = .ok x := by
  obtain ⟨collected, hmembers, hfinish⟩ := Value.record_object_eq_ok.1 hx
  exact Value.record_object_eq_ok.2 ⟨collected, h.record hr collected hmembers, hfinish⟩

end Replaces

theorem Rearranged.replaces {depth : Nat} {names : List (List String)} {ms ms' : List Member}
    (h : Rearranged depth names ms ms') {vs : List (String × Value)}
    (hms : List.Forall₂ (Member.Tells depth) ms vs) :
    ∃ vs', List.Forall₂ (Member.Tells depth) ms' vs' ∧ Replaces names vs vs' := by
  induction h generalizing vs with
  | reorder hperm =>
      obtain ⟨vs', hms', hvs⟩ := List.perm_comp_forall₂ hperm.symm hms
      exact ⟨vs', hms', .of_perm hvs.symm⟩
  | @rename m ms group name name' key hgroup hname hname' hnamed hnamed' =>
      cases hms with
      | @cons _ nv _ vs hm hms =>
          obtain ⟨name, v⟩ := nv
          obtain rfl : name = _ := hm.named.unique hnamed
          exact ⟨(name', v) :: vs, .cons ⟨hnamed', hm.value⟩ hms, .rename hgroup hname hname' v vs⟩
  | @insert m ms nv hm hnew => exact ⟨nv :: vs, .cons hm hms, .insert hnew⟩
  | trans _ _ ih ih' =>
      obtain ⟨vs', hms', hvs'⟩ := ih hms
      obtain ⟨vs'', hms'', hvs''⟩ := ih' hms'
      exact ⟨vs'', hms'', hvs'.trans hvs''⟩

end Cutscene.Json
