import Cutscene.Cast
/-!
# Places in a cast

Names may repeat in a cast, so an actor is told by its place.  A name means the actor at the first
place that has it (`FirstAt`), and whatever is done to a name is done to the actor at that place and
to no one else (`only_modify`).
-/

namespace Cutscene

/-- What stays of an actor that neither moves nor is changed into another one. -/
def Actor.standing (a : Actor) : String × Position × Float32 × Float32 :=
  (a.name, a.position, a.tileSize, a.walkSpeed)

namespace Cast

/-- The first actor of a name, and its place. -/
structure FirstAt (c : Cast) (name : String) (k : Nat) (a : Actor) : Prop where
  actor : c.actors[k]? = some a
  name_eq : a.name = name
  earlier : ∀ i b, i < k → c.actors[i]? = some b → b.name ≠ name

variable {c c' : Cast} {name : String} {k : Nat} {a : Actor}

theorem exists_firstAt_of_get? (h : c.get? name = some a) : ∃ k, c.FirstAt name k a := by
  obtain ⟨hname, k, hk, hactor, hearlier⟩ := List.find?_eq_some_iff_getElem.1 h
  refine ⟨k, List.getElem?_eq_some_iff.2 ⟨hk, hactor⟩, by simpa using hname, ?_⟩
  intro i b hi hb
  obtain ⟨_, rfl⟩ := List.getElem?_eq_some_iff.1 hb
  simpa using hearlier i hi

theorem FirstAt.get? (h : c.FirstAt name k a) : c.get? name = some a := by
  obtain ⟨hk, hactor⟩ := List.getElem?_eq_some_iff.1 h.actor
  refine List.find?_eq_some_iff_getElem.2 ⟨by simpa using h.name_eq, k, hk, hactor, ?_⟩
  intro i hi
  simpa using h.earlier i _ hi (List.getElem?_eq_getElem (Nat.lt_trans hi hk))

theorem FirstAt.unique {i : Nat} {b : Actor} (h : c.FirstAt name k a) (h' : c.FirstAt name i b) :
    i = k ∧ b = a := by
  rcases Nat.lt_trichotomy i k with hlt | rfl | hgt
  · exact absurd h'.name_eq (h.earlier i b hlt h'.actor)
  · exact ⟨rfl, Option.some.inj (h'.actor.symm.trans h.actor)⟩
  · exact absurd h.name_eq (h'.earlier k a hgt h.actor)

theorem FirstAt.actors_modify (h : c.FirstAt name k a) (f : Actor → Actor) :
    (c.modify name f).actors = c.actors.set k (f a) := by
  obtain ⟨actors⟩ := c
  obtain ⟨hactor, hname, hearlier⟩ := h
  simp only [modify] at *
  induction actors generalizing k with
  | nil => simp at hactor
  | cons b rest ih =>
      cases k with
      | zero =>
          obtain rfl : b = a := Option.some.inj hactor
          rw [modifyFirst, if_pos hname, List.set_cons_zero]
      | succ k =>
          have hb : b.name ≠ name := hearlier 0 b (Nat.succ_pos k) rfl
          rw [modifyFirst, if_neg hb, List.set_cons_succ]
          exact congrArg (b :: ·) (ih hactor fun i d hi => hearlier (i + 1) d (by omega))

theorem FirstAt.modify (h : c.FirstAt name k a) {f : Actor → Actor} (hf : (f a).name = a.name) :
    (c.modify name f).FirstAt name k (f a) := by
  have hactors := h.actors_modify f
  refine ⟨?_, hf.trans h.name_eq, fun i b hi hb => ?_⟩
  · rw [hactors]
    exact List.getElem?_set_self (List.getElem?_eq_some_iff.1 h.actor).1
  · rw [hactors, List.getElem?_set_ne (by omega)] at hb
    exact h.earlier i b hi hb

theorem unnamed_of_get?_none (h : c.get? name = none) : ∀ a ∈ c.actors, a.name ≠ name := by
  intro a ha
  simpa using List.find?_eq_none.1 h a ha

theorem modify_of_get?_none (h : c.get? name = none) (f : Actor → Actor) :
    c.modify name f = c := by
  have hnames := unnamed_of_get?_none h
  obtain ⟨actors⟩ := c
  simp only [modify, mk.injEq]
  clear h
  induction actors with
  | nil => rfl
  | cons a actors ih =>
      have ha := hnames a List.mem_cons_self
      simp only [modifyFirst, ha, if_false]
      rw [ih fun b hb => hnames b (List.mem_cons_of_mem _ hb)]

theorem actor_of_modify {f : Actor → Actor} (h : (c.modify name f).actors[k]? = some a) :
    c.actors[k]? = some a ∨ ∃ b, c.FirstAt name k b ∧ a = f b := by
  cases hget : c.get? name with
  | none =>
      rw [modify_of_get?_none hget] at h
      exact .inl h
  | some b =>
      obtain ⟨i, hfirst⟩ := exists_firstAt_of_get? hget
      rw [hfirst.actors_modify] at h
      by_cases hik : i = k
      · subst hik
        rw [List.getElem?_set_self (List.getElem?_eq_some_iff.1 hfirst.actor).1] at h
        exact .inr ⟨b, hfirst, (Option.some.inj h).symm⟩
      · rw [List.getElem?_set_ne hik] at h
        exact .inl h

/-- The first actor of a name has changed and no one else, or no one has that name. -/
inductive Only (name : String) (f : Actor → Actor) (c : Cast) : Cast → Prop where
  | changed {k : Nat} {a : Actor} {c' : Cast} : c.FirstAt name k a →
      c'.actors = c.actors.set k (f a) → Only name f c c'
  | missing : (∀ a ∈ c.actors, a.name ≠ name) → Only name f c c

theorem only_modify (c : Cast) (name : String) (f : Actor → Actor) :
    Only name f c (c.modify name f) := by
  cases hget : c.get? name with
  | none =>
      rw [modify_of_get?_none hget]
      exact .missing (unnamed_of_get?_none hget)
  | some a =>
      obtain ⟨k, hfirst⟩ := exists_firstAt_of_get? hget
      exact .changed hfirst (hfirst.actors_modify f)

theorem Only.standing_eq {f : Actor → Actor} (h : Only name f c c')
    (hf : ∀ a : Actor, (f a).standing = a.standing) :
    c'.actors.map Actor.standing = c.actors.map Actor.standing := by
  cases h with
  | missing => rfl
  | @changed k a _ hfirst hactors =>
      obtain ⟨hk, rfl⟩ := List.getElem?_eq_some_iff.1 hfirst.actor
      have hmapped : k < (c.actors.map Actor.standing).length := by rwa [List.length_map]
      have hsame := List.set_getElem_self hmapped
      rwa [List.getElem_map, ← hf, ← List.map_set, ← hactors] at hsame

end Cast

end Cutscene
