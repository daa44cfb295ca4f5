import Cutscene.Proofs.Cast.Places
import Mathlib.Data.List.Perm.Lattice
/-!
# Tickets on their way

Which tickets the actors of a cast carry, and what turning an actor, sending one on a walk and a
frame make of them: a walk takes the ticket of the same actor's earlier walk out of the world, and a
frame hands over what it takes away from the actors (`tick_perm`).
-/

namespace Cutscene

/-- The ticket that an actor carries. -/
def Actor.ticket? (a : Actor) : Option Ticket :=
  a.journey.map (·.ticket)

namespace Cast

/-- The tickets that the actors carry. -/
def tickets (c : Cast) : List Ticket :=
  c.actors.filterMap (·.ticket?)

/-- The ticket that the first actor of a name carries. -/
def ticketOf? (c : Cast) (name : String) : Option Ticket :=
  (c.get? name).bind (·.ticket?)

theorem ticket?_of_journey {a : Actor} {j : Journey} (h : a.journey = some j) :
    a.ticket? = some j.ticket := by
  rw [Actor.ticket?, h]
  rfl

theorem ticketOf?_eq_some_iff {c : Cast} {name : String} {ticket : Ticket} :
    c.ticketOf? name = some ticket ↔ ∃ a, c.get? name = some a ∧ a.ticket? = some ticket :=
  Option.bind_eq_some_iff

theorem mem_tickets_of_ticketOf? {c : Cast} {name : String} {ticket : Ticket}
    (h : c.ticketOf? name = some ticket) : ticket ∈ c.tickets := by
  obtain ⟨a, hget, hticket⟩ := Option.bind_eq_some_iff.1 h
  exact List.mem_filterMap.2 ⟨a, List.mem_of_find?_eq_some hget, hticket⟩

theorem tickets_eq_nil {c : Cast} (h : c.anyoneWalking = false) : c.tickets = [] := by
  rw [tickets, List.filterMap_eq_nil_iff]
  intro a ha
  have hidle := List.any_eq_false.1 h a ha
  simpa [Actor.ticket?, Actor.isWalking] using hidle

/-! ## Changing one actor -/

/-- An actor that is found stands between others, and is the one that changes. -/
theorem exists_split_of_get? {c : Cast} {name : String} {a : Actor} (h : c.get? name = some a) :
    ∃ before behind, c.actors = before ++ a :: behind ∧
      ∀ f : Actor → Actor, (f a).name = a.name →
        (c.modify name f).actors = before ++ f a :: behind ∧
          (c.modify name f).get? name = some (f a) := by
  obtain ⟨k, hfirst⟩ := exists_firstAt_of_get? h
  obtain ⟨hk, rfl⟩ := List.getElem?_eq_some_iff.1 hfirst.actor
  refine ⟨c.actors.take k, c.actors.drop (k + 1), ?_, fun f hf => ⟨?_, (hfirst.modify hf).get?⟩⟩
  · rw [← List.drop_eq_getElem_cons hk, List.take_append_drop]
  · rw [hfirst.actors_modify, List.set_eq_take_append_cons_drop, if_pos hk]

@[simp] theorem tickets_face (c : Cast) (name : String) (direction : Direction) :
    (c.face name direction).tickets = c.tickets := by
  cases hget : c.get? name with
  | none => rw [face, modify_of_get?_none hget]
  | some a =>
      obtain ⟨before, behind, hactors, hmodify⟩ := exists_split_of_get? hget
      rw [tickets, face, (hmodify _ rfl).1, tickets, hactors]
      simp only [List.filterMap_append, List.filterMap_cons]
      rfl

/-- A walk adds its ticket and takes away the one that its walker carried, if any. -/
theorem tickets_walk {c : Cast} {name : String} {a : Actor} (h : c.get? name = some a)
    (tiles : UInt32) (direction : Direction) (ticket : Ticket) :
    ∃ rest, rest.Sublist c.tickets ∧ c.tickets.Perm ((c.ticketOf? name).toList ++ rest) ∧
      (c.walk name tiles direction ticket).tickets.Perm (ticket :: rest) := by
  obtain ⟨before, behind, hactors, hmodify⟩ := exists_split_of_get? h
  refine ⟨before.filterMap (·.ticket?) ++ behind.filterMap (·.ticket?), ?_, ?_, ?_⟩
  · rw [tickets, hactors, ← List.filterMap_append]
    exact (List.Sublist.append_left (List.sublist_cons_self a behind) before).filterMap _
  · rw [tickets, hactors, ticketOf?, h, Option.bind_some, List.filterMap_append,
      List.filterMap_cons]
    cases a.ticket? with
    | none => exact .refl _
    | some _ => exact List.perm_middle
  · rw [tickets, walk, (hmodify _ rfl).1, List.filterMap_append]
    exact List.perm_middle

theorem ticketOf?_walk {c : Cast} {name : String} {a : Actor} (h : c.get? name = some a)
    (tiles : UInt32) (direction : Direction) (ticket : Ticket) :
    (c.walk name tiles direction ticket).ticketOf? name = some ticket := by
  obtain ⟨_, _, _, hmodify⟩ := exists_split_of_get? h
  rw [ticketOf?, walk, (hmodify _ rfl).2]
  rfl

/-! ## Frames -/

/-- In a frame an actor stays on its walk, if it is on one, or comes to the end of it. -/
theorem tick_cases (a : Actor) (ms : Float32) :
    ((a.tick ms).1.journey = a.journey ∧ (a.tick ms).1.movement = a.movement ∧
        (a.tick ms).2 = none) ∨
      ∃ j, a.journey = some j ∧ (a.tick ms).1.journey = none ∧ (a.tick ms).1.movement = .idle ∧
        (a.tick ms).1.position = j.target ∧ (a.tick ms).2 = some j.ticket := by
  unfold Actor.tick
  cases hjourney : a.journey with
  | none => exact .inl ⟨hjourney, rfl, rfl⟩
  | some j =>
      dsimp only
      split
      · exact .inl ⟨rfl, rfl, rfl⟩
      · exact .inr ⟨j, rfl, rfl, rfl, rfl, rfl⟩

/-- In a frame an actor keeps its ticket or hands it over. -/
theorem ticket?_tick (a : Actor) (ms : Float32) :
    ((a.tick ms).1.ticket? = a.ticket? ∧ (a.tick ms).2 = none) ∨
      ((a.tick ms).1.ticket? = none ∧ (a.tick ms).2 = a.ticket?) := by
  unfold Actor.ticket?
  rcases tick_cases a ms with ⟨hsame, -, hnone⟩ | ⟨j, hjourney, hdone, -, -, hticket⟩
  · exact .inl ⟨by rw [hsame], hnone⟩
  · exact .inr ⟨by rw [hdone]; rfl, by rw [hjourney]; exact hticket⟩

theorem name_tick (a : Actor) (ms : Float32) : (a.tick ms).1.name = a.name := by
  unfold Actor.tick
  split
  · rfl
  · dsimp only
    split <;> rfl

/-- A frame loses no ticket and makes none. -/
theorem tick_perm (c : Cast) (ms : Float32) :
    ((c.tick ms).1.tickets ++ (c.tick ms).2).Perm c.tickets := by
  obtain ⟨actors⟩ := c
  simp only [tick, tickets]
  induction actors with
  | nil => exact .nil
  | cons a actors ih =>
      simp only [List.map_cons, List.filterMap_cons]
      rcases ticket?_tick a ms with ⟨hkept, hnone⟩ | ⟨hnone, hreturned⟩
      · rw [hkept, hnone]
        cases a.ticket? with
        | none => exact ih
        | some ticket => exact ih.cons ticket
      · rw [hnone, hreturned]
        cases a.ticket? with
        | none => exact ih
        | some ticket => exact List.perm_middle.trans (ih.cons ticket)

theorem get?_tick (c : Cast) (name : String) (ms : Float32) :
    (c.tick ms).1.get? name = (c.get? name).map fun a => (a.tick ms).1 := by
  simp only [get?, tick, List.find?_map, List.map_map]
  congr 2
  funext a
  exact congrArg (· == name) (name_tick a ms)

/-- What the first actor of a name carries, it carries on or hands over. -/
theorem ticketOf?_tick {c : Cast} {name : String} {ticket : Ticket}
    (h : c.ticketOf? name = some ticket) (ms : Float32) :
    (c.tick ms).1.ticketOf? name = some ticket ∨ ticket ∈ (c.tick ms).2 := by
  obtain ⟨a, hget, hticket⟩ := ticketOf?_eq_some_iff.1 h
  rcases ticket?_tick a ms with ⟨hkept, _⟩ | ⟨_, hreturned⟩
  · left
    rw [ticketOf?, get?_tick, hget]
    exact hkept.trans hticket
  · right
    simp only [tick, List.mem_filterMap, List.mem_map]
    exact ⟨a.tick ms, ⟨a, List.mem_of_find?_eq_some hget, rfl⟩, hreturned.trans hticket⟩

end Cast

/-! ## Tickets in the world -/

/-- Tickets below the next one, each of them once: what may be under way at a time. -/
structure Outstanding (n : Ticket) (tickets : List Ticket) : Prop where
  nodup : tickets.Nodup
  lt : ∀ ticket ∈ tickets, ticket < n

namespace Outstanding

variable {n : Ticket} {xs ys : List Ticket}

theorem nil (n : Ticket) : Outstanding n [] :=
  ⟨List.nodup_nil, by simp⟩

theorem of_perm (h : Outstanding n xs) (hperm : ys.Perm xs) : Outstanding n ys :=
  ⟨hperm.nodup_iff.2 h.nodup, fun ticket hmem => h.lt ticket (hperm.mem_iff.1 hmem)⟩

theorem of_sublist (h : Outstanding n xs) (hsub : ys.Sublist xs) : Outstanding n ys :=
  ⟨h.nodup.sublist hsub, fun ticket hmem => h.lt ticket (hsub.subset hmem)⟩

/-- The next ticket is none of those given out before. -/
theorem cons (h : Outstanding n xs) : Outstanding (n + 1) (n :: xs) where
  nodup := List.nodup_cons.2 ⟨fun hmem => Nat.lt_irrefl n (h.lt n hmem), h.nodup⟩
  lt := by
    intro ticket hmem
    rcases List.mem_cons.1 hmem with rfl | hmem
    · exact Nat.lt_succ_self _
    · exact Nat.lt_succ_of_lt (h.lt ticket hmem)

end Outstanding

end Cutscene
