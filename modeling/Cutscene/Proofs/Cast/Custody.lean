import Cutscene.Proofs.Cast.Tickets
/-!
# What becomes of the tickets

Between the walks that are asked for and the frames in which walkers arrive nothing is lost: the
tickets that are with the actors, that came back and that were dropped are those that were there and
those that were given since (`conserved`).  So each of them is in one place only (`Fate`), and one
that comes back tells of a walker that stands where its walk was to end (`Arrives`).
-/

namespace Cutscene

/-- The picture of an actor shows a walk just while it is on one.  So it is for an actor that has
not been sent anywhere, and no call makes it otherwise (`truthful_answer`). -/
def Actor.Truthful (a : Actor) : Prop :=
  a.movement = .walk ↔ a.isWalking = true

namespace Cast

/-! ## Calls -/

/-- The calls that change a cast. -/
inductive Call where
  | walk (name : String) (tiles : UInt32) (direction : Direction) (ticket : Ticket)
  | face (name : String) (direction : Direction)
  | tick (ms : Float32)

/-- The cast after a call, and the tickets that come back in it. -/
def answer (c : Cast) : Call → Cast × List Ticket
  | .walk name tiles direction ticket => (c.walk name tiles direction ticket, [])
  | .face name direction => (c.face name direction, [])
  | .tick ms => c.tick ms

/-- The ticket that an actor gets in a call, if there is an actor of that name. -/
def gives (c : Cast) : Call → List Ticket
  | .walk name _ _ ticket => if (c.get? name).isSome then [ticket] else []
  | _ => []

/-- The ticket that an actor had for a walk and loses in a call, which sends it on another. -/
def drops (c : Cast) : Call → List Ticket
  | .walk name _ _ _ => (c.ticketOf? name).toList
  | _ => []

def after (c : Cast) (calls : List Call) : Cast :=
  calls.foldl (fun c call => (c.answer call).1) c

/-- The tickets of each call of a list, one after the other. -/
def gathered (ticketsOf : Cast → Call → List Ticket) (c : Cast) : List Call → List Ticket
  | [] => []
  | call :: calls => ticketsOf c call ++ gathered ticketsOf (c.answer call).1 calls

def given : Cast → List Call → List Ticket :=
  gathered gives

def returned : Cast → List Call → List Ticket :=
  gathered fun c call => (c.answer call).2

def dropped : Cast → List Call → List Ticket :=
  gathered drops

/-! ## Conservation -/

theorem gives_walk {c : Cast} {name : String} {a : Actor} (h : c.get? name = some a)
    (tiles : UInt32) (direction : Direction) (ticket : Ticket) :
    c.gives (.walk name tiles direction ticket) = [ticket] := by
  rw [gives, h]
  rfl

open scoped List in
theorem walk_perm (c : Cast) (name : String) (tiles : UInt32) (direction : Direction)
    (ticket : Ticket) :
    ((c.walk name tiles direction ticket).tickets ++ (c.ticketOf? name).toList).Perm
      (c.tickets ++ c.gives (.walk name tiles direction ticket)) := by
  cases hget : c.get? name with
  | none =>
      rw [walk, modify_of_get?_none hget, ticketOf?, gives, hget]
      exact .refl _
  | some a =>
      obtain ⟨rest, -, hbefore, hafter⟩ := tickets_walk hget tiles direction ticket
      rw [gives_walk hget]
      calc (c.walk name tiles direction ticket).tickets ++ (c.ticketOf? name).toList
        ~ ticket :: rest ++ (c.ticketOf? name).toList := hafter.append_right _
        _ ~ ticket :: ((c.ticketOf? name).toList ++ rest) := List.perm_append_comm.cons ticket
        _ ~ ticket :: c.tickets := hbefore.symm.cons ticket
        _ ~ c.tickets ++ [ticket] := (List.perm_append_singleton ticket c.tickets).symm

/-- A call loses no ticket and makes none. -/
theorem answer_perm (c : Cast) (call : Call) :
    ((c.answer call).1.tickets ++ ((c.answer call).2 ++ c.drops call)).Perm
      (c.tickets ++ c.gives call) := by
  cases call with
  | walk name tiles direction ticket => exact c.walk_perm name tiles direction ticket
  | face name direction =>
      rw [answer, tickets_face]
      exact .refl _
  | tick ms =>
      have hframe := c.tick_perm ms
      rwa [← List.append_nil (c.tick ms).2, ← List.append_nil c.tickets] at hframe

theorem conserved (c : Cast) (calls : List Call) :
    ((c.after calls).tickets ++ (c.returned calls ++ c.dropped calls)).Perm
      (c.tickets ++ c.given calls) := by
  induction calls generalizing c with
  | nil => exact .refl _
  | cons call calls ih =>
      -- each ticket is counted, so that the order of the lists does not matter
      apply List.perm_iff_count.2
      intro t
      have hcall := (c.answer_perm call).count_eq t
      have hrest := (ih (c.answer call).1).count_eq t
      simp only [returned, dropped, given, gathered, after, List.foldl_cons,
        List.count_append] at hcall hrest ⊢
      omega

/-! ## One place for each ticket -/

/-- One actor has the ticket and no other, and that actor is walking. -/
def HeldOnce (c : Cast) (t : Ticket) : Prop :=
  ∃ (k : Nat) (a : Actor), c.actors[k]? = some a ∧ a.movement = .walk ∧ a.ticket? = some t ∧
    ∀ (i : Nat) (b : Actor), c.actors[i]? = some b → b.ticket? = some t → i = k

/-- What a list of calls has made of a ticket: one thing and neither of the others. -/
inductive Fate (c : Cast) (calls : List Call) (t : Ticket) : Prop where
  | held : (c.after calls).HeldOnce t → t ∉ c.returned calls → t ∉ c.dropped calls →
      Fate c calls t
  | returned : t ∉ (c.after calls).tickets → (c.returned calls).count t = 1 →
      t ∉ c.dropped calls → Fate c calls t
  | dropped : t ∉ (c.after calls).tickets → t ∉ c.returned calls →
      (c.dropped calls).count t = 1 → Fate c calls t

variable {c : Cast} {call : Call} {calls : List Call} {t : Ticket} {k : Nat} {a : Actor}

theorem actor_of_tick {ms : Float32} (h : (c.tick ms).1.actors[k]? = some a) :
    ∃ b, c.actors[k]? = some b ∧ a = (b.tick ms).1 := by
  simp only [tick, List.map_map, List.getElem?_map, Option.map_eq_some_iff,
    Function.comp_apply] at h
  obtain ⟨b, hb, hticked⟩ := h
  exact ⟨b, hb, hticked.symm⟩

theorem truthful_answer (h : ∀ a ∈ c.actors, a.Truthful) (call : Call) :
    ∀ a ∈ (c.answer call).1.actors, a.Truthful := by
  intro a ha
  obtain ⟨k, hk⟩ := List.mem_iff_getElem?.1 ha
  cases call with
  | walk name tiles direction ticket =>
      rcases actor_of_modify hk with hsame | ⟨b, -, rfl⟩
      · exact h a (List.mem_of_getElem? hsame)
      · exact iff_of_true rfl rfl
  | face name direction =>
      rcases actor_of_modify hk with hsame | ⟨b, hfirst, rfl⟩
      · exact h a (List.mem_of_getElem? hsame)
      · exact h b (List.mem_of_getElem? hfirst.actor)
  | tick ms =>
      obtain ⟨b, hb, rfl⟩ := actor_of_tick hk
      unfold Actor.Truthful Actor.isWalking
      rcases tick_cases b ms with ⟨hjourney, hmovement, -⟩ | ⟨_, -, hjourney, hmovement, -, -⟩
      · rw [hjourney, hmovement]
        exact h b (List.mem_of_getElem? hb)
      · rw [hjourney, hmovement]
        simp

theorem truthful_after (h : ∀ a ∈ c.actors, a.Truthful) (calls : List Call) :
    ∀ a ∈ (c.after calls).actors, a.Truthful := by
  induction calls generalizing c with
  | nil => exact h
  | cons call calls ih => exact ih (truthful_answer h call)

theorem place_unique {i : Nat} {b : Actor} (hnodup : c.tickets.Nodup)
    (ha : c.actors[k]? = some a) (hb : c.actors[i]? = some b) (hta : a.ticket? = some t)
    (htb : b.ticket? = some t) : i = k := by
  have hapart := List.pairwise_iff_getElem.1 (List.pairwise_filterMap.1 hnodup)
  obtain ⟨hk, rfl⟩ := List.getElem?_eq_some_iff.1 ha
  obtain ⟨hi, rfl⟩ := List.getElem?_eq_some_iff.1 hb
  rcases Nat.lt_trichotomy i k with hlt | heq | hgt
  · exact absurd rfl (hapart i k hi hk hlt t htb t hta)
  · exact heq
  · exact absurd rfl (hapart k i hk hi hgt t hta t htb)

theorem heldOnce_of_mem (htruthful : ∀ a ∈ c.actors, a.Truthful) (hnodup : c.tickets.Nodup)
    (ht : t ∈ c.tickets) : c.HeldOnce t := by
  obtain ⟨a, ha, hticket⟩ := List.mem_filterMap.1 ht
  obtain ⟨k, hk⟩ := List.mem_iff_getElem?.1 ha
  have hwalking : a.isWalking = true := by
    obtain ⟨j, hjourney, -⟩ := Option.map_eq_some_iff.1 hticket
    rw [Actor.isWalking, hjourney]
    rfl
  refine ⟨k, a, hk, (htruthful a ha).2 hwalking, hticket, fun i b hb htb => ?_⟩
  exact place_unique hnodup hk hb hticket htb

theorem fate_of_nodup (htruthful : ∀ a ∈ c.actors, a.Truthful)
    (hnodup : (c.tickets ++ c.given calls).Nodup) (ht : t ∈ c.tickets ++ c.given calls) :
    c.Fate calls t := by
  have hperm := c.conserved calls
  have hone := (hperm.count_eq t).trans (List.count_eq_one_of_mem hnodup ht)
  simp only [List.count_append] at hone
  by_cases hheld : t ∈ (c.after calls).tickets
  · have hpos := List.count_pos_iff.2 hheld
    have hafter := (List.nodup_append.1 (hperm.nodup_iff.2 hnodup)).1
    exact .held (heldOnce_of_mem (truthful_after htruthful calls) hafter hheld)
      (List.count_eq_zero.1 (by omega)) (List.count_eq_zero.1 (by omega))
  · have hzero := List.count_eq_zero.2 hheld
    by_cases hdropped : t ∈ c.dropped calls
    · have hpos := List.count_pos_iff.2 hdropped
      exact .dropped hheld (List.count_eq_zero.1 (by omega)) (by omega)
    · have hzero' := List.count_eq_zero.2 hdropped
      exact .returned hheld (by omega) hdropped

/-! ## Where a walk ends -/

/-- In a list of calls the actor at a place is sent on the walk with a ticket, to a target that
lies as many tiles off as the walk has, from where the actor is at that moment. -/
inductive Sent (t : Ticket) : Cast → List Call → Nat → Position → Prop where
  | now {c : Cast} {name : String} {tiles : UInt32} {direction : Direction} {k : Nat} {a : Actor}
      {calls : List Call} : c.FirstAt name k a →
      Sent t c (.walk name tiles direction t :: calls) k
        (a.position.offset direction (tiles.toFloat32 * a.tileSize))
  | later {c : Cast} {call : Call} {calls : List Call} {k : Nat} {target : Position} :
      Sent t (c.answer call).1 calls k target → Sent t c (call :: calls) k target

/-- The walk with a ticket leads the actor at a place to a target: the actor is on it from the
outset, or is sent on it. -/
inductive Leads (c : Cast) (calls : List Call) (t : Ticket) (k : Nat) (target : Position) :
    Prop where
  | outset {a : Actor} {j : Journey} : c.actors[k]? = some a → a.journey = some j →
      j.ticket = t → j.target = target → Leads c calls t k target
  | sent : Sent t c calls k target → Leads c calls t k target

variable {target : Position} {j : Journey}

/-- A journey that an actor is on after a call is not new, or it is the one that was asked for. -/
theorem journey_of_answer (h : (c.answer call).1.actors[k]? = some a) (hj : a.journey = some j) :
    (∃ b, c.actors[k]? = some b ∧ b.journey = some j) ∨
      ∃ name tiles direction b, call = .walk name tiles direction j.ticket ∧ c.FirstAt name k b ∧
        j.target = b.position.offset direction (tiles.toFloat32 * b.tileSize) := by
  cases call with
  | walk name tiles direction ticket =>
      rcases actor_of_modify h with hsame | ⟨b, hfirst, rfl⟩
      · exact .inl ⟨a, hsame, hj⟩
      · obtain rfl := Option.some.inj hj
        exact .inr ⟨name, tiles, direction, b, rfl, hfirst, rfl⟩
  | face name direction =>
      rcases actor_of_modify h with hsame | ⟨b, hfirst, rfl⟩
      · exact .inl ⟨a, hsame, hj⟩
      · exact .inl ⟨b, hfirst.actor, hj⟩
  | tick ms =>
      obtain ⟨b, hb, rfl⟩ := actor_of_tick h
      rcases tick_cases b ms with ⟨hsame, -, -⟩ | ⟨_, -, hnone, -, -, -⟩
      · exact .inl ⟨b, hb, hsame.symm.trans hj⟩
      · rw [hnone] at hj
        cases hj

theorem leads_of_journey (h : (c.after calls).actors[k]? = some a) (hj : a.journey = some j) :
    c.Leads calls j.ticket k j.target := by
  induction calls generalizing c with
  | nil => exact .outset h hj rfl rfl
  | cons call calls ih =>
      cases ih h with
      | sent hsent => exact .sent hsent.later
      | @outset b j' hb hj' hticket htarget =>
          rw [← hticket, ← htarget]
          rcases journey_of_answer hb hj' with ⟨d, hd, hjd⟩ | ⟨_, _, _, d, rfl, hfirst, hend⟩
          · exact .outset hd hjd rfl rfl
          · rw [hend]
            exact .sent (.now hfirst)

theorem Sent.mem_given (h : Sent t c calls k target) : t ∈ c.given calls := by
  induction h with
  | now hfirst =>
      rw [given, gathered, gives_walk hfirst.get?]
      exact List.mem_append_left _ (List.mem_singleton_self t)
  | later _ ih => exact List.mem_append_right _ ih

theorem Sent.unique {i : Nat} {p : Position} (h : Sent t c calls k target)
    (h' : Sent t c calls i p) (hnodup : (c.given calls).Nodup) : i = k ∧ p = target := by
  induction h with
  | now hfirst =>
      rw [given, gathered, gives_walk hfirst.get?] at hnodup
      cases h' with
      | now hfirst' =>
          obtain ⟨rfl, rfl⟩ := hfirst.unique hfirst'
          exact ⟨rfl, rfl⟩
      | later hlater =>
          -- the ticket would be given again
          exact absurd hlater.mem_given (List.nodup_cons.1 hnodup).1
  | later hlater ih =>
      cases h' with
      | now hfirst =>
          rw [given, gathered, gives_walk hfirst.get?] at hnodup
          exact absurd hlater.mem_given (List.nodup_cons.1 hnodup).1
      | later hlater' => exact ih hlater' (List.nodup_append.1 hnodup).2.1

theorem mem_tickets_of_journey (h : c.actors[k]? = some a) (hj : a.journey = some j) :
    j.ticket ∈ c.tickets :=
  List.mem_filterMap.2 ⟨a, List.mem_of_getElem? h, ticket?_of_journey hj⟩

theorem Leads.unique {i : Nat} {p : Position} (h : c.Leads calls t k target)
    (h' : c.Leads calls t i p) (hnodup : (c.tickets ++ c.given calls).Nodup) :
    i = k ∧ p = target := by
  obtain ⟨htickets, hgiven, hapart⟩ := List.nodup_append.1 hnodup
  cases h with
  | outset ha hj hticket htarget =>
      subst hticket htarget
      cases h' with
      | outset hb hj' hticket' htarget' =>
          have htb := (ticket?_of_journey hj').trans (congrArg some hticket')
          obtain rfl := place_unique htickets ha hb (ticket?_of_journey hj) htb
          obtain rfl := Option.some.inj (ha.symm.trans hb)
          obtain rfl := Option.some.inj (hj.symm.trans hj')
          exact ⟨rfl, htarget'.symm⟩
      | sent hsent => exact absurd rfl (hapart _ (mem_tickets_of_journey ha hj) _ hsent.mem_given)
  | sent hsent =>
      cases h' with
      | outset hb hj' hticket' _ =>
          subst hticket'
          exact absurd rfl (hapart _ (mem_tickets_of_journey hb hj') _ hsent.mem_given)
      | sent hsent' => exact hsent.unique hsent' hgiven

/-! ## Frames -/

theorem tick_sublist (c : Cast) (ms : Float32) : (c.tick ms).2.Sublist c.tickets := by
  obtain ⟨actors⟩ := c
  simp only [tick, tickets]
  induction actors with
  | nil => exact .slnil
  | cons a actors ih =>
      simp only [List.map_cons, List.filterMap_cons]
      rcases ticket?_tick a ms with ⟨-, hnone⟩ | ⟨-, hreturned⟩
      · rw [hnone]
        cases a.ticket? with
        | none => exact ih
        | some ticket => exact ih.cons ticket
      · rw [hreturned]
        cases a.ticket? with
        | none => exact ih
        | some ticket => exact ih.cons_cons ticket

/-- A frame of `ms` milliseconds takes the walker with a ticket to where its walk was to end. -/
structure Arrives (c : Cast) (calls : List Call) (ms : Float32) (t : Ticket) (k : Nat)
    (target : Position) : Prop where
  carried : ∃ a, (c.after calls).actors[k]? = some a ∧ a.ticket? = some t
  leads : c.Leads calls t k target
  only : ∀ i p, c.Leads calls t i p → i = k ∧ p = target
  reached : ∃ a, ((c.after calls).tick ms).1.actors[k]? = some a ∧ a.position = target

theorem exists_arrives {ms : Float32} (hnodup : (c.tickets ++ c.given calls).Nodup)
    (ht : t ∈ ((c.after calls).tick ms).2) : ∃ k target, c.Arrives calls ms t k target := by
  simp only [tick, List.filterMap_map, List.mem_filterMap, Function.comp_apply] at ht
  obtain ⟨a, ha, hticket⟩ := ht
  obtain ⟨k, hk⟩ := List.mem_iff_getElem?.1 ha
  rcases tick_cases a ms with ⟨-, -, hnone⟩ | ⟨j, hjourney, -, -, hreached, hreturned⟩
  · rw [hnone] at hticket
    cases hticket
  · obtain rfl : j.ticket = t := Option.some.inj (hreturned.symm.trans hticket)
    have hleads := leads_of_journey hk hjourney
    refine ⟨k, j.target, ⟨a, hk, ticket?_of_journey hjourney⟩, hleads, ?_, ?_⟩
    · intro i p hother
      exact hleads.unique hother hnodup
    · refine ⟨(a.tick ms).1, ?_, hreached⟩
      simp only [tick, List.map_map, List.getElem?_map, hk, Option.map_some, Function.comp_apply]

/-- **No ticket is lost or doubled.** After any calls each of some tickets that are all different is
with one walking actor, or came back once, or was dropped for a later walk of the same actor; no
other ticket comes back; and a frame hands tickets back in the order of the cast, each of them for
an actor that now stands where its walk was to end. -/
theorem tickets_conserved (htruthful : ∀ a ∈ c.actors, a.Truthful)
    (hnodup : (c.tickets ++ c.given calls).Nodup) :
    (∀ t ∈ c.tickets ++ c.given calls, c.Fate calls t) ∧
      (∀ t ∈ c.returned calls, t ∈ c.tickets ++ c.given calls) ∧
      (∀ a ∈ (c.after calls).actors, a.Truthful) ∧
      ∀ ms, ((c.after calls).tick ms).2.Sublist (c.after calls).tickets ∧
        ∀ t ∈ ((c.after calls).tick ms).2, ∃ k target, c.Arrives calls ms t k target := by
  refine ⟨fun t ht => fate_of_nodup htruthful hnodup ht, ?_, truthful_after htruthful calls, ?_⟩
  · intro t ht
    have hmem := List.mem_append_right (c.after calls).tickets
      (List.mem_append_left (c.dropped calls) ht)
    exact (c.conserved calls).mem_iff.1 hmem
  · intro ms
    exact ⟨tick_sublist _ ms, fun t ht => exists_arrives hnodup ht⟩

/-- Of two guards the first is sent off twice: the ticket of its first walk is dropped. -/
theorem tickets_conserved_sent_twice :
    let guard : Actor := { name := "guard", position := ⟨0, 0⟩, direction := .down }
    let c : Cast := ⟨[guard, guard]⟩
    let calls : List Call := [.walk "guard" 2 .left 7, .face "guard" .down, .walk "guard" 1 .up 8]
    ((∀ a ∈ c.actors, a.Truthful) ∧ (c.tickets ++ c.given calls).Nodup) ∧
      c.given calls = [7, 8] ∧ c.dropped calls = [7] ∧ c.Fate calls 7 ∧ c.Fate calls 8 ∧
        ∀ ms, ∀ t ∈ ((c.after calls).tick ms).2, ∃ k target, c.Arrives calls ms t k target := by
  intro guard c calls
  have htruthful : ∀ a ∈ c.actors, a.Truthful := by
    simp [c, guard, Actor.Truthful, Actor.isWalking]
  have hnodup : (c.tickets ++ c.given calls).Nodup := by decide
  obtain ⟨hfate, -, -, hframe⟩ := tickets_conserved htruthful hnodup
  exact ⟨⟨htruthful, hnodup⟩, rfl, rfl, hfate 7 (by decide), hfate 8 (by decide),
    fun ms => (hframe ms).2⟩

end Cast

end Cutscene
