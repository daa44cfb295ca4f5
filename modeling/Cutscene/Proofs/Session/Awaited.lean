import Cutscene.Proofs.Session.Shift
/-!
# No awaited walk is lost

A walker that is sent off again loses the ticket of its earlier walk, and a ticket that came back
can be handed in only once.  `Fair` are the histories in which it is handed in with the token of the
interaction under way, and the tickets that have come back and are still to be handed in then.  As
long as an interaction waits for a walk, its ticket is with the walker or among these (`Awaiting`).
-/

namespace Cutscene

open Session (Shift)

/-- The moves that hand nothing in and let no time pass. -/
def Move.isCall : Move → Bool
  | arrive _ _ | tick _ => false
  | _ => true

namespace Story

/-- The histories that hand every ticket in at most once, and never while another interaction than
its token's is under way, with the tickets that have come back and have not been handed in. -/
inductive Fair (g₀ : Story) : List Ticket → Story → Prop where
  | refl : Fair g₀ [] g₀
  | call {out : List Ticket} {g : Story} {m : Move} : Fair g₀ out g → m.isCall = true →
      Fair g₀ out (g.act m).story
  | tick {out : List Ticket} {g : Story} (ms : Float32) : Fair g₀ out g →
      Fair g₀ (out ++ (g.act (.tick ms)).tickets) (g.act (.tick ms)).story
  | handIn {out : List Ticket} {g : Story} {token : Token} {ticket : Ticket} : Fair g₀ out g →
      ticket ∈ out → (∀ i, g.session.active = some i → i.token = token) →
      Fair g₀ (out.erase ticket) (g.act (.arrive token ticket)).story

/-- Tickets in the world are told apart, and the awaited one is among them. -/
structure Awaiting (out : List Ticket) (g : Story) : Prop where
  sound : g.session.Sound
  outstanding : Outstanding g.session.frontier (g.cast.tickets ++ out)
  kept : ∀ actor ticket, g.session.awaits? = some (actor, ticket) →
    g.cast.ticketOf? actor = some ticket ∨ ticket ∈ out

theorem opening_awaiting {settings : Settings} {w : World}
    (h : w.scene.cast.anyoneWalking = false) : Awaiting [] (opening settings w) where
  sound := opening_sound settings w
  outstanding := opening_outstanding h
  kept := by simp [opening, Session.awaits?]

/-- A ticket that is handed in where it is waited for is taken. -/
theorem arrive_cases {g : Story} (hg : g.session.Sound) (token : Token) (ticket : Ticket) :
    ((g.act (.arrive token ticket)).story.session = g.session ∧
      (g.act (.arrive token ticket)).story.cast = g.cast ∧
      ∀ i actor, g.session.active = some i → i.token = token →
        i.performance.awaits? ≠ some (actor, ticket)) ∨
    Shift g.session.frontier g.cast (g.act (.arrive token ticket)).story.session.frontier
      (g.act (.arrive token ticket)).story.session.awaits?
      (g.act (.arrive token ticket)).story.cast := by
  simp only [act, heard, Session.arrive, cast]
  rcases Session.feed_cases hg token (.arrive ticket) g.world.scene with
    ⟨notes, answer, hreply, _, hnot⟩ | ⟨i, p', s', notes, hactive, _, htakes, hreply⟩
  · rw [hreply]
    refine .inl ⟨rfl, rfl, ?_⟩
    intro i actor hactive htoken hawaits
    obtain ⟨hstatus, hticket⟩ := Performance.awaits?_eq_some_iff.1 hawaits
    exact hnot i hactive htoken _ _ _ (.arrive hstatus hticket)
  · rw [hreply]
    exact .inr (Session.taken_moves hg hactive htakes).2

namespace Awaiting

variable {out : List Ticket} {g : Story}

theorem of_shift {g' : Story} (h : Awaiting out g) (hsound : g'.session.Sound)
    (hshift : Shift g.session.frontier g.cast g'.session.frontier g'.session.awaits? g'.cast) :
    Awaiting out g' where
  sound := hsound
  outstanding := h.outstanding.shift hshift
  kept _ _ hawaits := .inl (hshift.ticketOf? hawaits)

theorem call (h : Awaiting out g) {m : Move} (hcall : m.isCall = true) :
    Awaiting out (g.act m).story := by
  have hsound := act_sound h.sound m
  have hframe : ∀ ms, m ≠ .tick ms := by
    rintro ms rfl
    simp [Move.isCall] at hcall
  rcases act_stays_or_shifts h.sound hframe with ⟨hsession, hcast⟩ | hshift
  · refine ⟨hsound, ?_, ?_⟩
    · rw [hsession, hcast]
      exact h.outstanding
    · rw [hsession, hcast]
      exact h.kept
  · exact h.of_shift hsound hshift

theorem tick (h : Awaiting out g) (ms : Float32) :
    Awaiting (out ++ (g.act (.tick ms)).tickets) (g.act (.tick ms)).story where
  sound := h.sound
  outstanding := h.outstanding.tick ms
  kept := by
    intro actor ticket hawaits
    rcases h.kept actor ticket hawaits with hheld | hout
    · rcases Cast.ticketOf?_tick hheld ms with hheld | hreturned
      · exact .inl hheld
      · exact .inr (List.mem_append_right _ hreturned)
    · exact .inr (List.mem_append_left _ hout)

theorem handIn (h : Awaiting out g) {token : Token} {ticket : Ticket}
    (htoken : ∀ i, g.session.active = some i → i.token = token) :
    Awaiting (out.erase ticket) (g.act (.arrive token ticket)).story := by
  have hsub : List.Sublist
      ((g.act (.arrive token ticket)).story.cast.tickets ++ out.erase ticket)
      ((g.act (.arrive token ticket)).story.cast.tickets ++ out) :=
    List.erase_sublist.append_left _
  have hsound := act_sound h.sound (.arrive token ticket)
  rcases arrive_cases h.sound token ticket with ⟨hsession, hcast, hother⟩ | hshift
  · refine ⟨hsound, ?_, ?_⟩
    · rw [hsession]
      rw [hcast] at hsub ⊢
      exact h.outstanding.of_sublist hsub
    · rw [hsession, hcast]
      intro actor awaited hawaits
      obtain ⟨i, hactive, hwalk⟩ := Option.bind_eq_some_iff.1 hawaits
      -- an awaited ticket would have been taken
      have hne : awaited ≠ ticket := by
        rintro rfl
        exact hother i actor hactive (htoken i hactive) hwalk
      exact (h.kept actor awaited hawaits).imp_right (List.mem_erase_of_ne hne).2
  · exact ⟨hsound, (h.outstanding.shift hshift).of_sublist hsub,
      fun _ _ hawaits => .inl (hshift.ticketOf? hawaits)⟩

end Awaiting

theorem Fair.awaiting {settings : Settings} {w : World}
    (hstill : w.scene.cast.anyoneWalking = false) {out : List Ticket} {g : Story}
    (h : Fair (opening settings w) out g) : Awaiting out g := by
  induction h with
  | refl => exact opening_awaiting hstill
  | call _ hcall ih => exact ih.call hcall
  | tick ms _ ih => exact ih.tick ms
  | handIn _ _ htoken ih => exact ih.handIn htoken

/-- **No awaited walk is lost.** When nobody walks at first and tickets are handed in fairly, the
ticket of a walk that is waited for exists once: with the first actor of the walker's name, or among
those that have come back and have not been handed in. -/
theorem awaited_walk_exists {settings : Settings} {w : World}
    (hstill : w.scene.cast.anyoneWalking = false) {out : List Ticket} {g : Story}
    (hfair : Fair (opening settings w) out g) {i : Interaction} {actor : String} {ticket : Ticket}
    (hactive : g.session.active = some i)
    (hstatus : i.performance.status = .paused (.walk actor))
    (hticket : i.performance.awaitedTicket? = some ticket) :
    (g.cast.tickets ++ out).count ticket = 1 ∧
      ((∃ a, g.cast.get? actor = some a ∧ a.ticket? = some ticket) ∨ ticket ∈ out) := by
  have hawaiting := hfair.awaiting hstill
  have hwalk : i.performance.awaits? = some (actor, ticket) :=
    Performance.awaits?_eq_some_iff.2 ⟨hstatus, hticket⟩
  have hawaits : g.session.awaits? = some (actor, ticket) := by
    rw [Session.awaits?, hactive]
    exact hwalk
  have hplace := hawaiting.kept actor ticket hawaits
  refine ⟨?_, hplace.imp_left Cast.ticketOf?_eq_some_iff.1⟩
  apply List.count_eq_one_of_mem hawaiting.outstanding.nodup
  rw [List.mem_append]
  exact hplace.imp_left Cast.mem_tickets_of_ticketOf?

theorem awaited_walk_exists_sent_again :
    annAlone.scene.cast.anyoneWalking = false ∧ Fair (opening {} annAlone) [] annSentAgain ∧
      ∃ i, annSentAgain.session.active = some i ∧
        i.performance.status = .paused (.walk "Ann") ∧
        i.performance.awaitedTicket? = some 2 ∧
        (annSentAgain.cast.tickets ++ []).count 2 = 1 ∧
        ((∃ a, annSentAgain.cast.get? "Ann" = some a ∧ a.ticket? = some 2) ∨ 2 ∈ []) := by
  have hstill : annAlone.scene.cast.anyoneWalking = false := by decide
  have hfair : Fair (opening {} annAlone) [] annSentAgain :=
    .call (.call (.call .refl rfl) rfl) rfl
  exact ⟨hstill, hfair, _, rfl, rfl, rfl, awaited_walk_exists hstill hfair rfl rfl rfl⟩

end Story

end Cutscene
