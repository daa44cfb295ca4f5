import Cutscene.Proofs.Session.Register
/-!
# Tokens and tickets are told apart

Whatever calls and frames follow one another, no token and no ticket is given out twice, a token is
worth nothing once its interaction has ended, and a walk that a script waits for is over only by its
own ticket.  `Accounted` is what every move keeps, and `Apart` is read off it.
-/

namespace Cutscene

open Journal (Note Errand behind errands ended)

namespace Beat

/-- The tokens that beginnings have given out. -/
def given (beats : List Beat) : List Token :=
  beats.filterMap Beat.token?

/-- The notes of beats. -/
def log (beats : List Beat) : List Note :=
  beats.flatMap (·.notes)

/-- The tickets that frames have handed over. -/
def returned (beats : List Beat) : List Ticket :=
  beats.flatMap (·.tickets)

theorem given_concat (beats : List Beat) (b : Beat) :
    given (beats ++ [b]) = given beats ++ b.token?.toList := by
  rw [given, List.filterMap_append, ← given]
  cases htoken : b.token? <;> simp [htoken]

theorem log_concat (beats : List Beat) (b : Beat) : log (beats ++ [b]) = log beats ++ b.notes := by
  simp [log]

theorem returned_concat (beats : List Beat) (b : Beat) :
    returned (beats ++ [b]) = returned beats ++ b.tickets := by
  simp [returned]

end Beat

namespace Session

/-- A token of no interaction under way is turned away. -/
theorem holder_of_ne {x : Session} {token : Token} (h : ∀ i, x.active = some i → i.token ≠ token) :
    ∃ error, x.holder token = .error error := by
  rcases x.holder_cases token with ⟨i, hactive, htoken, _⟩ | ⟨error, hholder, _⟩
  · exact absurd htoken (h i hactive)
  · exact ⟨error, hholder⟩

end Session

namespace Story

variable {g : Story} {beats : List Beat}

/-- A move with a token of no interaction under way changes nothing. -/
theorem act_of_ne {m : Move} {token : Token} (hm : m.token? = some token)
    (h : ∀ i, g.session.active = some i → i.token ≠ token) : (g.act m).story = g := by
  obtain ⟨error, hholder⟩ := Session.holder_of_ne h
  cases m with
  | begin npc player entries => simp [Move.token?] at hm
  | tick ms => simp [Move.token?] at hm
  | confirm _ =>
      obtain rfl := Option.some.inj hm
      simp [act, heard, Session.confirm, hholder, Session.decline]
  | choose _ index =>
      obtain rfl := Option.some.inj hm
      simp [act, heard, Session.choose, Session.feed, hholder, Session.decline]
  | arrive _ ticket =>
      obtain rfl := Option.some.inj hm
      simp [act, heard, Session.arrive, Session.feed, hholder, Session.decline]
  | abandon _ =>
      obtain rfl := Option.some.inj hm
      simp [act, heard, Session.abandon, hholder, Session.decline]

/-- A ticket that changes something is the one that the interaction under way waits for. -/
theorem awaits?_of_arrive {token : Token} {ticket : Ticket} (hg : g.session.Sound)
    (h : (g.act (.arrive token ticket)).story ≠ g) :
    ∃ i actor, g.session.active = some i ∧ i.token = token ∧
      i.performance.awaits? = some (actor, ticket) := by
  simp only [act, heard, Session.arrive] at h
  rcases Session.feed_cases hg token (.arrive ticket) g.world.scene with
    ⟨notes, answer, hreply, _⟩ | ⟨i, p', s', notes, hactive, htoken, htakes, _⟩
  · rw [hreply] at h
    exact absurd rfl h
  · cases htakes with
    | arrive hstatus hawaited =>
        exact ⟨i, _, hactive, htoken, Performance.awaits?_eq_some_iff.2 ⟨hstatus, hawaited⟩⟩

/-! ## Every move keeps the accounts -/

theorem act_register {given : List Token} {log : List Note} (h : g.session.Register given log)
    (hg : g.session.Sound) (m : Move) :
    (g.act m).story.session.Register (given ++ (g.act m).token?.toList)
      (log ++ (g.act m).notes) := by
  by_cases hm : ∃ ms, m = .tick ms
  · obtain ⟨ms, rfl⟩ := hm
    simpa [act, Beat.token?] using h
  · exact h.step hg (act_step hg (not_exists.1 hm))

/-- What is known of a story that nobody walked in at first. -/
structure Accounted (g : Story) (beats : List Beat) : Prop where
  sound : g.session.Sound
  register : g.session.Register (Beat.given beats) (Beat.log beats)
  outstanding : Outstanding g.session.frontier (g.cast.tickets ++ Beat.returned beats)
  issued : ∀ ticket ∈ g.cast.tickets ++ Beat.returned beats,
    ∃ e ∈ errands {} (Beat.log beats), e.ticket = ticket

theorem opening_accounted {settings : Settings} {w : World}
    (h : w.scene.cast.anyoneWalking = false) : Accounted (opening settings w) [] where
  sound := opening_sound settings w
  register := Session.register_new settings
  outstanding := opening_outstanding h
  issued := by simp [cast, opening, Cast.tickets_eq_nil h, Beat.returned]

/-- A shift puts no ticket into the world but the one that is waited for then. -/
theorem mem_tickets_shift {n frontier : Ticket} {c c' : Cast}
    {awaited : Option (String × Ticket)} (h : Session.Shift n c frontier awaited c')
    {ticket : Ticket} (hmem : ticket ∈ c'.tickets) :
    ticket ∈ c.tickets ∨ ∃ actor, awaited = some (actor, ticket) := by
  cases h with
  | quiet _ _ htickets =>
      rw [htickets] at hmem
      exact .inl hmem
  | @sent actor a tiles direction hactor _ hsome =>
      obtain ⟨rest, hsub, -, hperm⟩ := Cast.tickets_walk hactor tiles direction n
      rcases List.mem_cons.1 (hperm.mem_iff.1 hmem) with rfl | hrest
      · exact .inr ⟨actor, hsome⟩
      · exact .inl (hsub.subset hrest)

theorem Accounted.tick (h : Accounted g beats) (ms : Float32) :
    Accounted (g.act (.tick ms)).story (beats ++ [g.act (.tick ms)]) where
  sound := h.sound
  register := by
    have hregister := act_register h.register h.sound (.tick ms)
    rwa [← Beat.given_concat, ← Beat.log_concat] at hregister
  outstanding := by
    rw [Beat.returned_concat]
    exact h.outstanding.tick ms
  issued := by
    intro ticket hmem
    have hlog : Beat.log (beats ++ [g.act (.tick ms)]) = Beat.log beats := by
      rw [Beat.log_concat]
      exact List.append_nil _
    rw [hlog]
    apply h.issued
    rw [Beat.returned_concat, List.mem_append, List.mem_append] at hmem
    have hcarried := (g.cast.tick_perm ms).subset
    rw [List.mem_append]
    rcases hmem with hheld | hold | hreturned
    · exact .inl (hcarried (List.mem_append_left _ hheld))
    · exact .inr hold
    · exact .inl (hcarried (List.mem_append_right _ hreturned))

theorem Accounted.call (h : Accounted g beats) {m : Move} (hm : ∀ ms, m ≠ .tick ms) :
    Accounted (g.act m).story (beats ++ [g.act m]) := by
  have hsound := act_sound h.sound m
  have hregister := act_register h.register h.sound m
  rw [← Beat.given_concat, ← Beat.log_concat] at hregister
  have hreturned : Beat.returned (beats ++ [g.act m]) = Beat.returned beats := by
    have hnone : (g.act m).tickets = [] := by
      cases m with
      | tick ms => exact absurd rfl (hm ms)
      | _ => rfl
    rw [Beat.returned_concat, hnone, List.append_nil]
  have hissued : ∀ ticket ∈ g.cast.tickets ++ Beat.returned beats,
      ∃ e ∈ errands {} (Beat.log (beats ++ [g.act m])), e.ticket = ticket := by
    intro ticket hmem
    obtain ⟨e, he, hticket⟩ := h.issued ticket hmem
    rw [Beat.log_concat, Journal.errands_append]
    exact ⟨e, List.mem_append_left _ he, hticket⟩
  rcases act_stays_or_shifts h.sound hm with ⟨hsession, hcast⟩ | hshift
  · refine ⟨hsound, hregister, ?_, ?_⟩
    · rw [hsession, hcast, hreturned]
      exact h.outstanding
    · rw [hcast, hreturned]
      exact hissued
  · refine ⟨hsound, hregister, ?_, ?_⟩
    · rw [hreturned]
      exact h.outstanding.shift hshift
    · rw [hreturned]
      intro ticket hmem
      rcases List.mem_append.1 hmem with hheld | hold
      · rcases mem_tickets_shift hshift hheld with hheld | ⟨actor, hawaits⟩
        · exact hissued ticket (List.mem_append_left _ hheld)
        -- a ticket that is new in the world is the awaited one, and its errand the last
        · obtain ⟨i, hactive, hwalk⟩ := Option.bind_eq_some_iff.1 hawaits
          have herrand : i.performance.errand? i.token =
              some ⟨i.token, i.performance.cursor, actor, ticket⟩ := by
            rw [Performance.errand?, hwalk]
            rfl
          exact ⟨_, List.mem_of_getLast? (hregister.awaited i _ hactive herrand), rfl⟩
      · exact hissued ticket (List.mem_append_right _ hold)

theorem Accounted.act (h : Accounted g beats) (m : Move) :
    Accounted (g.act m).story (beats ++ [g.act m]) := by
  cases m with
  | tick ms => exact h.tick ms
  | _ => exact h.call (by simp)

theorem Accounted.after (h : Accounted g beats) (moves : List Move) :
    Accounted (g.after moves) (beats ++ g.beats moves) := by
  induction moves generalizing g beats with
  | nil => simpa using h
  | cons m moves ih =>
      have hnext := ih (h.act m)
      rwa [List.append_assoc] at hnext

/-! ## Told apart -/

/-- How tokens and tickets are told apart after some beats. -/
structure Apart (g : Story) (beats : List Beat) : Prop where
  tokens_nodup : (Beat.given beats).Nodup
  tokens_eq : Beat.given beats =
    ended (Beat.log beats) ++ (g.session.active.map (·.token)).toList
  /-- The token of an interaction that has ended does nothing. -/
  ended_stale : ∀ token ∈ ended (Beat.log beats), ∀ m : Move, m.token? = some token →
    (g.act m).story = g
  tickets_nodup : ((errands {} (Beat.log beats)).map (·.ticket)).Nodup
  returned_nodup : (Beat.returned beats).Nodup
  returned_issued : ∀ ticket ∈ Beat.returned beats,
    ∃ e ∈ errands {} (Beat.log beats), e.ticket = ticket
  /-- A ticket that does something was given for the walk under the cursor, the last of all. -/
  arrive_own : ∀ i ticket, g.session.active = some i →
    (g.act (.arrive i.token ticket)).story ≠ g →
      ∃ walk actor, i.performance.current? = some (.walk walk) ∧
        (errands {} (Beat.log beats)).getLast? =
          some ⟨i.token, i.performance.cursor, actor, ticket⟩
  /-- The next call sends those off whom its notes tell of. -/
  sent_noted : ∀ m : Move, (∀ ms, m ≠ .tick ms) →
    (g.act m).story.cast = (g.world.scene.replay (g.act m).notes).cast

theorem Accounted.active_ne_ended (h : Accounted g beats) {token : Token}
    (hended : token ∈ ended (Beat.log beats)) :
    ∀ i, g.session.active = some i → i.token ≠ token := by
  rintro i hactive rfl
  have hsorted := h.register.given_sorted
  rw [h.register.given_eq, hactive] at hsorted
  have hlt := (List.pairwise_append.1 hsorted).2.2 i.token hended i.token (by simp)
  exact Nat.lt_irrefl _ hlt

theorem Accounted.apart (h : Accounted g beats) : Apart g beats where
  tokens_nodup := h.register.given_sorted.imp Nat.ne_of_lt
  tokens_eq := h.register.given_eq
  ended_stale token hended m hm := act_of_ne hm (h.active_ne_ended hended)
  tickets_nodup := List.pairwise_map.2 (h.register.errands_sorted.imp Nat.ne_of_lt)
  returned_nodup := (List.nodup_append.1 h.outstanding.nodup).2.1
  returned_issued ticket hmem := h.issued ticket (List.mem_append_right _ hmem)
  arrive_own := by
    intro i ticket hactive hne
    obtain ⟨j, actor, hj, _, hawaits⟩ := awaits?_of_arrive h.sound hne
    obtain rfl := Option.some.inj (hj.symm.trans hactive)
    have hmatches := (h.sound j hactive).1.status_matches
    rw [(Performance.awaits?_eq_some_iff.1 hawaits).1] at hmatches
    obtain ⟨⟨walk, _, hcurrent, _⟩, _⟩ := hmatches
    refine ⟨walk, actor, hcurrent, h.register.awaited j _ hactive ?_⟩
    rw [Performance.errand?, hawaits]
    rfl
  sent_noted m hm := (act_step h.sound hm).becomes.cast_eq

/-- **Tokens and tickets are told apart.** When nobody walks at first, then after any calls and
frames, with any tokens and any tickets, no token and no ticket has been given out twice, the
tickets that have come back are among those given out, a token is worth nothing once its interaction
has ended, and a ticket only does something where it was given for the walk under the cursor. -/
theorem tokens_and_tickets_apart {settings : Settings} {w : World}
    (hstill : w.scene.cast.anyoneWalking = false) (moves : List Move) :
    Apart ((opening settings w).after moves) ((opening settings w).beats moves) := by
  have haccounted : Accounted ((opening settings w).after moves)
      ((opening settings w).beats moves) := (opening_accounted hstill).after moves
  exact haccounted.apart

theorem tokens_and_tickets_apart_sent_again :
    annAlone.scene.cast.anyoneWalking = false ∧
      Beat.given ((opening {} annAlone).beats sendingAgain) = [1, 2] ∧
      Apart annSentAgain ((opening {} annAlone).beats sendingAgain) := by
  have hstill : annAlone.scene.cast.anyoneWalking = false := by decide
  exact ⟨hstill, by rfl, tokens_and_tickets_apart hstill sendingAgain⟩

end Story

end Cutscene
