import Cutscene.Proofs.Session.Errands
/-!
# The register of a session

Actors that are sent off go on walking when their interaction is given up, and their tickets come
back late or not at all.  `Register` ties what a session has given out, tokens to those who begin
and tickets to walkers, to the notes of everything that has happened so far: the interaction under
way has the last token, and the walk that it waits for is the last that anyone was sent on.
-/

namespace Cutscene

open Journal (Note Errand behind errands ended)

namespace Session

/-- What is known of a session from the tokens that it has given out and from its notes. -/
structure Register (x : Session) (given : List Token) (log : List Note) : Prop where
  given_eq : given = ended log ++ (x.active.map (·.token)).toList
  given_sorted : given.Pairwise (· < ·)
  given_lt : ∀ token ∈ given, token < x.nextToken
  token_eq : ∀ i, x.active = some i → (behind {} log).token = i.token
  errands_sorted : (errands {} log).Pairwise (·.ticket < ·.ticket)
  errands_lt : ∀ e ∈ errands {} log, e.ticket < x.frontier
  awaited : ∀ i e, x.active = some i → i.performance.errand? i.token = some e →
    (errands {} log).getLast? = some e

theorem register_new (settings : Settings) : Register { settings } [] [] where
  given_eq := rfl
  given_sorted := .nil
  given_lt := by simp
  token_eq := by simp
  errands_sorted := .nil
  errands_lt := by simp [errands]
  awaited := by simp

theorem Shift.cases_eq {n frontier : Ticket} {c c' : Cast} {awaited : Option (String × Ticket)}
    (h : Shift n c frontier awaited c') :
    (frontier = n ∧ awaited = none) ∨ ∃ actor, frontier = n + 1 ∧ awaited = some (actor, n) := by
  cases h with
  | quiet hfrontier hnone _ => exact .inl ⟨hfrontier, hnone⟩
  | sent _ _ _ hfrontier hsome => exact .inr ⟨_, hfrontier, hsome⟩

namespace Register

variable {x : Session} {given : List Token} {log : List Note}

theorem plain (h : x.Register given log) {notes : List Note}
    (hplain : ∀ n ∈ notes, n.isPlain = true) : x.Register given (log ++ notes) := by
  have herrands : errands {} (log ++ notes) = errands {} log := by
    rw [Journal.errands_append, Journal.errands_plain hplain, List.append_nil]
  refine ⟨?_, h.given_sorted, h.given_lt, ?_, ?_, ?_, ?_⟩
  · rw [Journal.ended_append, Journal.ended_plain hplain, List.append_nil]
    exact h.given_eq
  · rw [Journal.behind_append, Journal.behind_plain hplain]
    exact h.token_eq
  · rw [herrands]
    exact h.errands_sorted
  · rw [herrands]
    exact h.errands_lt
  · rw [herrands]
    exact h.awaited

/-- A beginning gives out the next token. -/
theorem launched (h : x.Register given log) (hfree : x.active = none) (npc : String)
    (selection : Selection) (entry : Nat) {p : Performance} (hidle : p.awaits? = none)
    (hticket : p.nextTicket = x.nextTicket) :
    Register
      { x with nextToken := x.nextToken + 1, active := some ⟨x.nextToken, npc, selection, p⟩ }
      (given ++ [x.nextToken]) (log ++ [.begun x.nextToken npc entry]) where
  given_eq := by
    rw [h.given_eq, hfree, Journal.ended_append]
    rfl
  given_sorted := by
    refine List.pairwise_append.2 ⟨h.given_sorted, List.pairwise_singleton _ _, ?_⟩
    intro token htoken next hnext
    rw [List.mem_singleton.1 hnext]
    exact h.given_lt token htoken
  given_lt := by
    intro token htoken
    rcases List.mem_append.1 htoken with htoken | htoken
    · exact Nat.lt_succ_of_lt (h.given_lt token htoken)
    · rw [List.mem_singleton.1 htoken]
      exact Nat.lt_succ_self _
  token_eq := by
    intro i hi
    obtain rfl := Option.some.inj hi
    rw [Journal.behind_append]
    rfl
  errands_sorted := by
    rw [Journal.errands_append]
    simpa [errands, Journal.read_cons, Note.errand?] using h.errands_sorted
  errands_lt := by
    have hlt := h.errands_lt
    rw [frontier, hfree] at hlt
    rw [Journal.errands_append]
    simpa [errands, Journal.read_cons, Note.errand?, frontier, hticket] using hlt
  awaited := by
    intro i e hi herrand
    obtain rfl := Option.some.inj hi
    simp [Performance.errand?, hidle] at herrand

/-- A stretch notes the walk that it ends with, if any, behind all others. -/
theorem turn (h : x.Register given log) {i : Interaction} (hactive : x.active = some i)
    {b : Binding} {p : Performance} {s : Scene} {t : Turn} (hstretch : Performance.Stretch b p s t)
    (hticket : p.nextTicket = i.performance.nextTicket) :
    Register { x with active := some { i with performance := t.performance } } given
      (log ++ t.notes) := by
  have htoken := h.token_eq i hactive
  -- the walk that the stretch may end with gets a ticket above all that were given out before
  have hlt : ∀ e ∈ errands {} log, e.ticket < p.nextTicket := by
    intro e he
    rw [hticket, ← frontier_of_active hactive]
    exact h.errands_lt e he
  have herrands : errands {} (log ++ t.notes) =
      errands {} log ++ (t.performance.errand? i.token).toList := by
    rw [Journal.errands_append, hstretch.errands_eq, htoken]
  refine ⟨?_, h.given_sorted, h.given_lt, ?_, ?_, ?_, ?_⟩
  · rw [Journal.ended_append, hstretch.ended_eq, List.append_nil, h.given_eq, hactive]
    rfl
  · intro j hj
    obtain rfl := Option.some.inj hj
    rw [Journal.behind_append]
    exact (hstretch.behind_eq _).1.trans htoken
  · rw [herrands]
    rcases hstretch.ending.shift.cases_eq with ⟨_, hnone⟩ | ⟨actor, _, hsome⟩
    · simpa [Performance.errand?, hnone] using h.errands_sorted
    · simp only [Performance.errand?, hsome, Option.map_some, Option.toList_some]
      refine List.pairwise_append.2 ⟨h.errands_sorted, List.pairwise_singleton _ _, ?_⟩
      intro e he next hnext
      rw [List.mem_singleton.1 hnext]
      exact hlt e he
  · intro e he
    rw [herrands] at he
    simp only [frontier]
    rcases hstretch.ending.shift.cases_eq with ⟨hfrontier, hnone⟩ | ⟨actor, hfrontier, hsome⟩
    · simp only [Performance.errand?, hnone, Option.map_none, Option.toList_none,
        List.append_nil] at he
      rw [hfrontier]
      exact hlt e he
    · simp only [Performance.errand?, hsome, Option.map_some, Option.toList_some,
        List.mem_append, List.mem_singleton] at he
      rw [hfrontier]
      rcases he with he | rfl
      · exact Nat.lt_succ_of_lt (hlt e he)
      · exact Nat.lt_succ_self _
  · intro j e hj herrand
    obtain rfl := Option.some.inj hj
    rw [herrands, herrand]
    simp

/-- The token of an interaction that is closed is one of an ended interaction from then on. -/
theorem closed (h : x.Register given log) {i : Interaction} (hactive : x.active = some i)
    (s : Scene) : (x.close i s).1.Register given (log ++ (x.close i s).2.2) := by
  obtain ⟨notes, hnoted, hnotes⟩ := x.close_notes i s
  have hplain := h.plain hnoted
  have herrands : errands {} (log ++ notes ++ [.ended i.token i.npc]) =
      errands {} (log ++ notes) := by
    rw [Journal.errands_append]
    exact List.append_nil _
  rw [hnotes, ← List.append_assoc]
  refine ⟨?_, h.given_sorted, h.given_lt, by simp [close], ?_, ?_, by simp [close]⟩
  · rw [Journal.ended_append, hplain.given_eq, hactive]
    exact (List.append_nil _).symm
  · rw [herrands]
    exact hplain.errands_sorted
  · rw [herrands]
    intro e he
    have hlt := hplain.errands_lt e he
    rwa [frontier, hactive] at hlt

theorem settled (h : x.Register given log) {i : Interaction} (hactive : x.active = some i)
    {b : Binding} {p : Performance} {s : Scene} {t : Turn} (hstretch : Performance.Stretch b p s t)
    (hticket : p.nextTicket = i.performance.nextTicket) {notes : List Note}
    (hplain : ∀ n ∈ notes, n.isPlain = true) :
    (x.settle i (t.after notes)).session.Register given
      (log ++ (x.settle i (t.after notes)).notes) := by
  have hturn := (h.plain hplain).turn hactive hstretch hticket
  by_cases hstatus : (t.after notes).performance.status = .finished
  · have hclosed := hturn.closed rfl t.scene
    rw [close_active] at hclosed
    rw [settle_finished hstatus]
    simpa only [Turn.after, List.append_assoc] using hclosed
  · rw [settle_waiting hstatus]
    simpa only [Turn.after, List.append_assoc] using hturn

/-! ## Every step keeps it -/

theorem launch (h : x.Register given log) (hfree : x.active = none) (npc player : String)
    (script : Script) (selection : Selection) (s : Scene) :
    (x.launch npc player script selection s).session.Register (given ++ [x.nextToken])
      (log ++ (x.launch npc player script selection s).notes) := by
  simp only [Session.launch]
  generalize hp : ({ script, journal := x.settings.journal, nextTicket := x.nextTicket } :
    Performance) = p
  have hidle : p.awaits? = none := by
    rw [← hp]
    rfl
  have hticket : p.nextTicket = x.nextTicket := by rw [← hp]
  obtain ⟨t, hstretch, hturn⟩ := p.start_stretch player (some npc) s
  have hbegun := h.launched hfree npc selection selection.index hidle hticket
  have hsettled := hbegun.settled rfl hstretch rfl
    (Journal.plain_of_asides (p.start_asides player (some npc) s))
  rw [← hturn] at hsettled
  rwa [List.append_assoc] at hsettled

theorem step (h : x.Register given log) (hx : x.Sound) {x' : Session} {s s' : Scene}
    {token? : Option Token} {notes : List Note} (hstep : x.Step s token? x' s' notes) :
    x'.Register (given ++ token?.toList) (log ++ notes) := by
  cases hstep with
  | stays hremarks =>
      simpa using h.plain (Journal.plain_of_asides hremarks.asides)
  | skips => simpa using h
  | takes hactive htakes =>
      obtain ⟨b, _, _, hstretch⟩ := htakes.stretch (hx _ hactive).1
      simpa using h.settled hactive hstretch htakes.frame.2.2.2.1 htakes.plain
  | closes hactive => simpa using h.closed hactive s
  | @launches npc player script selection notes hfree hremarks =>
      have hplain := h.plain (Journal.plain_of_asides hremarks.asides)
      simpa using hplain.launch hfree npc player script selection s

end Register

end Session

end Cutscene
