import Cutscene.Proofs.Performance.Flags
/-!
# A used performance is as good as new

A reset and a start clear the fields of a performance each in its own way: a start leaves the status
for the run to set.  Where a performance stood makes no difference to what a run leaves
(`run_of_status`), so a start does to a used performance what it does to a new one once the used one
is reset (`used_as_new`); only the note that a script is over may be missing.
-/

namespace Cutscene.Performance

/-- A performance that has not begun has no flags of choices to purge. -/
theorem fresh_purge (script : Script) (journal : Journal.Filter) (ticket : Ticket) (s : Scene) :
    (fresh script journal ticket).purge s = ⟨fresh script journal ticket, s, []⟩ := rfl

/-- A reset brings back the performance from before its first start, but for the tickets that have
been given out. -/
theorem reset_performance (p : Performance) (s : Scene) :
    (p.reset s).performance = fresh p.script p.journal p.nextTicket := rfl

theorem fresh_reset (script : Script) (journal : Journal.Filter) (ticket : Ticket) (s : Scene) :
    (fresh script journal ticket).reset s = ⟨fresh script journal ticket, s, []⟩ := by
  rw [reset, fresh_purge]
  rfl

/-- Where a performance stood before it plays on makes no difference to what it leaves. -/
theorem run_of_status (b : Binding) (p : Performance) (status : Status) (s : Scene)
    (events : List Event) :
    (run b { p with status } s events).performance = (run b p s events).performance ∧
      (run b { p with status } s events).scene = (run b p s events).scene := by
  induction events generalizing p s with
  | nil => exact ⟨rfl, rfl⟩
  | cons e rest ih =>
      simp only [run]
      split
      · exact ih { p with cursor := p.cursor + 1 } _
      · rename_i pause _
        cases pause <;> exact ⟨rfl, rfl⟩

theorem start_eq_run (p : Performance) (player : String) (initiator : Option String) (s : Scene) :
    p.start player initiator s =
      (run ⟨player, initiator⟩ (p.rewound player initiator).cleared (p.purge s).scene
        p.script.events).after ((p.purge s).notes ++ [.started player initiator p.script.length]) :=
  rfl

/-- In front of its first event a new performance differs from a used one by the status alone. -/
theorem fresh_rewound (p : Performance) (player : String) (initiator : Option String) :
    ((fresh p.script p.journal p.nextTicket).rewound player initiator).cleared =
      { (p.rewound player initiator).cleared with status := .idle } := rfl

/-- A start of the new performance plays the same events on what the reset leaves. -/
theorem start_of_fresh (p : Performance) (player : String) (initiator : Option String)
    (s : Scene) :
    ((fresh p.script p.journal p.nextTicket).start player initiator (p.reset s).scene).performance =
        (p.start player initiator s).performance ∧
      ((fresh p.script p.journal p.nextTicket).start player initiator (p.reset s).scene).scene =
        (p.start player initiator s).scene := by
  rw [start_eq_run, start_eq_run, fresh_purge, fresh_rewound]
  exact run_of_status ⟨player, initiator⟩ (p.rewound player initiator).cleared .idle
    (p.purge s).scene p.script.events

/-- **A used performance is as good as new.** Wherever it has come to, a reset removes the flags
that its choices have set and nothing else from the scene, and leaves the performance as a new one
of its script that goes on with its tickets; another reset changes nothing, on whatever scene.  A
start leaves the same performance, with its status, and the same scene as a start of that new one
behind the reset. -/
theorem used_as_new (p : Performance) (s : Scene) :
    (p.reset s).performance = fresh p.script p.journal p.nextTicket ∧
      (p.reset s).scene = { s with store := (p.reset s).scene.store } ∧
      (∀ key, (p.reset s).scene.store.get? key =
        if p.chosen.contains key then none else s.store.get? key) ∧
      (∀ s', (p.reset s).performance.reset s' = ⟨(p.reset s).performance, s', []⟩) ∧
      ∀ player initiator,
        (p.start player initiator s).performance =
            ((fresh p.script p.journal p.nextTicket).start player initiator
              (p.reset s).scene).performance ∧
          (p.start player initiator s).scene =
            ((fresh p.script p.journal p.nextTicket).start player initiator
              (p.reset s).scene).scene := by
  refine ⟨p.reset_performance s, rfl, p.get?_purge s, fun s' => ?_, fun player initiator => ?_⟩
  · rw [reset_performance, fresh_reset]
  · obtain ⟨hperformance, hscene⟩ := p.start_of_fresh player initiator s
    exact ⟨hperformance.symm, hscene.symm⟩

end Cutscene.Performance
