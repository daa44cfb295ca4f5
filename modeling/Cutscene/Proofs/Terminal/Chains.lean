import Cutscene.Proofs.Terminal.Walkers
import Mathlib.Algebra.GroupWithZero.Nat
/-!
# Walks that follow each other

A turn that waits for a walk goes on through all the walks that follow it without a message in
between (`Game.Walks`).  Each of them takes some frames of its own, counted from the frame in which
its walker set out; the turn counts all of them together (`Game.AllBack.simulateWalk`), and gives up
when that many frames have passed and somebody is still on the way (`Game.Outlasts`).
-/

namespace Cutscene.Terminal

namespace Game

/-- Frames pass in which nobody arrives. -/
inductive Elapses : Game → Nat → Game → Prop where
  | here (g : Game) : Elapses g 0 g
  | frame {g g' : Game} {n : Nat} : g.returned = [] → Elapses g.ticked n g' → Elapses g (n + 1) g'

/-- The walk that is waited for comes back in the frame with a number, and its ticket is handed
in. -/
inductive ComesBack : Game → Nat → Game → Prop where
  | behind {g g₀ g₁ : Game} {n : Nat} {answer : Option Status} : g.Elapses n g₀ →
      g₀.returned ≠ [] → g₀.ticked.handIn none g₀.returned = (.next g₁, answer) →
      ComesBack g (n + 1) g₁

/-- Walks that follow each other, with the number of frames that each of them takes. -/
inductive Walks : Game → List Nat → Game → Prop where
  | here (g : Game) : Walks g [] g
  | walk {g g₁ g' : Game} {walker : String} {n : Nat} {ns : List Nat} :
      g.status = .paused (.walk walker) → g.ComesBack n g₁ → Walks g₁ ns g' →
      Walks g (n :: ns) g'

/-- All walks that follow each other from here come back, and something else than a walk is waited
for then, or nothing any more. -/
structure AllBack (g : Game) (ns : List Nat) (g' : Game) : Prop where
  walks : g.Walks ns g'
  stops : ∀ walker, g'.status ≠ .paused (.walk walker)

/-- When a number of frames has passed, one of the walks that follow each other from here is still
under way. -/
inductive Outlasts (g : Game) : Nat → Prop where
  | stillWalking {g₁ g₂ : Game} {walker : String} {ns : List Nat} {n : Nat} : g.Walks ns g₁ →
      g₁.status = .paused (.walk walker) → g₁.Elapses n g₂ → Outlasts g (ns.sum + n)

variable {g g₁ g' : Game} {actor walker : String} {n frames : Nat} {ns : List Nat}

/-! ## One walk -/

theorem Elapses.of_le (h : g.Elapses n g') (hle : frames ≤ n) : ∃ g₁, g.Elapses frames g₁ := by
  induction h generalizing frames with
  | here g =>
      obtain rfl := Nat.le_zero.1 hle
      exact ⟨g, .here g⟩
  | @frame g _ _ hnone _ ih =>
      cases frames with
      | zero => exact ⟨g, .here g⟩
      | succ frames =>
          obtain ⟨g₁, helapses⟩ := ih (Nat.le_of_succ_le_succ hle)
          exact ⟨g₁, .frame hnone helapses⟩

theorem handIn_returned_nil (hnone : g.returned = []) :
    g.ticked.handIn none g.returned = (.next g.ticked, none) := by
  rw [hnone]
  rfl

theorem Attended.elapses (h : g.Attended) (hwalk : g.status = .paused (.walk walker))
    (helapses : g.Elapses n g') : g'.Attended ∧ g'.status = .paused (.walk walker) := by
  induction helapses with
  | here => exact ⟨h, hwalk⟩
  | frame hnone _ ih => exact ih (h.handed hwalk (handIn_returned_nil hnone)).1 hwalk

theorem Attended.simulateWalk_of_elapses (h : g.Attended)
    (hwalk : g.status = .paused (.walk walker)) (helapses : g.Elapses n g') (frames : Nat) :
    g.simulateWalk actor (n + frames) = g'.simulateWalk actor frames := by
  induction helapses with
  | here => rw [Nat.zero_add]
  | @frame g _ n hnone _ ih =>
      have hhand := handIn_returned_nil hnone
      have hticked := (h.handed hwalk hhand).1
      rw [Nat.succ_add, simulateWalk_goes_on hhand nofun (hticked.walking hwalk)]
      exact ih hticked hwalk

theorem Attended.comesBack (h : g.Attended) (hwalk : g.status = .paused (.walk walker))
    (hback : g.ComesBack n g₁) : g₁.Attended := by
  obtain ⟨helapses, _, hhand⟩ := hback
  obtain ⟨hattended, hstatus⟩ := h.elapses hwalk helapses
  exact (hattended.handed hstatus hhand).1

/-- The frames that a walk has taken are gone for the walk that follows it. -/
theorem Attended.simulateWalk_followed {next : String} (h : g.Attended)
    (hwalk : g.status = .paused (.walk walker)) (hback : g.ComesBack n g₁)
    (hnext : g₁.status = .paused (.walk next)) (frames : Nat) :
    g.simulateWalk actor (n + frames) = g₁.simulateWalk actor frames := by
  cases hback with
  | behind helapses _ hhand =>
      obtain ⟨hattended, hstatus⟩ := h.elapses hwalk helapses
      obtain ⟨hattended₁, hanswer⟩ := hattended.handed hstatus hhand
      rw [Nat.add_assoc, h.simulateWalk_of_elapses hwalk helapses, Nat.add_comm 1,
        simulateWalk_goes_on hhand (walks_on hanswer hnext) (hattended₁.walking hnext)]

theorem Attended.simulateWalk_last (h : g.Attended) (hwalk : g.status = .paused (.walk walker))
    (hback : g.ComesBack n g₁) (hstops : ∀ next, g₁.status ≠ .paused (.walk next)) (frames : Nat) :
    g.simulateWalk actor (n + frames) = .next g₁ := by
  cases hback with
  | behind helapses _ hhand =>
      obtain ⟨hattended, hstatus⟩ := h.elapses hwalk helapses
      rw [Nat.add_assoc, h.simulateWalk_of_elapses hwalk helapses, Nat.add_comm 1]
      rcases (hattended.handed hstatus hhand).2 with ⟨_, hsame⟩ | rfl
      · exact absurd (hsame.trans hstatus) (hstops walker)
      · exact simulateWalk_stops hhand hstops frames

/-- A walk comes back within a number of frames, or all of them pass without anyone arriving. -/
theorem Attended.comesBack_or_elapses (h : g.Attended) (hwalk : g.status = .paused (.walk walker))
    (frames : Nat) :
    (∃ n g₁, 0 < n ∧ n ≤ frames ∧ g.ComesBack n g₁) ∨ ∃ g', g.Elapses frames g' := by
  induction frames generalizing g with
  | zero => exact .inr ⟨g, .here g⟩
  | succ frames ih =>
      by_cases hnone : g.returned = []
      · have hticked := (h.handed hwalk (handIn_returned_nil hnone)).1
        rcases ih hticked hwalk with ⟨_, g₁, _, hle, ⟨helapses, hsome, hhand⟩⟩ | ⟨g', helapses⟩
        · exact .inl ⟨_, g₁, Nat.succ_pos _, Nat.succ_le_succ hle,
            .behind (.frame hnone helapses) hsome hhand⟩
        · exact .inr ⟨g', .frame hnone helapses⟩
      · obtain ⟨g₁, answer, hhand, _⟩ := h.frame hwalk
        exact .inl ⟨1, g₁, Nat.one_pos, Nat.succ_pos frames, .behind (.here g) hnone hhand⟩

/-! ## Walks in a row -/

theorem Walks.starts_walking (h : g.Walks ns g') (hwalk : g'.status = .paused (.walk walker)) :
    ∃ first, g.status = .paused (.walk first) := by
  cases h with
  | here => exact ⟨walker, hwalk⟩
  | walk hfirst => exact ⟨_, hfirst⟩

theorem Attended.walks (h : g.Attended) (hwalks : g.Walks ns g') : g'.Attended := by
  induction hwalks with
  | here => exact h
  | walk hfirst hback _ ih => exact ih (h.comesBack hfirst hback)

theorem Attended.simulateWalk_of_walks (h : g.Attended) (hwalks : g.Walks ns g₁)
    (hwalk : g₁.status = .paused (.walk walker)) (frames : Nat) :
    g.simulateWalk actor (ns.sum + frames) = g₁.simulateWalk actor frames := by
  induction hwalks with
  | here => rw [List.sum_nil, Nat.zero_add]
  | walk hfirst hback hrest ih =>
      obtain ⟨next, hnext⟩ := hrest.starts_walking hwalk
      rw [List.sum_cons, Nat.add_assoc, h.simulateWalk_followed hfirst hback hnext]
      exact ih (h.comesBack hfirst hback) hwalk

/-- **Frames that are enough.** Walks in a row come back when their frames together are at most
those that are left. -/
theorem AllBack.simulateWalk (hall : g.AllBack ns g') (h : g.Attended)
    (hwalk : g.status = .paused (.walk walker)) (hle : ns.sum ≤ frames) :
    g.simulateWalk actor frames = .next g' := by
  obtain ⟨hwalks, hstops⟩ := hall
  induction hwalks generalizing frames walker with
  | here => exact absurd hwalk (hstops walker)
  | walk hfirst hback hrest ih =>
      rw [List.sum_cons] at hle
      obtain ⟨left, rfl⟩ := Nat.exists_eq_add_of_le (Nat.le_of_add_right_le hle)
      cases hrest with
      | here => exact h.simulateWalk_last hfirst hback hstops left
      | walk hnext =>
          rw [h.simulateWalk_followed hfirst hback hnext]
          exact ih (h.comesBack hfirst hback) hnext (Nat.le_of_add_le_add_left hle) hstops

/-- **Frames that are not enough.** -/
theorem Outlasts.simulateWalk (hout : g.Outlasts frames) (h : g.Attended) (actor : String) :
    ∃ g', g.simulateWalk actor frames = .failed g' (.endlessWalk actor) := by
  cases hout with
  | @stillWalking g₁ g₂ _ ns n hwalks hwalk helapses =>
      refine ⟨g₂, ?_⟩
      rw [h.simulateWalk_of_walks hwalks hwalk, ← Nat.add_zero n,
        (h.walks hwalks).simulateWalk_of_elapses hwalk helapses]
      rfl

theorem ComesBack.elapses (h : g.ComesBack n g₁) (hlt : frames < n) :
    ∃ g', g.Elapses frames g' := by
  cases h with
  | behind helapses => exact helapses.of_le (Nat.le_of_lt_succ hlt)

theorem Elapses.outlasts (h : g.Elapses frames g') (hwalk : g.status = .paused (.walk walker)) :
    g.Outlasts frames := by
  have hout : g.Outlasts (List.sum [] + frames) := .stillWalking (.here g) hwalk h
  rwa [List.sum_nil, Nat.zero_add] at hout

theorem Outlasts.cons (h : g₁.Outlasts frames) (hwalk : g.status = .paused (.walk walker))
    (hback : g.ComesBack n g₁) : g.Outlasts (n + frames) := by
  cases h with
  | stillWalking hwalks hstatus helapses =>
      rw [← Nat.add_assoc, ← List.sum_cons]
      exact .stillWalking (.walk hwalk hback hwalks) hstatus helapses

/-- Walks in a row that take more frames than are left. -/
theorem Walks.outlasts (h : g.Walks ns g') (hlt : frames < ns.sum) : g.Outlasts frames := by
  induction h generalizing frames with
  | here => exact absurd hlt (Nat.not_lt_zero _)
  | @walk g _ _ _ n _ hwalk hback _ ih =>
      rw [List.sum_cons] at hlt
      by_cases hfirst : frames < n
      · obtain ⟨g', helapses⟩ := hback.elapses hfirst
        exact helapses.outlasts hwalk
      · obtain ⟨left, rfl⟩ := Nat.exists_eq_add_of_le (Nat.le_of_not_lt hfirst)
        exact (ih (Nat.lt_of_add_lt_add_left hlt)).cons hwalk hback

/-- Whatever walks follow, they come back in a number of frames or outlast it. -/
theorem Attended.allBack_or_outlasts (h : g.Attended) (hwalk : g.status = .paused (.walk walker))
    (frames : Nat) : (∃ ns g', g.AllBack ns g' ∧ ns.sum ≤ frames) ∨ g.Outlasts frames := by
  -- a walk that comes back leaves fewer frames
  induction frames using Nat.strongRecOn generalizing g walker with
  | ind frames ih =>
      rcases h.comesBack_or_elapses hwalk frames with ⟨n, g₁, hpos, hle, hback⟩ | ⟨g', helapses⟩
      · obtain ⟨left, rfl⟩ := Nat.exists_eq_add_of_le hle
        by_cases hnext : ∃ next, g₁.status = .paused (.walk next)
        · obtain ⟨next, hnext⟩ := hnext
          have hleft : left < n + left := Nat.lt_add_of_pos_left hpos
          rcases ih left hleft (h.comesBack hwalk hback) hnext with
            ⟨ns, g', hall, hsum⟩ | hout
          · refine .inl ⟨n :: ns, g', ⟨.walk hwalk hback hall.walks, hall.stops⟩, ?_⟩
            rw [List.sum_cons]
            exact Nat.add_le_add_left hsum n
          · exact .inr (hout.cons hwalk hback)
        · have hall : g.AllBack [n] g₁ := ⟨.walk hwalk hback (.here g₁), not_exists.1 hnext⟩
          exact .inl ⟨[n], g₁, hall, by simp⟩
      · exact .inr (helapses.outlasts hwalk)

theorem Attended.outlasts_iff (h : g.Attended) (hwalk : g.status = .paused (.walk walker)) :
    g.Outlasts frames ↔
      ∃ g', g.simulateWalk actor frames = .failed g' (.endlessWalk actor) := by
  refine ⟨fun hout => hout.simulateWalk h actor, fun ⟨g', hfailed⟩ => ?_⟩
  refine (h.allBack_or_outlasts hwalk frames).resolve_left ?_
  rintro ⟨ns, g₁, hall, hle⟩
  simp [hall.simulateWalk h hwalk hle] at hfailed

end Game

end Cutscene.Terminal
