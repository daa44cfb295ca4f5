import Cutscene.Proofs.Cast.Tickets
import Cutscene.Script
/-!
# How many frames a walk takes

Where a walker stands, where it is to come and how far it gets in a frame decide how many frames its
walk takes (`Position.TakesFrames`).  While nobody else walks, a frame changes the walker and no one
else (`Cast.tick_onWay`).
-/

namespace Cutscene

namespace Position

/-- Steps of a length lead from a point to a target in just so many frames, the last of which
reaches the target. -/
inductive TakesFrames (target : Position) (d : Direction) (step : Float32) :
    Position → Nat → Prop where
  | last {p : Position} : ¬ step < p.distanceTo target → TakesFrames target d step p 1
  | more {p : Position} {n : Nat} : step < p.distanceTo target →
      TakesFrames target d step (p.offset d step) n → TakesFrames target d step p (n + 1)

variable {p target : Position} {d : Direction} {step : Float32} {n : Nat}

theorem takesFrames_of_lt (h : step < p.distanceTo target) :
    TakesFrames target d step p (n + 1) ↔ TakesFrames target d step (p.offset d step) n := by
  refine ⟨fun htakes => ?_, .more h⟩
  cases htakes with
  | last hthere => exact absurd h hthere
  | more _ hrest => exact hrest

theorem takesFrames_of_not_lt (h : ¬ step < p.distanceTo target) :
    TakesFrames target d step p (n + 1) ↔ n = 0 := by
  constructor
  · intro htakes
    cases htakes with
    | last => rfl
    | more hon => exact absurd hon h
  · rintro rfl
    exact .last h

instance decidableTakesFrames (target : Position) (d : Direction) (step : Float32) :
    (p : Position) → (n : Nat) → Decidable (TakesFrames target d step p n)
  | _, 0 => .isFalse nofun
  | p, n + 1 =>
    if h : step < p.distanceTo target then
      have := decidableTakesFrames target d step (p.offset d step) n
      decidable_of_iff _ (takesFrames_of_lt h).symm
    else decidable_of_iff _ (takesFrames_of_not_lt h).symm

end Position

namespace Actor

/-- Where a walk takes an actor. -/
def target (a : Actor) (w : Walk) : Position :=
  a.position.offset w.direction (w.tiles.toFloat32 * a.tileSize)

/-- The actor at a point of the way that it is sent on. -/
def onWay (a : Actor) (w : Walk) (ticket : Ticket) (p : Position) : Actor :=
  { a.walk w.tiles w.direction ticket with position := p }

/-- The actor behind a walk. -/
def brought (a : Actor) (w : Walk) : Actor :=
  { a with
    position := a.target w
    direction := w.direction
    movement := .idle
    journey := none }

/-- A walk takes the actor just so many frames of `ms` milliseconds. -/
def TakesFrames (a : Actor) (w : Walk) (ms : Float32) (n : Nat) : Prop :=
  Position.TakesFrames (a.target w) w.direction (a.walkSpeed * ms) a.position n

theorem tick_onWay (a : Actor) (w : Walk) (ticket : Ticket) (p : Position) (ms : Float32) :
    (a.onWay w ticket p).tick ms =
      if a.walkSpeed * ms < p.distanceTo (a.target w) then
        (a.onWay w ticket (p.offset w.direction (a.walkSpeed * ms)), none)
      else (a.brought w, some ticket) := rfl

theorem tick_of_idle {a : Actor} (h : a.ticket? = none) (ms : Float32) : a.tick ms = (a, none) := by
  rw [tick, Option.map_eq_none_iff.1 h]

end Actor

namespace Cast

variable {c : Cast} {name : String} {a x : Actor}

/-- Only what becomes of the first actor of a name tells two changes apart. -/
theorem modify_congr (hget : c.get? name = some a) {f g : Actor → Actor}
    (hname : (f a).name = a.name) (h : f a = g a) : c.modify name f = c.modify name g := by
  obtain ⟨before, behind, _, hmodify⟩ := exists_split_of_get? hget
  have hf := (hmodify f hname).1
  have hg := (hmodify g (h ▸ hname)).1
  rw [h, ← hg] at hf
  exact congrArg Cast.mk hf

/-- Nothing happens in a frame where nobody walks. -/
theorem tick_of_idle (hidle : c.tickets = []) (ms : Float32) : c.tick ms = (c, []) := by
  have hstill : ∀ b ∈ c.actors, b.tick ms = (b, none) := fun b hb =>
    Actor.tick_of_idle (List.filterMap_eq_nil_iff.1 hidle b hb) ms
  have hticked : c.actors.map (·.tick ms) = c.actors.map (·, none) := List.map_congr_left hstill
  rw [tick, hticked]
  simp [Function.comp_def]

theorem tick_split (before behind : List Actor) (x : Actor) (ms : Float32) :
    (⟨before ++ x :: behind⟩ : Cast).tick ms =
      (⟨((⟨before⟩ : Cast).tick ms).1.actors ++
          (x.tick ms).1 :: ((⟨behind⟩ : Cast).tick ms).1.actors⟩,
        ((⟨before⟩ : Cast).tick ms).2 ++
          ((x.tick ms).2.toList ++ ((⟨behind⟩ : Cast).tick ms).2)) := by
  simp only [tick, List.map_append, List.map_cons, List.filterMap_append, List.filterMap_cons]
  cases (x.tick ms).2 <;> rfl

/-- An actor that takes another one's place where nobody walks stands between idle ones. -/
theorem exists_split_of_idle (hidle : c.tickets = []) (hget : c.get? name = some a) :
    ∃ before behind, (⟨before⟩ : Cast).tickets = [] ∧ (⟨behind⟩ : Cast).tickets = [] ∧
      ∀ x : Actor, x.name = a.name → c.modify name (fun _ => x) = ⟨before ++ x :: behind⟩ := by
  obtain ⟨before, behind, hactors, hmodify⟩ := exists_split_of_get? hget
  have hothers : ∀ b ∈ before ++ a :: behind, b.ticket? = none := by
    rw [← hactors]
    exact List.filterMap_eq_nil_iff.1 hidle
  refine ⟨before, behind, List.filterMap_eq_nil_iff.2 fun b hb => ?_,
    List.filterMap_eq_nil_iff.2 fun b hb => ?_,
    fun x hx => congrArg Cast.mk (hmodify (fun _ => x) hx).1⟩
  · exact hothers b (List.mem_append_left _ hb)
  · exact hothers b (List.mem_append_right _ (List.mem_cons_of_mem _ hb))

theorem tickets_modify (hidle : c.tickets = []) (hget : c.get? name = some a)
    (hname : x.name = a.name) : (c.modify name fun _ => x).tickets = x.ticket?.toList := by
  obtain ⟨before, behind, hbefore, hbehind, hplaced⟩ := exists_split_of_idle hidle hget
  rw [tickets] at hbefore hbehind
  rw [hplaced x hname, tickets, List.filterMap_append, hbefore, List.filterMap_cons, hbehind]
  cases x.ticket? <;> rfl

/-- Where nobody walks, a frame changes no one but the actor that takes another one's place. -/
theorem tick_modify (hidle : c.tickets = []) (hget : c.get? name = some a)
    (hname : x.name = a.name) (ms : Float32) :
    (c.modify name fun _ => x).tick ms =
      (c.modify name fun _ => (x.tick ms).1, (x.tick ms).2.toList) := by
  obtain ⟨before, behind, hbefore, hbehind, hplaced⟩ := exists_split_of_idle hidle hget
  rw [hplaced x hname, hplaced _ ((name_tick x ms).trans hname), tick_split,
    tick_of_idle hbefore, tick_of_idle hbehind]
  simp only [List.nil_append, List.append_nil]

/-- The only walker gets on, or hands over its ticket. -/
theorem tick_onWay (hidle : c.tickets = []) (hget : c.get? name = some a) (w : Walk)
    (ticket : Ticket) (p : Position) (ms : Float32) :
    (c.modify name fun _ => a.onWay w ticket p).tick ms =
      if a.walkSpeed * ms < p.distanceTo (a.target w) then
        (c.modify name fun _ => a.onWay w ticket (p.offset w.direction (a.walkSpeed * ms)), [])
      else (c.modify name fun _ => a.brought w, [ticket]) := by
  have hname : (a.onWay w ticket p).name = a.name := rfl
  rw [tick_modify hidle hget hname, a.tick_onWay]
  split <;> rfl

theorem walk_eq_onWay (hget : c.get? name = some a) (w : Walk) (ticket : Ticket) :
    c.walk name w.tiles w.direction ticket =
      c.modify name fun _ => a.onWay w ticket a.position :=
  modify_congr hget rfl rfl

end Cast

end Cutscene
