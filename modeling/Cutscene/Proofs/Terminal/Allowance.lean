import Cutscene.Proofs.Format.Town
import Cutscene.Proofs.Terminal.Marches
/-!
# The frames of a turn

A turn that waits for a walk has `walkFrames` frames, and no more of them when other walks follow.
So walks of which none takes long are given up all the same, once there are enough of them without a
message in between (`walks_share_frames`).
-/

namespace Cutscene.Terminal

namespace Game

variable {g g' g₁ : Game} {actor line : String} {failure : Failure} {ns : List Nat}

/-! ## Turns that wait for a walk -/

theorem round_eq_failed :
    g.round line = .failed g₁ failure ↔ g.beforeRound.step line = .failed g₁ failure := by
  rw [round_eq]
  split
  · rename_i hstep
    simp [hstep]
  · rfl

theorem Attended.step_of_walk (h : g.Attended) (hwalk : g.status = .paused (.walk actor))
    (line : String) : g.beforeRound.step line =
      (g.beforeRound.announced actor).simulateWalk actor walkFrames := by
  have hstatus := h.beforeRound.2.1.trans hwalk
  rw [Game.step, hstatus]
  rfl

/-- The frames of all walks together decide whether a turn comes to the end of them. -/
theorem AllBack.round_iff (hall : (g.beforeRound.announced actor).AllBack ns g')
    (h : g.Attended) (hwalk : g.status = .paused (.walk actor)) (line : String) :
    (g.round line = .next g'.render ↔ ns.sum ≤ walkFrames) ∧
      ((∃ g₁, g.round line = .failed g₁ (.endlessWalk actor)) ↔ walkFrames < ns.sum) := by
  obtain ⟨hattended, hstatus⟩ := h.announce hwalk
  rw [round_eq, h.step_of_walk hwalk]
  rcases Nat.lt_or_ge walkFrames ns.sum with hlt | hle
  · obtain ⟨g₁, hfailed⟩ := (hall.walks.outlasts hlt).simulateWalk hattended actor
    simp [hfailed, hlt]
  · simp [hall.simulateWalk hattended hstatus hle, hle]

/-- A turn gives up just when a walk is still under way behind all of its frames. -/
theorem Attended.round_failed_iff (h : g.Attended) (hwalk : g.status = .paused (.walk actor))
    (line : String) : (∃ g₁, g.round line = .failed g₁ (.endlessWalk actor)) ↔
      (g.beforeRound.announced actor).Outlasts walkFrames := by
  obtain ⟨hattended, hstatus⟩ := h.announce hwalk
  simp only [round_eq_failed, h.step_of_walk hwalk]
  exact (hattended.outlasts_iff hstatus).symm

theorem Frames.simulateWalk {frames left : Nat} (h : g.Frames frames g' left) (actor : String) :
    g.simulateWalk actor frames = g'.simulateWalk actor left := by
  induction h with
  | here => rfl
  | frame hhand hgoes hwalking _ ih => rw [simulateWalk_goes_on hhand hgoes hwalking, ih]

theorem GivesUp.outlasts (hgivesUp : g.GivesUp actor g') (h : g.Attended) :
    (g.beforeRound.announced actor).Outlasts walkFrames := by
  obtain ⟨hwalk, hframes⟩ := hgivesUp
  obtain ⟨hattended, hstatus⟩ := h.announce hwalk
  exact (hattended.outlasts_iff hstatus).2 ⟨g', hframes.simulateWalk actor⟩

end Game

/-! ## The whole command -/

section

variable {o : Options} {d : Disk} {lines rest : List String} {g g₁ : Game} {failure : Failure}
  {actor : String}

/-- A turn that fails ends the command. -/
theorem Reaches.play_result (h : Reaches o d lines g rest)
    (hround : g.round (g.read rest).1 = .failed g₁ failure) :
    (play o d lines).result = some (.error failure) := by
  obtain ⟨setup, first, hload, hbegin, hleads⟩ := h
  obtain ⟨turns, hturns⟩ := hleads.run_add
  have hlast : first.run lines (turns + 1) = .failed g₁ failure := by
    rw [hturns, Game.run_succ, hround]
  -- the turns that the command is given bring it that far
  have hover : ∀ g', first.run lines (setup.turns lines) ≠ .next g' := by
    intro g' hrun
    have henough := (Setup.begin_ready hbegin).1.run_next_iff (Setup.lt_turns hbegin lines)
    obtain ⟨g₂, hgoes⟩ := henough.1 ⟨g', hrun⟩ (turns + 1)
    rw [hlast] at hgoes
    cases hgoes
  have hrun : first.run lines (setup.turns lines) = .failed g₁ failure := by
    rw [← Game.run_add_of_over hover (turns + 1), Nat.add_comm,
      Game.run_add_of_over (by simp [hlast]), hlast]
  simp [play, hload, hbegin, Game.finish, hrun, Game.Round.report]

/-! ### Before the first turn -/

theorem bind_ne_error {ε α β : Type} {x : Except ε α} {f : α → Except ε β} {e : ε}
    (hx : x ≠ .error e) (hf : ∀ a, f a ≠ .error e) : x >>= f ≠ .error e := by
  cases x with
  | error => exact fun h => hx (congrArg Except.error (Except.error.inj h))
  | ok a => exact hf a

theorem mapError_ne_error {ε ε' α : Type} {f : ε → ε'} {e : ε'} (hf : ∀ e', f e' ≠ e)
    (x : Except ε α) : x.mapError f ≠ .error e := by
  cases x with
  | error e' => exact fun h => hf e' (Except.error.inj h)
  | ok => nofun

theorem load_ne_endlessWalk : Setup.load o d ≠ .error (.endlessWalk actor) := by
  have hsettings : o.settings.elim (.ok {}) (loadSettings d) ≠ .error (.endlessWalk actor) := by
    cases o.settings with
    | none => nofun
    | some path =>
        exact bind_ne_error (mapError_ne_error nofun _) fun _ => mapError_ne_error nofun _
  have htown : loadTown d o.town ≠ .error (.endlessWalk actor) :=
    bind_ne_error (mapError_ne_error nofun _) fun _ => mapError_ne_error nofun _
  refine bind_ne_error hsettings fun settings => bind_ne_error htown fun town => ?_
  split
  · nofun
  · dsimp only
    split
    · exact bind_ne_error (mapError_ne_error nofun _) fun _ => nofun
    · nofun

theorem begin_ne_endlessWalk {setup : Setup} :
    setup.begin o d ≠ .failed g (.endlessWalk actor) := by
  unfold Setup.begin
  dsimp only
  split <;> simp

/-- A walk is only given up once the game has begun. -/
theorem exists_begin_of_endlessWalk
    (hfails : (play o d lines).result = some (.error (.endlessWalk actor))) :
    ∃ setup first, Setup.load o d = .ok setup ∧ setup.begin o d = .next first := by
  cases hload : Setup.load o d with
  | error failure =>
      obtain rfl : failure = .endlessWalk actor := by simpa [play, hload] using hfails
      exact absurd hload load_ne_endlessWalk
  | ok setup =>
      refine ⟨setup, ?_⟩
      cases hbegin : setup.begin o d with
      | done => simp [play, hload, hbegin, Game.Round.report] at hfails
      | failed g failure =>
          obtain rfl : failure = .endlessWalk actor := by
            simpa [play, hload, hbegin, Game.Round.report] using hfails
          exact absurd hbegin begin_ne_endlessWalk
      | next first => exact ⟨first, rfl, rfl⟩

/-- The command gives up just when it comes to a turn whose walks outlast its frames. -/
theorem play_endlessWalk_iff :
    (play o d lines).result = some (.error (.endlessWalk actor)) ↔
      ∃ g rest, Reaches o d lines g rest ∧ g.status = .paused (.walk actor) ∧
        (g.beforeRound.announced actor).Outlasts walkFrames := by
  constructor
  · intro hfails
    obtain ⟨setup, first, hload, hbegin⟩ := exists_begin_of_endlessWalk hfails
    rcases play_fails hload hbegin hfails with
      ⟨g, rest, walker, g', hreaches, hgivesUp, hsame⟩ | ⟨_, _, _, _, hother⟩
    · obtain rfl := Failure.endlessWalk.inj hsame
      exact ⟨g, rest, hreaches, hgivesUp.1, hgivesUp.outlasts hreaches.attended⟩
    · simp at hother
  · rintro ⟨g, rest, hreaches, hwalk, hout⟩
    obtain ⟨g₁, hround⟩ := (hreaches.attended.round_failed_iff hwalk (g.read rest).1).2 hout
    exact hreaches.play_result hround

end

/-! ## Many short walks -/

def ascent : Walk where
  tiles := 1
  direction := .up

def descent : Walk where
  tiles := 1
  direction := .down

/-- Up a tile and down again, lap after lap. -/
def pacing : (laps : Nat) → List Walk
  | 0 => []
  | laps + 1 => ascent :: descent :: pacing laps

/-- Ann does nothing but pace. -/
def pacingTown (laps : Nat) : Town where
  player := { name := "Ben", position := ⟨16, 0⟩ }
  residents := [{
    name := "Ann"
    position := ⟨0, 16⟩
    talking := [{ events := (pacing laps).map .walk }] }]

def pacingDisk (laps : Nat) : Disk :=
  townDisk (Format.ofTown (pacingTown laps)).compact.toUTF8

theorem readsBack_pacingTown (laps : Nat) : (pacingTown laps).ReadsBack := by
  have hbalance : Json.ReadsBack 0.0 := by rw [Json.ReadsBack]; rfl
  have hzero : Json.ReadsBack32 0 := by rw [Json.ReadsBack32]; rfl
  have hsixteen : Json.ReadsBack32 16 := by rw [Json.ReadsBack32]; rfl
  refine ⟨hbalance, ⟨hsixteen, hzero⟩, fun r hr => ?_⟩
  obtain rfl := List.mem_singleton.1 hr
  refine ⟨⟨hzero, hsixteen⟩, fun s hs amount hamount => ?_⟩
  obtain rfl := List.mem_singleton.1 hs
  simp at hamount

def pacingSetup (laps : Nat) : Setup where
  settings := {}
  town := pacingTown laps
  entries := [{ events := (pacing laps).map .walk }]
  store := .memory .empty

theorem load_pacing (laps : Nat) :
    Setup.load asking (pacingDisk laps) = .ok (pacingSetup laps) := by
  have hback := readsBack_pacingTown laps
  have hdecode := Json.decodeText_written ((Format.fits_ofTown hback).mono (by decide))
    (Format.town_ofTown hback) false
  have htown : loadTown (pacingDisk laps) asking.town = .ok (pacingTown laps) := by
    refine (loadTown_of_read _ (read_townDisk _) rfl).trans ?_
    rw [← Json.decodeText, Json.Doc.compact, hdecode]
    rfl
  rw [Setup.load, htown]
  rfl

/-- Ann, where she stands at the beginning and after each lap. -/
def pacer : Actor where
  name := "Ann"
  position := ⟨0, 16⟩
  direction := .down

theorem takesFrames_ascent : pacer.TakesFrames ascent frameMs 13 := by
  rw [Actor.TakesFrames]
  decide +kernel

theorem takesFrames_descent : (pacer.brought ascent).TakesFrames descent frameMs 13 := by
  rw [Actor.TakesFrames]
  decide +kernel

theorem brought_lap : (pacer.brought ascent).brought descent = pacer := by
  decide +kernel

/-- The two of the town; Ben does not move. -/
def pacingCast (a : Actor) : Cast :=
  ⟨[{ name := "Ben", position := ⟨16, 0⟩, direction := .down }, a]⟩

theorem get?_pacingCast {a : Actor} (h : a.name = "Ann") :
    (pacingCast a).get? "Ann" = some a := by
  simp [pacingCast, Cast.get?, h]

theorem modify_pacingCast {a : Actor} (h : a.name = "Ann") (f : Actor → Actor) :
    (pacingCast a).modify "Ann" f = pacingCast (f a) := by
  simp [pacingCast, Cast.modify, Cast.modifyFirst, h]

/-- Each walk of a lap takes thirteen frames. -/
theorem legs_pacing (laps : Nat) :
    Legs ⟨"Ben", some "Ann"⟩ (pacingCast pacer) (pacing laps) (List.replicate (2 * laps) 13) := by
  induction laps with
  | zero => exact .nil _
  | succ laps ih =>
      have hup := modify_pacingCast (a := pacer) rfl fun _ => pacer.brought ascent
      have hdown := modify_pacingCast (a := pacer.brought ascent) rfl fun _ =>
        (pacer.brought ascent).brought descent
      rw [brought_lap] at hdown
      have hdescent : Legs ⟨"Ben", some "Ann"⟩ (pacingCast (pacer.brought ascent))
          (descent :: pacing laps) (13 :: List.replicate (2 * laps) 13) :=
        .cons (get?_pacingCast rfl) takesFrames_descent (hdown.symm ▸ ih)
      rw [Nat.mul_succ, List.replicate_succ, List.replicate_succ, pacing]
      exact .cons (get?_pacingCast rfl) takesFrames_ascent (hup.symm ▸ hdescent)

/-- Ann comes back from all of her walks. -/
theorem reaches_pacing (laps : Nat) :
    ∃ g g', Reaches asking (pacingDisk (laps + 1)) [] g [] ∧ g.status = .paused (.walk "Ann") ∧
      (g.beforeRound.announced "Ann").AllBack (List.replicate (2 * (laps + 1)) 13) g' := by
  obtain ⟨g, hbegin, hsetsOut⟩ := Setup.begin_setsOut (pacingSetup (laps + 1)) asking
    (pacingDisk (laps + 1)) (w := ascent) (a := pacer) rfl rfl rfl rfl
  obtain ⟨g', hall⟩ := (hsetsOut.announced "Ann").exists_allBack (legs_pacing (laps + 1))
  exact ⟨g, g', ⟨_, g, load_pacing (laps + 1), hbegin, .here g []⟩, hsetsOut.status_eq, hall⟩

/-! ## One allowance for all walks -/

/-- **Walks share the frames of a turn.** Whatever the files, whoever is talked to and whatever the
lines of the input, a turn that waits for a walk comes to the end of all walks that follow each
other from there just when their frames together are at most `walkFrames`, each walk counted from
the frame in which its walker sets out.  If they are more, the turn gives up and names the first
walker, however soon each of the walks would come back.  The command fails in this way just when it
comes to a turn behind whose frames one of its walks is still under way. -/
theorem walks_share_frames (o : Options) (d : Disk) (lines : List String) :
    (∀ g rest actor ns g' line, Reaches o d lines g rest → g.status = .paused (.walk actor) →
      (g.beforeRound.announced actor).AllBack ns g' →
      (g.round line = .next g'.render ↔ ns.sum ≤ walkFrames) ∧
      ((∃ g₁, g.round line = .failed g₁ (.endlessWalk actor)) ↔ walkFrames < ns.sum)) ∧
    ∀ actor, (play o d lines).result = some (.error (.endlessWalk actor)) ↔
      ∃ g rest, Reaches o d lines g rest ∧ g.status = .paused (.walk actor) ∧
        (g.beforeRound.announced actor).Outlasts walkFrames :=
  ⟨fun _ _ _ _ _ line hreaches hwalk hall => hall.round_iff hreaches.attended hwalk line,
    fun _ => play_endlessWalk_iff⟩

/-- There are frames enough for 384 laps. -/
theorem walks_share_frames_pacing :
    ∃ g g', Reaches asking (pacingDisk 384) [] g [] ∧ g.status = .paused (.walk "Ann") ∧
      (g.beforeRound.announced "Ann").AllBack (List.replicate 768 13) g' ∧
      g.round "" = .next g'.render := by
  obtain ⟨g, g', hreaches, hwalk, hall⟩ := reaches_pacing 383
  have hturn := (walks_share_frames asking (pacingDisk 384) []).1 g [] "Ann" _ g' "" hreaches hwalk
    hall
  exact ⟨g, g', hreaches, hwalk, hall, hturn.1.2 (by rw [List.sum_replicate_nat]; decide)⟩

/-- One lap more is given up, though each of its walks takes no more than thirteen frames. -/
theorem short_walks_given_up :
    ∃ g g', Reaches asking (pacingDisk 385) [] g [] ∧ g.status = .paused (.walk "Ann") ∧
      (g.beforeRound.announced "Ann").AllBack (List.replicate 770 13) g' ∧
      (∀ n ∈ List.replicate 770 13, n ≤ walkFrames) ∧
      (∃ g₁, g.round "" = .failed g₁ (.endlessWalk "Ann")) ∧
      (play asking (pacingDisk 385) []).result = some (.error (.endlessWalk "Ann")) := by
  obtain ⟨g, g', hreaches, hwalk, hall⟩ := reaches_pacing 384
  obtain ⟨_, hfails⟩ := hall.round_iff hreaches.attended hwalk (g.read []).1
  obtain ⟨g₁, hround⟩ := hfails.2 (by rw [List.sum_replicate_nat]; decide)
  have hread : (g.read []).1 = "" := by
    rw [Game.read, hwalk]
    rfl
  refine ⟨g, g', hreaches, hwalk, hall, ?_, ⟨g₁, hread ▸ hround⟩, hreaches.play_result hround⟩
  intro n hn
  rw [List.eq_of_mem_replicate hn]
  decide

end Cutscene.Terminal
