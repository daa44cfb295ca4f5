import Cutscene.Proofs.Disk.Writing
import Cutscene.Proofs.Terminal.Turns
/-!
# Games that do not end

Behind the last line of the input a terminal reads empty lines.  An empty line confirms a message,
but it is no answer to a choice, so a game that is asked for a choice then is asked again and again.
No other game is endless, since every turn that is not the last uses up a line or gets on in the
script (`endless_iff_starves`).
-/

namespace Cutscene.Terminal

namespace Game

/-- The line that a turn reads, and the lines that it leaves. -/
def read (g : Game) (lines : List String) : String × List String :=
  if asks g.status then (lines.headD "", lines.drop 1) else ("", lines)

/-- The turns that lead from a game and its input to another one. -/
inductive Leads : Game → List String → Game → List String → Prop where
  | here (g : Game) (lines : List String) : Leads g lines g lines
  | turn {g g₁ g' : Game} {lines rest : List String} : g.round (g.read lines).1 = .next g₁ →
      Leads g₁ (g.read lines).2 g' rest → Leads g lines g' rest

/-- The loop goes on after any number of turns. -/
def Endless (g : Game) (lines : List String) : Prop :=
  ∀ turns, ∃ g', g.run lines turns = .next g'

/-- The game comes to be asked for a choice when no line is left. -/
def Starves (g : Game) (lines : List String) : Prop :=
  ∃ g', g.Leads lines g' [] ∧ g'.status = .paused .choice

theorem run_succ (g : Game) (lines : List String) (turns : Nat) :
    g.run lines (turns + 1) =
      match g.round (g.read lines).1 with
      | .next g₁ => g₁.run (g.read lines).2 turns
      | round => round := rfl

theorem run_succ_of_next {g g₁ : Game} {lines : List String}
    (h : g.round (g.read lines).1 = .next g₁) (turns : Nat) :
    g.run lines (turns + 1) = g₁.run (g.read lines).2 turns := by
  rw [run_succ, h]

theorem length_read_le (g : Game) (lines : List String) :
    (g.read lines).2.length ≤ lines.length := by
  unfold read
  split
  · simp
  · exact Nat.le_refl _

theorem length_read_lt {g : Game} (hasks : asks g.status = true) {lines : List String}
    (hlines : lines ≠ []) : (g.read lines).2.length < lines.length := by
  have hpos : 0 < lines.length := List.length_pos_iff.2 hlines
  rw [read, if_pos hasks]
  simp only [List.length_drop]
  omega

/-- Behind the turn in which a game is over, turns make no difference. -/
theorem run_add_of_over {g : Game} {lines : List String} {turns : Nat}
    (h : ∀ g', g.run lines turns ≠ .next g') (more : Nat) :
    g.run lines (turns + more) = g.run lines turns := by
  induction turns generalizing g lines with
  | zero => exact absurd rfl (h g)
  | succ turns ih =>
      rw [Nat.succ_add]
      cases hround : g.round (g.read lines).1 with
      | next g₁ =>
          rw [run_succ_of_next hround] at h
          rw [run_succ_of_next hround, run_succ_of_next hround, ih h]
      | done | failed => rw [run_succ, run_succ, hround]

theorem Ready.leads {g g' : Game} {lines rest : List String} (h : g.Ready)
    (hleads : g.Leads lines g' rest) : g'.Ready := by
  induction hleads with
  | here => exact h
  | turn hround _ ih => exact ih (h.round hround).1

/-! ## An open choice at the end of the input -/

theorem answer_empty {g : Game} (h : g.status = .paused .choice) :
    g.answer "" = .next (g.printLine "Invalid choice. Enter 1-9.") := by
  have htrim : Text.trim "" = "" := by decide
  have hchoice : choiceOf? "" = none := by decide
  have hquit : ("" : String) ≠ "q" := by decide
  simp only [answer, htrim, hchoice, if_neg hquit, if_pos h]

theorem Ready.round_empty {g : Game} (h : g.Ready) (hchoice : g.status = .paused .choice) :
    ∃ g', g.round "" = .next g' ∧ g'.Ready ∧ g'.status = .paused .choice := by
  obtain ⟨output, hbefore⟩ := g.beforeRound_eq
  have hstep : g.beforeRound.step "" =
      .next (g.beforeRound.printLine "Invalid choice. Enter 1-9.") := by
    have hstatus : g.beforeRound.status = .paused .choice := by
      rw [hbefore]
      exact hchoice
    rw [step, hstatus]
    exact answer_empty hstatus
  have horder : (g.beforeRound.printLine "Invalid choice. Enter 1-9.").InOrder := by
    rw [hbefore]
    exact ⟨h.sound, h.stands, h.announces⟩
  obtain ⟨hready, _, hstatus⟩ := horder.render
  refine ⟨_, by rw [round_eq, hstep], hready, ?_⟩
  rw [hstatus, hbefore]
  exact hchoice

/-- A choice that is open at the end of the input stays open. -/
theorem Ready.endless_of_choice {g : Game} (h : g.Ready) (hchoice : g.status = .paused .choice) :
    g.Endless [] := by
  intro turns
  induction turns generalizing g with
  | zero => exact ⟨g, rfl⟩
  | succ turns ih =>
      obtain ⟨g₁, hround, hready, hstatus⟩ := h.round_empty hchoice
      have hread : g.read [] = ("", []) := by
        rw [read, hchoice]
        rfl
      have hnext : g.round (g.read []).1 = .next g₁ := by
        rw [hread]
        exact hround
      rw [run_succ_of_next hnext, hread]
      exact ih hready hstatus

/-- The turns that lead to a game are the first ones of a run. -/
theorem Leads.run_add {g g' : Game} {lines rest : List String} (h : g.Leads lines g' rest) :
    ∃ first, ∀ turns, g.run lines (first + turns) = g'.run rest turns := by
  induction h with
  | here => exact ⟨0, fun turns => by rw [Nat.zero_add]⟩
  | turn hround _ ih =>
      obtain ⟨first, hrun⟩ := ih
      exact ⟨first + 1, fun turns => by rw [Nat.succ_add, run_succ_of_next hround, hrun]⟩

theorem Leads.endless {g g' : Game} {lines rest : List String} (h : g.Leads lines g' rest)
    (hendless : g'.Endless rest) : g.Endless lines := by
  induction h with
  | here => exact hendless
  | @turn g _ _ lines _ hround _ ih =>
      intro turns
      cases turns with
      | zero => exact ⟨g, rfl⟩
      | succ turns =>
          rw [run_succ_of_next hround]
          exact ih hendless turns

/-! ## Every other game ends -/

/-- A game that goes on for more turns than there are lines and events starves. -/
theorem Ready.starves_of_run {g g' : Game} (h : g.Ready) {lines : List String} {turns : Nat}
    (hturns : lines.length + g.session.left < turns) (hrun : g.run lines turns = .next g') :
    g.Starves lines := by
  induction turns generalizing g lines with
  | zero => exact absurd hturns (Nat.not_lt_zero _)
  | succ turns ih =>
      by_cases hstarved : lines = [] ∧ g.status = .paused .choice
      · obtain ⟨rfl, hchoice⟩ := hstarved
        exact ⟨g, .here g [], hchoice⟩
      · rw [run_succ] at hrun
        split at hrun
        · rename_i g₁ hround
          obtain ⟨hready, hnearer⟩ := h.round hround
          have hless : (g.read lines).2.length + g₁.session.left < turns := by
            rcases hnearer with hlt | ⟨hsession, _, hchoice⟩
            · have hlines := g.length_read_le lines
              omega
            · have hasks : asks g.status = true := by
                rw [hchoice]
                rfl
              have hlines := length_read_lt hasks fun hnil => hstarved ⟨hnil, hchoice⟩
              rw [hsession]
              omega
          obtain ⟨g₂, hleads, hchoice⟩ := ih hready hless hrun
          exact ⟨g₂, .turn hround hleads, hchoice⟩
        · rename_i hover
          exact absurd hrun (hover g')

theorem Ready.endless_iff {g : Game} (h : g.Ready) (lines : List String) :
    g.Endless lines ↔ g.Starves lines := by
  constructor
  · intro hendless
    obtain ⟨g', hrun⟩ := hendless (lines.length + g.session.left + 1)
    exact h.starves_of_run (Nat.lt_succ_self _) hrun
  · rintro ⟨g', hleads, hchoice⟩
    exact hleads.endless ((h.leads hleads).endless_of_choice hchoice)

/-- More turns than lines and events make no difference. -/
theorem Ready.run_next_iff {g : Game} (h : g.Ready) {lines : List String} {turns : Nat}
    (hturns : lines.length + g.session.left < turns) :
    (∃ g', g.run lines turns = .next g') ↔ g.Endless lines := by
  constructor
  · rintro ⟨g', hrun⟩
    exact (h.endless_iff lines).2 (h.starves_of_run hturns hrun)
  · intro hendless
    exact hendless turns

end Game

/-! ## The whole command -/

/-- The beat that a game begins with. -/
def Setup.beginning (setup : Setup) (o : Options) (d : Disk) : Beat :=
  let world := setup.town.world setup.settings setup.store d
  (Story.opening setup.settings world).act (.begin o.npc world.player setup.entries)

/-- The game behind a beginning, with nothing shown yet. -/
def Setup.begun (setup : Setup) (o : Options) (d : Disk) (token : Token) (status : Status) : Game :=
  { session := (setup.beginning o d).story.session
    world := (setup.beginning o d).story.world
    token
    status
    debug := o.debug
    output := Game.banner }

theorem Setup.begin_eq_next {setup : Setup} {o : Options} {d : Disk} {g : Game}
    (h : setup.begin o d = .next g) :
    ∃ token status, (setup.beginning o d).answer = .begun (.ok (token, status)) ∧
      g = (setup.begun o d token status).render := by
  unfold Setup.begin at h
  dsimp only at h
  split at h
  · simp at h
  · rename_i token status hanswer
    exact ⟨token, status, congrArg Answer.begun hanswer, (Game.Round.next.inj h).symm⟩

theorem Setup.begin_of_answer {setup : Setup} {o : Options} {d : Disk} {token : Token}
    {status : Status} (h : (setup.beginning o d).answer = .begun (.ok (token, status))) :
    setup.begin o d = .next (setup.begun o d token status).render := by
  unfold Setup.begin
  dsimp only
  split
  · rename_i error herror
    cases Answer.begun.inj (h.symm.trans (congrArg Answer.begun herror))
  · rename_i token' status' hanswer
    cases Answer.begun.inj (h.symm.trans (congrArg Answer.begun hanswer))
    rfl

theorem Setup.beginning_step (setup : Setup) (o : Options) (d : Disk) :
    ({ settings := setup.settings } : Session).Step
      (setup.town.world setup.settings setup.store d).scene (setup.beginning o d).token?
      (setup.beginning o d).story.session (setup.beginning o d).story.world.scene
      (setup.beginning o d).notes :=
  Story.act_step (Story.opening_sound setup.settings _) (by simp)

theorem Setup.begun_inOrder {setup : Setup} {o : Options} {d : Disk} {token : Token}
    {status : Status} (h : (setup.beginning o d).answer = .begun (.ok (token, status))) :
    (setup.begun o d token status).InOrder ∧
      (setup.begun o d token status).session.left ≤ (setup.entries.flatMap (·.events)).length := by
  obtain ⟨hstands, hleft⟩ := Session.begin_standsAt (Answer.begun.inj h)
  have hstep := setup.beginning_step o d
  have hsound := Story.opening_sound setup.settings (setup.town.world setup.settings setup.store d)
  have hannounces := hstep.announces hsound (Screen.announces_ofSpeed _)
  exact ⟨⟨hstep.sound hsound, hstands, hannounces⟩, hleft⟩

theorem Setup.begin_ready {setup : Setup} {o : Options} {d : Disk} {g : Game}
    (h : setup.begin o d = .next g) :
    g.Ready ∧ g.session.left ≤ (setup.entries.flatMap (·.events)).length := by
  obtain ⟨token, status, hanswer, rfl⟩ := Setup.begin_eq_next h
  obtain ⟨horder, hleft⟩ := Setup.begun_inOrder hanswer
  exact horder.render_left hleft

theorem Setup.lt_turns {setup : Setup} {o : Options} {d : Disk} {g : Game}
    (h : setup.begin o d = .next g) (lines : List String) :
    lines.length + g.session.left < setup.turns lines := by
  have hleft := (Setup.begin_ready h).2
  unfold Setup.turns
  omega

/-- The top of a turn with this game, and these lines left of the input. -/
def Reaches (o : Options) (d : Disk) (lines : List String) (g : Game) (rest : List String) : Prop :=
  ∃ setup first, Setup.load o d = .ok setup ∧ setup.begin o d = .next first ∧
    first.Leads lines g rest

/-- The loop goes on after any number of turns. -/
def Endless (o : Options) (d : Disk) (lines : List String) : Prop :=
  ∃ setup g, Setup.load o d = .ok setup ∧ setup.begin o d = .next g ∧ g.Endless lines

theorem Reaches.ready {o : Options} {d : Disk} {lines rest : List String} {g : Game}
    (h : Reaches o d lines g rest) : g.Ready := by
  obtain ⟨setup, first, _, hbegin, hleads⟩ := h
  exact (Setup.begin_ready hbegin).1.leads hleads

theorem endless_iff_starves (o : Options) (d : Disk) (lines : List String) :
    Endless o d lines ↔ ∃ g, Reaches o d lines g [] ∧ g.status = .paused .choice := by
  constructor
  · rintro ⟨setup, first, hload, hbegin, hendless⟩
    obtain ⟨g, hleads, hchoice⟩ :=
      ((Setup.begin_ready hbegin).1.endless_iff lines).1 hendless
    exact ⟨g, ⟨setup, first, hload, hbegin, hleads⟩, hchoice⟩
  · rintro ⟨g, ⟨setup, first, hload, hbegin, hleads⟩, hchoice⟩
    exact ⟨setup, first, hload, hbegin,
      ((Setup.begin_ready hbegin).1.endless_iff lines).2 ⟨g, hleads, hchoice⟩⟩

/-- What is done when the loop is over comes to an end. -/
theorem conclude_ne_next (g : Game) (saveFolder : Option String) (g' : Game) :
    g.conclude saveFolder ≠ .next g' := by
  unfold Game.conclude
  dsimp only
  split
  · unfold Game.saveProgress
    split
    · simp
    · dsimp only
      split <;> simp
  · simp

theorem report_result_eq_none {round : Game.Round} :
    round.report.result = none ↔ ∃ g, round = .next g := by
  cases round <;> simp [Game.Round.report]

theorem finish_eq_next {g g' : Game} {lines : List String} {turns : Nat}
    {saveFolder : Option String} :
    g.finish lines turns saveFolder = .next g' ↔ g.run lines turns = .next g' := by
  unfold Game.finish
  split
  · rename_i g₁ hrun
    simp [hrun, conclude_ne_next]
  · rfl

theorem endless_of_begin {o : Options} {d : Disk} {lines : List String} {setup : Setup}
    (hload : Setup.load o d = .ok setup) :
    Endless o d lines ↔ ∃ g, setup.begin o d = .next g ∧ g.Endless lines := by
  constructor
  · rintro ⟨setup', g, hload', hbegin, hendless⟩
    obtain rfl := Except.ok.inj (hload.symm.trans hload')
    exact ⟨g, hbegin, hendless⟩
  · rintro ⟨g, hbegin, hendless⟩
    exact ⟨setup, g, hload, hbegin, hendless⟩

/-- The turns that a game is given are enough. -/
theorem play_result_eq_none (o : Options) (d : Disk) (lines : List String) :
    (play o d lines).result = none ↔ Endless o d lines := by
  unfold play
  cases hload : Setup.load o d with
  | error failure =>
      refine iff_of_false (Option.some_ne_none _) ?_
      rintro ⟨setup, _, hload', _⟩
      simp [hload] at hload'
  | ok setup =>
      rw [endless_of_begin hload]
      dsimp only
      cases hbegin : setup.begin o d with
      | done g => exact iff_of_false (Option.some_ne_none _) (by simp)
      | failed g failure => exact iff_of_false (Option.some_ne_none _) (by simp)
      | next g =>
          have hready := (Setup.begin_ready hbegin).1
          dsimp only
          simp only [report_result_eq_none, finish_eq_next,
            hready.run_next_iff (Setup.lt_turns hbegin lines), Game.Round.next.injEq,
            exists_eq_left']

/-! ## Towns on a disk -/

/-- The town of a file is decoded from the characters of its text. -/
theorem loadTown_of_read {d : Disk} {path : String} {cs : List Char} (text : String)
    (hread : d.read path = .ok text.toUTF8) (hchars : text.toList = cs) :
    loadTown d path = (Json.decodeChars Format.town cs).mapError .badTown := by
  rw [loadTown, Disk.readText_of_read hread, ← hchars]
  rfl

/-- What a decision finds of a result. -/
theorem exists_ok_of_any {ε α : Type} {x : Except ε α} {p : α → Bool}
    (h : x.toOption.any p = true) : ∃ a, x = .ok a ∧ p a = true := by
  cases x with
  | error => simp [Except.toOption] at h
  | ok a => exact ⟨a, rfl, h⟩

/-- A disk with one file. -/
def townDisk (bytes : ByteArray) : Disk :=
  { nodes := .ofList [("town/", .file bytes)] }

theorem read_townDisk (bytes : ByteArray) : (townDisk bytes).read "town" = .ok bytes := rfl

/-- The status at the top of the first turn. -/
def firstStatus? (o : Options) (d : Disk) : Option Status := do
  let setup ← (Setup.load o d).toOption
  match setup.begin o d with
  | .next g => some g.status
  | _ => none

theorem reaches_of_firstStatus? {o : Options} {d : Disk} {status : Status}
    (h : firstStatus? o d = some status) (lines : List String) :
    ∃ g, Reaches o d lines g lines ∧ g.status = status := by
  unfold firstStatus? at h
  cases hload : Setup.load o d with
  | error failure => simp [hload, Except.toOption] at h
  | ok setup =>
      simp only [hload, Except.toOption, Option.bind_eq_bind, Option.bind_some] at h
      split at h
      · rename_i g hbegin
        exact ⟨g, ⟨setup, g, hload, hbegin, .here g lines⟩, Option.some.inj h⟩
      · simp at h

/-! ## When a game ends -/

/-- **When a game ends.** Whatever the files, whoever is talked to and whatever the lines of the
input, the loop goes on for ever just when it comes to be asked for a choice with no line left;
otherwise it ends, and with it the command, in success or in failure.  No text is still appearing
at the top of any turn. -/
theorem play_ends_unless_starved (o : Options) (d : Disk) (lines : List String) :
    ((play o d lines).result = none ↔ Endless o d lines) ∧
      (Endless o d lines ↔ ∃ g, Reaches o d lines g [] ∧ g.status = .paused .choice) ∧
      ∀ g rest, Reaches o d lines g rest → g.world.scene.screen.isTyping = false :=
  ⟨play_result_eq_none o d lines, endless_iff_starves o d lines, fun _ _ h => h.ready.still⟩

/-- Ann asks whether to stay. -/
def askingTown : String :=
  "\x7b\"player\":\x7b\"name\":\"Ben\",\"pos\":\x7b\"x\":0,\"y\":0\x7d\x7d,
    \"npcs\":[\x7b\"name\":\"Ann\",\"pos\":\x7b\"x\":1,\"y\":0\x7d,\"talking\":[
    \x7b\"events\":[\x7b\"type\":\"textMessage\",\"text\":\"Stay?\",\"choices\":[
    \x7b\"label\":\"Yes\",\"flag\":\"stays\"\x7d]\x7d]\x7d]\x7d]\x7d"

def askingDisk : Disk :=
  townDisk askingTown.toUTF8

def asking : Options where
  town := "town"
  npc := "Ann"

set_option maxRecDepth 2000 in
theorem firstStatus?_asking : firstStatus? asking askingDisk = some (.paused .choice) := by
  have hload : loadTown askingDisk asking.town = _ :=
    loadTown_of_read askingTown (read_townDisk _) String.toList_ofList
  rw [firstStatus?, Setup.load, hload]
  decide +kernel

/-- Without any input the choice stays open for ever. -/
theorem endless_asking : Endless asking askingDisk [] :=
  (endless_iff_starves asking askingDisk []).2 (reaches_of_firstStatus? firstStatus?_asking [])

theorem play_ends_unless_starved_asking :
    ∃ g, Reaches asking askingDisk [] g [] ∧ g.status = .paused .choice ∧
      g.world.scene.screen.isTyping = false := by
  obtain ⟨g, hreaches, hchoice⟩ := reaches_of_firstStatus? firstStatus?_asking []
  exact ⟨g, hreaches, hchoice, (play_ends_unless_starved asking askingDisk []).2.2 g [] hreaches⟩

end Cutscene.Terminal
