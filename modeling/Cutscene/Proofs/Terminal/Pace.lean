import Cutscene.Proofs.Session.Pace
import Cutscene.Proofs.Terminal.Printing
/-!
# The typewriter changes nothing

Two games whose settings differ in the speed of the text alone are the same up to pace at the top of
every turn: all of a text is printed before the next line is read, however fast it appears
(`UpToPace.render`), and then no text is still appearing that the confirm key could hasten.  So they
print the same, end alike and leave the same disk (`play_upToPace`).
-/

namespace Cutscene.Terminal

namespace Game

/-- The game with another speed of the text and another scene. -/
def paced (g : Game) (speed : Nat) (s : Scene) : Game :=
  { g with session := g.session.paced speed, world.scene := s }

/-- Two games are the same but for the speed of the text in the settings of the second one, and for
how much of the text has appeared. -/
def UpToPace (speed : Nat) (g g' : Game) : Prop :=
  ∃ s, g.world.scene.UpToPace s ∧ g' = g.paced speed s

/-- Two turns lead to the same, up to pace. -/
inductive Round.UpToPace (speed : Nat) : Round → Round → Prop where
  | next {g g' : Game} : g.UpToPace speed g' → UpToPace speed (.next g) (.next g')
  | done {g g' : Game} : g.UpToPace speed g' → UpToPace speed (.done g) (.done g')
  | failed {g g' : Game} (failure : Failure) : g.UpToPace speed g' →
      UpToPace speed (.failed g failure) (.failed g' failure)

variable {g g' : Game} {speed : Nat}

theorem printDebug_paced (g : Game) (speed : Nat) (s : Scene) :
    (g.paced speed s).printDebug = g.printDebug.paced speed s := by
  have hactive : ((g.paced speed s).printLine "[debug]").session.active =
      (g.printLine "[debug]").session.active := rfl
  unfold printDebug
  dsimp only
  rw [hactive]
  split
  · rfl
  · split <;> rfl

/-- The speed of the text is not among what stands at the top of a turn. -/
theorem beforeRound_paced (g : Game) (speed : Nat) (s : Scene) :
    (g.paced speed s).beforeRound = g.beforeRound.paced speed s := by
  have hdebug : (g.paced speed s).debug = g.debug := rfl
  unfold beforeRound
  rw [hdebug, printDebug_paced]
  dsimp only
  split <;> rfl

/-- The game with what is printed when its loop is over. -/
def ended (g : Game) : Game :=
  g.world.scene.screen.balance.elim ((g.printLine).printLine "== END ==") fun label =>
    ((g.printLine).printLine "== END ==").printLine s!"Balance: {label}"

theorem conclude_eq (g : Game) (saveFolder : Option String) :
    g.conclude saveFolder = saveFolder.elim (.done g.ended) g.ended.saveProgress := by
  have hbalance : ((g.printLine).printLine "== END ==").world.scene.screen.balance =
      g.world.scene.screen.balance := rfl
  unfold conclude ended
  dsimp only
  rw [hbalance]
  cases saveFolder <;> rfl

namespace UpToPace

theorem print (h : UpToPace speed g g') (text : String) :
    UpToPace speed (g.print text) (g'.print text) := by
  obtain ⟨s, hs, rfl⟩ := h
  exact ⟨s, hs, rfl⟩

theorem status_eq (h : UpToPace speed g g') : g'.status = g.status := by
  obtain ⟨s, _, rfl⟩ := h
  rfl

theorem cast_eq (h : UpToPace speed g g') : g'.cast = g.cast := by
  obtain ⟨s, hs, rfl⟩ := h
  exact hs.cast

/-! ## Cues and walks -/

theorem take (h : UpToPace speed g g') {r u : Reply Status} (hr : r.UpToPace speed u) :
    Round.UpToPace speed (g.take r) (g'.take u) := by
  obtain ⟨s, _, rfl⟩ := h
  unfold Game.take
  rw [hr.answer]
  dsimp only
  split
  · exact .next ⟨u.scene, hr.scene, by rw [hr.session]; rfl⟩
  · exact .failed _ ⟨u.scene, hr.scene, by rw [hr.session]; rfl⟩

theorem feed (h : UpToPace speed g g') (cue : Cue) :
    Round.UpToPace speed (g.take (g.session.feed g.token cue g.world.scene))
      (g'.take (g'.session.feed g'.token cue g'.world.scene)) := by
  obtain ⟨s, hs, rfl⟩ := id h
  exact h.take (g.session.feed_upToPace speed g.token cue hs)

theorem handIn (h : UpToPace speed g g') (last : Option Status) (tickets : List Ticket) :
    Round.UpToPace speed (g.handIn last tickets).1 (g'.handIn last tickets).1 ∧
      (g'.handIn last tickets).2 = (g.handIn last tickets).2 := by
  induction tickets generalizing g g' last with
  | nil => exact ⟨.next h, rfl⟩
  | cons ticket tickets ih =>
      have htake := h.feed (.arrive ticket)
      unfold Game.handIn Session.arrive
      generalize g.take _ = round at htake ⊢
      generalize g'.take _ = round' at htake ⊢
      cases htake with
      | next hnext =>
          dsimp only
          rw [hnext.status_eq]
          exact ih hnext _
      | done hdone => exact ⟨.done hdone, rfl⟩
      | failed failure hfailed => exact ⟨.failed failure hfailed, rfl⟩

theorem ticked (h : UpToPace speed g g') :
    UpToPace speed g.ticked g'.ticked ∧ g'.returned = g.returned := by
  obtain ⟨s, hs, rfl⟩ := h
  have htick : s.cast.tick frameMs = g.world.scene.cast.tick frameMs := by rw [hs.cast]
  refine ⟨⟨((g.paced speed s).world.tick frameMs).1.scene, ?_, rfl⟩, ?_⟩
  · exact ⟨hs.store, congrArg Prod.fst htick, hs.wallet, hs.screen.tick, hs.disk⟩
  · change (s.cast.tick frameMs).2 = _
    rw [htick]
    rfl

theorem simulateWalk (h : UpToPace speed g g') (actor : String) (frames : Nat) :
    Round.UpToPace speed (g.simulateWalk actor frames) (g'.simulateWalk actor frames) := by
  induction frames generalizing g g' with
  | zero => exact .failed _ h
  | succ frames ih =>
      obtain ⟨hticked, hreturned⟩ := h.ticked
      obtain ⟨hround, hanswer⟩ := hticked.handIn none g.returned
      rw [simulateWalk_succ, simulateWalk_succ, hreturned]
      generalize g.ticked.handIn none g.returned = hand at hround hanswer ⊢
      generalize g'.ticked.handIn none g.returned = hand' at hround hanswer ⊢
      obtain ⟨round, answer⟩ := hand
      obtain ⟨round', answer'⟩ := hand'
      obtain rfl : answer' = answer := hanswer
      cases hround with
      | @next g₁ g₁' hnext =>
          have hgoes : Round.UpToPace speed
              (if g₁.cast.anyoneWalking then g₁.simulateWalk actor frames
                else .failed g₁ (.endlessWalk actor))
              (if g₁'.cast.anyoneWalking then g₁'.simulateWalk actor frames
                else .failed g₁' (.endlessWalk actor)) := by
            rw [hnext.cast_eq]
            split
            · exact ih hnext
            · exact .failed _ hnext
          dsimp only
          split
          · exact hgoes
          · exact hgoes
          · exact .next hnext
      | done hdone => exact .done hdone
      | failed failure hfailed => exact .failed failure hfailed

/-! ## Turns -/

theorem quit (h : UpToPace speed g g') : Round.UpToPace speed g.quit g'.quit := by
  obtain ⟨s, hs, rfl⟩ := h
  have habandon := g.session.abandon_upToPace speed g.token hs
  have hreply : (g.paced speed s).session.abandon (g.paced speed s).token
      (g.paced speed s).world.scene = (g.session.paced speed).abandon g.token s := rfl
  unfold Game.quit
  dsimp only
  rw [hreply, habandon.answer]
  split
  · exact .done ⟨_, habandon.scene, by rw [habandon.session]; rfl⟩
  · exact .failed _ ⟨_, habandon.scene, by rw [habandon.session]; rfl⟩

/-- A prompt is answered in the same way while no text is still appearing. -/
theorem answer (h : UpToPace speed g g') (hstill : g.world.scene.screen.isTyping = false)
    (hstill' : g'.world.scene.screen.isTyping = false) (line : String) :
    Round.UpToPace speed (g.answer line) (g'.answer line) := by
  unfold Game.answer
  rw [h.status_eq, Session.confirm_of_still hstill, Session.confirm_of_still hstill']
  dsimp only
  split
  · exact h.quit
  · split
    · split
      · exact h.feed _
      · exact .next (h.print _)
    · exact h.feed .confirm

theorem beforeRound (h : UpToPace speed g g') : UpToPace speed g.beforeRound g'.beforeRound := by
  obtain ⟨s, hs, rfl⟩ := h
  rw [beforeRound_paced]
  obtain ⟨output, hbefore⟩ := g.beforeRound_eq
  exact ⟨s, by rwa [hbefore], rfl⟩

theorem step (h : UpToPace speed g g') (hstill : g.world.scene.screen.isTyping = false)
    (hstill' : g'.world.scene.screen.isTyping = false) (line : String) :
    Round.UpToPace speed (g.step line) (g'.step line) := by
  unfold Game.step
  rw [h.status_eq]
  split
  · exact (h.print _).simulateWalk _ _
  · exact h.answer hstill hstill' line
  · exact .done h

/-- What is printed of the screen is all of it, at any pace. -/
theorem render (h : UpToPace speed g g') (hspeed : 0 < g.box.speed) (hspeed' : 0 < g'.box.speed) :
    UpToPace speed g.render g'.render := by
  obtain ⟨s, hs, rfl⟩ := h
  obtain ⟨box, hvisible, htext, hrender⟩ := render_eq hspeed
  obtain ⟨box', hvisible', htext', hrender'⟩ := render_eq hspeed'
  have htranscript : (g.paced speed s).transcript = g.transcript := hs.screen.transcript
  rw [hrender, hrender', htranscript]
  refine ⟨{ s with screen := { s.screen with box := box', transcript := [] } },
    ⟨hs.store, hs.cast, hs.wallet, ⟨?_, ?_, hs.screen.choices, hs.screen.balance, rfl⟩, hs.disk⟩,
    rfl⟩
  · exact hvisible'.trans (hs.screen.visible.trans hvisible.symm)
  · exact htext'.trans (hs.screen.text.trans htext.symm)

theorem round (h : UpToPace speed g g') (hready : g.Ready) (hready' : g'.Ready) (line : String) :
    Round.UpToPace speed (g.round line) (g'.round line) := by
  have hbefore : ∀ {g : Game}, g.Ready → g.beforeRound.Ready := by
    intro g hready
    obtain ⟨output, hbefore⟩ := g.beforeRound_eq
    rw [hbefore]
    exact ⟨⟨hready.sound, hready.stands, hready.announces⟩, hready.still⟩
  have hspeed : ∀ {g g₁ : Game}, g.Ready → g.step line = .next g₁ → 0 < g₁.box.speed := by
    intro g g₁ hready hstep
    exact (onward_of_step hready.toInOrder hready.still hstep).1.inOrder.announces.speed_pos
  have hstep := h.beforeRound.step (hbefore hready).still (hbefore hready').still line
  rw [round_eq, round_eq]
  generalize hround : g.beforeRound.step line = next at hstep ⊢
  generalize hround' : g'.beforeRound.step line = next' at hstep ⊢
  cases hstep with
  | next hnext =>
      exact .next (hnext.render (hspeed (hbefore hready) hround)
        (hspeed (hbefore hready') hround'))
  | done hdone => exact .done hdone
  | failed failure hfailed => exact .failed failure hfailed

/-- Both games are ready at the top of every turn; the confirm key needs it of each. -/
theorem run (h : UpToPace speed g g') (hready : g.Ready) (hready' : g'.Ready) (lines : List String)
    (turns : Nat) : Round.UpToPace speed (g.run lines turns) (g'.run lines turns) := by
  induction turns generalizing g g' lines with
  | zero => exact .next h
  | succ turns ih =>
      have hread : g'.read lines = g.read lines := by rw [read, read, h.status_eq]
      have hturn := h.round hready hready' (g.read lines).1
      rw [run_succ, run_succ, hread]
      generalize hround : g.round (g.read lines).1 = next at hturn ⊢
      generalize hround' : g'.round (g.read lines).1 = next' at hturn ⊢
      cases hturn with
      | next hnext => exact ih hnext (hready.round hround).1 (hready'.round hround').1 _
      | done hdone => exact .done hdone
      | failed failure hfailed => exact .failed failure hfailed

/-! ## The end of a game -/

theorem saveProgress (h : UpToPace speed g g') (folder : String) :
    Round.UpToPace speed (g.saveProgress folder) (g'.saveProgress folder) := by
  obtain ⟨s, hs, rfl⟩ := h
  have hcast : (g.paced speed s).world.scene.cast = g.world.scene.cast := hs.cast
  have hdisk : (g.paced speed s).world.scene.disk = g.world.scene.disk := hs.disk
  have hplayer : (g.paced speed s).world.player = g.world.player := rfl
  have hmap : (g.paced speed s).world.map = g.world.map := rfl
  have hkey : (g.paced speed s).session.settings.saveKey = g.session.settings.saveKey := rfl
  unfold Game.saveProgress
  rw [hcast, hdisk, hplayer, hmap, hkey]
  split
  · exact .failed _ ⟨s, hs, rfl⟩
  · have hsaved (disk : Disk) : Scene.UpToPace { g.world.scene with disk } { s with disk } :=
      ⟨hs.store, hs.cast, hs.wallet, hs.screen, rfl⟩
    dsimp only
    split
    · exact .done ⟨_, hsaved _, rfl⟩
    · exact .failed _ ⟨_, hsaved _, rfl⟩

theorem ended (h : UpToPace speed g g') : UpToPace speed g.ended g'.ended := by
  have hbalance : g'.world.scene.screen.balance = g.world.scene.screen.balance := by
    obtain ⟨s, hs, rfl⟩ := h
    exact hs.screen.balance
  unfold Game.ended
  rw [hbalance]
  cases g.world.scene.screen.balance with
  | none => exact (h.print _).print _
  | some label => exact ((h.print _).print _).print _

theorem conclude (h : UpToPace speed g g') (saveFolder : Option String) :
    Round.UpToPace speed (g.conclude saveFolder) (g'.conclude saveFolder) := by
  rw [conclude_eq, conclude_eq]
  cases saveFolder with
  | none => exact .done h.ended
  | some folder => exact h.ended.saveProgress folder

theorem finish (h : UpToPace speed g g') (hready : g.Ready) (hready' : g'.Ready)
    (lines : List String) (turns : Nat) (saveFolder : Option String) :
    Round.UpToPace speed (g.finish lines turns saveFolder)
      (g'.finish lines turns saveFolder) := by
  have hrun := h.run hready hready' lines turns
  unfold Game.finish
  generalize g.run lines turns = round at hrun ⊢
  generalize g'.run lines turns = round' at hrun ⊢
  cases hrun with
  | next hnext => exact .next hnext
  | done hdone => exact hdone.conclude saveFolder
  | failed failure hfailed => exact .failed failure hfailed

end UpToPace

theorem Round.UpToPace.report_eq {round round' : Round} (h : Round.UpToPace speed round round') :
    round'.report = round.report := by
  cases h with
  | next hnext =>
      obtain ⟨s, hs, rfl⟩ := hnext
      exact congrArg (Report.mk _ _) hs.disk
  | done hdone =>
      obtain ⟨s, hs, rfl⟩ := hdone
      exact congrArg (Report.mk _ _) hs.disk
  | failed failure hfailed =>
      obtain ⟨s, hs, rfl⟩ := hfailed
      exact congrArg (Report.mk _ _) hs.disk

end Game

/-! ## The whole command -/

/-- The settings that a game is played with, but for what a debugging game keeps of its journal. -/
def Options.settingsOn (o : Options) (d : Disk) : Except Failure Settings :=
  o.settings.elim (.ok {}) (loadSettings d)

/-- What a game needs, with another speed of the text. -/
def Setup.paced (setup : Setup) (speed : Nat) : Setup :=
  { setup with settings := { setup.settings with textSpeed := speed } }

section

variable {o : Options} {d : Disk} {path : Option String} {settings : Settings} {speed : Nat}

/-- Settings that differ in the speed of the text lead to setups that do, or both to one failure. -/
theorem Setup.load_paced (h : o.settingsOn d = .ok settings)
    (h' : { o with settings := path }.settingsOn d = .ok { settings with textSpeed := speed }) :
    Setup.load { o with settings := path } d = (Setup.load o d).map (·.paced speed) := by
  unfold Options.settingsOn at h h'
  dsimp only at h'
  simp only [Setup.load, h, h', bind, Except.bind]
  cases loadTown d o.town with
  | error failure => rfl
  | ok town =>
      dsimp only
      cases town.talking? o.npc with
      | none => rfl
      | some entries =>
          cases o.flags with
          | none => cases o.debug <;> rfl
          | some file =>
              dsimp only
              cases FlagFile.load d file with
              | error error => rfl
              | ok flags => cases o.debug <;> rfl

theorem Town.world_upToPace (t : Town) (settings : Settings) (speed : Nat) (store : Store)
    (d : Disk) : (t.world settings store d).scene.UpToPace
      (t.world { settings with textSpeed := speed } store d).scene :=
  ⟨rfl, rfl, rfl, ⟨rfl, rfl, rfl, rfl, rfl⟩, rfl⟩

/-- The reply to the beginning of a game. -/
def Setup.reply (setup : Setup) (o : Options) (d : Disk) : Reply (Token × Status) :=
  ({ settings := setup.settings } : Session).begin o.npc setup.town.player.name setup.entries
    (setup.town.world setup.settings setup.store d).scene

theorem Setup.begin_of_error {setup : Setup} {error : SessionError}
    (h : (setup.reply o d).answer = .error error) :
    setup.begin o d = .failed (setup.begun o d 0 .idle) (.session error) := by
  unfold Setup.begin
  dsimp only
  split
  · rename_i error' herror
    rw [Except.error.inj (herror.symm.trans h)]
    rfl
  · rename_i hok
    cases hok.symm.trans h

theorem Setup.begin_of_ok {setup : Setup} {token : Token} {status : Status}
    (h : (setup.reply o d).answer = .ok (token, status)) :
    setup.begin o d = .next (setup.begun o d token status).render := by
  unfold Setup.begin
  dsimp only
  split
  · rename_i herror
    cases herror.symm.trans h
  · rename_i hok
    cases hok.symm.trans h
    rfl

theorem Setup.reply_upToPace (setup : Setup) (o : Options) (d : Disk) (path : Option String)
    (speed : Nat) : (setup.reply o d).UpToPace speed
      ((setup.paced speed).reply { o with settings := path } d) :=
  Session.begin_upToPace { settings := setup.settings } speed o.npc setup.town.player.name
    setup.entries (Town.world_upToPace setup.town setup.settings speed setup.store d)

theorem Setup.begun_upToPace (setup : Setup) (o : Options) (d : Disk) (path : Option String)
    (speed : Nat) (token : Token) (status : Status) :
    Game.UpToPace speed (setup.begun o d token status)
      ((setup.paced speed).begun { o with settings := path } d token status) := by
  have hreply := setup.reply_upToPace o d path speed
  refine ⟨((setup.paced speed).reply { o with settings := path } d).scene, hreply.scene, ?_⟩
  -- all but the session is the same in both as it stands
  exact congrArg (fun session : Session =>
    { (setup.paced speed).begun { o with settings := path } d token status with session })
    hreply.session

theorem Setup.begin_upToPace (setup : Setup) (o : Options) (d : Disk) (path : Option String)
    (speed : Nat) :
    Game.Round.UpToPace speed (setup.begin o d)
      ((setup.paced speed).begin { o with settings := path } d) := by
  have hbegun := setup.begun_upToPace o d path speed
  have hanswer' := (setup.reply_upToPace o d path speed).answer
  cases hanswer : (setup.reply o d).answer with
  | error error =>
      rw [hanswer] at hanswer'
      rw [begin_of_error hanswer, begin_of_error hanswer']
      exact .failed _ (hbegun 0 .idle)
  | ok begun =>
      obtain ⟨token, status⟩ := begun
      rw [hanswer] at hanswer'
      rw [begin_of_ok hanswer, begin_of_ok hanswer']
      have hspeed : ∀ {setup : Setup} {o : Options},
          (setup.reply o d).answer = .ok (token, status) →
          0 < (setup.begun o d token status).box.speed :=
        fun h => (Setup.begun_inOrder (congrArg Answer.begun h)).1.announces.speed_pos
      exact .next ((hbegun token status).render (hspeed hanswer) (hspeed hanswer'))

theorem play_upToPace (h : o.settingsOn d = .ok settings)
    (h' : { o with settings := path }.settingsOn d = .ok { settings with textSpeed := speed })
    (lines : List String) : play { o with settings := path } d lines = play o d lines := by
  unfold play
  rw [Setup.load_paced h h']
  cases Setup.load o d with
  | error failure => rfl
  | ok setup =>
      have hbegin := setup.begin_upToPace o d path speed
      have hturns : (setup.paced speed).turns lines = setup.turns lines := rfl
      dsimp only [Except.map]
      rw [hturns]
      generalize hround : setup.begin o d = round at hbegin ⊢
      generalize hround' : (setup.paced speed).begin { o with settings := path } d = round'
        at hbegin ⊢
      cases hbegin with
      | next hnext =>
          have hready := (Setup.begin_ready hround).1
          have hready' := (Setup.begin_ready hround').1
          exact (hnext.finish hready hready' _ _ _).report_eq
      | done hdone => exact (Game.Round.UpToPace.done hdone).report_eq
      | failed failure hfailed => exact (Game.Round.UpToPace.failed failure hfailed).report_eq

end

/-- **The typewriter changes nothing.** Whatever the town, whoever is talked to, and whatever the
flags and the lines of the input, two commands whose settings differ in the speed of the text alone
print the same, end alike and leave the same disk.  What a game begins with is printed behind the
banner, and what a turn arrives at is printed in that turn, the balances on its way and then the
message with its choices, each once and in full; when a game ends no message is left unprinted.  No
text is still appearing when a line is read, so at a message without choices every line but the one
that gives up gets on in the script. -/
theorem typewriter_changes_nothing (o : Options) (d : Disk) (lines : List String) :
    (∀ path settings speed, o.settingsOn d = .ok settings →
      { o with settings := path }.settingsOn d = .ok { settings with textSpeed := speed } →
      play { o with settings := path } d lines = play o d lines) ∧
    (∀ setup first, Setup.load o d = .ok setup → setup.begin o d = .next first →
      ∃ entries, first.output = Game.banner ++ printouts entries ∧
        first.session.IsArrival entries ∧ first.transcript = []) ∧
    ∀ g rest, Reaches o d lines g rest → g.world.scene.screen.isTyping = false ∧
      ∀ line, g.Prints line (g.round line) ∧
        (g.status = .paused .confirm → Text.trim line ≠ "q" →
          ∃ g', g.round line = .next g' ∧ g.session.Advances g'.session) := by
  refine ⟨fun path settings speed h h' => play_upToPace h h' lines, ?_, ?_⟩
  · intro setup first _ hbegin
    exact Setup.begin_prints hbegin
  · intro g rest hreaches
    have hready := hreaches.ready
    have hattended := hreaches.attended
    have hprinted := hreaches.transcript_eq_nil
    refine ⟨hready.still, fun line => ⟨hattended.round_prints hready.still hprinted line, ?_⟩⟩
    exact fun hconfirm hline => hready.confirm_advances hattended hprinted hconfirm hline

/-- Ann says good morning. -/
def greetingTown : String :=
  "\x7b\"player\":\x7b\"name\":\"Ben\",\"pos\":\x7b\"x\":0,\"y\":0\x7d\x7d,
    \"npcs\":[\x7b\"name\":\"Ann\",\"pos\":\x7b\"x\":1,\"y\":0\x7d,\"talking\":[
    \x7b\"events\":[\x7b\"type\":\"textMessage\",\"text\":\"Good morning.\"\x7d]\x7d]\x7d]\x7d"

/-- Text is to appear at no speed at all. -/
def slowSettings : String :=
  "\x7b\"text_speed\":0\x7d"

def greetingDisk : Disk :=
  { nodes := .ofList [("slow/", .file slowSettings.toUTF8), ("town/", .file greetingTown.toUTF8)] }

set_option maxRecDepth 2000 in
theorem firstStatus?_greeting : firstStatus? asking greetingDisk = some (.paused .confirm) := by
  have hload : loadTown greetingDisk asking.town = _ :=
    loadTown_of_read greetingTown rfl String.toList_ofList
  rw [firstStatus?, Setup.load, hload]
  decide +kernel

theorem loadSettings_slow :
    loadSettings greetingDisk "slow" = .ok { ({} : Settings) with textSpeed := 0 } := by
  have htext : greetingDisk.readText "slow" = .ok slowSettings := Disk.readText_of_read rfl
  have hchars : slowSettings.toList = _ := String.toList_ofList
  have hread : (Format.readSettings slowSettings).toOption.any
      (fun settings => settings = { ({} : Settings) with textSpeed := 0 }) = true := by
    rw [Format.readSettings, Json.decodeText, hchars]
    decide +kernel
  obtain ⟨settings, hsettings, hslow⟩ := exists_ok_of_any hread
  obtain rfl := of_decide_eq_true hslow
  rw [loadSettings, htext]
  simp only [bind, Except.bind, Except.mapError, hsettings]

theorem typewriter_changes_nothing_greeting :
    (asking.settingsOn greetingDisk = .ok {} ∧
      { asking with settings := some "slow" }.settingsOn greetingDisk =
        .ok { ({} : Settings) with textSpeed := 0 } ∧
      play { asking with settings := some "slow" } greetingDisk [""] =
        play asking greetingDisk [""]) ∧
    ∃ g, Reaches asking greetingDisk [""] g [""] ∧ g.status = .paused .confirm ∧
      Text.trim "" ≠ "q" ∧ ∃ g', g.round "" = .next g' ∧ g.session.Advances g'.session := by
  have hquick : asking.settingsOn greetingDisk = .ok {} := rfl
  have hslow : { asking with settings := some "slow" }.settingsOn greetingDisk =
      .ok { ({} : Settings) with textSpeed := 0 } := loadSettings_slow
  have hline : Text.trim "" ≠ "q" := by decide
  obtain ⟨hsame, _, hturns⟩ := typewriter_changes_nothing asking greetingDisk [""]
  obtain ⟨g, hreaches, hconfirm⟩ := reaches_of_firstStatus? firstStatus?_greeting [""]
  exact ⟨⟨hquick, hslow, hsame (some "slow") {} 0 hquick hslow⟩, g, hreaches, hconfirm, hline,
    ((hturns g _ hreaches).2 "").2 hconfirm hline⟩

end Cutscene.Terminal
