import Cutscene.Proofs.Selection.Pick
import Cutscene.Proofs.Session.Display
/-!
# What is seen of the flags

Flags are looked at only to see whether those are there that an entry or a message needs.
`Scene.Alike` says of two scenes that they are the same but for the flags and the disk behind them,
and that of some keys the same are there in both.  Calls that name no other keys in the gates of
their entries answer the same in both scenes and leave scenes that are alike again; so stories that
begin alike stay alike (`Story.alike_after_moves`).
-/

namespace Cutscene

/-! ## Gates -/

/-- The flags that an event needs. -/
def Event.required : Event → List String
  | .message m => m.required
  | _ => []

/-- The flags that the messages of a script need. -/
def Script.gates (script : Script) : List String :=
  script.events.flatMap Event.required

/-- The flags that talking entries need, and the messages in them. -/
def gatesOf (entries : List Script) : List String :=
  entries.flatMap fun script => script.required ++ script.gates

/-- The flags that can matter to a move. -/
def Move.gates : Move → List String
  | begin _ _ entries => gatesOf entries
  | _ => []

/-! ## Stores and scenes -/

variable {keys : List String}

/-- Of some keys the same are there in both stores, whatever their values. -/
def Store.AgreeOn (keys : List String) (a b : Store) : Prop :=
  ∀ key ∈ keys, a.contains key = b.contains key

namespace Store.AgreeOn

variable {a b : Store}

theorem containsAll (h : a.AgreeOn keys b) {required : List String} (hsub : required ⊆ keys) :
    a.containsAll required = b.containsAll required := by
  rw [Bool.eq_iff_iff, Store.containsAll, Store.containsAll, List.all_eq_true, List.all_eq_true]
  exact forall₂_congr fun key hkey => by rw [h key (hsub hkey)]

theorem set (h : a.AgreeOn keys b) (key value : String) :
    (a.set key value).AgreeOn keys (b.set key value) := by
  intro k hk
  have hsame := h k hk
  simp only [contains, get?_set] at hsame ⊢
  split
  · rfl
  · exact hsame

theorem foldl_erase (h : a.AgreeOn keys b) (gone : List String) :
    (gone.foldl Store.erase a).AgreeOn keys (gone.foldl Store.erase b) := by
  intro k hk
  have hsame := h k hk
  simp only [contains, get?_foldl_erase] at hsame ⊢
  split
  · rfl
  · exact hsame

theorem erase (h : a.AgreeOn keys b) (key : String) :
    (a.erase key).AgreeOn keys (b.erase key) :=
  h.foldl_erase [key]

theorem flush (h : a.AgreeOn keys b) (d d' : Disk) :
    (a.flush d).2.1.AgreeOn keys (b.flush d').2.1 := by
  intro k hk
  simp only [contains, get?_flush]
  exact h k hk

end Store.AgreeOn

/-- Two scenes are the same but for their flags and the disk behind them, and of some keys the same
are there in both. -/
structure Scene.Alike (keys : List String) (s t : Scene) : Prop where
  store : s.store.AgreeOn keys t.store
  cast : t.cast = s.cast
  wallet : t.wallet = s.wallet
  screen : t.screen = s.screen

/-- Two turns leave the same performance, and scenes that are alike. -/
structure Turn.Alike (keys : List String) (t u : Turn) : Prop where
  performance : u.performance = t.performance
  scene : t.scene.Alike keys u.scene

namespace Scene.Alike

variable {s t : Scene}

theorem turnSpeaker (h : s.Alike keys t) (b : Binding) (facing : Facing) :
    (s.turnSpeaker b facing).1.Alike keys (t.turnSpeaker b facing).1 := by
  rw [turnSpeaker_eq s, turnSpeaker_eq t]
  refine ⟨h.store, ?_, h.wallet, h.screen⟩
  rw [turnSpeaker_cast, turnSpeaker_cast, h.cast]

theorem present (h : s.Alike keys t) (b : Binding) (m : Message) :
    (s.present b m).1.Alike keys (t.present b m).1 := by
  have hshown : Scene.Alike keys { s with screen := s.screen.showText m.text }
      { t with screen := t.screen.showText m.text } :=
    ⟨h.store, h.cast, h.wallet, by rw [h.screen]⟩
  exact hshown.turnSpeaker b m.facing

/-- An event that needs no other flags goes on or halts in both scenes, and in the same way. -/
theorem play (h : s.Alike keys t) (b : Binding) (index : Nat) (ticket : Ticket) {e : Event}
    (he : e.required ⊆ keys) :
    (t.play b index ticket e).outcome = (s.play b index ticket e).outcome ∧
      (s.play b index ticket e).scene.Alike keys (t.play b index ticket e).scene := by
  cases e with
  | message m =>
      have hflags : s.store.containsAll m.required = t.store.containsAll m.required :=
        h.store.containsAll he
      have hpresent := h.present b m
      simp only [Scene.play, playMessage, ← hflags]
      split
      · split
        · exact ⟨rfl, hpresent⟩
        · refine ⟨rfl, hpresent.store, hpresent.cast, hpresent.wallet, ?_⟩
          exact congrArg (fun screen => (screen.openMenu m.choices).1) hpresent.screen
      · exact ⟨rfl, h⟩
  | walk w =>
      simp only [Scene.play, playWalk, h.cast]
      split
      · exact ⟨rfl, h.store, rfl, h.wallet, by rw [h.screen]⟩
      · exact ⟨rfl, h.store, rfl, h.wallet, by rw [h.screen]⟩
  | addFlag key value => exact ⟨rfl, h.store.set key value, h.cast, h.wallet, h.screen⟩
  | removeFlag key => exact ⟨rfl, h.store.erase key, h.cast, h.wallet, h.screen⟩
  | transaction amount =>
      refine ⟨rfl, h.store, h.cast, ?_, ?_⟩
      · simp only [Scene.play, pay, h.wallet]
      · simp only [Scene.play, pay, h.wallet, h.screen]

theorem flush (h : s.Alike keys t) : s.flush.1.Alike keys t.flush.1 :=
  ⟨h.store.flush s.disk t.disk, h.cast, h.wallet, h.screen⟩

end Scene.Alike

/-! ## Performances -/

namespace Performance

variable {s t : Scene}

theorem run_alike (b : Binding) {events : List Event} (hkeys : ∀ e ∈ events, e.required ⊆ keys)
    (p : Performance) (h : s.Alike keys t) :
    (run b p s events).Alike keys (run b p t events) := by
  induction events generalizing p s t with
  | nil => exact ⟨rfl, h⟩
  | cons e rest ih =>
      obtain ⟨houtcome, hscene⟩ := h.play b p.cursor p.nextTicket (hkeys e List.mem_cons_self)
      simp only [run, houtcome]
      split
      · have hrest := ih (fun e' he' => hkeys e' (List.mem_cons_of_mem e he'))
          { p with cursor := p.cursor + 1 } hscene
        exact ⟨hrest.performance, hrest.scene⟩
      · exact ⟨rfl, hscene⟩

theorem proceed_alike {p : Performance} (hp : p.script.gates ⊆ keys) (h : s.Alike keys t) :
    (p.proceed s).Alike keys (p.proceed t) := by
  unfold proceed
  split
  · exact ⟨rfl, h⟩
  · refine run_alike _ (fun e he => ?_) _ h
    have hmem : e ∈ p.script.events := List.mem_of_mem_drop he
    exact fun key hkey => hp (List.mem_flatMap.2 ⟨e, hmem, hkey⟩)

theorem purge_alike (p : Performance) (h : s.Alike keys t) :
    (p.purge s).Alike keys (p.purge t) :=
  ⟨rfl, h.store.foldl_erase p.chosen.keys, h.cast, h.wallet, h.screen⟩

theorem start_alike {p : Performance} (hp : p.script.gates ⊆ keys) (player : String)
    (initiator : Option String) (h : s.Alike keys t) :
    (p.start player initiator s).Alike keys (p.start player initiator t) := by
  have hplayed : ((p.rewound player initiator).proceed (p.purge s).scene).Alike keys
      ((p.rewound player initiator).proceed (p.purge t).scene) :=
    proceed_alike hp (p.purge_alike h).scene
  exact ⟨hplayed.performance, hplayed.scene⟩

theorem choose_alike {p : Performance} (hp : p.script.gates ⊆ keys) (index : Nat)
    (h : s.Alike keys t) : (p.choose index s).Alike keys (p.choose index t) := by
  unfold choose
  rw [h.screen]
  split
  · exact ⟨rfl, h⟩
  · split
    · rename_i screen _ option _
      have hset : Scene.Alike keys
          { s with screen, store := s.store.set option.flag chosenValue }
          { t with screen, store := t.store.set option.flag chosenValue } :=
        ⟨h.store.set option.flag chosenValue, h.cast, h.wallet, rfl⟩
      have hplayed := proceed_alike (p := { p with
        cursor := p.cursor + 1, chosen := p.chosen.insert option.flag (), menu? := none }) hp hset
      exact ⟨hplayed.performance, hplayed.scene⟩
    · exact ⟨rfl, h⟩

theorem arrive_alike {p : Performance} (hp : p.script.gates ⊆ keys) (actor : String)
    (ticket : Ticket) (h : s.Alike keys t) :
    (p.arrive actor ticket s).Alike keys (p.arrive actor ticket t) := by
  unfold arrive
  split
  · have hplayed := proceed_alike
      (p := { p with cursor := p.cursor + 1, awaitedTicket? := none }) hp h
    exact ⟨hplayed.performance, hplayed.scene⟩
  · exact ⟨rfl, h⟩

theorem resume_alike {p : Performance} (hp : p.script.gates ⊆ keys) (cue : Cue)
    (h : s.Alike keys t) : (p.resume cue s).Alike keys (p.resume cue t) := by
  unfold resume
  split
  · exact proceed_alike (p := { p with cursor := p.cursor + 1 }) hp h
  · exact choose_alike hp _ h
  · exact arrive_alike hp _ _ h
  · exact ⟨rfl, h⟩

end Performance

/-! ## Sessions -/

/-- The messages of the interaction under way need no other flags. -/
def Session.Within (keys : List String) (x : Session) : Prop :=
  ∀ i, x.active = some i → i.performance.script.gates ⊆ keys

/-- Two replies give the same answer and leave the same session, whose interaction needs no other
flags, and scenes that are alike. -/
structure Reply.Alike {α : Type} (keys : List String) (r u : Reply α) : Prop where
  session : u.session = r.session
  answer : u.answer = r.answer
  scene : r.scene.Alike keys u.scene
  within : r.session.Within keys

theorem selectEntry_of_agree {entries : List Script} {a b : Store}
    (h : ∀ e ∈ entries, e.isEligible a = e.isEligible b) :
    selectEntry entries a = selectEntry entries b := by
  cases entries with
  | nil => rfl
  | cons first rest =>
      have hrest : ∀ e ∈ rest, e.isEligible a = e.isEligible b :=
        fun e he => h e (List.mem_cons_of_mem first he)
      obtain ⟨selection, hselect, hpicks⟩ := selectEntry_picks a first rest
      rw [hselect]
      refine (selectEntry_eq_some_iff.2 ?_).symm
      cases hpicks with
      | head hmost =>
          rw [h first List.mem_cons_self]
          exact .head fun e he heligible => hmost e he ((hrest e he).trans heligible)
      | @later i e hget heligible hmore hmost hearlier =>
          refine .later hget ?_ hmore (fun d hd helig => hmost d hd ((hrest d hd).trans helig)) ?_
          · rw [← hrest e (List.mem_of_getElem? hget)]
            exact heligible
          · intro j d hj hd helig
            exact hearlier j d hj hd ((hrest d (List.mem_of_getElem? hd)).trans helig)

theorem mem_gatesOf {entries : List Script} {script : Script} (h : script ∈ entries) :
    script.required ++ script.gates ⊆ gatesOf entries :=
  fun _ hkey => List.mem_flatMap.2 ⟨script, h, hkey⟩

namespace Session

variable {x : Session} {s t : Scene}

theorem decline_alike {α : Type} (hx : x.Within keys) (h : s.Alike keys t) (error : SessionError)
    (notes : List Journal.Note) :
    Reply.Alike keys (x.decline s error notes : Reply α) (x.decline t error notes) :=
  ⟨rfl, rfl, h, hx⟩

theorem farewell_alike (i : Interaction) (h : s.Alike keys t) :
    (farewell i s).scene.Alike keys (farewell i t).scene := by
  have hhidden : Scene.Alike keys { s with screen := s.screen.hideChoices.hideText }
      { t with screen := t.screen.hideChoices.hideText } :=
    ⟨h.store, h.cast, h.wallet, by rw [h.screen]⟩
  exact (i.performance.purge_alike hhidden).scene

theorem close_alike (x : Session) (i : Interaction) (h : s.Alike keys t) :
    (x.close i s).2.1.Alike keys (x.close i t).2.1 := by
  rw [close_eq, close_eq]
  exact (farewell_alike i h).flush

theorem settle_alike (x : Session) (i : Interaction) {t u : Turn} (h : t.Alike keys u)
    (hgates : t.performance.script.gates ⊆ keys) :
    (x.settle i t).Alike keys (x.settle i u) := by
  by_cases hstatus : t.performance.status = .finished
  · have hstatus' : u.performance.status = .finished := by rw [h.performance, hstatus]
    rw [settle_finished hstatus, settle_finished hstatus', h.performance]
    exact ⟨rfl, rfl, x.close_alike _ h.scene, fun j hj => by simp [close] at hj⟩
  · have hstatus' : u.performance.status ≠ .finished := by rwa [h.performance]
    rw [settle_waiting hstatus, settle_waiting hstatus', h.performance]
    refine ⟨rfl, rfl, h.scene, fun j hj => ?_⟩
    rw [← Option.some.inj hj]
    exact hgates

theorem launch_alike (x : Session) (npc player : String) {script : Script}
    (hscript : script.gates ⊆ keys) (selection : Selection) (h : s.Alike keys t) :
    (x.launch npc player script selection s).Alike keys
      (x.launch npc player script selection t) := by
  have hstart := Performance.start_alike (p := (x.opened npc script selection).performance)
    hscript player (some npc) h
  have hkept := (x.opened npc script selection).performance.answer_script
    (.start player (some npc)) s
  have hgates : ((x.opened npc script selection).performance.start player
      (some npc) s).performance.script.gates ⊆ keys := by
    rw [← Performance.answer, hkept]
    exact hscript
  have hsettled := settle_alike { x with nextToken := x.nextToken + 1 }
    (x.opened npc script selection) hstart hgates
  rw [x.launch_eq, x.launch_eq]
  refine ⟨hsettled.session, ?_, hsettled.scene, hsettled.within⟩
  exact congrArg (·.map (x.nextToken, ·)) hsettled.answer

theorem begin_alike (hx : x.Within keys) (npc player : String) {entries : List Script}
    (hentries : gatesOf entries ⊆ keys) (h : s.Alike keys t) :
    (x.begin npc player entries s).Alike keys (x.begin npc player entries t) := by
  have hneeds : ∀ e ∈ entries, e.required ++ e.gates ⊆ keys :=
    fun e he _ hkey => hentries (mem_gatesOf he hkey)
  have hselect : selectEntry entries s.store = selectEntry entries t.store := by
    refine selectEntry_of_agree fun e he => ?_
    exact h.store.containsAll fun _ hkey => hneeds e he (List.mem_append_left _ hkey)
  have hgates : ∀ n, (entries.getD n {}).gates ⊆ keys := by
    intro n
    rw [List.getD_eq_getElem?_getD]
    cases hget : entries[n]? with
    | none => exact List.nil_subset keys
    | some e =>
        exact fun _ hkey => hneeds e (List.mem_of_getElem? hget) (List.mem_append_right _ hkey)
  unfold begin
  rw [← hselect]
  split
  · exact decline_alike hx h _ _
  · split
    · exact decline_alike hx h _ _
    · rename_i selection _
      dsimp only
      split
      · split
        · exact decline_alike hx h _ _
        · have hlaunch := x.launch_alike npc player (hgates selection.index) selection h
          exact ⟨hlaunch.session, hlaunch.answer, hlaunch.scene, hlaunch.within⟩
      · exact x.launch_alike npc player (hgates selection.index) selection h

theorem feed_alike (hx : x.Within keys) (token : Token) (cue : Cue) (h : s.Alike keys t) :
    (x.feed token cue s).Alike keys (x.feed token cue t) := by
  unfold feed
  rcases x.holder_cases token with ⟨i, hactive, _, hholder⟩ | ⟨error, hholder, _⟩
  · simp only [hholder]
    have hgates := hx i hactive
    have hkept := i.performance.answer_script (.onward (.resume cue)) s
    refine x.settle_alike i (Performance.resume_alike hgates cue h) ?_
    rw [← Performance.push, ← Performance.answer, hkept]
    exact hgates
  · simp only [hholder]
    exact decline_alike hx h error []

theorem confirm_alike (hx : x.Within keys) (token : Token) (h : s.Alike keys t) :
    (x.confirm token s).Alike keys (x.confirm token t) := by
  unfold confirm
  rw [h.screen]
  rcases x.holder_cases token with ⟨i, hactive, _, hholder⟩ | ⟨error, hholder, _⟩
  · simp only [hholder]
    split
    · exact ⟨rfl, rfl, ⟨h.store, h.cast, h.wallet, rfl⟩, hx⟩
    · exact feed_alike hx token .confirm h
  · simp only [hholder]
    exact decline_alike hx h error []

theorem abandon_alike (hx : x.Within keys) (token : Token) (h : s.Alike keys t) :
    (x.abandon token s).Alike keys (x.abandon token t) := by
  unfold abandon
  rcases x.holder_cases token with ⟨i, hactive, _, hholder⟩ | ⟨error, hholder, _⟩
  · simp only [hholder]
    exact ⟨rfl, rfl, x.close_alike i h, fun j hj => by simp [close] at hj⟩
  · simp only [hholder]
    exact decline_alike hx h error []

end Session

/-! ## Stories -/

/-- Two stories are the same but for flags and the disk behind them, and of some keys the same are
there in both. -/
structure Story.Alike (keys : List String) (g g' : Story) : Prop where
  session : g'.session = g.session
  map : g'.world.map = g.world.map
  player : g'.world.player = g.world.player
  scene : g.world.scene.Alike keys g'.world.scene

/-- Two beats give the same answer and leave stories that are alike. -/
structure Beat.Alike (keys : List String) (b b' : Beat) : Prop where
  answer : b'.answer = b.answer
  story : b.story.Alike keys b'.story

namespace Story

variable {g g' : Story}

theorem heard_alike {α : Type} (h : g.Alike keys g') {r r' : Reply α} (hr : r.Alike keys r')
    (answer : Except SessionError α → Answer) :
    (g.heard r answer).Alike keys (g'.heard r' answer) ∧
      (g.heard r answer).story.session.Within keys :=
  ⟨⟨congrArg answer hr.answer, hr.session, h.map, h.player, hr.scene⟩, hr.within⟩

/-- A move that needs no other flags leads to the same in both stories. -/
theorem act_alike (h : g.Alike keys g') (hg : g.session.Within keys) {m : Move}
    (hm : m.gates ⊆ keys) :
    (g.act m).Alike keys (g'.act m) ∧ (g.act m).story.session.Within keys := by
  cases m with
  | begin npc player entries =>
      simp only [act, h.session]
      exact heard_alike h (Session.begin_alike hg npc player hm h.scene) .begun
  | confirm token =>
      simp only [act, h.session]
      exact heard_alike h (Session.confirm_alike hg token h.scene) .stands
  | choose token index =>
      simp only [act, h.session]
      exact heard_alike h (Session.feed_alike hg token (.choose index) h.scene) .stands
  | arrive token ticket =>
      simp only [act, h.session]
      exact heard_alike h (Session.feed_alike hg token (.arrive ticket) h.scene) .stands
  | abandon token =>
      simp only [act, h.session]
      exact heard_alike h (Session.abandon_alike hg token h.scene) .abandoned
  | tick ms =>
      have htick : g'.world.scene.cast.tick ms = g.world.scene.cast.tick ms := by
        rw [h.scene.cast]
      have htickets : (g'.world.tick ms).2 = (g.world.tick ms).2 := by
        simp only [World.tick, htick]
      have hcast : (g'.world.tick ms).1.scene.cast = (g.world.tick ms).1.scene.cast := by
        simp only [World.tick, htick]
      refine ⟨⟨congrArg Answer.returned htickets, h.session, h.map, h.player, ?_⟩, hg⟩
      exact ⟨h.scene.store, hcast, h.scene.wallet, congrArg Screen.tick h.scene.screen⟩

theorem beats_alike (h : g.Alike keys g') (hg : g.session.Within keys) {moves : List Move}
    (hmoves : ∀ m ∈ moves, m.gates ⊆ keys) :
    List.Forall₂ (Beat.Alike keys) (g.beats moves) (g'.beats moves) := by
  induction moves generalizing g g' with
  | nil => exact .nil
  | cons m moves ih =>
      obtain ⟨hbeat, hwithin⟩ := act_alike h hg (hmoves m List.mem_cons_self)
      exact .cons hbeat
        (ih hbeat.story hwithin fun m' hm' => hmoves m' (List.mem_cons_of_mem m hm'))

/-- **Flags matter by their presence in gates alone.** Two stories are the same, with no interaction
under way, but for their flags and the disk behind them, and of some keys the same are there in
both.  Then every move of any list that begins only with entries gated by these keys is answered the
same in both stories, and leaves the same session, cast, money and screen and the same of these keys
there, whatever becomes of other flags and of values. -/
theorem alike_after_moves (h : g.Alike keys g') (hfree : g.session.active = none)
    {moves : List Move} (hmoves : ∀ m ∈ moves, m.gates ⊆ keys) :
    List.Forall₂ (Beat.Alike keys) (g.beats moves) (g'.beats moves) :=
  beats_alike h (fun i hi => by simp [hfree] at hi) hmoves

/-- Ann asks whoever has met her, and greets him first when the sun shines. -/
def askOnceMet : List Script :=
  [⟨[], [.addFlag "met" "yes"]⟩,
    ⟨["met"], .message { text := "Hello again.", required := ["sun"] } :: askToStay.events⟩]

/-- Ben has met Ann, and has stayed. -/
def annOfOld : Story :=
  opening {} { annAlone with
    scene := { annAlone.scene with
      store := .memory (.ofList [("met", "yes"), ("stays", "for a year")]) } }

/-- Ben has met Ann, too, and the flags are kept in a file. -/
def annOnFile : Story :=
  opening {} { annAlone with
    scene := { annAlone.scene with
      store := .file ⟨"flags", .ofList [("met", "long ago")], false⟩ } }

def talkAndLeave : List Move :=
  [.begin "Ann" "Ben" askOnceMet, .choose 1 1]

theorem alike_after_moves_met :
    annOfOld.Alike ["met", "sun"] annOnFile ∧ annOfOld.session.active = none ∧
      (∀ m ∈ talkAndLeave, m.gates ⊆ ["met", "sun"]) ∧
      List.Forall₂ (Beat.Alike ["met", "sun"]) (annOfOld.beats talkAndLeave)
        (annOnFile.beats talkAndLeave) := by
  have hagree : ∀ key ∈ ["met", "sun"], annOfOld.world.scene.store.contains key =
      annOnFile.world.scene.store.contains key := by decide
  have halike : annOfOld.Alike ["met", "sun"] annOnFile := ⟨rfl, rfl, rfl, hagree, rfl, rfl, rfl⟩
  have hfree : annOfOld.session.active = none := rfl
  have hmoves : ∀ m ∈ talkAndLeave, m.gates ⊆ ["met", "sun"] := by decide
  exact ⟨halike, hfree, hmoves, alike_after_moves halike hfree hmoves⟩

end Story

end Cutscene
