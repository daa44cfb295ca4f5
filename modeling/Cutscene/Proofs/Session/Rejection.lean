import Cutscene.Proofs.Session.Chronicle
/-!
# Moves that are rejected

`Session.Rejects` lists what a session turns away and how it words it, by nothing but the move, the
slot, the settings and the pick.  A move is either on that list, and then it is answered so and the
story is what it was, or it is answered without an error (`Story.act_cases`).  Hence the moves that
were rejected can be struck out of any list of moves without a trace (`Story.heeded`).
-/

namespace Cutscene

theorem selectEntry_eq_none_iff {entries : List Script} {store : Store} :
    selectEntry entries store = none ↔ entries = [] := by
  cases entries <;> simp [selectEntry]

/-- The error of an answer. -/
def Answer.error? : Answer → Option SessionError
  | .begun (.error error) => some error
  | .stands (.error error) => some error
  | .abandoned (.error error) => some error
  | _ => none

namespace Session

/-- What a session turns away, and why. -/
inductive Rejects (x : Session) (s : Scene) : Move → SessionError → Prop where
  /-- One interaction runs at a time. -/
  | occupied {i : Interaction} {npc player : String} {entries : List Script} :
      x.active = some i → Rejects x s (.begin npc player entries) (.alreadyActive i.npc)
  | scriptless {npc player : String} : x.active = none →
      Rejects x s (.begin npc player []) (.noScripts npc)
  /-- The pick lacks flags, and the session is to stay idle then. -/
  | unfit {npc player : String} {entries : List Script} {selection : Selection} :
      x.active = none → selectEntry entries s.store = some selection →
      selection.isFallback = true → x.settings.fallback = .stayIdle →
      Rejects x s (.begin npc player entries) (.noEligibleScript npc)
  | vacant {m : Move} {token : Token} : m.token? = some token → x.active = none →
      Rejects x s m .notActive
  | stale {m : Move} {token : Token} {i : Interaction} : m.token? = some token →
      x.active = some i → i.token ≠ token → Rejects x s m (.staleToken token)

theorem Rejects.unique {x : Session} {s : Scene} {m : Move} {error other : SessionError}
    (h : x.Rejects s m error) (h' : x.Rejects s m other) : error = other := by
  cases h with
  | occupied hactive => cases h' <;> simp_all [Move.token?]
  | scriptless hfree => cases h' <;> simp_all [Move.token?, selectEntry]
  | unfit hfree hselect => cases h' <;> simp_all [Move.token?, selectEntry]
  | vacant htoken hfree => cases h' <;> simp_all [Move.token?]
  | stale htoken hactive => cases h' <;> simp_all [Move.token?]

theorem begin_rejected_or (x : Session) (npc player : String) (entries : List Script)
    (s : Scene) :
    (∃ error notes, x.Rejects s (.begin npc player entries) error ∧
      x.begin npc player entries s = x.decline s error notes) ∨
    ((∀ error, ¬ x.Rejects s (.begin npc player entries) error) ∧
      ∃ begun, (x.begin npc player entries s).answer = .ok begun) := by
  cases hactive : x.active with
  | some i =>
      refine .inl ⟨_, [], .occupied hactive, ?_⟩
      simp [begin, hactive]
  | none =>
      cases hselect : selectEntry entries s.store with
      | none =>
          cases selectEntry_eq_none_iff.1 hselect
          refine .inl ⟨_, [], .scriptless hactive, ?_⟩
          simp [begin, hactive, hselect]
      | some selection =>
          -- the slot is free and there is an entry: what may still turn it away is the policy
          obtain ⟨status, hlaunch⟩ :=
            x.launch_answer npc player (entries.getD selection.index {}) selection s
          have hunfit : ∀ error, x.Rejects s (.begin npc player entries) error →
              selection.isFallback = true ∧ x.settings.fallback = .stayIdle := by
            intro error hrejects
            cases hrejects <;> simp_all [Move.token?, selectEntry]
          cases hfits : selection.isFallback with
          | false =>
              refine .inr ⟨fun error h => ?_, (x.nextToken, status), ?_⟩
              · exact absurd (hunfit error h).1 (by simp [hfits])
              · simpa [begin, hactive, hselect, hfits] using hlaunch
          | true =>
              cases hpolicy : x.settings.fallback with
              | stayIdle =>
                  refine .inl ⟨_, [.refused npc], .unfit hactive hselect hfits hpolicy, ?_⟩
                  simp [begin, hactive, hselect, hfits, hpolicy]
              | playFirst =>
                  refine .inr ⟨fun error h => ?_, (x.nextToken, status), ?_⟩
                  · exact absurd (hunfit error h).2 (by simp [hpolicy])
                  · simpa [begin, hactive, hselect, hfits, hpolicy] using hlaunch

theorem holder_eq_error_iff {x : Session} {s : Scene} {m : Move} {token : Token}
    (htoken : m.token? = some token) {error : SessionError} :
    x.holder token = .error error ↔ x.Rejects s m error := by
  constructor
  · intro h
    unfold holder at h
    cases hactive : x.active with
    | none =>
        rw [hactive] at h
        cases h
        exact .vacant htoken hactive
    | some i =>
        rw [hactive] at h
        by_cases hi : i.token = token
        · simp [hi] at h
        · simp only [hi, if_false, Except.error.injEq] at h
          rw [← h]
          exact .stale htoken hactive hi
  · intro h
    cases h <;> simp_all [Move.token?, holder]

theorem feed_of_holder {x : Session} {token : Token} {i : Interaction}
    (h : x.holder token = .ok i) (cue : Cue) (s : Scene) :
    ∃ status, (x.feed token cue s).answer = .ok status := by
  simp only [feed, h, settle_answer]
  exact ⟨_, rfl⟩

theorem confirm_of_holder {x : Session} {token : Token} {i : Interaction}
    (h : x.holder token = .ok i) (s : Scene) :
    ∃ status, (x.confirm token s).answer = .ok status := by
  simp only [confirm, h]
  split
  · exact ⟨_, rfl⟩
  · exact feed_of_holder h .confirm s

end Session

namespace Story

theorem act_of_token {m : Move} {token : Token} (h : m.token? = some token) (g : Story) :
    (∃ error, g.session.holder token = .error error ∧ (g.act m).answer.error? = some error ∧
      (g.act m).story = g) ∨
    ((∀ error, g.session.holder token ≠ .error error) ∧ (g.act m).answer.error? = none) := by
  cases hholder : g.session.holder token with
  | error error =>
      refine .inl ⟨error, rfl, ?_⟩
      cases m <;> cases h <;>
        simp [act, heard, Session.confirm, Session.choose, Session.arrive, Session.feed,
          Session.abandon, hholder, Session.decline, Answer.error?]
  | ok i =>
      refine .inr ⟨by simp, ?_⟩
      cases m with
      | confirm =>
          cases h
          obtain ⟨status, hanswer⟩ := Session.confirm_of_holder hholder g.world.scene
          simp [act, heard, hanswer, Answer.error?]
      | choose _ index =>
          cases h
          obtain ⟨status, hanswer⟩ :=
            Session.feed_of_holder hholder (.choose index) g.world.scene
          simp [act, heard, Session.choose, hanswer, Answer.error?]
      | arrive _ ticket =>
          cases h
          obtain ⟨status, hanswer⟩ :=
            Session.feed_of_holder hholder (.arrive ticket) g.world.scene
          simp [act, heard, Session.arrive, hanswer, Answer.error?]
      | abandon =>
          cases h
          simp [act, heard, Session.abandon, hholder, Answer.error?]
      | begin | tick => cases h

/-- A move is rejected and leaves the story as it is, or it is answered without an error. -/
theorem act_cases (g : Story) (m : Move) :
    (∃ error, g.session.Rejects g.world.scene m error ∧
      (g.act m).answer.error? = some error ∧ (g.act m).story = g) ∨
    ((∀ error, ¬ g.session.Rejects g.world.scene m error) ∧ (g.act m).answer.error? = none) := by
  cases htoken : m.token? with
  | some token =>
      rcases g.act_of_token htoken with ⟨error, hholder, hanswer, hstory⟩ | ⟨hholder, hanswer⟩
      · exact .inl ⟨error, (Session.holder_eq_error_iff htoken).1 hholder, hanswer, hstory⟩
      · refine .inr ⟨fun error h => ?_, hanswer⟩
        exact hholder error ((Session.holder_eq_error_iff htoken).2 h)
  | none =>
      cases m with
      | begin npc player entries =>
          rcases g.session.begin_rejected_or npc player entries g.world.scene with
            ⟨error, notes, hrejects, hreply⟩ | ⟨hheeds, begun, hanswer⟩
          · refine .inl ⟨error, hrejects, ?_⟩
            simp [act, heard, hreply, Session.decline, Answer.error?]
          · refine .inr ⟨hheeds, ?_⟩
            simp [act, heard, hanswer, Answer.error?]
      | tick ms =>
          refine .inr ⟨fun error h => ?_, rfl⟩
          cases h <;> simp_all
      | confirm | choose | arrive | abandon => cases htoken

theorem act_error?_iff (g : Story) (m : Move) (error : SessionError) :
    (g.act m).answer.error? = some error ↔ g.session.Rejects g.world.scene m error := by
  rcases g.act_cases m with ⟨reason, hrejects, hanswer, _⟩ | ⟨hheeds, hanswer⟩
  · rw [hanswer, Option.some.injEq]
    constructor
    · rintro rfl
      exact hrejects
    · exact hrejects.unique
  · rw [hanswer]
    exact iff_of_false (by simp) (hheeds error)

theorem act_of_error? {g : Story} {m : Move} {error : SessionError}
    (h : (g.act m).answer.error? = some error) : (g.act m).story = g := by
  rcases g.act_cases m with ⟨_, _, _, hstory⟩ | ⟨_, hanswer⟩
  · exact hstory
  · simp [hanswer] at h

/-! ## Without the rejected moves -/

/-- The moves of a list that are not rejected when they are made one after another. -/
def heeded : Story → List Move → List Move
  | _, [] => []
  | g, m :: moves =>
    if (g.act m).answer.error?.isNone then m :: heeded (g.act m).story moves
    else heeded (g.act m).story moves

theorem after_heeded (g : Story) (moves : List Move) :
    g.after (g.heeded moves) = g.after moves := by
  induction moves generalizing g with
  | nil => rfl
  | cons m moves ih =>
      have hrest : (g.act m).story.after ((g.act m).story.heeded moves) = g.after (m :: moves) :=
        ih (g.act m).story
      cases herror : (g.act m).answer.error? with
      | none =>
          rw [heeded, if_pos (by simp [herror])]
          exact hrest
      | some error =>
          rw [heeded, if_neg (by simp [herror]), ← hrest, act_of_error? herror]

theorem beats_heeded (g : Story) (moves : List Move) :
    g.beats (g.heeded moves) = (g.beats moves).filter (·.answer.error?.isNone) := by
  induction moves generalizing g with
  | nil => rfl
  | cons m moves ih =>
      have hrest := ih (g.act m).story
      cases herror : (g.act m).answer.error? with
      | none =>
          rw [heeded, if_pos (by simp [herror]), beats, beats,
            List.filter_cons_of_pos (by simp [herror]), hrest]
      | some error =>
          rw [heeded, if_neg (by simp [herror]), beats,
            List.filter_cons_of_neg (by simp [herror]), ← hrest, act_of_error? herror]

/-- **A rejected move changes nothing.** A session answers a move with an error just when it is to
reject the move, for the reason that it gives; then the session and the world are what they were;
and whatever is done in a story, the moves that were heeded alone lead to the same story, with the
same answers and notes for each of them. -/
theorem rejected_changes_nothing (g : Story) :
    (∀ m error, (g.act m).answer.error? = some error ↔
      g.session.Rejects g.world.scene m error) ∧
    (∀ m error, (g.act m).answer.error? = some error → (g.act m).story = g) ∧
    ∀ moves, g.after (g.heeded moves) = g.after moves ∧
      g.beats (g.heeded moves) = (g.beats moves).filter (·.answer.error?.isNone) := by
  refine ⟨g.act_error?_iff, fun m error => act_of_error?, fun moves => ?_⟩
  exact ⟨g.after_heeded moves, g.beats_heeded moves⟩

/-- A beginning too many, and the confirmation of an interaction that is over. -/
def meddling : List Move :=
  [.begin "Ann" "Ben" [walkOff], .confirm 1]

/-- Ann, who has been sent off again, is not to be sent off once more, and what is meant for the
interaction that was given up is turned away; the two leave her as she is. -/
theorem rejected_changes_nothing_sent_again :
    (annSentAgain.act (.begin "Ann" "Ben" [walkOff])).answer.error? =
        some (.alreadyActive "Ann") ∧
      (annSentAgain.act (.confirm 1)).answer.error? = some (.staleToken 1) ∧
      (annSentAgain.act (.confirm 1)).story = annSentAgain ∧
      annSentAgain.after meddling = annSentAgain ∧
      (annSentAgain.beats meddling).filter (·.answer.error?.isNone) = [] := by
  have hbegin : (annSentAgain.act (.begin "Ann" "Ben" [walkOff])).answer.error? =
      some (.alreadyActive "Ann") := by decide +kernel
  have hconfirm : (annSentAgain.act (.confirm 1)).answer.error? = some (.staleToken 1) := by
    decide +kernel
  have hheeded : annSentAgain.heeded meddling = [] := by decide +kernel
  obtain ⟨_, hsame, hwithout⟩ := annSentAgain.rejected_changes_nothing
  obtain ⟨hafter, hbeats⟩ := hwithout meddling
  rw [hheeded] at hafter hbeats
  exact ⟨hbegin, hconfirm, hsame _ _ hconfirm, hafter.symm, hbeats.symm⟩

end Story

end Cutscene
