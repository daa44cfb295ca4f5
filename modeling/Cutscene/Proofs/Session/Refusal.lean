import Cutscene.Proofs.Selection.Pick
import Cutscene.Proofs.Session.Story
/-!
# When a beginning is refused

A session that stays idle rather than play an entry that does not fit refuses to begin when the pick
does not fit, which is not the same as that no entry fits: an entry that needs no more flags than
the first one is never picked (`begin_no_eligible_iff`).
-/

namespace Cutscene

namespace Session

/-- A refusal for want of flags is a matter of the pick and the settings. -/
theorem begin_no_eligible_iff_fallback {x : Session} (hfree : x.active = none)
    (npc player : String) (entries : List Script) (s : Scene) :
    (x.begin npc player entries s).answer = .error (.noEligibleScript npc) ↔
      x.settings.fallback = .stayIdle ∧ ∃ selection,
        selectEntry entries s.store = some selection ∧ selection.isFallback = true := by
  have hlaunch : ∀ script selection,
      (x.launch npc player script selection s).answer ≠ .error (.noEligibleScript npc) := by
    intro script selection herror
    obtain ⟨status, hanswer⟩ := x.launch_answer npc player script selection s
    rw [hanswer] at herror
    simp at herror
  unfold begin
  simp only [hfree]
  cases hselect : selectEntry entries s.store with
  | none => simp [decline]
  | some selection =>
      dsimp only
      split
      · rename_i hfallback
        cases hpolicy : x.settings.fallback with
        | playFirst =>
            simp only [reduceCtorEq, false_and, iff_false]
            exact hlaunch _ _
        | stayIdle => exact iff_of_true rfl ⟨rfl, selection, rfl, hfallback⟩
      · rename_i hfits
        refine iff_of_false (hlaunch _ _) ?_
        rintro ⟨_, picked, hpicked, hfallback⟩
        rw [← Option.some.inj hpicked] at hfallback
        exact hfits hfallback

/-- **A refusal for want of flags.** A session that is free refuses to begin for want of flags just
when it is to stay idle, and the flags of the first entry are not all present, nor those of any
entry that needs more flags than the first one. -/
theorem begin_no_eligible_iff {x : Session} (hfree : x.active = none) (npc player : String)
    (entries : List Script) (s : Scene) :
    (x.begin npc player entries s).answer = .error (.noEligibleScript npc) ↔
      x.settings.fallback = .stayIdle ∧ ∃ first rest, entries = first :: rest ∧
        first.isEligible s.store = false ∧
        ∀ e ∈ rest, first.required.length < e.required.length →
          e.isEligible s.store = false := by
  rw [begin_no_eligible_iff_fallback hfree]
  refine and_congr_right fun _ => ?_
  have hcontra : ∀ first e : Script, (e.isEligible s.store = true →
      e.required.length ≤ first.required.length) ↔
      (first.required.length < e.required.length → e.isEligible s.store = false) := by
    intro first e
    rw [← Bool.not_eq_true, ← Nat.not_le]
    exact Decidable.not_imp_not.symm
  constructor
  · rintro ⟨selection, hselect, hfallback⟩
    cases entries with
    | nil => simp [selectEntry] at hselect
    | cons first rest =>
        obtain ⟨hfirst, hrest⟩ := (selectEntry_eq_some_iff.1 hselect).isFallback_iff.1 hfallback
        exact ⟨first, rest, rfl, hfirst, fun e he => (hcontra first e).1 (hrest e he)⟩
  · rintro ⟨first, rest, rfl, hfirst, hrest⟩
    obtain ⟨selection, hselect, hpicks⟩ := selectEntry_picks s.store first rest
    refine ⟨selection, hselect, hpicks.isFallback_iff.2 ⟨hfirst, ?_⟩⟩
    exact fun e he => (hcontra first e).2 (hrest e he)

/-- A session that stays idle when the pick does not fit. -/
def idler : Session where
  settings := { fallback := .stayIdle }

/-- Ann has more to say to a friend who trusts her than to a friend. -/
def friendly : List Script :=
  [⟨["friend", "trusts"], []⟩, ⟨["friend"], []⟩]

def metFriend : Scene where
  store := .memory (.ofList [("friend", "yes")])

/-- An entry fits, and the session says that none does. -/
theorem refused_though_eligible :
    idler.active = none ∧
      (idler.begin "Ann" "Ben" friendly metFriend).answer = .error (.noEligibleScript "Ann") ∧
      ∃ e ∈ friendly, e.isEligible metFriend.store = true := by
  refine ⟨rfl, rfl, ⟨["friend"], []⟩, by decide, by decide⟩

theorem begin_no_eligible_iff_friend :
    idler.active = none ∧
      (idler.begin "Ann" "Ben" friendly metFriend).answer = .error (.noEligibleScript "Ann") := by
  have hfree : idler.active = none := rfl
  refine ⟨hfree, (begin_no_eligible_iff hfree "Ann" "Ben" friendly metFriend).2 ⟨rfl, ?_⟩⟩
  exact ⟨_, _, rfl, by decide, by decide⟩

end Session

end Cutscene
