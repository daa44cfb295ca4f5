import Cutscene.Proofs.Terminal.Endless
import Cutscene.Terminal.Check
import Mathlib.Data.Finset.Card
import Mathlib.Data.List.Count
/-!
# What a review finds

A review finds fault with the events of a character one by one: at the place of an event it finds
exactly what is `due` to the event, in the order of the places, and behind that nothing but entries
that are never picked.  A town passes its review unless somebody has nothing to say or an event is
at `Fault` (`findings_exact`).
-/

namespace Cutscene.Review

/-! ## What is wrong with an event -/

/-- A text of nothing but blanks. -/
def Blank (s : String) : Prop :=
  ∀ c ∈ s.toList, Text.isBlank c = true

theorem isBlankText_iff {s : String} : Text.isBlankText s = true ↔ Blank s :=
  List.all_eq_true

instance (s : String) : Decidable (Blank s) :=
  decidable_of_iff (Text.isBlankText s = true) isBlankText_iff

/-- The flags that the choices of a message can set, those without a flag left out. -/
def choiceFlags (choices : List Choice) : List String :=
  (choices.map (·.flag)).filter (· ≠ "")

/-- How many findings of a flaw an event deserves. -/
def due (known : List String) : Event → Flaw → Nat
  | .message m, .blankChoice => m.choices.countP fun c => Blank c.label ∨ Blank c.flag
  | .message m, .sharedChoiceFlag flag => (choiceFlags m.choices).count flag - 1
  | .walk w, .unknownWalker actor => if w.actor = some actor ∧ actor ∉ known then 1 else 0
  | .walk w, .walkOfNoTiles => if w.tiles = 0 then 1 else 0
  | .addFlag key _, .blankKey => if Blank key then 1 else 0
  | .removeFlag key, .blankKey => if Blank key then 1 else 0
  | .transaction amount, .endlessAmount => if amount.isFinite then 0 else 1
  | _, _ => 0

/-- How many errors an event deserves. -/
def faults (known : List String) : Event → Nat
  | .message m => m.choices.countP fun c => Blank c.label ∨ Blank c.flag
  | .walk w => if ∃ actor, w.actor = some actor ∧ actor ∉ known then 1 else 0
  | .addFlag key _ => if Blank key then 1 else 0
  | .removeFlag key => if Blank key then 1 else 0
  | .transaction amount => if amount.isFinite then 0 else 1

/-- How many warnings an event deserves: a walk of no tiles one, and a message one for each choice
with a flag that is not the first to set it. -/
def qualms : Event → Nat
  | .message m => (choiceFlags m.choices).length - (choiceFlags m.choices).toFinset.card
  | .walk w => if w.tiles = 0 then 1 else 0
  | _ => 0

theorem countP_ite_singleton {p : Prop} [Decidable p] (q : Flaw → Bool) (flaw : Flaw) :
    (if p then [flaw] else []).countP q = if p ∧ q flaw = true then 1 else 0 := by
  by_cases hp : p <;> simp [hp, List.countP_cons]

theorem count_ite_singleton {p : Prop} [Decidable p] (found flaw : Flaw) :
    (if p then [found] else []).count flaw = if p ∧ found = flaw then 1 else 0 := by
  rw [List.count_eq_countP, countP_ite_singleton]
  simp only [beq_iff_eq]

/-! ## The choices of a message -/

@[simp] theorem choiceFlags_nil : choiceFlags [] = [] := rfl

theorem choiceFlags_cons_of_empty {c : Choice} (h : c.flag = "") (choices : List Choice) :
    choiceFlags (c :: choices) = choiceFlags choices := by
  simp [choiceFlags, h]

theorem choiceFlags_cons_of_ne {c : Choice} (h : c.flag ≠ "") (choices : List Choice) :
    choiceFlags (c :: choices) = c.flag :: choiceFlags choices := by
  simp [choiceFlags, h]

theorem empty_not_mem_choiceFlags (choices : List Choice) : "" ∉ choiceFlags choices := by
  simp [choiceFlags]

/-- What is wrong with one choice behind the choices that set the flags seen. -/
theorem choiceFlaws_cons (seen : List String) (c : Choice) (rest : List Choice) :
    choiceFlaws seen (c :: rest) =
      (if Blank c.label ∨ Blank c.flag then [.blankChoice] else [])
        ++ (if c.flag ≠ "" ∧ c.flag ∈ seen then [.sharedChoiceFlag c.flag] else [])
        ++ choiceFlaws (c.flag :: seen) rest := by
  simp [choiceFlaws, isBlankText_iff]

theorem eq_of_mem_choiceFlaws {seen : List String} {choices : List Choice} {flaw : Flaw}
    (h : flaw ∈ choiceFlaws seen choices) :
    flaw = .blankChoice ∨ ∃ flag, flaw = .sharedChoiceFlag flag := by
  induction choices generalizing seen with
  | nil => simp [choiceFlaws] at h
  | cons c rest ih =>
      rw [choiceFlaws_cons, List.mem_append, List.mem_append, List.mem_ite_nil_right,
        List.mem_ite_nil_right, List.mem_singleton, List.mem_singleton] at h
      obtain (⟨_, rfl⟩ | ⟨_, rfl⟩) | h := h
      · exact .inl rfl
      · exact .inr ⟨_, rfl⟩
      · exact ih h

theorem count_blankChoice (seen : List String) (choices : List Choice) :
    (choiceFlaws seen choices).count .blankChoice =
      choices.countP fun c => Blank c.label ∨ Blank c.flag := by
  induction choices generalizing seen with
  | nil => rfl
  | cons c rest ih =>
      rw [choiceFlaws_cons, List.count_append, List.count_append, count_ite_singleton,
        count_ite_singleton, ih, List.countP_cons]
      simp [Nat.add_comm]

/-- A flag that an earlier choice has set is found at every choice, and any other at every choice
but the first. -/
theorem count_sharedChoiceFlag (seen : List String) (choices : List Choice) (flag : String) :
    (choiceFlaws seen choices).count (.sharedChoiceFlag flag) =
      (choiceFlags choices).count flag - if flag ∈ seen then 0 else 1 := by
  induction choices generalizing seen with
  | nil => simp [choiceFlaws]
  | cons c rest ih =>
      rw [choiceFlaws_cons, List.count_append, List.count_append, count_ite_singleton,
        count_ite_singleton, ih, if_neg fun h => Flaw.noConfusion h.2, Nat.zero_add]
      by_cases hempty : c.flag = ""
      · rw [choiceFlags_cons_of_empty hempty, if_neg fun h => h.1.1 hempty, Nat.zero_add]
        by_cases hflag : flag = ""
        · have hnone := List.count_eq_zero.2 (empty_not_mem_choiceFlags rest)
          rw [hflag, hnone, Nat.zero_sub, Nat.zero_sub]
        · simp [hempty, hflag]
      · rw [choiceFlags_cons_of_ne hempty, List.count_cons]
        by_cases hsame : c.flag = flag
        · subst hsame
          by_cases hseen : c.flag ∈ seen
          · simp [hseen, hempty, Nat.add_comm]
          · simp [hseen]
        · simp [hempty, hsame, Ne.symm hsame]

/-- Every choice with a flag is the first to set it or is warned of. -/
theorem warnings_add_card (seen : List String) (choices : List Choice) :
    (choiceFlaws seen choices).countP (·.severity = .warning)
      + ((choiceFlags choices).toFinset \ seen.toFinset).card = (choiceFlags choices).length := by
  induction choices generalizing seen with
  | nil => simp [choiceFlaws]
  | cons c rest ih =>
      have hblank : (if Blank c.label ∨ Blank c.flag then [Flaw.blankChoice] else []).countP
          (·.severity = .warning) = 0 :=
        List.countP_eq_zero.2 (by simp [Flaw.severity])
      have ih := ih (c.flag :: seen)
      rw [List.toFinset_cons] at ih
      rw [choiceFlaws_cons, List.countP_append, List.countP_append, hblank, Nat.zero_add]
      by_cases hempty : c.flag = ""
      · have hnone : "" ∉ (choiceFlags rest).toFinset :=
          fun h => empty_not_mem_choiceFlags rest (List.mem_toFinset.1 h)
        rw [hempty, Finset.sdiff_insert_of_notMem hnone] at ih
        rw [choiceFlags_cons_of_empty hempty, if_neg fun h => h.1 hempty, List.countP_nil,
          Nat.zero_add, hempty, ih]
      · rw [choiceFlags_cons_of_ne hempty, List.length_cons, List.toFinset_cons]
        by_cases hseen : c.flag ∈ seen
        · have hmem := List.mem_toFinset.2 hseen
          have hone : [Flaw.sharedChoiceFlag c.flag].countP (·.severity = .warning) = 1 := rfl
          rw [Finset.insert_eq_of_mem hmem] at ih
          rw [if_pos ⟨hempty, hseen⟩, Finset.insert_sdiff_of_mem _ hmem, hone, Nat.add_assoc, ih,
            Nat.add_comm]
        · have hnew : c.flag ∉ seen.toFinset := fun h => hseen (List.mem_toFinset.1 h)
          have hcard := Finset.card_erase_add_one
            (Finset.mem_insert_self c.flag ((choiceFlags rest).toFinset \ seen.toFinset))
          rw [Finset.erase_insert_eq_erase, ← Finset.sdiff_insert] at hcard
          rw [if_neg fun h => hseen h.2, List.countP_nil, Nat.zero_add,
            Finset.insert_sdiff_of_notMem _ hnew, ← hcard, ← Nat.add_assoc, ih]

/-- The only errors of choices are blanks. -/
theorem countP_error_choiceFlaws (seen : List String) (choices : List Choice) :
    (choiceFlaws seen choices).countP (·.severity = .error) =
      choices.countP fun c => Blank c.label ∨ Blank c.flag := by
  rw [← count_blankChoice seen choices]
  refine List.countP_congr fun flaw hflaw => ?_
  obtain rfl | ⟨flag, rfl⟩ := eq_of_mem_choiceFlaws hflaw
  · decide
  · simp [Flaw.severity]

/-! ## The events -/

theorem countP_unknownWalkers (known : List String) (walker : Option String) (q : Flaw → Bool) :
    ((walker.toList.filter fun actor => !known.contains actor).map Flaw.unknownWalker).countP q =
      if ∃ actor, walker = some actor ∧ actor ∉ known ∧ q (.unknownWalker actor) = true then 1
      else 0 := by
  cases walker with
  | none => simp
  | some actor =>
      by_cases hknown : actor ∈ known
      · simp [hknown]
      · simp [hknown, List.countP_cons]

/-- An event is found to have every flaw just as often as is due. -/
theorem count_eventFlaws (known : List String) (e : Event) (flaw : Flaw) :
    (eventFlaws known e).count flaw = due known e flaw := by
  cases e with
  | message m =>
      cases flaw with
      | blankChoice => exact count_blankChoice [] m.choices
      | sharedChoiceFlag flag =>
          rw [eventFlaws, count_sharedChoiceFlag, if_neg List.not_mem_nil, due]
      | _ =>
          refine List.count_eq_zero.2 fun h => ?_
          simpa using eq_of_mem_choiceFlaws h
  | walk w =>
      rw [eventFlaws, List.count_append, count_ite_singleton, List.count_eq_countP,
        countP_unknownWalkers]
      cases flaw <;> simp [due]
  | addFlag key value =>
      rw [eventFlaws, count_ite_singleton]
      cases flaw <;> simp [due, isBlankText_iff]
  | removeFlag key =>
      rw [eventFlaws, count_ite_singleton]
      cases flaw <;> simp [due, isBlankText_iff]
  | transaction amount =>
      by_cases h : amount.isFinite = true
      · cases flaw <;> simp [eventFlaws, due, h]
      · cases flaw <;> simp [eventFlaws, due, h]

/-- An event is found to have as many errors as it deserves. -/
theorem countP_error_eventFlaws (known : List String) (e : Event) :
    (eventFlaws known e).countP (·.severity = .error) = faults known e := by
  cases e with
  | message m => exact countP_error_choiceFlaws [] m.choices
  | walk w =>
      rw [eventFlaws, List.countP_append, countP_unknownWalkers, countP_ite_singleton]
      simp [faults, Flaw.severity]
  | addFlag key value =>
      rw [eventFlaws, countP_ite_singleton]
      simp [faults, Flaw.severity, isBlankText_iff]
  | removeFlag key =>
      rw [eventFlaws, countP_ite_singleton]
      simp [faults, Flaw.severity, isBlankText_iff]
  | transaction amount =>
      by_cases h : amount.isFinite = true <;> simp [eventFlaws, faults, Flaw.severity, h]

/-- An event is found to have as many warnings as it deserves. -/
theorem countP_warning_eventFlaws (known : List String) (e : Event) :
    (eventFlaws known e).countP (·.severity = .warning) = qualms e := by
  cases e with
  | message m =>
      have hall := warnings_add_card [] m.choices
      rw [List.toFinset_nil, Finset.sdiff_empty] at hall
      exact Nat.eq_sub_of_add_eq hall
  | walk w =>
      rw [eventFlaws, List.countP_append, countP_unknownWalkers, countP_ite_singleton]
      simp [qualms, Flaw.severity]
  | addFlag key value =>
      rw [eventFlaws, countP_ite_singleton]
      simp [qualms, Flaw.severity]
  | removeFlag key =>
      rw [eventFlaws, countP_ite_singleton]
      simp [qualms, Flaw.severity]
  | transaction amount =>
      by_cases h : amount.isFinite = true <;> simp [eventFlaws, qualms, Flaw.severity, h]

/-! ## The places of findings -/

/-- A finding is at an event of an entry. -/
def Finding.IsAt (f : Finding) (entry event : Nat) : Prop :=
  f.entry = some entry ∧ f.event = some event

instance (f : Finding) (entry event : Nat) : Decidable (f.IsAt entry event) :=
  inferInstanceAs (Decidable (_ ∧ _))

/-- A finding is of an earlier entry, or of the same entry and not of a later event. -/
def Finding.NotBehind (f g : Finding) : Prop :=
  ∃ i j, f.entry = some i ∧ g.entry = some j ∧
    (i < j ∨ i = j ∧ ∀ m n, f.event = some m → g.event = some n → m ≤ n)

/-- What is found apart from entries that are never picked. -/
def located (npc : String) (entries : List Script) (known : List String) : List Finding :=
  entries.zipIdx.flatMap fun (script, i) => entryFindings npc known script i

/-- Findings are exactly those that the events of the entries of a character deserve. -/
structure Exact (npc : String) (entries : List Script) (known : List String)
    (found : List Finding) : Prop where
  /-- An event is found to have every flaw as often as is due, -/
  flaws : ∀ i script j e, entries[i]? = some script → script.events[j]? = some e →
    ∀ flaw, found.count ⟨npc, some i, some j, flaw⟩ = due known e flaw
  /-- as many errors as it deserves -/
  errors : ∀ i script j e, entries[i]? = some script → script.events[j]? = some e →
    (found.countP fun f => f.IsAt i j ∧ f.severity = .error) = faults known e
  /-- and as many warnings. -/
  warnings : ∀ i script j e, entries[i]? = some script → script.events[j]? = some e →
    (found.countP fun f => f.IsAt i j ∧ f.severity = .warning) = qualms e
  /-- An entry is warned of once when it has no events. -/
  empty : ∀ i script, entries[i]? = some script →
    found.count ⟨npc, some i, none, .noEvents⟩ = if script.events = [] then 1 else 0
  /-- Nothing else is found. -/
  nothingElse : ∀ f ∈ found, f.npc = npc ∧ ∃ i script, entries[i]? = some script ∧
    f.entry = some i ∧ (f.event = none ∧ f.flaw = .noEvents ∨
      ∃ j e, script.events[j]? = some e ∧ f.event = some j)
  /-- The findings are in the order of their places. -/
  ordered : found.Pairwise Finding.NotBehind

/-- Of the items that are made for numbered elements, those of one number alone. -/
theorem flatMap_zipIdx_single {α β : Type} {l : List α} {g : α × Nat → List β} {a : α} {i n : Nat}
    (h : l[i]? = some a) (hother : ∀ b k, k ≠ n + i → g (b, k) = []) :
    (l.zipIdx n).flatMap g = g (a, n + i) := by
  induction l generalizing i n with
  | nil => simp at h
  | cons b l ih =>
      rw [List.zipIdx_cons, List.flatMap_cons]
      cases i with
      | zero =>
          obtain rfl : b = a := by simpa using h
          have hrest : (l.zipIdx (n + 1)).flatMap g = [] :=
            List.flatMap_eq_nil_iff.2 fun ⟨c, k⟩ hmem => by
              have hle := (List.mem_zipIdx hmem).1
              exact hother c k (by omega)
          rw [hrest, List.append_nil, Nat.add_zero]
      | succ i =>
          have hindex : n + 1 + i = n + (i + 1) := by omega
          rw [hother b n (by omega), List.nil_append, ← hindex]
          refine ih (by simpa using h) fun c k hk => hother c k ?_
          omega

/-- Items that are made for numbered elements are in order when those of one number are, and those
of a number come before those of any later one. -/
theorem pairwise_flatMap_zipIdx {α β : Type} {R : β → β → Prop} {l : List α}
    {g : α × Nat → List β} (hown : ∀ a i, (g (a, i)).Pairwise R)
    (hlater : ∀ a b i j, i < j → ∀ x ∈ g (a, i), ∀ y ∈ g (b, j), R x y) :
    (l.zipIdx.flatMap g).Pairwise R := by
  have hnumbers : l.zipIdx.Pairwise fun p q => p.2 < q.2 := by
    rw [← List.pairwise_map, List.zipIdx_map_snd]
    exact List.pairwise_lt_range'
  exact List.pairwise_flatMap.2 ⟨fun p _ => hown p.1 p.2,
    hnumbers.imp fun {p q} hlt => hlater p.1 q.1 p.2 q.2 hlt⟩

theorem entry_of_mem {npc : String} {known : List String} {script : Script} {i : Nat}
    {f : Finding} (h : f ∈ entryFindings npc known script i) : f.npc = npc ∧ f.entry = some i := by
  rw [entryFindings, List.mem_append, List.mem_ite_nil_right, List.mem_singleton] at h
  obtain ⟨_, rfl⟩ | h := h
  · exact ⟨rfl, rfl⟩
  · obtain ⟨⟨e, j⟩, _, hflaw⟩ := List.mem_flatMap.1 h
    obtain ⟨flaw, _, rfl⟩ := List.mem_map.1 hflaw
    exact ⟨rfl, rfl⟩

variable {npc : String} {entries : List Script} {known : List String} {script : Script} {e : Event}
  {i j : Nat}

theorem filter_located (h : entries[i]? = some script) :
    (located npc entries known).filter (·.entry = some i) = entryFindings npc known script i := by
  rw [located, List.filter_flatMap, flatMap_zipIdx_single (i := i) (a := script) h, Nat.zero_add]
  · refine List.filter_eq_self.2 fun f hf => ?_
    simpa using (entry_of_mem hf).2
  · intro other k hk
    refine List.filter_eq_nil_iff.2 fun f hf hentry => hk ?_
    have hthere := (entry_of_mem hf).2
    simp_all

theorem filter_entryFindings (h : script.events[j]? = some e) :
    (entryFindings npc known script i).filter (·.event = some j) =
      (eventFlaws known e).map fun flaw => ⟨npc, some i, some j, flaw⟩ := by
  have hempty : (if script.events.isEmpty then
      [(⟨npc, some i, none, .noEvents⟩ : Finding)] else []).filter (·.event = some j) = [] := by
    by_cases hnone : script.events.isEmpty <;> simp [hnone]
  rw [entryFindings, List.filter_append, hempty, List.nil_append, List.filter_flatMap,
    flatMap_zipIdx_single (i := j) (a := e) h, Nat.zero_add]
  · simp
  · intro other k hk
    have hother : k ≠ j := by omega
    exact List.filter_eq_nil_iff.2 (by simp [hother])

theorem count_located {f : Finding} (h : entries[i]? = some script) (hf : f.entry = some i) :
    (located npc entries known).count f = (entryFindings npc known script i).count f := by
  rw [← filter_located h, List.count_filter (by simpa using hf)]

theorem countP_located (h : entries[i]? = some script) (hevent : script.events[j]? = some e)
    (severity : Severity) :
    ((located npc entries known).countP fun f => f.IsAt i j ∧ f.severity = severity) =
      (eventFlaws known e).countP (·.severity = severity) := by
  have hat : (eventFlaws known e).countP (·.severity = severity) =
      ((eventFlaws known e).map fun flaw => (⟨npc, some i, some j, flaw⟩ : Finding)).countP
        (·.severity = severity) := by
    rw [List.countP_map]
    rfl
  rw [hat, ← filter_entryFindings hevent, ← filter_located h, List.countP_filter,
    List.countP_filter]
  refine List.countP_congr fun f _ => ?_
  rw [decide_eq_true_iff]
  simp only [Finding.IsAt, Bool.and_eq_true, decide_eq_true_eq]
  exact ⟨fun ⟨⟨hentry, hj⟩, hs⟩ => ⟨⟨hs, hj⟩, hentry⟩, fun ⟨⟨hs, hj⟩, hentry⟩ => ⟨⟨hentry, hj⟩, hs⟩⟩

theorem entryFindings_ordered : (entryFindings npc known script i).Pairwise Finding.NotBehind := by
  rw [entryFindings, List.pairwise_append]
  refine ⟨by split <;> simp, pairwise_flatMap_zipIdx (fun e j => ?_) ?_, fun f hf g hg => ?_⟩
  · refine List.pairwise_map.2 (List.pairwise_of_forall fun _ _ => ?_)
    exact ⟨i, i, rfl, rfl, .inr ⟨rfl, by simp⟩⟩
  · simp only [List.mem_map]
    rintro _ _ m n hlt _ ⟨_, _, rfl⟩ _ ⟨_, _, rfl⟩
    refine ⟨i, i, rfl, rfl, .inr ⟨rfl, ?_⟩⟩
    simpa using hlt.le
  · rw [List.mem_ite_nil_right, List.mem_singleton] at hf
    obtain ⟨_, rfl⟩ := hf
    have hthere := (entry_of_mem (List.mem_append_right _ hg)).2
    exact ⟨i, i, rfl, hthere, .inr ⟨rfl, by simp⟩⟩

theorem located_ordered : (located npc entries known).Pairwise Finding.NotBehind := by
  refine pairwise_flatMap_zipIdx (fun script i => entryFindings_ordered) ?_
  intro _ _ i j hlt f hf g hg
  exact ⟨i, j, (entry_of_mem hf).2, (entry_of_mem hg).2, .inl hlt⟩

theorem place_of_mem {f : Finding} (h : f ∈ located npc entries known) :
    f.npc = npc ∧ ∃ i script, entries[i]? = some script ∧ f.entry = some i ∧
      (f.event = none ∧ f.flaw = .noEvents ∨
        ∃ j e, script.events[j]? = some e ∧ f.event = some j) := by
  obtain ⟨⟨script, i⟩, hscript, hf⟩ := List.mem_flatMap.1 h
  have hentry := List.mem_zipIdx_iff_getElem?.1 hscript
  obtain ⟨hnpc, hi⟩ := entry_of_mem hf
  refine ⟨hnpc, i, script, hentry, hi, ?_⟩
  unfold entryFindings at hf
  rw [List.mem_append, List.mem_ite_nil_right, List.mem_singleton] at hf
  obtain ⟨_, rfl⟩ | hf := hf
  · exact .inl ⟨rfl, rfl⟩
  · obtain ⟨⟨e, j⟩, hevent, hflaw⟩ := List.mem_flatMap.1 hf
    obtain ⟨flaw, _, rfl⟩ := List.mem_map.1 hflaw
    exact .inr ⟨j, e, List.mem_zipIdx_iff_getElem?.1 hevent, rfl⟩

theorem count_noEvents :
    (entryFindings npc known script i).count ⟨npc, some i, none, .noEvents⟩ =
      if script.events = [] then 1 else 0 := by
  rw [entryFindings, List.count_append]
  refine (congrArg _ (List.count_eq_zero.2 ?_)).trans ?_
  · simp [List.mem_flatMap]
  · by_cases hnone : script.events = [] <;> simp [hnone]

theorem located_exact : Exact npc entries known (located npc entries known) where
  flaws i script j e hentry hevent flaw := by
    have hinj : Function.Injective fun flaw => (⟨npc, some i, some j, flaw⟩ : Finding) :=
      fun _ _ heq => (Finding.mk.inj heq).2.2.2
    rw [count_located hentry rfl, ← List.count_filter (p := (·.event = some j)) (by simp),
      filter_entryFindings hevent, List.count_map_of_injective _ _ hinj, count_eventFlaws]
  errors i script j e hentry hevent := by
    rw [countP_located hentry hevent, countP_error_eventFlaws]
  warnings i script j e hentry hevent := by
    rw [countP_located hentry hevent, countP_warning_eventFlaws]
  empty i script hentry := by
    rw [count_located hentry rfl, count_noEvents]
  nothingElse _ := place_of_mem
  ordered := located_ordered

/-! ## The review as a whole -/

theorem warned_of_mem_reach {first : Script} {rest : List Script} {f : Finding}
    (h : f ∈ reachFindings npc first rest) :
    f.npc = npc ∧ f.severity = .warning ∧ f.flaw.isUnreachable = true := by
  obtain ⟨⟨script, i⟩, _, hmap⟩ := List.mem_filterMap.1 h
  obtain ⟨flaw, hflaw, rfl⟩ := Option.map_eq_some_iff.1 hmap
  refine ⟨rfl, ?_⟩
  unfold reachFlaw at hflaw
  split at hflaw
  · obtain rfl := Option.some.inj hflaw
    exact ⟨rfl, rfl⟩
  · obtain ⟨_, _, rfl⟩ := Option.map_eq_some_iff.1 hflaw
    exact ⟨rfl, rfl⟩

/-- An entry has an error just when one of its events has. -/
theorem exists_error_entry :
    (∃ f ∈ entryFindings npc known script i, f.severity = .error) ↔
      ∃ e ∈ script.events, 0 < faults known e := by
  simp only [← countP_error_eventFlaws, List.countP_pos_iff, decide_eq_true_eq]
  constructor
  · rintro ⟨f, hf, herror⟩
    rw [entryFindings, List.mem_append, List.mem_ite_nil_right, List.mem_singleton] at hf
    obtain ⟨_, rfl⟩ | hf := hf
    · simp [Finding.severity, Flaw.severity] at herror
    · obtain ⟨⟨e, j⟩, hevent, hflaw⟩ := List.mem_flatMap.1 hf
      obtain ⟨flaw, hmem, rfl⟩ := List.mem_map.1 hflaw
      exact ⟨e, List.fst_mem_of_mem_zipIdx hevent, flaw, hmem, herror⟩
  · rintro ⟨e, he, flaw, hflaw, herror⟩
    obtain ⟨j, hj⟩ := List.mem_iff_getElem?.1 he
    have hzip : (e, j) ∈ script.events.zipIdx := List.mem_zipIdx_iff_getElem?.2 hj
    exact ⟨_, List.mem_append_right _ (List.mem_flatMap.2 ⟨_, hzip, List.mem_map_of_mem hflaw⟩),
      herror⟩

/-- A character has an error just when it has nothing to say or one of its events has. -/
theorem exists_error_iff :
    (∃ f ∈ findings npc entries known, f.severity = .error) ↔
      entries = [] ∨ ∃ script ∈ entries, ∃ e ∈ script.events, 0 < faults known e := by
  cases entries with
  | nil => simp [findings, Finding.severity, Flaw.severity]
  | cons first rest =>
      have hsplit : findings npc (first :: rest) known =
          located npc (first :: rest) known ++ reachFindings npc first rest := rfl
      rw [hsplit]
      constructor
      · rintro ⟨f, hf, herror⟩
        obtain hf | hf := List.mem_append.1 hf
        · obtain ⟨⟨script, i⟩, hscript, hf⟩ := List.mem_flatMap.1 hf
          exact .inr ⟨script, List.fst_mem_of_mem_zipIdx hscript,
            exists_error_entry.1 ⟨f, hf, herror⟩⟩
        · have hwarning := (warned_of_mem_reach hf).2.1
          rw [herror] at hwarning
          cases hwarning
      · rintro (hnone | ⟨script, hscript, hfault⟩)
        · cases hnone
        · obtain ⟨i, hi⟩ := List.mem_iff_getElem?.1 hscript
          obtain ⟨f, hf, herror⟩ := exists_error_entry.2 hfault
          have hzip : (script, i) ∈ (first :: rest).zipIdx := List.mem_zipIdx_iff_getElem?.2 hi
          exact ⟨f, List.mem_append_left _ (List.mem_flatMap.2 ⟨_, hzip, hf⟩), herror⟩

open Terminal in
/-- A town has errors just when somebody has nothing to say or an event deserves one. -/
theorem hasErrors_ofTown (t : Town) :
    (Verdict.ofTown t).hasErrors = true ↔ ∃ r ∈ t.residents, r.talking = [] ∨
      ∃ script ∈ r.talking, ∃ e ∈ script.events, 0 < faults t.actorNames e := by
  rw [Verdict.hasErrors, decide_eq_true_iff, Verdict.errors, List.countP_pos_iff]
  simp only [Verdict.ofTown, List.mem_flatMap, Finding.isError, beq_iff_eq]
  constructor
  · rintro ⟨f, ⟨r, hr, hf⟩, herror⟩
    exact ⟨r, hr, exists_error_iff.1 ⟨f, hf, herror⟩⟩
  · rintro ⟨r, hr, hfault⟩
    obtain ⟨f, hf, herror⟩ := exists_error_iff.2 hfault
    exact ⟨f, ⟨r, hr, hf⟩, herror⟩

open Terminal in
/-- **A review finds what is wrong, no more and no less.** What is found in the entries of a
character, if it has any, is first exactly what the events of the entries deserve, in the order of
their places, and then warnings of entries that are never picked and nothing else.  A town that can
be read is reviewed, and has errors just when somebody has nothing to say or an event deserves
one. -/
theorem findings_exact :
    (∀ npc entries known, entries ≠ [] → ∃ found reach,
      findings npc entries known = found ++ reach ∧ Exact npc entries known found ∧
      ∀ f ∈ reach, f.npc = npc ∧ f.severity = .warning ∧ f.flaw.isUnreachable = true) ∧
    ∀ disk path town, loadTown disk path = .ok town → ∃ verdict,
      check disk path = .ok verdict ∧
      (verdict.hasErrors = true ↔ ∃ r ∈ town.residents, r.talking = [] ∨
        ∃ script ∈ r.talking, ∃ e ∈ script.events, 0 < faults town.actorNames e) := by
  constructor
  · intro npc entries known hentries
    obtain ⟨first, rest, rfl⟩ := List.exists_cons_of_ne_nil hentries
    exact ⟨_, reachFindings npc first rest, rfl, located_exact, fun f => warned_of_mem_reach⟩
  · intro disk path town hload
    refine ⟨.ofTown town, ?_, hasErrors_ofTown town⟩
    rw [check, hload]
    rfl

/-- Entries with much to be said about. -/
def muddled : List Script :=
  [⟨[], [.message { text := "Well?", choices := [⟨"Yes", "stays"⟩, ⟨" ", "stays"⟩, ⟨"No", ""⟩] },
      .walk ⟨0, .up, some "Cid"⟩, .addFlag "\t" "true"]⟩,
    ⟨[], []⟩]

/-- Ann has nothing to say. -/
def silentTown : String :=
  "\x7b\"player\":\x7b\"name\":\"Ben\",\"pos\":\x7b\"x\":0,\"y\":0\x7d\x7d,
    \"npcs\":[\x7b\"name\":\"Ann\",\"pos\":\x7b\"x\":1,\"y\":0\x7d\x7d]\x7d"

def silentDisk : Disk :=
  Terminal.townDisk silentTown.toUTF8

set_option maxRecDepth 2000 in
theorem silent_town : ∃ town, Terminal.loadTown silentDisk "town" = .ok town ∧
    ∃ r ∈ town.residents, r.talking = [] := by
  have hload : Terminal.loadTown silentDisk "town" = _ :=
    Terminal.loadTown_of_read silentTown (Terminal.read_townDisk _) String.toList_ofList
  have hread : (Terminal.loadTown silentDisk "town").toOption.any
      (fun town => town.residents.any (·.talking.isEmpty)) = true := by
    rw [hload]
    decide +kernel
  obtain ⟨town, htown, hsilent⟩ := Terminal.exists_ok_of_any hread
  exact ⟨town, htown, by simpa using hsilent⟩

theorem findings_exact_muddled :
    (∃ found reach, findings "Ann" muddled ["Ben", "Ann"] = found ++ reach ∧
      found.count ⟨"Ann", some 0, some 0, .blankChoice⟩ = 2 ∧
      found.count ⟨"Ann", some 0, some 0, .sharedChoiceFlag "stays"⟩ = 1 ∧
      (found.countP fun f => f.IsAt 0 1 ∧ f.severity = .error) = 1 ∧
      (found.countP fun f => f.IsAt 0 1 ∧ f.severity = .warning) = 1 ∧
      found.count ⟨"Ann", some 0, some 2, .blankKey⟩ = 1 ∧
      found.count ⟨"Ann", some 1, none, .noEvents⟩ = 1 ∧
      ∀ f ∈ reach, f.severity = .warning) ∧
    ∃ town verdict, Terminal.loadTown silentDisk "town" = .ok town ∧
      Terminal.check silentDisk "town" = .ok verdict ∧ verdict.hasErrors = true := by
  constructor
  · obtain ⟨found, reach, hfindings, hexact, hreach⟩ :=
      findings_exact.1 "Ann" muddled ["Ben", "Ann"] (List.cons_ne_nil _ _)
    refine ⟨found, reach, hfindings, ?_, ?_, ?_, ?_, ?_, ?_, fun f hf => (hreach f hf).2.1⟩
    · rw [hexact.flaws 0 _ 0 _ rfl rfl]
      decide +kernel
    · rw [hexact.flaws 0 _ 0 _ rfl rfl]
      decide +kernel
    · rw [hexact.errors 0 _ 1 _ rfl rfl]
      decide +kernel
    · rw [hexact.warnings 0 _ 1 _ rfl rfl]
      decide +kernel
    · rw [hexact.flaws 0 _ 2 _ rfl rfl]
      decide +kernel
    · rw [hexact.empty 1 _ rfl]
      decide +kernel
  · obtain ⟨town, hload, r, hr, hsilent⟩ := silent_town
    obtain ⟨verdict, hcheck, hiff⟩ := findings_exact.2 silentDisk "town" town hload
    exact ⟨town, verdict, hload, hcheck, hiff.2 ⟨r, hr, .inl hsilent⟩⟩

end Cutscene.Review
