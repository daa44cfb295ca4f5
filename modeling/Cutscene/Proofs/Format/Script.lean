import Cutscene.Format.Script
import Cutscene.Proofs.Json.Decoding
/-!
# Written scripts

The authoring format says all of a script: talking entries that were written are read as the same
entries (`talking_ofTalking`), as long as the texts of their amounts of money are read as these.
An event is decoded only when all of it has been read, so that what counts of its members are the
values that they hold (`Doc.MembersHold`).
-/

namespace Cutscene

open Json

/-- The texts of all amounts of money in a script are read as these. -/
def Script.ReadsBack (s : Script) : Prop :=
  ∀ amount, .transaction amount ∈ s.events → Json.ReadsBack amount

namespace Format

theorem field_read {ν ε α σ : Type} {names : List String} {read : ν → Except ε α}
    {set : α → σ → σ} {v : ν} {x : α} (h : read v = .ok x) :
    (field names read set).read v = .ok (set x) := by
  simp only [field, h]
  rfl

/-! ## The parts of events -/

theorem fits_ofChoice (c : Choice) : (ofChoice c).Fits 1 := by
  refine .object fun m hm => ?_
  simp only [List.mem_cons, List.not_mem_nil, or_false] at hm
  rcases hm with rfl | rfl <;> exact .text _

def choiceValue (c : Choice) : Value :=
  .object [("label", .text c.label), ("flag", .text c.flag)]

theorem holds_ofChoice (c : Choice) : (ofChoice c).Holds (choiceValue c) :=
  (Doc.MembersHold.cons "label" (Doc.holds_text _) (.cons "flag" (Doc.holds_text _) .nil)).object

theorem bufferedChoice_value (c : Choice) : bufferedChoice (choiceValue c) = .ok c := rfl

theorem bufferedDirection_name (d : Direction) : bufferedDirection (.text d.name) = .ok d := by
  cases d <;> rfl

theorem bufferedFacing_name (f : Facing) : bufferedFacing (.text f.name) = .ok f := by
  have hname : facingOfName f.name = .ok f := by
    unfold facingOfName
    rw [Facing.ofName?_name]
  exact hname

theorem lookUp_kind (k : EventKind) : lookUp eventKinds k.name = .ok k := by
  cases k <;> rfl

section Lists

variable {α β σ : Type} {write : α → Doc} {value : α → Value} {xs : List α}

/-- The value of a member that is left out when its list is empty. -/
def valuesUnlessEmpty (key : String) (value : α → Value) (xs : List α) : List (String × Value) :=
  if xs.isEmpty then [] else [(key, .list (xs.map value))]

theorem membersHold_unlessEmpty (key : String) (h : ∀ x ∈ xs, (write x).Holds (value x)) :
    Doc.MembersHold (unlessEmpty key write xs) (valuesUnlessEmpty key value xs) := by
  unfold unlessEmpty valuesUnlessEmpty
  split
  · exact .nil
  · exact .cons key (Doc.holds_list h) .nil

/-- A list that is left out when it is empty sets its field all the same, if that was empty. -/
theorem recordMembers_unlessEmpty (r : Record Value Cause σ β) (key : String) (seen : List Nat)
    (collected : σ) (rest : List (String × Value)) {f : Field Value Cause σ} {k : Nat}
    {set : σ → σ} (hfield : r.field? key = some (f, k))
    (hread : f.read (.list (xs.map value)) = .ok set)
    (hempty : xs = [] → set collected = collected) (hnew : k ∉ seen) :
    ∃ seen', (∀ j ∈ seen', j = k ∨ j ∈ seen) ∧
      Value.recordMembers r seen collected (valuesUnlessEmpty key value xs ++ rest) =
        Value.recordMembers r seen' (set collected) rest := by
  unfold valuesUnlessEmpty
  cases xs with
  | nil =>
      rw [hempty rfl]
      exact ⟨seen, fun j hj => .inr hj, rfl⟩
  | cons x xs =>
      have hnew' : seen.contains k = false := by simpa using hnew
      exact ⟨k :: seen, fun j hj => List.mem_cons.1 hj,
        Value.recordMembers_cons hfield hread hnew' collected rest⟩

end Lists

/-! ## Events -/

def messageValues (m : Message) : List (String × Value) :=
  [("text", .text m.text), ("direction", .text m.facing.name)]
    ++ valuesUnlessEmpty "requiredFlags" .text m.required
    ++ valuesUnlessEmpty "choices" choiceValue m.choices

theorem membersHold_message (m : Message) :
    Doc.MembersHold (eventMembers (.message m)) (messageValues m) := by
  have hfirst : Doc.MembersHold [("text", .text m.text), ("direction", ofFacing m.facing)]
      [("text", .text m.text), ("direction", .text m.facing.name)] :=
    .cons "text" (Doc.holds_text _) (.cons "direction" (Doc.holds_text _) .nil)
  exact (hfirst.append (membersHold_unlessEmpty _ fun s _ => Doc.holds_text s)).append
    (membersHold_unlessEmpty _ fun c _ => holds_ofChoice c)

theorem bufferedEvent_message (m : Message) :
    bufferedEvent .message (.object (messageValues m)) = .ok (.message m) := by
  have hfacing := bufferedFacing_name m.facing
  have hrequired : Value.listOf bufferedText (.list (m.required.map .text)) = .ok m.required :=
    Value.listOf_map fun _ _ => rfl
  have hchoices : Value.listOf bufferedChoice (.list (m.choices.map choiceValue)) = .ok m.choices :=
    Value.listOf_map fun c _ => bufferedChoice_value c
  have hfirst : Value.recordMembers messageRecord [] {} (messageValues m) =
      Value.recordMembers messageRecord [1, 0] { text := some m.text, facing := m.facing }
        (valuesUnlessEmpty "requiredFlags" .text m.required ++
          (valuesUnlessEmpty "choices" choiceValue m.choices ++ [])) := by
    rw [messageValues, List.append_assoc, List.append_nil]
    refine (Value.recordMembers_cons rfl rfl rfl _ _).trans ?_
    refine (Value.recordMembers_cons rfl (field_read hfacing) rfl _ _).trans ?_
    rfl
  obtain ⟨seen, hseen, hsecond⟩ := recordMembers_unlessEmpty messageRecord "requiredFlags" [1, 0]
    { text := some m.text, facing := m.facing }
    (valuesUnlessEmpty "choices" choiceValue m.choices ++ []) rfl (field_read hrequired)
    (fun h => by rw [h]) (by simp)
  have hlast : 3 ∉ seen := fun h => by simpa using hseen 3 h
  obtain ⟨_, _, hthird⟩ := recordMembers_unlessEmpty messageRecord "choices" seen
    { text := some m.text, facing := m.facing, required := m.required } [] rfl (field_read hchoices)
    (fun h => by rw [h]) hlast
  exact Value.record_object ((hfirst.trans hsecond).trans hthird) rfl

def walkValues (w : Walk) : List (String × Value) :=
  [("tileDistance", .number (.int w.tiles.toNat)), ("direction", .text w.direction.name)]
    ++ (w.actor.map fun actor => ("actorRef", Value.text actor)).toList

theorem spells_tiles (n : UInt32) : Spells (toString n.toNat).toList (.int n.toNat) := by
  have hlt : n.toNat < UInt32.size := n.toNat_lt
  exact spells_nat (Nat.lt_trans hlt (by decide))

theorem membersHold_walk (w : Walk) :
    Doc.MembersHold (eventMembers (.walk w)) (walkValues w) := by
  have htiles : (Doc.nat w.tiles.toNat).Holds (.number (.int w.tiles.toNat)) := by
    rw [Doc.Holds, Doc.nat, Doc.tree, (spells_tiles w.tiles).scan_eq]
    rfl
  have hfirst : Doc.MembersHold
      [("tileDistance", .nat w.tiles.toNat), ("direction", ofDirection w.direction)]
      [("tileDistance", .number (.int w.tiles.toNat)), ("direction", .text w.direction.name)] :=
    .cons "tileDistance" htiles (.cons "direction" (Doc.holds_text _) .nil)
  refine hfirst.append ?_
  cases w.actor with
  | none => exact .nil
  | some actor => exact .cons "actorRef" (Doc.holds_text actor) .nil

theorem bufferedEvent_walk (w : Walk) :
    bufferedEvent .walk (.object (walkValues w)) = .ok (.walk w) := by
  obtain ⟨tiles, direction, actor⟩ := w
  have htiles : Value.scalar (Found.getNat UInt32.size "u32") (.number (.int tiles.toNat)) =
      .ok tiles.toNat := by
    have hlt : (tiles.toNat : Int) < UInt32.size := Int.ofNat_lt.2 tiles.toNat_lt
    rw [Value.scalar, Value.found, Found.getNat, if_pos ⟨Int.natCast_nonneg _, hlt⟩]
    rfl
  have hdirection := bufferedDirection_name direction
  have hfirst : Value.recordMembers walkRecord [] {} (walkValues ⟨tiles, direction, actor⟩) =
      Value.recordMembers walkRecord [1, 0] { tiles := some tiles, direction := some direction }
        (actor.map fun actor => ("actorRef", Value.text actor)).toList := by
    refine (Value.recordMembers_cons rfl (field_read htiles) rfl _ _).trans ?_
    refine (Value.recordMembers_cons rfl (field_read hdirection) rfl _ _).trans ?_
    simp only [UInt32.ofNat_toNat]
    rfl
  cases actor with
  | none => exact Value.record_object hfirst rfl
  | some actor => exact Value.record_object hfirst rfl

theorem mem_unlessEmpty {α : Type} {key : String} {write : α → Doc} {xs : List α}
    {m : String × Doc} (hm : m ∈ unlessEmpty key write xs) : m = (key, .list (xs.map write)) := by
  unfold unlessEmpty at hm
  split at hm
  · cases hm
  · exact List.mem_singleton.1 hm

/-- The members of an event have other keys than its kind, and fit. -/
theorem mem_eventMembers {e : Event} (h : ∀ amount, e = .transaction amount → ReadsBack amount)
    {m : String × Doc} (hm : m ∈ eventMembers e) : m.1 ≠ "type" ∧ m.2.Fits 2 := by
  cases e with
  | message message =>
      simp only [eventMembers, List.mem_append, List.mem_cons, List.not_mem_nil, or_false] at hm
      rcases hm with ((rfl | rfl) | hm) | hm
      · exact ⟨by simp, .text _⟩
      · exact ⟨by simp, .text _⟩
      · rw [mem_unlessEmpty hm]
        exact ⟨by simp, .list_map fun flag _ => .text flag⟩
      · rw [mem_unlessEmpty hm]
        exact ⟨by simp, .list_map fun c _ => fits_ofChoice c⟩
  | walk w =>
      simp only [eventMembers, List.mem_append, List.mem_cons, List.not_mem_nil, or_false,
        Option.mem_toList, Option.map_eq_some_iff] at hm
      rcases hm with (rfl | rfl) | ⟨actor, _, rfl⟩
      · exact ⟨by simp, .number (spells_tiles w.tiles)⟩
      · exact ⟨by simp, .text _⟩
      · exact ⟨by simp, .text _⟩
  | addFlag key value =>
      simp only [eventMembers, List.mem_cons, List.not_mem_nil, or_false] at hm
      rcases hm with rfl | rfl <;> exact ⟨by simp, .text _⟩
  | removeFlag key =>
      rw [List.mem_singleton.1 hm]
      exact ⟨by simp, .text _⟩
  | transaction amount =>
      obtain ⟨_, _, _, hfits⟩ := (h amount rfl).written
      rw [List.mem_singleton.1 hm]
      exact ⟨by simp, hfits 2⟩

/-- What is read of an event that was written, once the values of its members are known. -/
theorem event_of_values {e : Event} {vs : List (String × Value)}
    (htag : ∀ m ∈ eventMembers e, m.1 ≠ "type") (hmembers : Doc.MembersHold (eventMembers e) vs)
    (hevent : bufferedEvent e.kind (.object vs) = .ok e) : event (ofEvent e).tree = .ok e := by
  rw [event, ofEvent, Tree.tagged_written (lookUp_kind e.kind) hmembers htag]
  simp only [bind, Except.bind, hevent]
  rfl

theorem event_ofEvent {e : Event} (h : ∀ amount, e = .transaction amount → ReadsBack amount) :
    event (ofEvent e).tree = .ok e := by
  have htag : ∀ m ∈ eventMembers e, m.1 ≠ "type" := fun m hm => (mem_eventMembers h hm).1
  cases e with
  | message m => exact event_of_values htag (membersHold_message m) (bufferedEvent_message m)
  | walk w => exact event_of_values htag (membersHold_walk w) (bufferedEvent_walk w)
  | addFlag key value =>
      have hmembers := Doc.MembersHold.cons "key" (Doc.holds_text key)
        (.cons "value" (Doc.holds_text value) .nil)
      exact event_of_values htag hmembers rfl
  | removeFlag key =>
      exact event_of_values htag (.cons "key" (Doc.holds_text key) .nil) rfl
  | transaction amount =>
      obtain ⟨n, hget, htree, _⟩ := (h amount rfl).written
      have hholds : (Doc.float amount).Holds (.number n) := by
        rw [Doc.Holds, htree]
        rfl
      have hamount : Value.scalar Found.getFloat (.number n) = .ok amount := hget
      have hfields : Value.recordMembers transactionRecord [] none [("amount", .number n)] =
          .ok (some amount) :=
        (Value.recordMembers_cons rfl (field_read hamount) rfl _ _).trans rfl
      exact event_of_values htag (.cons "amount" hholds .nil) (Value.record_object hfields rfl)

theorem fits_ofEvent {e : Event} (h : ∀ amount, e = .transaction amount → ReadsBack amount) :
    (ofEvent e).Fits 3 := by
  refine .object fun m hm => ?_
  rcases List.mem_cons.1 hm with rfl | hm
  · exact .text _
  · exact (mem_eventMembers h hm).2

/-! ## Scripts -/

section

variable {s : Script} (h : s.ReadsBack)

include h

theorem script_ofScript : script (ofScript s).tree = .ok s := by
  have hrequired : Tree.listOf (Tree.scalar Found.getText) (Doc.texts s.required).tree =
      .ok s.required := Tree.listOf_written fun _ _ => rfl
  have hevents : Tree.listOf event (Doc.list (s.events.map ofEvent)).tree = .ok s.events :=
    Tree.listOf_written fun e he => event_ofEvent fun amount heq => h amount (heq ▸ he)
  have hfields : Tree.recordMembers scriptRecord 0 [] ([], []) (Doc.memberTrees
      [("requiredFlags", .texts s.required), ("events", .list (s.events.map ofEvent))]) =
      .ok (s.required, s.events) := by
    refine (Tree.recordMembers_cons rfl (field_read hrequired) rfl _ _ _).trans ?_
    exact (Tree.recordMembers_cons rfl (field_read hevents) rfl _ _ _).trans rfl
  exact Tree.record_written hfields rfl

theorem fits_ofScript : (ofScript s).Fits 5 := by
  refine .object fun m hm => ?_
  simp only [List.mem_cons, List.not_mem_nil, or_false] at hm
  rcases hm with rfl | rfl
  · exact .list_map fun flag _ => .text flag
  · exact .list_map fun e he => fits_ofEvent fun amount heq => h amount (heq ▸ he)

end

section

variable {entries : List Script} (h : ∀ s ∈ entries, s.ReadsBack)

include h

theorem talking_ofTalking : talking (ofTalking entries).tree = .ok entries :=
  Tree.listOf_written fun s hs => script_ofScript (h s hs)

theorem fits_ofTalking : (ofTalking entries).Fits 6 :=
  .list_map fun s hs => fits_ofScript (h s hs)

end

end Format

end Cutscene
