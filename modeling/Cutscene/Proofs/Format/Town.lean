import Cutscene.Format.Town
import Cutscene.Proofs.Format.Script
/-!
# Written towns

A town that was written is read as the same town (`authoring_survives_writing`), as long as the
texts of its numbers are read as these numbers.
-/

namespace Cutscene

open Json

/-- The texts of both coordinates are read as these. -/
def Position.ReadsBack (p : Position) : Prop :=
  ReadsBack32 p.x ∧ ReadsBack32 p.y

/-- The texts of all numbers of a town that are not whole are read as these. -/
structure Town.ReadsBack (t : Town) : Prop where
  balance : Json.ReadsBack t.balance
  player : t.player.position.ReadsBack
  residents : ∀ r ∈ t.residents, r.position.ReadsBack ∧ ∀ s ∈ r.talking, s.ReadsBack

namespace Format

/-! ## Placements -/

theorem direction_ofDirection (d : Direction) : direction (ofDirection d).tree = .ok d := by
  cases d <;> rfl

theorem scalar_float {x : Float} (h : ReadsBack x) :
    Tree.scalar Found.getFloat (Doc.float x).tree = .ok x := by
  obtain ⟨n, hget, htree, _⟩ := h.written
  rw [htree, scalar_eq_ok]
  exact ⟨.number n, rfl, hget⟩

theorem scalar_float32 {x : Float32} (h : ReadsBack32 x) :
    Tree.scalar Found.getFloat32 (Doc.float32 x).tree = .ok x := by
  obtain ⟨n, hget, htree, _⟩ := h.written
  rw [htree, scalar_eq_ok]
  exact ⟨.number n, rfl, hget⟩

theorem position_ofPosition {p : Position} (h : p.ReadsBack) :
    position (ofPosition p).tree = .ok p := by
  have hfields : Tree.recordMembers positionRecord 0 [] (none, none) (Doc.memberTrees
      [("x", .float32 p.x), ("y", .float32 p.y)]) = .ok (some p.x, some p.y) := by
    refine (Tree.recordMembers_cons rfl (field_read (scalar_float32 h.1)) rfl _ _ _).trans ?_
    exact (Tree.recordMembers_cons rfl (field_read (scalar_float32 h.2)) rfl _ _ _).trans rfl
  exact Tree.record_written hfields rfl

theorem fits_ofPosition {p : Position} (h : p.ReadsBack) : (ofPosition p).Fits 1 := by
  obtain ⟨_, _, _, hx⟩ := h.1.written
  obtain ⟨_, _, _, hy⟩ := h.2.written
  refine .object fun m hm => ?_
  simp only [List.mem_cons, List.not_mem_nil, or_false] at hm
  rcases hm with rfl | rfl
  · exact hx 0
  · exact hy 0

/-- The members of a placement set the fields that every record of a placement begins with. -/
theorem recordMembers_placement {α : Type} (title : String)
    (more : List (Field Tree Problem PlacementParts)) (finish : PlacementParts → Except Nat α)
    {p : Placement} (h : p.position.ReadsBack) (rest : List (String × Doc)) :
    Tree.recordMembers ⟨title, placementFields ++ more, {}, finish⟩ 0 [] {}
      (Doc.memberTrees (placementMembers p ++ rest)) =
      Tree.recordMembers ⟨title, placementFields ++ more, {}, finish⟩ 3 [2, 1, 0]
        { name := some p.name, position := some p.position, direction := p.direction }
        (Doc.memberTrees rest) := by
  have hname : Tree.scalar Found.getText (Doc.text p.name).tree = .ok p.name := rfl
  have hposition := position_ofPosition h
  have hdirection := direction_ofDirection p.direction
  refine (Tree.recordMembers_cons rfl (field_read hname) rfl _ _ _).trans ?_
  refine (Tree.recordMembers_cons rfl (field_read hposition) rfl _ _ _).trans ?_
  exact (Tree.recordMembers_cons rfl (field_read hdirection) rfl _ _ _).trans rfl

theorem fits_placementMembers {p : Placement} (h : p.position.ReadsBack) {m : String × Doc}
    (hm : m ∈ placementMembers p) : m.2.Fits 1 := by
  simp only [placementMembers, List.mem_cons, List.not_mem_nil, or_false] at hm
  rcases hm with rfl | rfl | rfl
  · exact .text _
  · exact fits_ofPosition h
  · exact .text _

theorem placement_ofPlacement {p : Placement} (h : p.position.ReadsBack) :
    placement (ofPlacement p).tree = .ok p := by
  have hfields := recordMembers_placement placementRecord.title [] placementRecord.finish h []
  rw [List.append_nil] at hfields
  exact Tree.record_written (hfields.trans rfl) rfl

/-! ## Residents -/

section

variable {r : Resident} (hplace : r.position.ReadsBack) (htalking : ∀ s ∈ r.talking, s.ReadsBack)

include hplace htalking

theorem resident_ofResident : resident (ofResident r).tree = .ok r := by
  have hfields := recordMembers_placement residentRecord.title
    [field ["talking"] talking fun talking p => { p with talking }] residentRecord.finish hplace
    [("talking", ofTalking r.talking)]
  have hlast : Tree.recordMembers residentRecord 3 [2, 1, 0]
      { name := some r.name, position := some r.position, direction := r.direction }
      (Doc.memberTrees [("talking", ofTalking r.talking)]) =
      .ok ⟨some r.name, some r.position, r.direction, r.talking⟩ :=
    (Tree.recordMembers_cons rfl (field_read (talking_ofTalking htalking)) rfl _ _ _).trans rfl
  exact Tree.record_written (hfields.trans hlast) rfl

theorem fits_ofResident : (ofResident r).Fits 7 := by
  refine .object fun m hm => ?_
  rcases List.mem_append.1 hm with hm | hm
  · exact (fits_placementMembers hplace hm).mono (by decide)
  · rw [List.mem_singleton.1 hm]
    exact fits_ofTalking htalking

end

/-! ## Towns -/

section

variable {t : Town} (h : t.ReadsBack)

include h

theorem town_ofTown : town (ofTown t).tree = .ok t := by
  have hmap : Tree.scalar Found.getText (Doc.text t.map).tree = .ok t.map := rfl
  have hbalance := scalar_float h.balance
  have hplayer := placement_ofPlacement h.player
  have hresidents : Tree.listOf resident (Doc.list (t.residents.map ofResident)).tree =
      .ok t.residents :=
    Tree.listOf_written fun r hr => resident_ofResident (h.residents r hr).1 (h.residents r hr).2
  have hfields : Tree.recordMembers townRecord 0 [] {} (Doc.memberTrees
      [("map", .text t.map), ("balance", .float t.balance), ("player", ofPlacement t.player),
        ("npcs", .list (t.residents.map ofResident))]) =
      .ok ⟨t.map, t.balance, some t.player, t.residents⟩ := by
    refine (Tree.recordMembers_cons rfl (field_read hmap) rfl _ _ _).trans ?_
    refine (Tree.recordMembers_cons rfl (field_read hbalance) rfl _ _ _).trans ?_
    refine (Tree.recordMembers_cons rfl (field_read hplayer) rfl _ _ _).trans ?_
    exact (Tree.recordMembers_cons rfl (field_read hresidents) rfl _ _ _).trans rfl
  exact Tree.record_written hfields rfl

theorem fits_ofTown : (ofTown t).Fits 9 := by
  obtain ⟨_, _, _, hbalance⟩ := h.balance.written
  refine .object fun m hm => ?_
  simp only [List.mem_cons, List.not_mem_nil, or_false] at hm
  rcases hm with rfl | rfl | rfl | rfl
  · exact .text _
  · exact hbalance 8
  · exact .object fun m hm => (fits_placementMembers h.player hm).mono (by decide)
  · exact .list_map fun r hr => fits_ofResident (h.residents r hr).1 (h.residents r hr).2

end

/-- **Authoring survives writing.** Talking entries and towns that were written, on one line or on
many, are read as the same, whatever texts, lists and kinds of events they hold. -/
theorem authoring_survives_writing {entries : List Script} {t : Town}
    (hentries : ∀ s ∈ entries, s.ReadsBack) (ht : t.ReadsBack) :
    (decodeText talking (ofTalking entries).compact = .ok entries ∧
      decodeText talking (ofTalking entries).pretty = .ok entries) ∧
    decodeText town (ofTown t).compact = .ok t ∧ decodeText town (ofTown t).pretty = .ok t := by
  have hread := fun indented => decodeText_written
    ((fits_ofTalking hentries).mono (by decide)) (talking_ofTalking hentries) indented
  have hread' := fun indented => decodeText_written
    ((fits_ofTown ht).mono (by decide)) (town_ofTown ht) indented
  exact ⟨⟨hread false, hread true⟩, hread' false, hread' true⟩

/-- A resident with an event of each kind, and with a script that says nothing. -/
def baker : Resident where
  name := "Ann \"the baker\""
  position := ⟨100.5, -0.0⟩
  direction := .left
  talking := [
    { required := ["morning", ""]
      events := [
        .message { text := "Bread?\n🍞", facing := .player, required := ["hungry"],
                   choices := [⟨"Yes", "bread"⟩, ⟨"", "\\no"⟩] },
        .message { text := "" },
        .walk { tiles := 4294967295, direction := .up, actor := some "Bob" },
        .walk { tiles := 0, direction := .right },
        .addFlag "met Ann" "yes",
        .removeFlag "hungry",
        .transaction (-2.25)] },
    {}]

/-- A town with this resident and with one who does not talk. -/
def village : Town where
  balance := 20.25
  player := { name := "Player", position := ⟨192, 1e20⟩ }
  residents := [baker, { name := "Bob", position := ⟨0, 64⟩ }]

theorem readsBack_baker {s : Script} (hs : s ∈ baker.talking) : s.ReadsBack := by
  intro amount hamount
  simp only [baker, List.mem_cons, List.not_mem_nil, or_false] at hs
  rcases hs with rfl | rfl
  · have hprice : amount = -2.25 := by simpa using hamount
    rw [hprice, ReadsBack]
    rfl
  · cases hamount

theorem readsBack_village : village.ReadsBack where
  balance := by rw [ReadsBack]; rfl
  player := ⟨by rw [ReadsBack32]; rfl, by rw [ReadsBack32]; rfl⟩
  residents r hr := by
    simp only [village, List.mem_cons, List.not_mem_nil, or_false] at hr
    rcases hr with rfl | rfl
    · exact ⟨⟨by rw [ReadsBack32]; rfl, by rw [ReadsBack32]; rfl⟩, fun _ => readsBack_baker⟩
    · exact ⟨⟨by rw [ReadsBack32]; rfl, by rw [ReadsBack32]; rfl⟩, by simp⟩

theorem authoring_survives_writing_village :
    (∀ s ∈ baker.talking, s.ReadsBack) ∧ village.ReadsBack ∧
      decodeText talking (ofTalking baker.talking).pretty = .ok baker.talking ∧
      decodeText town (ofTown village).compact = .ok village := by
  have hscripts : ∀ s ∈ baker.talking, s.ReadsBack := fun _ => readsBack_baker
  obtain ⟨⟨_, htalking⟩, htown, _⟩ := authoring_survives_writing hscripts readsBack_village
  exact ⟨hscripts, readsBack_village, htalking, htown⟩

end Format

end Cutscene
