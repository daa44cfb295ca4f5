import Cutscene.Format.Flags
import Cutscene.Proofs.Json.RoundTrip
/-!
# Saved flags

Flags that were saved are loaded again, whatever their keys and values are.
-/

namespace Cutscene

open Json

/-- Text that was written as bytes is read as the same text. -/
theorem Text.Utf8.decode_toUTF8 (s : String) : Text.Utf8.decode s.toUTF8 = .ok s := by
  have hvalid : String.fromUTF8? s.toUTF8 = some s := dif_pos s.isValidUTF8
  rw [decode, hvalid]

namespace Format

theorem fits_ofFlags (m : FlagMap) : (ofFlags m).Fits 1 := by
  refine .object fun entry hentry => ?_
  obtain ⟨⟨key, value⟩, _, rfl⟩ := List.mem_map.1 hentry
  exact .text value

theorem decodeEntries_texts (i : Nat) (entries : List (String × String)) :
    Tree.decodeEntries (Tree.scalar Found.getText) i
      (entries.map fun e => (.ok e.1, .text (.ok e.2))) = .ok entries := by
  induction entries generalizing i with
  | nil => rfl
  | cons e entries ih =>
      rw [List.map_cons, Tree.decodeEntries, ih]
      rfl

theorem flags_tree (m : FlagMap) : flags (ofFlags m).tree = .ok m := by
  have hwritten : ofFlags m = .object (m.entries.map fun e => (e.1, .text e.2)) := rfl
  have hmembers : Doc.memberTrees (m.entries.map fun e => (e.1, .text e.2)) =
      m.entries.map fun e => (.ok e.1, .text (.ok e.2)) := by
    rw [Doc.memberTrees_eq, List.map_map]
    rfl
  rw [hwritten, Doc.tree, hmembers, flags, Tree.entriesOf, decodeEntries_texts]
  exact congrArg Except.ok m.ofList_entries

theorem decodeText_ofFlags (m : FlagMap) : decodeText flags (ofFlags m).pretty = .ok m := by
  have hfits : (ofFlags m).Fits depthLimit := (fits_ofFlags m).mono (by decide)
  exact decodeText_written hfits (flags_tree m) true

/-- Of bytes that are a text, a snapshot is what the text is decoded as. -/
theorem loadFlags_toUTF8 (s : String) :
    loadFlags s.toUTF8 = (decodeText flags s).mapError .unreadable := by
  rw [loadFlags, Text.Utf8.decode_toUTF8]
  rfl

/-- **Flags survive saving.** Whatever flags there are, and whatever characters their keys and
values have, the bytes of their snapshot are loaded as the same flags. -/
theorem loadFlags_saveFlags (m : FlagMap) : loadFlags (saveFlags m) = .ok m := by
  rw [saveFlags, loadFlags_toUTF8, decodeText_ofFlags]
  rfl

example : saveFlags .empty = "\x7b\x7d".toUTF8 := by rfl

end Format

end Cutscene
