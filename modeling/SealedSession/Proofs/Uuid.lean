import SealedSession.Proofs.Json.Leaves
import SealedSession.Uuid

/-!
# The text of a UUID names the UUID

* `Hex.toBytes?_ofBytes`: bytes are read back from their digits.
* `Uuid.ofString?_text`: a UUID is read back from its hyphenated text.
-/

namespace SealedSession

theorem Hex.toBytes?_ofBytes (bytes : Bytes) : Hex.toBytes? (Hex.ofBytes bytes) = some bytes := by
  induction bytes with
  | nil => rfl
  | cons b bytes ih =>
    have hb := b.toNat_lt
    have hn : 16 * (b.toNat / 16) + b.toNat % 16 = b.toNat := Nat.div_add_mod _ _
    rw [Hex.ofBytes_cons, Hex.toBytes?, Hex.value?_digit (by omega),
      Hex.value?_digit (by omega), ih]
    change some (UInt8.ofNat (16 * (b.toNat / 16) + b.toNat % 16) :: bytes) = _
    rw [hn, UInt8.ofNat_toNat]

namespace Uuid

theorem bytes_inj {u v : Uuid} : u.bytes = v.bytes ↔ u = v := by
  cases u
  cases v
  rw [mk.injEq]

theorem ofDigits?_ofBytes (u : Uuid) : ofDigits? (Hex.ofBytes u.bytes) = some u := by
  rw [ofDigits?, Hex.toBytes?_ofBytes, Option.bind_some, ofBytes?, dif_pos u.length_bytes]

/-- The five groups of a hyphenated text are joined again. -/
theorem ofHyphenated?_groups {a b c d e : List Char} (ha : a.length = 8) (hb : b.length = 4)
    (hc : c.length = 4) (hd : d.length = 4) (he : e.length = 12) :
    ofHyphenated? (a ++ '-' :: b ++ '-' :: c ++ '-' :: d ++ '-' :: e) =
      ofDigits? (a ++ b ++ c ++ d ++ e) := by
  have hl : (a ++ '-' :: b ++ '-' :: c ++ '-' :: d ++ '-' :: e).length = 36 := by
    simp [ha, hb, hc, hd, he]
  refine (if_pos ⟨hl, ?_, ?_, ?_, ?_⟩).trans (congrArg ofDigits? ?_)
  · simp (disch := omega) [List.drop_append, List.drop_eq_nil_of_le,
      ha, hb, hc, hd]
  · simp [ha]
  · simp [List.getElem?_append, ha, hb]
  · simp [List.getElem?_append, ha, hb, hc]
  · simp [List.getElem?_append, ha, hb, hc, hd]

/-- A text that was cut into five groups is what the groups join to. -/
theorem groups_eq (ds : List Char) :
    ds.take 8 ++ (ds.drop 8).take 4 ++ (ds.drop 12).take 4 ++ (ds.drop 16).take 4 ++
      ds.drop 20 = ds := by
  have hg (n m : Nat) : (ds.drop n).take m ++ ds.drop (n + m) = ds.drop n := by
    rw [← List.drop_drop, List.take_append_drop]
  rw [List.append_assoc, hg 16 4, List.append_assoc, hg 12 4, List.append_assoc, hg 8 4,
    List.take_append_drop]

/-- A UUID is read back from its text. -/
theorem ofString?_text (u : Uuid) : ofString? u.text = some u := by
  have hl : (Hex.ofBytes u.bytes).length = 32 := by rw [Hex.length_ofBytes, u.length_bytes]
  have hc : u.chars.length = 36 := by simp [chars, hl]
  rw [ofString?, text, String.toList_ofList, ofText?, hc, chars]
  refine (ofHyphenated?_groups ?_ ?_ ?_ ?_ ?_).trans ?_
  · simp [hl]
  · simp [hl]
  · simp [hl]
  · simp [hl]
  · simp [hl]
  · rw [groups_eq, ofDigits?_ofBytes]

end Uuid

end SealedSession
