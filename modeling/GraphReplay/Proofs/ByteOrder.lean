import GraphReplay.Proofs.Order
import Mathlib.Data.String.Basic

/-!
# Names by their bytes

Names are compared by their code points. UTF-8 is such that this comes to the
same as comparing their bytes, so keys are in the order of the bytes of their
names (`Key.lt_iff_utf8`).

The bytes of a character begin with one that tells how many there are, and then
come the digits of its code point in base 64, so the first byte in which two
characters differ is in the order of their code points (`encodeChar_lt`).
-/

namespace GraphReplay

namespace Text

/-- The bytes of a text. -/
def utf8 (s : String) : List UInt8 := s.toUTF8.data.toList

theorem utf8_eq_flatMap (s : String) : utf8 s = s.toList.flatMap String.utf8EncodeChar := by
  rw [utf8, String.toUTF8_eq_toByteArray, ← String.utf8Encode_toList, List.utf8Encode,
    List.toList_data_toByteArray]

/-- Of two characters, the smaller one has the smaller bytes, whatever follows them. -/
theorem encodeChar_lt {c d : Char} (h : c < d) (l l' : List UInt8) :
    String.utf8EncodeChar c ++ l < String.utf8EncodeChar d ++ l' := by
  have hlt : c.val.toNat < d.val.toNat := h
  have hvalid : d.val.toNat < 0x110000 := by
    have hd : d.val.toNat.isValidChar := d.valid
    unfold Nat.isValidChar at hd
    omega
  rw [String.utf8EncodeChar, String.utf8EncodeChar]
  generalize c.val.toNat = m at *
  generalize d.val.toNat = n at *
  -- Both have up to four bytes; no code point has more than four digits.
  split_ifs
  all_goals
    simp (disch := omega) only [List.cons_append, List.nil_append, List.cons_lt_cons_iff,
      UInt8.lt_iff_toNat_lt, ← UInt8.toNat_inj, UInt8.toNat_ofNat', Nat.mod_eq_of_lt]
    omega

theorem flatMap_encodeChar_lt {l l' : List Char} (h : l < l') :
    l.flatMap String.utf8EncodeChar < l'.flatMap String.utf8EncodeChar := by
  -- The texts differ in some character, or the first one ends before the other.
  induction h with
  | @nil c l =>
    obtain ⟨b, bs, hc⟩ := List.exists_cons_of_ne_nil (String.utf8EncodeChar_ne_nil (c := c))
    rw [List.flatMap_nil, List.flatMap_cons, hc]
    exact List.nil_lt_cons _ _
  | rel hcd => exact encodeChar_lt hcd _ _
  | cons _ ih => exact List.append_left_lt ih

/-- Texts are ordered as their bytes are. -/
theorem lt_iff_utf8 {s t : String} : s < t ↔ utf8 s < utf8 t := by
  have hmono {s t : String} (h : s < t) : utf8 s < utf8 t := by
    rw [utf8_eq_flatMap, utf8_eq_flatMap]
    exact flatMap_encodeChar_lt (String.lt_iff_toList_lt.1 h)
  refine ⟨hmono, fun h => ?_⟩
  by_contra hst
  have hne : s ≠ t := by
    rintro rfl
    exact irrefl _ h
  have hts : t < s := String.not_le.1 fun hts => hne (String.le_antisymm (String.not_lt.1 hts) hst)
  exact asymm h (hmono hts)

end Text

/-- Keys are ordered by the bytes of their names, and then by batch size. -/
theorem Key.lt_iff_utf8 {j k : Key} :
    j < k ↔ Text.utf8 j.name < Text.utf8 k.name ∨ j.name = k.name ∧ j.batchSize < k.batchSize :=
  or_congr_left Text.lt_iff_utf8

end GraphReplay
