/-
The order of texts by their bytes.

A text is kept as bytes, one to four for each character, and texts are put in order byte by byte.
That is the order of their characters: a greater character has more bytes or greater ones, and its
first byte tells how many there are.

* `bytes` — the bytes of a text, and `bytes_eq_flatMap`, those of its characters in turn;
* `utf8EncodeChar_append_lt` — the bytes of a smaller character come first, whatever follows;
* `bytes_le_bytes_iff` — hence the two orders are one.
-/
import Mathlib

namespace MapStyle.Text

open String (utf8EncodeChar)

/-- The bytes of a text. -/
def bytes (s : String) : List UInt8 := s.toUTF8.data.toList

theorem bytes_eq_flatMap (s : String) : bytes s = s.toList.flatMap utf8EncodeChar := by
  rw [bytes, String.toUTF8_eq_toByteArray, ← String.utf8Encode_toList, List.utf8Encode,
    List.toList_data_toByteArray]

/-! ### Characters -/

theorem toNat_val_lt (c : Char) : c.val.toNat < 0x110000 := by
  obtain hlow | ⟨-, hhigh⟩ := c.valid
  · exact Nat.lt_trans hlow (by decide)
  · exact hhigh

theorem cons_lt_cons_iff_toNat {a b : UInt8} {as bs : List UInt8} :
    a :: as < b :: bs ↔ a.toNat < b.toNat ∨ a.toNat = b.toNat ∧ as < bs := by
  rw [List.cons_lt_cons_iff, UInt8.lt_iff_toNat_lt, UInt8.toNat_inj]

/-- The bytes of a smaller character come before those of a greater one, whatever follows them. -/
theorem utf8EncodeChar_append_lt {c d : Char} (h : c < d) (as bs : List UInt8) :
    utf8EncodeChar c ++ as < utf8EncodeChar d ++ bs := by
  have hlt : c.val.toNat < d.val.toNat := h
  have hvalid := toNat_val_lt d
  rw [utf8EncodeChar, utf8EncodeChar]
  generalize c.val.toNat = v at hlt ⊢
  generalize d.val.toNat = w at hlt hvalid ⊢
  -- Of different lengths the first bytes differ, and of one length the bytes are digits.
  split_ifs <;>
    simp (disch := omega) only [List.cons_append, List.nil_append, cons_lt_cons_iff_toNat,
      UInt8.toNat_ofNat', Nat.reducePow, Nat.mod_eq_of_lt] <;>
    omega

/-! ### Texts -/

theorem flatMap_utf8EncodeChar_lt {cs ds : List Char} (h : cs < ds) :
    cs.flatMap utf8EncodeChar < ds.flatMap utf8EncodeChar := by
  induction cs generalizing ds with
  | nil =>
    cases ds with
    | nil => exact absurd h (List.lt_irrefl [])
    | cons d ds =>
      rw [List.flatMap_nil, List.flatMap_cons]
      obtain ⟨b, bs, hbytes⟩ := List.exists_cons_of_ne_nil (String.utf8EncodeChar_ne_nil (c := d))
      rw [hbytes]
      exact List.nil_lt_cons b _
  | cons c cs ih =>
    cases ds with
    | nil => exact absurd h (List.not_lt_nil _)
    | cons d ds =>
      rw [List.flatMap_cons, List.flatMap_cons]
      obtain hlt | ⟨rfl, hrest⟩ := List.cons_lt_cons_iff.mp h
      · exact utf8EncodeChar_append_lt hlt _ _
      · exact List.append_left_lt (ih hrest)

theorem bytes_lt_bytes {s t : String} (h : s < t) : bytes s < bytes t := by
  rw [bytes_eq_flatMap, bytes_eq_flatMap]
  exact flatMap_utf8EncodeChar_lt h

/-- **Texts have the order of their bytes.** -/
theorem bytes_le_bytes_iff {s t : String} : bytes s ≤ bytes t ↔ s ≤ t := by
  rw [← List.not_lt, ← String.not_lt]
  refine not_congr ⟨fun hbytes => ?_, bytes_lt_bytes⟩
  rcases lt_trichotomy t s with hlt | rfl | hgt
  · exact hlt
  · exact absurd hbytes (List.lt_irrefl _)
  · exact absurd hbytes (List.lt_asymm (bytes_lt_bytes hgt))

end MapStyle.Text
