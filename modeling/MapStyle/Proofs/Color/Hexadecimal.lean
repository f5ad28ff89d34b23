/-
Hexadecimal colours.

A text that begins with a number sign is a colour if three, four, six or eight hexadecimal digits
follow.  More is taken than that: further number signs are passed over, and where a component has
two characters the first may be a plus sign.

* `Text.hexValue?_toLower`, `Text.hexValue?_lowerHex` — the value of a digit;
* `Color.IsHexForm` — what may stand behind the number signs;
* `Color.isSome_ofHex?_iff` — just these forms are colours;
* `Color.parse?_hash` — which texts are colours, and which of them are the same;
* `Color.parse?_plus_signs` — colours that have more than digits.
-/
import Mathlib
import MapStyle.Color

namespace MapStyle

/-! ### Digits -/

namespace Text

variable {c : Char}

/-- The value of a digit by its code. -/
theorem hexValue?_eq (c : Char) : hexValue? c =
    if 48 ≤ c.toNat ∧ c.toNat ≤ 57 then some (c.toNat - 48)
    else if 97 ≤ c.toNat ∧ c.toNat ≤ 102 then some (c.toNat - 97 + 10)
    else if 65 ≤ c.toNat ∧ c.toNat ≤ 70 then some (c.toNat - 65 + 10)
    else none := by
  have hle (a b : Char) : a ≤ b ↔ a.toNat ≤ b.toNat := UInt32.le_iff_toNat_le
  simp only [hexValue?, Char.isDigit_iff_toNat, hle]
  rfl

theorem toNat_toLower (c : Char) :
    c.toLower.toNat = if 65 ≤ c.toNat ∧ c.toNat ≤ 90 then c.toNat + 32 else c.toNat := by
  have hupper : c.isUpper = true ↔ 65 ≤ c.toNat ∧ c.toNat ≤ 90 := by
    simp only [Char.isUpper, ge_iff_le, UInt32.le_iff_toNat_le, Bool.decide_and, Bool.and_eq_true,
      decide_eq_true_eq]
    rfl
  by_cases h : c.isUpper = true
  · have hvalid : (c.toNat + 32).isValidChar := Or.inl (by have := hupper.mp h; omega)
    rw [if_pos (hupper.mp h), Char.toLower_eq_of_isUpper h, Char.toNat_ofNat, if_pos hvalid]
  · rw [if_neg (mt hupper.mpr h), Char.toLower_eq_of_not_isUpper h]

/-- Only letters have a case. -/
theorem toLower_eq_iff {d : Char} (hd : d.toNat < 65) : c.toLower = d ↔ c = d := by
  rw [← Char.toNat_inj, ← Char.toNat_inj, toNat_toLower]
  split <;> omega

theorem hexValue?_toLower (c : Char) : hexValue? c.toLower = hexValue? c := by
  rw [hexValue?_eq, hexValue?_eq, toNat_toLower]
  by_cases h : 65 ≤ c.toNat ∧ c.toNat ≤ 90
  · rw [if_pos h]
    by_cases hdigit : c.toNat ≤ 70
    · rw [if_neg (by omega), if_pos (by omega), if_neg (by omega), if_neg (by omega),
        if_pos (by omega)]
      exact congrArg some (by omega)
    · rw [if_neg (by omega), if_neg (by omega), if_neg (by omega), if_neg (by omega),
        if_neg (by omega), if_neg (by omega)]
  · rw [if_neg h]

theorem hexValue?_lowerHex : ∀ n < 16, hexValue? (lowerHex n) = some n := by decide

end Text

namespace Color

open Text

variable {c d : Char} {cs ds : List Char} {n : Nat}

/-! ### Pairs of characters -/

theorem isSome_hexPair?_iff :
    (hexPair? c d).isSome = true ↔ (isHex c = true ∨ c = '+') ∧ isHex d = true := by
  rw [hexPair?, isHex, isHex]
  cases hlow : hexValue? d with
  | none => simp
  | some low =>
    by_cases hplus : c = '+'
    · simp [hplus]
    · cases hhigh : hexValue? c <;> simp [hplus]

/-- A plus sign is no digit, so that a digit that stands for two cannot be one. -/
theorem isSome_hexPair?_self_iff : (hexPair? c c).isSome = true ↔ isHex c = true := by
  rw [isSome_hexPair?_iff]
  constructor
  · exact fun h => h.2
  · exact fun h => ⟨Or.inl h, h⟩

theorem hexPair?_toLower (c d : Char) : hexPair? c.toLower d.toLower = hexPair? c d := by
  have hplus : c.toLower = '+' ↔ c = '+' := toLower_eq_iff (by decide)
  simp only [hexPair?, hexValue?_toLower, hplus]

theorem hexPair?_lowerHex (hn : n < 256) :
    hexPair? (lowerHex (n / 16)) (lowerHex (n % 16)) = some n := by
  have hhigh := hexValue?_lowerHex (n / 16) (by omega)
  have hlow := hexValue?_lowerHex (n % 16) (by omega)
  have hplus : lowerHex (n / 16) ≠ '+' := by
    intro h
    rw [h] at hhigh
    cases hhigh
  have hvalue : 16 * (n / 16) + n % 16 = n := Nat.div_add_mod n 16
  simp [hexPair?, hhigh, hlow, hplus, hvalue]

/-! ### Forms -/

/-- A digit for each component, or two characters of which the first may be a plus sign. -/
def IsHexForm (cs : List Char) : Prop :=
  ((cs.length = 3 ∨ cs.length = 4) ∧ ∀ c ∈ cs, isHex c = true) ∨
    ∃ pairs : List (Char × Char), (pairs.length = 3 ∨ pairs.length = 4) ∧
      cs = pairs.flatMap (fun p => [p.1, p.2]) ∧
      ∀ p ∈ pairs, (isHex p.1 = true ∨ p.1 = '+') ∧ isHex p.2 = true

theorem length_flatMap_pairs (pairs : List (Char × Char)) :
    (pairs.flatMap fun p => [p.1, p.2]).length = 2 * pairs.length := by
  induction pairs with
  | nil => rfl
  | cons p pairs ih =>
    rw [List.flatMap_cons, List.length_append, ih, List.length_cons, List.length_cons]
    simp only [List.length_cons, List.length_nil]
    omega

theorem IsHexForm.length (h : IsHexForm cs) :
    cs.length = 3 ∨ cs.length = 4 ∨ cs.length = 6 ∨ cs.length = 8 := by
  rcases h with ⟨hlength, -⟩ | ⟨pairs, hlength, rfl, -⟩
  · omega
  · rw [length_flatMap_pairs]
    omega

theorem isSome_ofBytes?_iff {red green blue alpha : Option Nat} :
    (ofBytes? red green blue alpha).isSome = true ↔ red.isSome = true ∧ green.isSome = true ∧
      blue.isSome = true ∧ alpha.isSome = true := by
  cases red <;> cases green <;> cases blue <;> cases alpha <;> simp [ofBytes?]

/-- **Just the hexadecimal forms are colours.** -/
theorem isSome_ofHex?_iff (cs : List Char) : (ofHex? cs).isSome = true ↔ IsHexForm cs := by
  constructor
  · intro h
    match cs, h with
    | [r, g, b], h | [r, g, b, a], h =>
      simp only [ofHex?, isSome_ofBytes?_iff, isSome_hexPair?_self_iff] at h
      exact Or.inl (by simp [h])
    | [r, r', g, g', b, b'], h =>
      simp only [ofHex?, isSome_ofBytes?_iff, isSome_hexPair?_iff] at h
      exact Or.inr ⟨[(r, r'), (g, g'), (b, b')], by simp [h]⟩
    | [r, r', g, g', b, b', a, a'], h =>
      simp only [ofHex?, isSome_ofBytes?_iff, isSome_hexPair?_iff] at h
      exact Or.inr ⟨[(r, r'), (g, g'), (b, b'), (a, a')], by simp [h]⟩
  · rintro (⟨hlength, hdigits⟩ | ⟨pairs, hlength, rfl, hpairs⟩)
    · match cs, hlength with
      | [r, g, b], _ | [r, g, b, a], _ =>
        simp only [ofHex?, isSome_ofBytes?_iff, isSome_hexPair?_self_iff]
        simpa using hdigits
    · match pairs, hlength with
      | [r, g, b], _ | [r, g, b, a], _ =>
        simp only [List.forall_mem_cons] at hpairs
        simp [ofHex?, isSome_ofBytes?_iff, isSome_hexPair?_iff, hpairs]

/-- Without a plus sign a form has nothing but digits. -/
theorem isHexForm_iff_of_no_plus (hplus : '+' ∉ cs) :
    IsHexForm cs ↔ (cs.length = 3 ∨ cs.length = 4 ∨ cs.length = 6 ∨ cs.length = 8) ∧
      ∀ c ∈ cs, isHex c = true := by
  constructor
  · intro h
    refine ⟨h.length, ?_⟩
    rcases h with ⟨-, hdigits⟩ | ⟨pairs, -, rfl, hpairs⟩
    · exact hdigits
    · intro c hc
      obtain ⟨p, hp, hcp⟩ := List.mem_flatMap.mp hc
      obtain ⟨hhigh, hlow⟩ := hpairs p hp
      rcases List.mem_pair.mp hcp with rfl | rfl
      · rcases hhigh with hdigit | hsign
        · exact hdigit
        · exact absurd (hsign ▸ hc) hplus
      · exact hlow
  · rintro ⟨hlength, hdigits⟩
    match cs, hlength with
    | [r, g, b], _ | [r, g, b, a], _ => exact Or.inl ⟨by simp, hdigits⟩
    | [r, r', g, g', b, b'], _ =>
      refine Or.inr ⟨[(r, r'), (g, g'), (b, b')], by simp, rfl, ?_⟩
      simp only [List.forall_mem_cons] at hdigits ⊢
      simp [hdigits]
    | [r, r', g, g', b, b', a, a'], _ =>
      refine Or.inr ⟨[(r, r'), (g, g'), (b, b'), (a, a')], by simp, rfl, ?_⟩
      simp only [List.forall_mem_cons] at hdigits ⊢
      simp [hdigits]

/-! ### Forms of one colour -/

theorem ofHex?_map_toLower (cs : List Char) : ofHex? (cs.map Char.toLower) = ofHex? cs := by
  match cs with
  | [r, g, b] | [r, g, b, a] | [r, r', g, g', b, b'] | [r, r', g, g', b, b', a, a'] =>
    simp only [List.map_cons, List.map_nil, ofHex?, hexPair?_toLower]
  | [] | [_] | [_, _] | [_, _, _, _, _] | [_, _, _, _, _, _, _]
  | _ :: _ :: _ :: _ :: _ :: _ :: _ :: _ :: _ :: _ => rfl

theorem ofHex?_doubled (h : cs.length = 3 ∨ cs.length = 4) :
    ofHex? (cs.flatMap fun c => [c, c]) = ofHex? cs := by
  match cs, h with
  | [r, g, b], _ | [r, g, b, a], _ => rfl

theorem ofHex?_append_f (h : cs.length = 3) : ofHex? (cs ++ ['f']) = ofHex? cs := by
  match cs, h with
  | [r, g, b], _ => rfl

theorem ofHex?_append_ff (h : cs.length = 6) : ofHex? (cs ++ ['f', 'f']) = ofHex? cs := by
  match cs, h with
  | [r, r', g, g', b, b'], _ => rfl

/-- The two lower-case digits of a byte. -/
def byteDigits (n : Nat) : List Char := [lowerHex (n / 16), lowerHex (n % 16)]

/-- The digits of four bytes are the colour of these bytes. -/
theorem ofHex?_byteDigits {red green blue alpha : Nat} (hred : red < 256) (hgreen : green < 256)
    (hblue : blue < 256) (halpha : alpha < 256) :
    ofHex? ([red, green, blue, alpha].flatMap byteDigits) =
      some ⟨ofByte red, ofByte green, ofByte blue, ofByte alpha⟩ := by
  show ofBytes? (hexPair? _ _) (hexPair? _ _) (hexPair? _ _) (hexPair? _ _) = _
  rw [hexPair?_lowerHex hred, hexPair?_lowerHex hgreen, hexPair?_lowerHex hblue,
    hexPair?_lowerHex halpha]
  rfl

theorem not_mem_byteDigits {red green blue alpha : Nat} (hred : red < 256) (hgreen : green < 256)
    (hblue : blue < 256) (halpha : alpha < 256) :
    '#' ∉ [red, green, blue, alpha].flatMap byteDigits := by
  have hdigit : ∀ n < 16, '#' ≠ lowerHex n := by decide
  have hbyte {n : Nat} (hn : n < 256) : '#' ∉ byteDigits n := by
    simp [byteDigits, hdigit (n / 16) (by omega), hdigit (n % 16) (by omega)]
  simp [hbyte hred, hbyte hgreen, hbyte hblue, hbyte halpha]

/-! ### Texts -/

/-- Behind a number sign further ones are passed over. -/
theorem parse?_of_hash {text : String} (h : (trim text).toList = '#' :: cs) :
    parse? text = ofHex? (cs.dropWhile (· == '#')) := by
  have hsign : (trim text).startsWith "#" = true := by
    rw [String.startsWith_string_iff, h]
    exact List.prefix_append ['#'] cs
  rw [parse?]
  simp only [hsign, if_true, h]
  rfl

theorem parse?_of_no_sign {text : String} (h : (trim text).toList = '#' :: cs) (hcs : '#' ∉ cs) :
    parse? text = ofHex? cs := by
  have hfirst : cs.dropWhile (· == '#') = cs := by
    refine List.dropWhile_eq_self_iff.mpr fun hpos heq => hcs ?_
    rw [← beq_iff_eq.mp heq]
    exact List.getElem_mem hpos
  rw [parse?_of_hash h, hfirst]

/-- **Which texts with a number sign are colours, and of which colour.**  Apart from further
number signs and from plus signs, these are the texts with 3, 4, 6 or 8 digits.  Four bytes in
digits are their colour.  Case does not matter, a digit stands for two of it, and a colour
without opacity is opaque. -/
theorem parse?_hash {text : String} (h : (trim text).toList = '#' :: cs) :
    ((parse? text).isSome = true ↔ IsHexForm (cs.dropWhile (· == '#'))) ∧
      ('#' ∉ cs → '+' ∉ cs → ((parse? text).isSome = true ↔
        (cs.length = 3 ∨ cs.length = 4 ∨ cs.length = 6 ∨ cs.length = 8) ∧
          ∀ c ∈ cs, isHex c = true)) ∧
      (∀ red < 256, ∀ green < 256, ∀ blue < 256, ∀ alpha < 256,
        cs = [red, green, blue, alpha].flatMap byteDigits →
          parse? text = some ⟨ofByte red, ofByte green, ofByte blue, ofByte alpha⟩) ∧
      ∀ (other : String) (ds : List Char), (trim other).toList = '#' :: ds → '#' ∉ cs →
        (ds.map Char.toLower = cs.map Char.toLower → parse? other = parse? text) ∧
        (cs.length = 3 ∨ cs.length = 4 → ds = cs.flatMap (fun c => [c, c]) →
          parse? other = parse? text) ∧
        (cs.length = 3 → ds = cs ++ ['f'] → parse? other = parse? text) ∧
        (cs.length = 6 → ds = cs ++ ['f', 'f'] → parse? other = parse? text) := by
  refine ⟨?_, ?_, ?_, ?_⟩
  · rw [parse?_of_hash h]
    exact isSome_ofHex?_iff _
  · intro hsign hplus
    rw [parse?_of_no_sign h hsign, isSome_ofHex?_iff]
    exact isHexForm_iff_of_no_plus hplus
  · intro red hred green hgreen blue hblue alpha halpha hcs
    have hsign : '#' ∉ cs := by
      rw [hcs]
      exact not_mem_byteDigits hred hgreen hblue halpha
    rw [parse?_of_no_sign h hsign, hcs]
    exact ofHex?_byteDigits hred hgreen hblue halpha
  · intro other ds hother hsign
    rw [parse?_of_no_sign h hsign]
    refine ⟨?_, ?_, ?_, ?_⟩
    · intro hcase
      have hds : '#' ∉ ds := by
        intro hmem
        have hlower : '#' ∈ cs.map Char.toLower := by
          rw [← hcase]
          exact List.mem_map_of_mem hmem
        obtain ⟨c, hc, heq⟩ := List.mem_map.mp hlower
        rw [toLower_eq_iff (by decide)] at heq
        exact hsign (heq ▸ hc)
      rw [parse?_of_no_sign hother hds, ← ofHex?_map_toLower, hcase, ofHex?_map_toLower]
    · rintro hlength rfl
      rw [parse?_of_no_sign hother (by simpa using hsign), ofHex?_doubled hlength]
    · rintro hlength rfl
      rw [parse?_of_no_sign hother (by simpa using hsign), ofHex?_append_f hlength]
    · rintro hlength rfl
      rw [parse?_of_no_sign hother (by simpa using hsign), ofHex?_append_ff hlength]

/-- An orange in three digits, of either case, in six and in eight. -/
theorem parse?_hash_orange :
    (trim " #F80 ").toList = '#' :: ['F', '8', '0'] ∧ (parse? " #F80 ").isSome = true ∧
      parse? "#f80" = parse? " #F80 " ∧ parse? "#FF8800" = parse? " #F80 " ∧
      parse? "#F80f" = parse? " #F80 " ∧
      parse? "#ff8800ff" = some ⟨ofByte 255, ofByte 136, ofByte 0, ofByte 255⟩ := by
  have htext : (trim " #F80 ").toList = '#' :: ['F', '8', '0'] := by decide +kernel
  have hlower : (trim "#f80").toList = '#' :: ['f', '8', '0'] := by decide +kernel
  have hlong : (trim "#FF8800").toList = '#' :: ['F', 'F', '8', '8', '0', '0'] := by
    decide +kernel
  have hopaque : (trim "#F80f").toList = '#' :: ['F', '8', '0', 'f'] := by decide +kernel
  have hbytes : (trim "#ff8800ff").toList = '#' :: [255, 136, 0, 255].flatMap byteDigits := by
    decide +kernel
  obtain ⟨-, hdigits, -, hsame⟩ := parse?_hash htext
  obtain ⟨-, -, hcolor, -⟩ := parse?_hash hbytes
  refine ⟨htext, ?_, ?_, ?_, ?_, ?_⟩
  · exact (hdigits (by decide) (by decide)).mpr ⟨Or.inl rfl, List.all_eq_true.mp rfl⟩
  · exact (hsame "#f80" _ hlower (by decide)).1 rfl
  · exact (hsame "#FF8800" _ hlong (by decide)).2.1 (Or.inl rfl) rfl
  · exact (hsame "#F80f" _ hopaque (by decide)).2.2.1 rfl rfl
  · exact hcolor 255 (by decide) 136 (by decide) 0 (by decide) 255 (by decide) rfl

/-- Plus signs and further number signs are taken where there should be digits. -/
theorem parse?_plus_signs :
    (trim "#+f+f+f").toList = '#' :: ['+', 'f', '+', 'f', '+', 'f'] ∧
      parse? "#+f+f+f" = some ⟨ofByte 15, ofByte 15, ofByte 15, ofByte 255⟩ ∧
      (trim "##fff").toList = '#' :: ['#', 'f', 'f', 'f'] ∧
      parse? "##fff" = some ⟨ofByte 255, ofByte 255, ofByte 255, ofByte 255⟩ ∧
      isHex '+' = false ∧ isHex '#' = false := by
  decide +kernel

end Color

end MapStyle
