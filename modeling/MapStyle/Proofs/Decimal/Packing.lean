/-
The fields of a float.

A float is packed into 64 bits: its sign, a field of eleven bits for the exponent and the
fraction of the mantissa, whose leading one is left out wherever it has one.

* `exponentField`, `fraction`, `sign` — the fields of a pattern as numbers;
* `unpack_eq` — a pattern unpacked, by its fields;
* `IsNormal` — a mantissa with its leading one, and an exponent that has a field;
* `IsNormal.unpack_pack` — what is normal comes back from its pattern;
* `ofFloat_eq` — what a float stands for, by the float unpacked.
-/
import Mathlib
import MapStyle.Decimal.Binary

namespace MapStyle.Decimal

open Float.Model Float.Model.UnpackedFloat

/-- The exponent field of a pattern of 64 bits. -/
def exponentField (bits : Nat) : Nat := bits / 2 ^ 52 % 2 ^ 11

/-- The fraction of a pattern of 64 bits. -/
def fraction (bits : Nat) : Nat := bits % 2 ^ 52

/-- The sign of a pattern of 64 bits. -/
def sign (bits : Nat) : Sign := if bits / 2 ^ 63 % 2 = 1 then .negative else .positive

theorem exponentField_lt (bits : Nat) : exponentField bits < 2 ^ 11 :=
  Nat.mod_lt _ (Nat.two_pow_pos 11)

theorem fraction_lt (bits : Nat) : fraction bits < 2 ^ 52 := Nat.mod_lt _ (Nat.two_pow_pos 52)

/-! ### A pattern unpacked -/

variable {b : BitVec Format.binary64.numBits}

theorem toNat_unpackMantissa : (unpackMantissa b).toNat = fraction b.toNat := by
  simp [unpackMantissa, fraction]

theorem toNat_unpackExponent : (unpackExponent b).toNat = exponentField b.toNat := by
  simp [unpackExponent, exponentField, Nat.shiftRight_eq_div_pow]

theorem ofBitVec_unpackSign : Sign.ofBitVec (unpackSign b) = sign b.toNat := by
  have h : (unpackSign b).toNat = b.toNat / 2 ^ 63 % 2 := by
    simp [unpackSign, Nat.shiftRight_eq_div_pow]
  have hzero : unpackSign b = 0#1 ↔ b.toNat / 2 ^ 63 % 2 = 0 := by
    rw [← h, ← BitVec.toNat_inj]
    rfl
  rw [Sign.ofBitVec, sign]
  by_cases hsign : b.toNat / 2 ^ 63 % 2 = 1
  · rw [if_pos hsign, if_neg (mt hzero.mp (by rw [hsign]; decide))]
  · rw [if_neg hsign, if_pos (hzero.mpr (Nat.mod_two_ne_one.mp hsign))]

theorem toNat_one_append {w : Nat} (v : BitVec w) : (1#1 ++ v).toNat = 2 ^ w + v.toNat := by
  rw [BitVec.toNat_append, ← Nat.shiftLeft_add_eq_or_of_lt v.isLt, Nat.shiftLeft_eq]
  exact congrArg (· + v.toNat) (Nat.one_mul _)

theorem unpackExponent_eq_iff {v : BitVec 11} :
    unpackExponent b = v ↔ exponentField b.toNat = v.toNat := by
  rw [← toNat_unpackExponent, BitVec.toNat_inj]

theorem unpackMantissa_eq_zero_iff : unpackMantissa b = 0#52 ↔ fraction b.toNat = 0 := by
  rw [← toNat_unpackMantissa, ← BitVec.toNat_inj]
  rfl

/-- A pattern unpacked, its fields read as numbers. -/
theorem unpack_eq (b : BitVec Format.binary64.numBits) :
    unpack .binary64 b =
      if exponentField b.toNat = 2047 then
        if fraction b.toNat = 0 then .infinity (sign b.toNat) else .notANumber
      else if exponentField b.toNat = 0 then
        if h : fraction b.toNat = 0 then .zero (sign b.toNat)
        else .finite (sign b.toNat) (fraction b.toNat) (-1074) (Nat.pos_of_ne_zero h)
      else
        .finite (sign b.toNat) (2 ^ 52 + fraction b.toNat) (exponentField b.toNat - 1075)
          (Nat.add_pos_left (Nat.two_pow_pos 52) _) := by
  have hones : unpackExponent b = -1#11 ↔ exponentField b.toNat = 2047 := unpackExponent_eq_iff
  have hzeros : unpackExponent b = 0#11 ↔ exponentField b.toNat = 0 := unpackExponent_eq_iff
  have hmantissa : (1#1 ++ unpackMantissa b).toNat = 2 ^ 52 + fraction b.toNat := by
    rw [toNat_one_append, toNat_unpackMantissa]
  rw [UnpackedFloat.unpack]
  simp only [ofBitVec_unpackSign]
  by_cases hfield : exponentField b.toNat = 2047
  · rw [if_pos (hones.mpr hfield), if_pos hfield]
    by_cases hfraction : fraction b.toNat = 0
    · rw [if_pos (unpackMantissa_eq_zero_iff.mpr hfraction), if_pos hfraction]
    · rw [if_neg (mt unpackMantissa_eq_zero_iff.mp hfraction), if_neg hfraction]
  · rw [if_neg (mt hones.mp hfield), if_neg hfield]
    by_cases hsmall : exponentField b.toNat = 0
    · rw [if_pos (hzeros.mpr hsmall), if_pos hsmall]
      by_cases hfraction : fraction b.toNat = 0
      · rw [dif_pos (unpackMantissa_eq_zero_iff.mpr hfraction), dif_pos hfraction]
      · rw [dif_neg (mt unpackMantissa_eq_zero_iff.mp hfraction), dif_neg hfraction]
        simp only [toNat_unpackMantissa, toNat_unpackExponent, hsmall]
        rfl
    · rw [if_neg (mt hzeros.mp hsmall), if_neg hsmall]
      simp only [hmantissa, toNat_unpackExponent]
      rfl

/-! ### Values with a leading one -/

/-- A mantissa with its leading one, and an exponent between the least and the greatest. -/
structure IsNormal (m : Nat) (e : Int) : Prop where
  low : 2 ^ 52 ≤ m
  high : m < 2 ^ 53
  least : -1074 ≤ e
  greatest : e ≤ 971

namespace IsNormal

variable {s : Sign} {m : Nat} {e : Int}

theorem pos (h : IsNormal m e) : 0 < m := Nat.lt_of_lt_of_le (Nat.two_pow_pos 52) h.low

theorem log2_eq (h : IsNormal m e) : m.log2 = 52 :=
  (Nat.log2_eq_iff (Nat.ne_of_gt h.pos)).mpr ⟨h.low, h.high⟩

theorem pack_eq (h : IsNormal m e) :
    UnpackedFloat.pack .binary64 (.finite s m e h.pos) =
      packComponents .binary64 s (BitVec.ofNat 11 (e + 1075).toNat) (BitVec.ofNat 52 m) := by
  have hgreatest := h.greatest
  have hbias : (e + Format.exponentBias .binary64 +
      Format.binary64.mantissaBitsWithoutImplicit).toNat = (e + 1075).toNat := by
    have h1 : (Format.exponentBias .binary64 : Int) = 1023 := rfl
    have h2 : ((Format.binary64.mantissaBitsWithoutImplicit : Nat) : Int) = 52 := rfl
    rw [h1, h2]
    omega
  rw [UnpackedFloat.pack]
  simp only [h.log2_eq, hbias]
  rw [if_neg, if_pos (show 52 + 1 = Format.binary64.mantissaBits from rfl)]
  show ¬ 2048 ≤ _
  omega

theorem unpack_pack (h : IsNormal m e) :
    (Float.Model.pack (.finite s m e h.pos)).unpack = .finite s m e h.pos := by
  obtain ⟨hlow, hhigh, hleast, hgreatest⟩ := id h
  have hexponent : (BitVec.ofNat 11 (e + 1075).toNat).toNat = (e + 1075).toNat := by
    rw [BitVec.toNat_ofNat]
    omega
  have hvalue : ((BitVec.ofNat 11 (e + 1075).toNat).toNat : Int) - (1023 + 52) = e := by
    rw [hexponent]
    omega
  have hmantissa : (1#1 ++ BitVec.ofNat 52 m).toNat = m := by
    rw [toNat_one_append, BitVec.toNat_ofNat]
    omega
  have hfield (v : BitVec 11) (hv : (e + 1075).toNat ≠ v.toNat) :
      BitVec.ofNat 11 (e + 1075).toNat ≠ v := by
    rintro rfl
    exact hv hexponent.symm
  show UnpackedFloat.unpack .binary64 (UnpackedFloat.pack .binary64 (.finite s m e h.pos)) = _
  rw [h.pack_eq, UnpackedFloat.unpack]
  simp only [unpackExponent_packComponents, unpackMantissa_packComponents,
    unpackSign_packComponents, Sign.ofBitVec_toBitVec]
  rw [if_neg (hfield (-1#11) (by show _ ≠ 2047; omega)),
    if_neg (hfield 0#11 (by show _ ≠ 0; omega)), UnpackedFloat.finite.injEq]
  exact ⟨rfl, hmantissa, hvalue⟩

end IsNormal

/-! ### A float unpacked -/

variable {x : Float.Model} {s : Sign} {m : Nat} {e : Int}

theorem eq_pack_of_unpack {u : UnpackedFloat} (h : x.unpack = u) : x = .pack u := by
  obtain ⟨bits, hvalid⟩ := x
  obtain rfl : UnpackedFloat.unpack .binary64 bits.toBitVec = u := h
  simp only [Float.Model.pack, pack_unpack_of_valid hvalid]

/-- A finite value is normal, or it has the least exponent. -/
theorem unpack_finite_cases {hm : 0 < m} (h : x.unpack = .finite s m e hm) :
    IsNormal m e ∨ (m < 2 ^ 52 ∧ e = -1074) := by
  have hunpack : x.unpack = UnpackedFloat.unpack .binary64 x.toBits.toBitVec := rfl
  rw [hunpack, unpack_eq] at h
  have hfraction := fraction_lt x.toBits.toBitVec.toNat
  have hfield := exponentField_lt x.toBits.toBitVec.toNat
  split at h
  · split at h <;> cases h
  · split at h
    · split at h
      · cases h
      · obtain ⟨-, rfl, rfl⟩ := UnpackedFloat.finite.inj h
        exact .inr ⟨hfraction, rfl⟩
    · obtain ⟨-, rfl, rfl⟩ := UnpackedFloat.finite.inj h
      exact .inl ⟨by omega, by omega, by omega, by omega⟩

/-! ### Readings -/

/-- Whether a sign is the negative one. -/
def isNegative : Sign → Bool
  | .negative => true
  | .positive => false

theorem isNegative_sign (bits : Nat) : isNegative (sign bits) = (bits / 2 ^ 63 % 2 == 1) := by
  rw [sign]
  by_cases h : bits / 2 ^ 63 % 2 = 1
  · rw [if_pos h, h]
    rfl
  · rw [if_neg h, isNegative, beq_eq_false_iff_ne.mpr h]

/-- What an unpacked float stands for. -/
def Reading.ofUnpacked : UnpackedFloat → Reading
  | .notANumber => .nan
  | .infinity s => .infinite (isNegative s)
  | .zero s => .finite (isNegative s) ⟨0, -1074⟩
  | .finite s m e _ => .finite (isNegative s) ⟨m, e⟩

theorem ofFloat_eq (x : Float) : ofFloat x = .ofUnpacked x.toModel.unpack := by
  have hdecode : ofFloat x =
      if exponentField x.toBits.toNat + 1 = 2048 then
        if fraction x.toBits.toNat = 0 then .infinite (x.toBits.toNat / 2 ^ 63 % 2 == 1) else .nan
      else if exponentField x.toBits.toNat = 0 then
        .finite (x.toBits.toNat / 2 ^ 63 % 2 == 1) ⟨fraction x.toBits.toNat, -1074⟩
      else .finite (x.toBits.toNat / 2 ^ 63 % 2 == 1)
        ⟨2 ^ 52 + fraction x.toBits.toNat,
          -1074 + (exponentField x.toBits.toNat - 1 : Nat)⟩ := rfl
  have hunpack : x.toModel.unpack = UnpackedFloat.unpack .binary64 x.toBits.toBitVec := rfl
  have hbits : x.toBits.toBitVec.toNat = x.toBits.toNat := rfl
  rw [hdecode, hunpack, unpack_eq, hbits, ← isNegative_sign]
  generalize x.toBits.toNat = bits
  by_cases hfield : exponentField bits = 2047
  · rw [if_pos hfield, if_pos (by omega)]
    split <;> rfl
  · rw [if_neg hfield, if_neg (by omega)]
    by_cases hsmall : exponentField bits = 0
    · rw [if_pos hsmall, if_pos hsmall]
      split
      · next h => rw [h]; rfl
      · rfl
    · have hexponent : (-1074 : Int) + (exponentField bits - 1 : Nat) =
          exponentField bits - 1075 := by omega
      rw [if_neg hsmall, if_neg hsmall, hexponent]
      rfl

end MapStyle.Decimal
