/-
Integers that are made floats.

Every integer has a float, but from `2 ^ 53` on several integers share one.  Below, no integer
shares its float with another one, however large that is: what is rounded has a greater exponent
than any of the smaller integers.

* `sign_exponent_of_unpack_pack` — what packing does to a sign and an exponent;
* `unpack_ofNat_of_lt`, `exponent_of_unpack_ofNat` — small and large integers as floats;
* `ofInt_beq_ofNat_iff` — an integer below `2 ^ 53` is the only one that its float is equal to.
-/
import MapStyle.Proofs.Decimal.Rank
import MapStyle.Proofs.Decimal.Whole

namespace MapStyle.Decimal

open Float.Model Float.Model.UnpackedFloat

variable {s t : Sign} {m n k : Nat} {e f : Int} {hm : 0 < m} {hn : 0 < n}

/-! ### Packing -/

/-- What is unpacked has the sign of its fields and their exponent, where 0 counts as 1. -/
theorem sign_exponent_of_unpack_packComponents {x : BitVec 11} {y : BitVec 52}
    (h : unpack .binary64 (packComponents .binary64 s x y) = .finite t n f hn) :
    t = s ∧ f = max (x.toNat : Int) 1 - 1075 := by
  rw [UnpackedFloat.unpack] at h
  simp only [unpackExponent_packComponents, unpackMantissa_packComponents,
    unpackSign_packComponents, Sign.ofBitVec_toBitVec] at h
  split at h
  · split at h <;> cases h
  · split at h
    · next hzero =>
      split at h
      · cases h
      · obtain ⟨rfl, -, rfl⟩ := UnpackedFloat.finite.inj h
        rw [hzero]
        exact ⟨rfl, rfl⟩
    · next hfield =>
      obtain ⟨rfl, -, rfl⟩ := UnpackedFloat.finite.inj h
      have hpos : x.toNat ≠ 0 := fun hzero => hfield (BitVec.eq_of_toNat_eq hzero)
      refine ⟨rfl, ?_⟩
      show (x.toNat : Int) - (1023 + 52) = _
      omega

/-- Only a finite value is packed into a finite float. -/
theorem exists_of_unpack_pack {u : UnpackedFloat}
    (h : (Float.Model.pack u).unpack = .finite t n f hn) :
    ∃ s m e, ∃ hm : 0 < m, u = .finite s m e hm := by
  cases u with
  | finite s m e hm => exact ⟨s, m, e, hm, rfl⟩
  | zero s | infinity s => cases s <;> cases h
  | notANumber => cases h

/-- Of a value that is packed the sign stays, and the exponent stays or becomes the least one. -/
theorem sign_exponent_of_unpack_pack (he : -1074 ≤ e)
    (h : (Float.Model.pack (.finite s m e hm)).unpack = .finite t n f hn) :
    t = s ∧ (f = e ∨ f = -1074) := by
  have hbias : (e + Format.exponentBias .binary64 +
      Format.binary64.mantissaBitsWithoutImplicit).toNat = (e + 1075).toNat := by
    have h1 : (Format.exponentBias .binary64 : Int) = 1023 := rfl
    have h2 : ((Format.binary64.mantissaBitsWithoutImplicit : Nat) : Int) = 52 := rfl
    rw [h1, h2]
    omega
  replace h : unpack .binary64 (pack .binary64 (.finite s m e hm)) = .finite t n f hn := h
  rw [UnpackedFloat.pack] at h
  simp only [hbias] at h
  split at h
  · -- An exponent that is too great makes an infinite float.
    cases s <;> cases h
  · next hfield =>
    have hexponent : (BitVec.ofNat 11 (e + 1075).toNat).toNat = (e + 1075).toNat := by
      rw [BitVec.toNat_ofNat]
      replace hfield : ¬ 2048 ≤ (e + 1075).toNat + 1 := hfield
      omega
    split at h
    · obtain ⟨rfl, hf⟩ := sign_exponent_of_unpack_packComponents h
      rw [hexponent] at hf
      exact ⟨rfl, Or.inl (by omega)⟩
    · -- Without a leading one the exponent is the least one.
      obtain ⟨rfl, hf⟩ := sign_exponent_of_unpack_packComponents h
      exact ⟨rfl, Or.inr hf⟩

/-! ### Small integers -/

theorem unpack_ofNat_of_lt (hpos : 0 < n) (hlt : n < 2 ^ 53) :
    ∃ k : Nat, k ≤ 52 ∧ (Float.ofNat n).toModel.unpack =
      .finite .positive (n * 2 ^ k) (-k) (Nat.mul_pos hpos (Nat.two_pow_pos k)) := by
  obtain ⟨k, hk, hnormal⟩ := exists_isNormal (e := 0) hpos hlt (by decide) (by decide)
  rw [Int.zero_sub] at hnormal
  refine ⟨k, hk, ?_⟩
  rw [toModel_ofNat hnormal]
  exact hnormal.unpack_pack

/-! ### Large integers -/

theorem le_snd_shiftToTargetExponent (m : Nat) (e : Int) (a : Accuracy) :
    e ≤ (shiftToTargetExponent .binary64 m e a).2 ∧
      Format.binary64.targetExponent (totalExponent m e) ≤
        (shiftToTargetExponent .binary64 m e a).2 := by
  rw [shiftToTargetExponent, shiftToExponent]
  constructor <;> simp only <;> omega

/-- Rounding keeps the sign, and no place below the last one of the mantissa. -/
theorem exponent_of_roundWithAccuracy
    (h : roundWithAccuracy .binary64 s m e .exact = .finite t n f hn) :
    t = s ∧ Format.binary64.targetExponent (totalExponent m e) ≤ f := by
  rw [roundWithAccuracy] at h
  -- The mantissa is shifted, rounded and, where rounding made it too long, shifted once more.
  have hfirst := le_snd_shiftToTargetExponent m e .exact
  revert h hfirst
  generalize shiftToTargetExponent .binary64 m e .exact = shifted
  intro h hfirst
  have hsecond := le_snd_shiftToTargetExponent shifted.1.roundedMantissa shifted.2 .exact
  simp only at h
  split at h
  · cases h
  · obtain ⟨rfl, -, rfl⟩ := UnpackedFloat.finite.inj h
    exact ⟨rfl, Int.le_trans hfirst.2 hsecond.1⟩

theorem toModel_ofNat_of_le (h : 2 ^ 53 ≤ n) :
    (Float.ofNat n).toModel =
      .pack (roundWithAccuracy .binary64 .positive (n * 2 ^ 53) (-53) .exact) := by
  show (Float.ofScientific n false 0).toModel = _
  rw [Float.ofScientific, dif_neg (by omega)]
  show Float.Model.pack (UnpackedFloat.ofScientific .binary64 n 0) = _
  have hleast : ¬ (0 : Int) < -((2 ^ Format.binary64.exponentBits : Int) + n.log2) := by
    have hpow : (2 ^ Format.binary64.exponentBits : Int) = 2048 := rfl
    omega
  rw [UnpackedFloat.ofScientific, dif_neg (by omega), if_neg (by decide), if_neg hleast,
    if_pos (Int.le_refl 0), UnpackedFloat.mul]
  show Float.Model.pack (roundWithAccuracy .binary64 .positive ((n <<< 53) * 1) (-53) .exact) = _
  rw [Nat.mul_one, Nat.shiftLeft_eq]

/-- A large integer is positive, and its last place is none of those of the smaller ones. -/
theorem exponent_of_unpack_ofNat (h : 2 ^ 53 ≤ n)
    (hu : (Float.ofNat n).toModel.unpack = .finite t m e hm) :
    t = .positive ∧ (0 < e ∨ e = -1074) := by
  have hlog : 53 ≤ n.log2 := (Nat.le_log2 (by omega)).mpr h
  have htarget : 0 < Format.binary64.targetExponent (totalExponent (n * 2 ^ 53) (-53)) := by
    rw [Format.targetExponent, totalExponent, log2_mul_two_pow (by omega)]
    show (0 : Int) < max (((n.log2 + 53 : Nat) : Int) + 1 + -53 - (53 : Nat)) (-1074)
    omega
  rw [toModel_ofNat_of_le h] at hu
  obtain ⟨s, k, f, hk, hround⟩ := exists_of_unpack_pack hu
  obtain ⟨rfl, hf⟩ := exponent_of_roundWithAccuracy hround
  rw [hround] at hu
  obtain ⟨rfl, he⟩ := sign_exponent_of_unpack_pack (by omega) hu
  exact ⟨rfl, he.imp_left fun he => by omega⟩

/-! ### Equal floats -/

theorem sign_of_unpack_ofNat (hpos : 0 < n)
    (hu : (Float.ofNat n).toModel.unpack = .finite t m e hm) : t = .positive := by
  by_cases hlt : n < 2 ^ 53
  · obtain ⟨k, -, hunpack⟩ := unpack_ofNat_of_lt hpos hlt
    rw [hunpack] at hu
    exact (UnpackedFloat.finite.inj hu).1.symm
  · exact (exponent_of_unpack_ofNat (Nat.not_lt.mp hlt) hu).1

/-- The float of a negative integer is negative, if it is finite. -/
theorem sign_of_unpack_ofInt_neg (hpos : 0 < n)
    (hu : (Float.ofInt (-(n : Int))).toModel.unpack = .finite t m e hm) : t = .negative := by
  rw [ofInt_neg_natCast hpos] at hu
  replace hu : (Float.Model.pack (Float.ofNat n).toModel.unpack.neg).unpack =
    .finite t m e hm := hu
  obtain ⟨_, _, _, _, hneg⟩ := exists_of_unpack_pack hu
  cases hnat : (Float.ofNat n).toModel.unpack with
  | finite s k f hk =>
    obtain rfl := sign_of_unpack_ofNat hpos hnat
    have hleast : -1074 ≤ f := by
      rcases unpack_finite_cases hnat with hnormal | ⟨-, hsmall⟩
      · exact hnormal.least
      · omega
    rw [hnat] at hu
    exact (sign_exponent_of_unpack_pack hleast hu).1
  | _ =>
    rw [hnat] at hneg
    cases hneg

/-- **An integer below `2 ^ 53` is the only one that is equal to its float.** -/
theorem ofInt_beq_ofNat_iff {i : Int} (hpos : 0 < n) (hlt : n < 2 ^ 53) :
    (Float.ofInt i == Float.ofNat n) = true ↔ i = n := by
  obtain ⟨k, hk, hunpack⟩ := unpack_ofNat_of_lt hpos hlt
  constructor
  · intro hbeq
    have hsame := hunpack
    rw [← eq_of_beq hunpack hbeq] at hsame
    obtain ⟨m, rfl | rfl⟩ := Int.eq_nat_or_neg i
    · replace hsame : (Float.ofNat m).toModel.unpack = _ := hsame
      by_cases hm : m < 2 ^ 53
      · rcases Nat.eq_zero_or_pos m with rfl | hmpos
        · cases hsame
        · obtain ⟨j, -, hm⟩ := unpack_ofNat_of_lt hmpos hm
          obtain ⟨-, hmantissa, hexponent⟩ := UnpackedFloat.finite.inj (hm.symm.trans hsame)
          obtain rfl : j = k := by omega
          rw [Nat.eq_of_mul_eq_mul_right (Nat.two_pow_pos j) hmantissa]
      · -- A larger integer has no places as low as the leading one of `n`.
        obtain ⟨-, hexponent⟩ := exponent_of_unpack_ofNat (Nat.not_lt.mp hm) hsame
        omega
    · rcases Nat.eq_zero_or_pos m with rfl | hmpos
      · cases hsame
      · cases sign_of_unpack_ofInt_neg hmpos hsame
  · rintro rfl
    have hfinite : (Float.ofNat n).isFinite = true := by
      show (Float.ofNat n).toModel.unpack.isFinite = true
      rw [hunpack]
      rfl
    exact (beq_iff_rank hfinite hfinite).mpr rfl

end MapStyle.Decimal
