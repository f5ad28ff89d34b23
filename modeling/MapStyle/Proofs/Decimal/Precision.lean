/-
A float in the other precision and back.

The 24 places of a 32-bit float fit into the 53 of a 64-bit float, and its exponents are among
those of the larger format, so that nothing is lost when it is widened.  Narrowing it again drops
no more than the zeros that widening put behind it.

* `isHeld_of_unpack` — the mantissa and the exponent of a finite 32-bit float;
* `unpack_widen` — a widened float has the same value with more places;
* `narrow_widen` — it is narrowed to the float that was widened;
* `isFinite_widen` — it is finite just if that float is.
-/
import MapStyle.Decimal.Precision
import MapStyle.Proofs.Decimal.Rounding

namespace MapStyle.Decimal

open Float.Model Float.Model.UnpackedFloat

variable {s : Sign} {m : Nat} {e : Int} {hm : 0 < m}

/-! ### Finite 32-bit floats -/

/-- A finite 32-bit float has at most 24 places, at the exponent that its format gives it. -/
theorem isHeld_of_unpack {b : BitVec Format.binary32.numBits}
    (h : UnpackedFloat.unpack .binary32 b = .finite s m e hm) :
    IsHeld .binary32 m e ∧ m < 2 ^ 24 ∧ -149 ≤ e ∧ e ≤ 104 := by
  have hbias : (Format.exponentBias .binary32 : Int) = 127 := rfl
  have hplaces : ((Format.binary32.mantissaBitsWithoutImplicit : Nat) : Int) = 23 := rfl
  have htarget (t : Int) : Format.targetExponent .binary32 t = max (t - 24) (-149) := rfl
  have hfield : (unpackExponent b).toNat < 2 ^ 8 := (unpackExponent b).isLt
  have hfraction : (unpackMantissa b).toNat < 2 ^ 23 := (unpackMantissa b).isLt
  rw [UnpackedFloat.unpack] at h
  simp only [hbias, hplaces] at h
  split at h
  · split at h <;> cases h
  · next hones =>
    have hless : (unpackExponent b).toNat ≠ 255 := fun h => hones (BitVec.eq_of_toNat_eq h)
    split at h
    · next hzero =>
      split at h
      · cases h
      · -- Without a leading one the exponent is the least one.
        obtain ⟨-, rfl, rfl⟩ := UnpackedFloat.finite.inj h
        have hlog : (unpackMantissa b).toNat.log2 < 23 :=
          (Nat.log2_lt (Nat.ne_of_gt hm)).mpr hfraction
        rw [hzero]
        refine ⟨⟨hm, ?_⟩, by omega, by decide, by decide⟩
        rw [htarget, totalExponent]
        show max (((unpackMantissa b).toNat.log2 : Int) + 1 + (-149) - 24) (-149) = -149
        omega
    · next hzeros =>
      have hpos : (unpackExponent b).toNat ≠ 0 := fun h => hzeros (BitVec.eq_of_toNat_eq h)
      obtain ⟨-, rfl, rfl⟩ := UnpackedFloat.finite.inj h
      have hmantissa : (1#1 ++ unpackMantissa b).toNat = 2 ^ 23 + (unpackMantissa b).toNat :=
        toNat_one_append _
      have hlog : (2 ^ 23 + (unpackMantissa b).toNat).log2 = 23 :=
        (Nat.log2_eq_iff (by omega)).mpr ⟨by omega, by omega⟩
      refine ⟨⟨hm, ?_⟩, by omega, by omega, by omega⟩
      rw [htarget, totalExponent, hmantissa, hlog]
      omega

/-! ### There and back -/

/-- A widened float has the same value, with more places behind it. -/
theorem unpack_widen {x : Float32} (h : x.toModel.unpack = .finite s m e hm) :
    ∃ k : Nat, (widen x).toModel.unpack =
      .finite s (m * 2 ^ k) (e - k) (Nat.mul_pos hm (Nat.two_pow_pos k)) := by
  obtain ⟨-, hfit, hleast, hgreatest⟩ := isHeld_of_unpack h
  obtain ⟨k, -, hnormal⟩ := exists_isNormal (e := e) hm (by omega) (by omega) (by omega)
  refine ⟨k, ?_⟩
  show (Float.Model.pack (fitted .binary64 x.toModel.unpack)).unpack = _
  rw [h, fitted, hnormal.isHeld.round_of_moved]
  exact hnormal.unpack_pack

/-- What is not a number with places is widened as it is. -/
theorem unpack_widen_of_not_finite {x : Float32} {u : UnpackedFloat} (h : x.toModel.unpack = u)
    (hu : ∀ s m e hm, u ≠ .finite s m e hm) : (widen x).toModel.unpack = u := by
  show (Float.Model.pack (fitted .binary64 x.toModel.unpack)).unpack = u
  rw [h]
  cases u with
  | finite s m e hm => exact absurd rfl (hu s m e hm)
  | notANumber => rfl
  | infinity s | zero s => cases s <;> rfl

/-- Fitted into 32 bits, a widened float is unpacked like the float that was widened. -/
theorem fitted_unpack_widen (x : Float32) :
    fitted .binary32 (widen x).toModel.unpack = x.toModel.unpack := by
  cases hx : x.toModel.unpack with
  | finite s m e hm =>
    obtain ⟨k, hwide⟩ := unpack_widen hx
    rw [hwide, fitted]
    exact (isHeld_of_unpack hx).1.round_of_places s k
  | notANumber | infinity s | zero s =>
    rw [unpack_widen_of_not_finite hx nofun]
    rfl

/-- **Narrowing takes widening back**, for every 32-bit float. -/
theorem narrow_widen (x : Float32) : narrow (widen x) = x := by
  rw [narrow, fitted_unpack_widen]
  obtain ⟨bits, hvalid⟩ := x
  simp only [Float32.Model.pack, Float32.Model.unpack, pack_unpack_of_valid hvalid]

theorem isFinite_widen (x : Float32) : (widen x).isFinite = x.isFinite := by
  show (widen x).toModel.unpack.isFinite = x.toModel.unpack.isFinite
  cases hx : x.toModel.unpack with
  | finite s m e hm =>
    obtain ⟨k, hwide⟩ := unpack_widen hx
    rw [hwide]
    rfl
  | notANumber | infinity s | zero s =>
    rw [unpack_widen_of_not_finite hx nofun]

end MapStyle.Decimal
