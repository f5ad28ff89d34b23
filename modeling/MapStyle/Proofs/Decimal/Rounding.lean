/-
Rounding what a format holds.

A format gives a value the exponent at which it keeps its digits.  A value that has this exponent,
and a mantissa that fits in front of it, is not changed by rounding, whether it comes with more
places than that, which are all zero, or with fewer.

* `IsHeld` — a value with the exponent that a format gives it; `IsNormal.isHeld` — one that has
  its leading one;
* `roundWithAccuracy_mul_two_pow` — zeros behind such a value are dropped;
* `round_of_places`, `round_of_moved` — it is rounded to itself, however it is written;
* `exists_isNormal` — 64 bits have room for a mantissa of up to 53 places.
-/
import MapStyle.Proofs.Decimal.Packing

namespace MapStyle.Decimal

open Float.Model Float.Model.UnpackedFloat

variable {format : Float.Model.Format} {m n k : Nat} {e : Int}

theorem log2_mul_two_pow {m : Nat} (hm : m ≠ 0) (k : Nat) : (m * 2 ^ k).log2 = m.log2 + k := by
  induction k with
  | zero => rw [Nat.pow_zero, Nat.mul_one, Nat.add_zero]
  | succ k ih =>
    have hne : m * 2 ^ k ≠ 0 := Nat.mul_ne_zero hm (Nat.ne_of_gt (Nat.two_pow_pos k))
    rw [Nat.pow_succ, ← Nat.mul_assoc, Nat.mul_comm _ 2, Nat.log2_two_mul hne, ih, Nat.add_assoc]

/-- Shifting out zeros leaves nothing to be rounded. -/
theorem shiftRight_mul_two_pow (m k : Nat) :
    (⟨m * 2 ^ k, false, false⟩ : ExtendedMantissa) >>> k = ⟨m, false, false⟩ := by
  show Nat.repeat ExtendedMantissa.shiftRightOne k ⟨m * 2 ^ k, false, false⟩ = _
  induction k generalizing m with
  | zero => rw [Nat.pow_zero, Nat.mul_one]; rfl
  | succ k ih =>
    rw [Nat.pow_succ, Nat.mul_comm (2 ^ k) 2, ← Nat.mul_assoc, Nat.repeat, ih,
      ExtendedMantissa.shiftRightOne, Nat.mul_div_cancel m Nat.two_pos, Nat.mul_mod_left]
    rfl

/-- A value with the exponent that a format gives it. -/
structure IsHeld (format : Float.Model.Format) (m : Nat) (e : Int) : Prop where
  pos : 0 < m
  exponent : format.targetExponent (totalExponent m e) = e

/-- Places behind a value do not change how large it is. -/
theorem totalExponent_mul_two_pow (hm : 0 < m) (k : Nat) (e : Int) :
    totalExponent (m * 2 ^ k) (e - k) = totalExponent m e := by
  rw [totalExponent, totalExponent, log2_mul_two_pow (Nat.ne_of_gt hm)]
  omega

namespace IsHeld

theorem shiftToTargetExponent_mul_two_pow (h : IsHeld format m e) (k : Nat) :
    shiftToTargetExponent format (m * 2 ^ k) (e - k) .exact = (⟨m, false, false⟩, e) := by
  have htarget : format.targetExponent (totalExponent (m * 2 ^ k) (e - k)) = e := by
    rw [totalExponent_mul_two_pow h.pos]
    exact h.exponent
  have hshift : (e - (e - (k : Int))).toNat = k := by omega
  rw [shiftToTargetExponent, htarget, shiftToExponent, hshift, Int.sub_add_cancel]
  show ((⟨m * 2 ^ k, false, false⟩ : ExtendedMantissa) >>> k, e) = _
  rw [shiftRight_mul_two_pow]

theorem roundWithAccuracy_mul_two_pow (s : Sign) (h : IsHeld format m e) (k : Nat) :
    roundWithAccuracy format s (m * 2 ^ k) (e - k) .exact = .finite s m e h.pos := by
  have hagain : shiftToTargetExponent format m e .exact = (⟨m, false, false⟩, e) := by
    have hshift := h.shiftToTargetExponent_mul_two_pow 0
    rwa [Nat.pow_zero, Nat.mul_one, Int.natCast_zero, Int.sub_zero] at hshift
  have hround : ExtendedMantissa.roundedMantissa ⟨m, false, false⟩ = m := rfl
  rw [roundWithAccuracy, h.shiftToTargetExponent_mul_two_pow k]
  simp only [hround, hagain]
  rw [dif_neg (Nat.ne_of_gt h.pos)]

/-- What is written with more places than a format keeps is rounded to the value itself if
they are zero. -/
theorem round_of_places (s : Sign) (h : IsHeld format m e) (k : Nat) :
    UnpackedFloat.round format s (m * 2 ^ k) (e - k) = .finite s m e h.pos := by
  have htarget : format.targetExponent (totalExponent (m * 2 ^ k) (e - k)) = e := by
    rw [totalExponent_mul_two_pow h.pos]
    exact h.exponent
  have hstay : (e - (k : Int) - e).toNat = 0 := by omega
  rw [UnpackedFloat.round]
  simp only [htarget, decreaseExponent, hstay, Nat.shiftLeft_zero, Int.natCast_zero, Int.sub_zero]
  exact h.roundWithAccuracy_mul_two_pow s k

/-- What is written with fewer places is moved up first. -/
theorem round_of_moved (s : Sign) (h : IsHeld format (n * 2 ^ k) (e - k)) :
    UnpackedFloat.round format s n e = .finite s (n * 2 ^ k) (e - k) h.pos := by
  have hpos : 0 < n := Nat.pos_of_mul_pos_right h.pos
  have htarget : format.targetExponent (totalExponent n e) = e - k := by
    rw [← totalExponent_mul_two_pow hpos k]
    exact h.exponent
  have hmove : (e - (e - (k : Int))).toNat = k := by omega
  have hround := h.roundWithAccuracy_mul_two_pow s 0
  rw [Nat.pow_zero, Nat.mul_one, Int.natCast_zero, Int.sub_zero] at hround
  rw [UnpackedFloat.round]
  simp only [htarget, decreaseExponent, hmove, Nat.shiftLeft_eq]
  exact hround

end IsHeld

theorem IsNormal.isHeld (h : IsNormal m e) : IsHeld .binary64 m e := by
  refine ⟨h.pos, ?_⟩
  have hleast := h.least
  rw [Format.targetExponent, totalExponent, h.log2_eq]
  show max (((52 : Nat) : Int) + 1 + e - (53 : Nat)) (-1074) = e
  omega

/-- A mantissa of at most 53 places can be moved up until it has its leading one. -/
theorem exists_isNormal (hn : 0 < n) (hfit : n < 2 ^ 53) (hleast : -1022 ≤ e)
    (hgreatest : e ≤ 971) : ∃ k : Nat, k ≤ 52 ∧ IsNormal (n * 2 ^ k) (e - k) := by
  have hlog : n.log2 < 53 := (Nat.log2_lt (Nat.ne_of_gt hn)).mpr hfit
  have hne : n * 2 ^ (52 - n.log2) ≠ 0 :=
    Nat.mul_ne_zero (Nat.ne_of_gt hn) (Nat.ne_of_gt (Nat.two_pow_pos _))
  have hmoved : (n * 2 ^ (52 - n.log2)).log2 = 52 := by
    rw [log2_mul_two_pow (Nat.ne_of_gt hn)]
    omega
  obtain ⟨hlow, hhigh⟩ := (Nat.log2_eq_iff hne).mp hmoved
  exact ⟨52 - n.log2, by omega, hlow, hhigh, by omega, by omega⟩

end MapStyle.Decimal
