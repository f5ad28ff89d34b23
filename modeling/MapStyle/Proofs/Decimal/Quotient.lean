/-
Quotients of floats.

A quotient is rounded from one place more than a float keeps, with a note of what is left over.
That is enough to tell a number divided by a smaller one from 1, however close the two are: a float
has neighbours no closer to it than half of what tells 1 from the next float.

* `div_self_of_pos` — a positive float divided by itself is 1;
* `one_lt_div` — a positive float divided by a smaller one is greater than 1;
* `unpack_ofNat_ne_zero` — the float of a positive integer is not zero.
-/
import MapStyle.Proofs.Decimal.ExtendedRank
import MapStyle.Proofs.Decimal.Integer

namespace MapStyle.Decimal

open Float.Model Float.Model.UnpackedFloat

variable {s : Sign} {m n q r k : Nat} {e f : Int} {x y : Float}

/-! ### Positive floats -/

theorem exists_unpack_of_pos (hx : x.isFinite = true) (hpos : 0 < x) :
    ∃ m e, ∃ hm : 0 < m, x.toModel.unpack = .finite .positive m e hm := by
  rw [lt_iff_compare] at hpos
  replace hx : x.toModel.unpack.isFinite = true := hx
  cases hu : x.toModel.unpack with
  | notANumber | infinity s =>
    rw [hu] at hx
    cases hx
  | zero s =>
    rw [hu] at hpos
    cases hpos
  | finite s m e hm =>
    cases s with
    | positive => exact ⟨m, e, hm, rfl⟩
    | negative =>
      rw [hu] at hpos
      cases hpos

theorem toModel_div (x y : Float) :
    (x / y).toModel = .pack (UnpackedFloat.div .binary64 x.toModel.unpack y.toModel.unpack) := rfl

/-! ### Rounding -/

theorem mantissa_le_roundedMantissa (m : ExtendedMantissa) :
    m.mantissa ≤ m.roundedMantissa ∧ m.roundedMantissa ≤ m.mantissa + 1 := by
  rw [ExtendedMantissa.roundedMantissa]
  rcases m.accuracy with _ | _ | _ | _ <;> simp only [Accuracy.roundToNearestEven] <;> omega

theorem mantissa_ofMantissaAndAccuracy (m : Nat) (a : Accuracy) :
    (ExtendedMantissa.ofMantissaAndAccuracy m a).mantissa = m := by
  rcases a with _ | _ | _ | _ <;> rfl

theorem mantissa_shiftRight (em : ExtendedMantissa) (k : Nat) :
    (em >>> k).mantissa = em.mantissa / 2 ^ k := by
  induction k with
  | zero => exact (Nat.div_one em.mantissa).symm
  | succ k ih =>
    rw [Nat.pow_succ, ← Nat.div_div_eq_div_mul, ← ih]
    rfl

/-- A mantissa of 53 places is not shifted, and one of 54 places is shifted by one. -/
theorem shiftToTargetExponent_of_log2 (hk : m.log2 = 52 + k) (he : -1074 ≤ e) (a : Accuracy) :
    shiftToTargetExponent .binary64 m e a =
      (ExtendedMantissa.ofMantissaAndAccuracy m a >>> k, e + k) := by
  have htarget : Format.binary64.targetExponent (totalExponent m e) = e + k := by
    rw [Format.targetExponent, totalExponent, hk]
    show max (((52 + k : Nat) : Int) + 1 + e - (53 : Nat)) (-1074) = e + k
    omega
  have hshift : (e + k - e).toNat = k := by omega
  rw [shiftToTargetExponent, htarget, shiftToExponent, hshift]

/-- What is left of a mantissa when it is cut to 53 places has a leading one. -/
theorem leading_div_two_pow (hm : m ≠ 0) (hk : m.log2 = 52 + k) :
    2 ^ 52 ≤ m / 2 ^ k ∧ m / 2 ^ k < 2 ^ 53 := by
  obtain ⟨hlow, hhigh⟩ := (Nat.log2_eq_iff hm).mp hk
  rw [Nat.le_div_iff_mul_le (Nat.two_pow_pos k), Nat.div_lt_iff_lt_mul (Nat.two_pow_pos k),
    ← Nat.pow_add, ← Nat.pow_add]
  exact ⟨hlow, by rwa [Nat.add_right_comm] at hhigh⟩

/-- What is rounded to 53 places is a mantissa, unless it is the next power of two, which is the
least mantissa one place up. -/
theorem roundWithAccuracy_of_log2 (hm : m ≠ 0) (hk : m.log2 = 52 + k) (he : -1074 ≤ e)
    (a : Accuracy) :
    ∃ n g, ∃ hn : 0 < n, roundWithAccuracy .binary64 s m e a = .finite s n g hn ∧
      2 ^ 52 ≤ n ∧ n < 2 ^ 53 ∧
      (g = e + k ∧ n = (ExtendedMantissa.ofMantissaAndAccuracy m a >>> k).roundedMantissa ∨
        g = e + k + 1) := by
  obtain ⟨hlow, hhigh⟩ := leading_div_two_pow hm hk
  obtain ⟨hle, hge⟩ :=
    mantissa_le_roundedMantissa (ExtendedMantissa.ofMantissaAndAccuracy m a >>> k)
  rw [mantissa_shiftRight, mantissa_ofMantissaAndAccuracy] at hle hge
  have hleast : -1074 ≤ e + k := by omega
  rw [roundWithAccuracy, shiftToTargetExponent_of_log2 hk he]
  simp only
  generalize (ExtendedMantissa.ofMantissaAndAccuracy m a >>> k).roundedMantissa = rounded
    at hle hge ⊢
  by_cases hfit : rounded < 2 ^ 53
  · have hlog : rounded.log2 = 52 + 0 :=
      (Nat.log2_eq_iff (by omega)).mpr ⟨by omega, by omega⟩
    have hpos : 0 < rounded := by omega
    rw [shiftToTargetExponent_of_log2 hlog hleast]
    refine ⟨rounded, e + k, hpos, ?_, by omega, hfit, .inl ⟨rfl, rfl⟩⟩
    simp only [Int.natCast_zero, Int.add_zero]
    exact dif_neg (Nat.ne_of_gt hpos)
  · obtain rfl : rounded = 2 ^ 53 := by omega
    have hlog : (2 ^ 53).log2 = 52 + 1 := Nat.log2_two_pow
    rw [shiftToTargetExponent_of_log2 hlog hleast]
    exact ⟨2 ^ 52, e + k + 1, by omega, rfl, by omega, by omega, .inr rfl⟩

/-! ### Packing -/

/-- A mantissa with its leading one comes back from its pattern, or is too large for one. -/
theorem unpack_pack_of_leading (hlow : 2 ^ 52 ≤ m) (hhigh : m < 2 ^ 53) (he : -1074 ≤ e)
    (hm : 0 < m) :
    (Float.Model.pack (.finite s m e hm)).unpack = .finite s m e hm ∨
      (Float.Model.pack (.finite s m e hm)).unpack = .infinity s := by
  by_cases hgreatest : e ≤ 971
  · exact .inl (IsNormal.unpack_pack ⟨hlow, hhigh, he, hgreatest⟩)
  · right
    have hlarge : 2 ^ Format.binary64.exponentBits ≤
        (e + Format.exponentBias .binary64 +
          Format.binary64.mantissaBitsWithoutImplicit).toNat + 1 := by
      have h1 : (Format.exponentBias .binary64 : Int) = 1023 := rfl
      have h2 : ((Format.binary64.mantissaBitsWithoutImplicit : Nat) : Int) = 52 := rfl
      rw [h1, h2]
      show 2048 ≤ _
      omega
    show UnpackedFloat.unpack .binary64 (UnpackedFloat.pack .binary64 (.finite s m e hm)) = _
    rw [UnpackedFloat.pack]
    simp only [if_pos hlarge]
    cases s <;> rfl

theorem one_lt_of_toModel (hlow : 2 ^ 52 ≤ m) (hhigh : m < 2 ^ 53) (hm : 0 < m)
    (he : -52 < e ∨ e = -52 ∧ 2 ^ 52 < m) (hx : x.toModel = .pack (.finite .positive m e hm)) :
    1 < x := by
  have hone : (1 : Float).toModel.unpack = .finite .positive (2 ^ 52) (-52) (by decide) := rfl
  have hleast : -1074 ≤ e := by omega
  rw [lt_iff_compare, hone, hx]
  obtain hpack | hpack := unpack_pack_of_leading hlow hhigh hleast hm
  · rw [hpack, UnpackedFloat.compare]
    obtain hlt | ⟨rfl, hlt⟩ := he
    · rw [Int.compare_eq_lt.mpr hlt]
      rfl
    · rw [Int.compare_eq_eq.mpr rfl, Nat.compare_eq_lt.mpr hlt]
      rfl
  · rw [hpack]
    rfl

/-! ### Quotients of 1 and above -/

section Quotient

variable {a : Nat}

/-- A quotient of 53 places that begins with 1 has more than half a place left over. -/
theorem lt_roundedMantissa_of_short (hn : n < 2 ^ 53) (hq : 2 ^ 52 ≤ q) (ha : n < a)
    (hquotient : n * q + r = a * 2 ^ 52) :
    2 ^ 52 < (ExtendedMantissa.ofMantissaAndAccuracy q
      (accuracyOfFraction r n)).roundedMantissa := by
  rcases Nat.eq_or_lt_of_le hq with rfl | hlt
  · have hr : n < 2 * r := by omega
    have haccuracy : accuracyOfFraction r n = .inexact .gt := by
      rw [accuracyOfFraction, if_neg (by omega), Nat.compare_eq_gt.mpr hr]
    rw [haccuracy]
    exact Nat.lt_succ_self _
  · have hle := (mantissa_le_roundedMantissa
      (ExtendedMantissa.ofMantissaAndAccuracy q (accuracyOfFraction r n))).1
    rw [mantissa_ofMantissaAndAccuracy] at hle
    omega

/-- What is left over of a quotient is still seen when its last place is dropped. -/
theorem roundedMantissa_shiftRight_one (m : Nat) (o : Ordering) :
    (ExtendedMantissa.ofMantissaAndAccuracy m (.inexact o) >>> 1).roundedMantissa =
      m / 2 + m % 2 := by
  have hshift : ExtendedMantissa.ofMantissaAndAccuracy m (.inexact o) >>> 1 =
      ⟨m / 2, m % 2 != 0, true⟩ := by
    cases o <;> rfl
  rw [hshift]
  rcases Nat.mod_two_eq_zero_or_one m with hm | hm <;> rw [hm] <;> rfl

/-- A quotient of 54 places that begins with 1 is not 1 with nothing left over. -/
theorem lt_roundedMantissa_of_long (hr : r < n) (hn : n < 2 ^ 53) (hq : 2 ^ 53 ≤ q) (ha : n < a)
    (hquotient : n * q + r = a * 2 ^ 53) :
    2 ^ 52 < (ExtendedMantissa.ofMantissaAndAccuracy q
      (accuracyOfFraction r n) >>> 1).roundedMantissa := by
  rcases Nat.eq_or_lt_of_le hq with rfl | hlt
  · omega
  rcases Nat.eq_or_lt_of_le (Nat.succ_le_of_lt hlt) with rfl | hlt
  · have haccuracy : accuracyOfFraction r n = .inexact (compare (2 * r) n) := by
      rw [accuracyOfFraction, if_neg (by omega)]
    rw [haccuracy, roundedMantissa_shiftRight_one]
    decide
  · have hle := (mantissa_le_roundedMantissa
      (ExtendedMantissa.ofMantissaAndAccuracy q (accuracyOfFraction r n) >>> 1)).1
    rw [mantissa_shiftRight, mantissa_ofMantissaAndAccuracy] at hle
    omega

/-- **A quotient above 1 is rounded to a float above 1.**  Here `q` is the quotient by `n` of a
mantissa that was moved up, `r` is what is left over, and `k` tells how many binades lie between
the two floats. -/
theorem one_lt_of_quotient (hr : r < n) (hn : n < 2 ^ 53) (hq : 2 ^ 52 ≤ q) (hq' : q < 2 ^ 54)
    (ha : n < a) (hquotient : (n * q + r) * 2 ^ k = a * 2 ^ 53)
    (hx : x.toModel = .pack (roundWithAccuracy .binary64 .positive q ((k : Int) - 53)
      (accuracyOfFraction r n))) : 1 < x := by
  have hleast : (-1074 : Int) ≤ k - 53 := by omega
  obtain ⟨j, hj, hlog⟩ : ∃ j ≤ 1, q.log2 = 52 + j := by
    have hlow : 52 ≤ q.log2 := (Nat.le_log2 (by omega)).mpr hq
    have hhigh : q.log2 < 54 := (Nat.log2_lt (by omega)).mpr hq'
    exact ⟨q.log2 - 52, by omega, by omega⟩
  obtain ⟨m, g, hm, hround, hlow, hhigh, hg⟩ := roundWithAccuracy_of_log2 (s := .positive)
    (by omega) hlog hleast (accuracyOfFraction r n)
  have hfit := leading_div_two_pow (by omega) hlog
  refine one_lt_of_toModel hlow hhigh hm ?_ (by rw [hx, hround])
  -- The exponent is at least that of 1; where it is the same, the mantissa is greater.
  obtain ⟨rfl, rfl⟩ | ⟨rfl, rfl⟩ | ⟨rfl, rfl⟩ | hlarge :
      j = 0 ∧ k = 0 ∨ j = 0 ∧ k = 1 ∨ j = 1 ∧ k = 0 ∨ 2 ≤ j + k := by omega
  · have hle : n * q ≤ n * (2 ^ 53 - 1) := Nat.mul_le_mul_left n (by omega)
    omega
  · have hlt := lt_roundedMantissa_of_short hn hq ha (r := r) (by omega)
    rcases hg with ⟨hg, rfl⟩ | hg
    · exact .inr ⟨by omega, hlt⟩
    · exact .inl (by omega)
  · have hlt := lt_roundedMantissa_of_long (q := q) hr hn (by omega) ha (by omega)
    rcases hg with ⟨hg, rfl⟩ | hg
    · exact .inr ⟨by omega, hlt⟩
    · exact .inl (by omega)
  · exact .inl (by omega)

end Quotient

/-- A greater value has no smaller exponent, and is greater by a unit of the smaller value. -/
theorem lt_mul_of_compare {m n : Nat} {e f : Int} (hm : IsNormal m e ∨ m < 2 ^ 52 ∧ e = -1074)
    (hn : IsNormal n f ∨ n < 2 ^ 52 ∧ f = -1074)
    (h : (compare f e).then (compare n m) = .lt) : f ≤ e ∧ n < m * 2 ^ (e - f).toNat := by
  rcases Int.lt_trichotomy f e with hlt | rfl | hgt
  · refine ⟨Int.le_of_lt hlt, ?_⟩
    have hnormal : IsNormal m e := by
      refine hm.resolve_right fun hsmall => ?_
      rcases hn with hn | hn
      · have := hn.least
        omega
      · omega
    have hfit : n < 2 ^ 53 := by
      rcases hn with hn | hn
      · exact hn.high
      · omega
    have hlow := hnormal.low
    have hpow : 2 ^ 1 ≤ 2 ^ (e - f).toNat := Nat.pow_le_pow_right Nat.two_pos (by omega)
    have hle : m * 2 ^ 1 ≤ m * 2 ^ (e - f).toNat := Nat.mul_le_mul_left m hpow
    omega
  · rw [Int.compare_eq_eq.mpr rfl] at h
    refine ⟨Int.le_refl f, ?_⟩
    rw [Int.sub_self, Int.toNat_zero, Nat.pow_zero, Nat.mul_one]
    exact Nat.compare_eq_lt.mp h
  · rw [Int.compare_eq_gt.mpr hgt] at h
    cases h

/-- The quotient of two mantissas, the first moved up until it is between 52 and 54 places longer
than the second. -/
theorem quotient_bounds (hm : 0 < m) (hn : 0 < n) (hshift : m.log2 + k = n.log2 + 53) :
    2 ^ 52 ≤ m * 2 ^ k / n ∧ m * 2 ^ k / n < 2 ^ 54 := by
  obtain ⟨hmlow, hmhigh⟩ := (Nat.log2_eq_iff (Nat.ne_of_gt hm)).mp rfl
  obtain ⟨hnlow, hnhigh⟩ := (Nat.log2_eq_iff (Nat.ne_of_gt hn)).mp rfl
  constructor
  · rw [Nat.le_div_iff_mul_le hn]
    calc 2 ^ 52 * n ≤ 2 ^ 52 * 2 ^ (n.log2 + 1) := Nat.mul_le_mul_left _ (Nat.le_of_lt hnhigh)
      _ = 2 ^ m.log2 * 2 ^ k := by rw [← Nat.pow_add, ← Nat.pow_add, hshift]; congr 1; omega
      _ ≤ m * 2 ^ k := Nat.mul_le_mul_right _ hmlow
  · rw [Nat.div_lt_iff_lt_mul hn]
    calc m * 2 ^ k < 2 ^ (m.log2 + 1) * 2 ^ k :=
          Nat.mul_lt_mul_of_pos_right hmhigh (Nat.two_pow_pos k)
      _ = 2 ^ 54 * 2 ^ n.log2 := by rw [← Nat.pow_add, ← Nat.pow_add]; congr 1; omega
      _ ≤ 2 ^ 54 * n := Nat.mul_le_mul_left _ hnlow

/-- The quotient that is rounded, where the second value is not in a higher binade. -/
theorem divCore_eq {d j : Nat} (he : e - f = d) (hk : n.log2 + k = m.log2 + d)
    (hj : m.log2 + j = n.log2 + 53) :
    divCore .binary64 m e n f =
      (m * 2 ^ j / n, (k : Int) - 53, accuracyOfFraction (m * 2 ^ j % n) n) := by
  have htarget : min (e - f) (Format.binary64.targetExponent
      (totalExponent m e - totalExponent n f)) = (k : Int) - 53 := by
    rw [Format.targetExponent, totalExponent, totalExponent]
    show min (e - f) (max ((m.log2 : Int) + 1 + e - (n.log2 + 1 + f) - (53 : Nat)) (-1074)) = _
    omega
  have hshift : (e - f - ((k : Int) - 53)).toNat = j := by omega
  rw [divCore]
  simp only [htarget, hshift, Nat.shiftLeft_eq]

/-- **A positive float divided by itself is 1.** -/
theorem div_self_of_pos (hx : x.isFinite = true) (hpos : 0 < x) : x / x = 1 := by
  obtain ⟨m, e, hm, hu⟩ := exists_unpack_of_pos hx hpos
  have hone : IsNormal (2 ^ 52) (-52) := ⟨by decide, by decide, by decide, by decide⟩
  have hcore : divCore .binary64 m e m e = (2 ^ 52 * 2 ^ 1, (-52 : Int) - (1 : Nat), .exact) := by
    rw [divCore_eq (d := 0) (k := 0) (j := 53) (Int.sub_self e) rfl rfl,
      Nat.mul_div_cancel_left _ hm, Nat.mul_mod_right]
    rfl
  have hdiv : UnpackedFloat.div .binary64 x.toModel.unpack x.toModel.unpack =
      .finite .positive (2 ^ 52) (-52) hone.pos := by
    rw [hu, UnpackedFloat.div]
    simp only [hcore]
    exact hone.isHeld.roundWithAccuracy_mul_two_pow _ 1
  have hmodel : (x / x).toModel = (1 : Float).toModel := by
    rw [toModel_div, hdiv]
    rfl
  exact congrArg Float.ofModel hmodel

/-- **A positive float divided by a smaller one is greater than 1.** -/
theorem one_lt_div (hx : x.isFinite = true) (hy : y.isFinite = true) (hpos : 0 < y) (h : y < x) :
    1 < x / y := by
  have hxpos : 0 < x := lt_trans hpos h
  obtain ⟨m, e, hm, hxu⟩ := exists_unpack_of_pos hx hxpos
  obtain ⟨n, f, hn, hyu⟩ := exists_unpack_of_pos hy hpos
  rw [lt_iff_compare, hxu, hyu] at h
  obtain ⟨hfe, hlt⟩ := lt_mul_of_compare (unpack_finite_cases hxu) (unpack_finite_cases hyu)
    (Option.some.inj h)
  have hmfit : m < 2 ^ 53 := (bounds_of_unpack hxu).1
  have hnfit : n < 2 ^ 53 := (bounds_of_unpack hyu).1
  have hmlog : m.log2 < 53 := (Nat.log2_lt (Nat.ne_of_gt hm)).mpr hmfit
  have hnlog : n.log2 ≤ m.log2 + (e - f).toNat := by
    rw [← log2_mul_two_pow (Nat.ne_of_gt hm)]
    exact (Nat.le_log2 (by omega)).mpr
      (Nat.le_trans (Nat.log2_self_le (Nat.ne_of_gt hn)) (Nat.le_of_lt hlt))
  obtain ⟨k, hk⟩ := Nat.exists_eq_add_of_le hnlog
  obtain ⟨j, hj⟩ := Nat.exists_eq_add_of_le (show m.log2 ≤ n.log2 + 53 by omega)
  have hcore := divCore_eq (m := m) (n := n) (k := k) (j := j)
    (Int.toNat_of_nonneg (by omega)).symm hk.symm hj.symm
  obtain ⟨hlow, hhigh⟩ := quotient_bounds hm hn hj.symm
  have hrest : m * 2 ^ j % n < n := Nat.mod_lt _ hn
  refine one_lt_of_quotient (k := k) hrest hnfit hlow hhigh hlt ?_ ?_
  · rw [Nat.div_add_mod, Nat.mul_assoc, Nat.mul_assoc, ← Nat.pow_add, ← Nat.pow_add]
    congr 2
    omega
  · rw [toModel_div, hxu, hyu, UnpackedFloat.div]
    simp only [hcore]
    rfl

/-! ### Integers -/

/-- The float of an integer that is not zero is not zero either, however large the integer is. -/
theorem unpack_ofNat_ne_zero (hn : 0 < n) (s : Sign) :
    (Float.ofNat n).toModel.unpack ≠ .zero s := by
  intro hzero
  by_cases hlt : n < 2 ^ 53
  · obtain ⟨k, -, hunpack⟩ := unpack_ofNat_of_lt hn hlt
    rw [hunpack] at hzero
    cases hzero
  · have hne : n ≠ 0 := Nat.ne_of_gt hn
    have hlog : (n * 2 ^ 53).log2 = 52 + (n.log2 + 1) := by
      rw [log2_mul_two_pow hne]
      omega
    obtain ⟨m, g, hm, hround, hlow, hhigh, hg⟩ := roundWithAccuracy_of_log2 (s := .positive)
      (e := -53) (Nat.mul_ne_zero hne (by decide)) hlog (by decide) .exact
    rw [toModel_ofNat_of_le (Nat.not_lt.mp hlt), hround] at hzero
    obtain hpack | hpack :=
      unpack_pack_of_leading hlow hhigh (s := .positive) (e := g) (by omega) hm <;>
    · rw [hpack] at hzero
      cases hzero

end MapStyle.Decimal
