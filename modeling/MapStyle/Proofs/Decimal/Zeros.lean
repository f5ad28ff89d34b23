/-
Zeros among the results.

Where a computation comes to zero, of one sign or the other, what it is added to stays as it is,
but for the sign of zero itself.  The results on the way must not be NaN for that: a difference of
finite floats is not, however far apart they are.

* `isNaN_sub` — a difference of finite floats is a number, or infinite;
* `unpack_div_of_zero`, `unpack_mul_of_zero` — a quotient and a product of zero are zero;
* `add_beq_of_zero` — adding zero changes nothing;
* `Number.exists_ofResult?` — and neither does making a number of a finite float.
-/
import MapStyle.Proofs.Decimal.ExtendedRank
import MapStyle.Proofs.Decimal.Whole

namespace MapStyle

namespace Decimal

open Float.Model Float.Model.UnpackedFloat

variable {s : Sign} {x y : Float}

/-! ### What is not NaN -/

/-- Only a field of ones for the exponent can be read as NaN. -/
theorem unpack_packComponents_ne {field : BitVec 11} (hfield : field ≠ -1#11)
    (mantissa : BitVec 52) :
    unpack .binary64 (packComponents .binary64 s field mantissa) ≠ .notANumber := by
  rw [UnpackedFloat.unpack]
  simp only [unpackExponent_packComponents, unpackMantissa_packComponents,
    unpackSign_packComponents]
  rw [if_neg hfield]
  split
  · split <;> nofun
  · nofun

/-- What is packed does not become NaN: what is too great becomes infinite. -/
theorem isNaN_unpack_pack {u : UnpackedFloat} (hu : u.isNaN = false) :
    (Float.Model.pack u).unpack.isNaN = false := by
  cases u with
  | notANumber => cases hu
  | infinity s | zero s => cases s <;> rfl
  | finite s m e hm =>
    rw [← Bool.not_eq_true, isNaN_iff]
    show unpack .binary64 (pack .binary64 (.finite s m e hm)) ≠ _
    rw [UnpackedFloat.pack]
    simp only
    split
    · cases s <;> nofun
    · next hfield =>
      split
      · refine unpack_packComponents_ne (fun hones => ?_) _
        have hnat := congrArg BitVec.toNat hones
        rw [BitVec.toNat_ofNat] at hnat
        replace hfield : ¬ 2048 ≤ _ + 1 := hfield
        replace hnat : _ % 2048 = 2047 := hnat
        omega
      · exact unpack_packComponents_ne (by decide) _

theorem isNaN_roundWithAccuracy (m : Nat) (e : Int) (a : Accuracy) :
    (roundWithAccuracy .binary64 s m e a).isNaN = false := by
  rw [roundWithAccuracy]
  simp only
  split <;> rfl

theorem isNaN_normalize (m e : Int) : (normalize .binary64 m e s).isNaN = false := by
  unfold UnpackedFloat.normalize
  split
  · exact isNaN_roundWithAccuracy _ _ _
  · rfl
  · exact isNaN_roundWithAccuracy _ _ _

/-- **A difference of finite floats is not NaN.** -/
theorem isNaN_sub (hx : x.isFinite = true) (hy : y.isFinite = true) : (x - y).isNaN = false := by
  replace hx : x.toModel.unpack.isFinite = true := hx
  replace hy : y.toModel.unpack.isFinite = true := hy
  refine isNaN_unpack_pack (u := UnpackedFloat.sub .binary64 x.toModel.unpack y.toModel.unpack) ?_
  cases hu : x.toModel.unpack with
  | notANumber | infinity s =>
    rw [hu] at hx
    cases hx
  | zero s =>
    cases hv : y.toModel.unpack with
    | notANumber | infinity t =>
      rw [hv] at hy
      cases hy
    | zero t => cases s <;> cases t <;> rfl
    | finite t n f hn => rfl
  | finite s m e hm =>
    cases hv : y.toModel.unpack with
    | notANumber | infinity t =>
      rw [hv] at hy
      cases hy
    | zero t => rfl
    | finite t n f hn => exact isNaN_normalize _ _

theorem lt_or_lt_of_not_beq (hx : x.isNaN = false) (hy : y.isNaN = false)
    (h : (x == y) = false) : x < y ∨ y < x := by
  obtain ⟨a, ha⟩ := exists_rank? hx
  obtain ⟨b, hb⟩ := exists_rank? hy
  have hne : a ≠ b := by
    rintro rfl
    rw [beq_iff_rank?.mpr ⟨a, ha, hb⟩] at h
    cases h
  rcases Int.lt_or_gt_of_ne hne with hlt | hgt
  · exact .inl (lt_iff_rank?.mpr ⟨a, b, ha, hb, hlt⟩)
  · exact .inr (lt_iff_rank?.mpr ⟨b, a, hb, ha, hgt⟩)

/-! ### Quotients, products and sums -/

/-- **Zero divided by what is not zero is zero**, of one sign or the other. -/
theorem unpack_div_of_zero (hx : x.toModel.unpack = .zero s) (hy : y < 0 ∨ 0 < y) :
    ∃ t, (x / y).toModel.unpack = .zero t := by
  have hzero : (0 : Float).toModel.unpack = .zero .positive := rfl
  have hdiv : ∃ t, UnpackedFloat.div .binary64 (.zero s) y.toModel.unpack = .zero t := by
    rw [lt_iff_compare, lt_iff_compare, hzero] at hy
    cases hu : y.toModel.unpack with
    | notANumber | zero t =>
      rw [hu] at hy
      rcases hy with hy | hy <;> cases hy
    | infinity t | finite t n f hn => exact ⟨_, rfl⟩
  obtain ⟨t, ht⟩ := hdiv
  refine ⟨t, ?_⟩
  show (Float.Model.pack (UnpackedFloat.div .binary64 x.toModel.unpack y.toModel.unpack)).unpack = _
  rw [hx, ht]
  exact unpack_packedZero

theorem unpack_mul_of_zero (hx : x.isFinite = true) (hy : y.toModel.unpack = .zero s) :
    ∃ t, (x * y).toModel.unpack = .zero t := by
  replace hx : x.toModel.unpack.isFinite = true := hx
  have hmul : ∃ t, UnpackedFloat.mul .binary64 x.toModel.unpack (.zero s) = .zero t := by
    cases hu : x.toModel.unpack with
    | notANumber | infinity t =>
      rw [hu] at hx
      cases hx
    | zero t | finite t n f hn => exact ⟨_, rfl⟩
  obtain ⟨t, ht⟩ := hmul
  refine ⟨t, ?_⟩
  show (Float.Model.pack (UnpackedFloat.mul .binary64 x.toModel.unpack y.toModel.unpack)).unpack = _
  rw [hy, ht]
  exact unpack_packedZero

/-- Adding zero changes nothing, except negative zero. -/
theorem add_of_unpack_zero (hy : y.toModel.unpack = .zero s)
    (hx : x.toModel.unpack ≠ .zero .negative) : x + y = x := by
  have hadd : UnpackedFloat.add .binary64 x.toModel.unpack (.zero s) = x.toModel.unpack := by
    cases hu : x.toModel.unpack with
    | zero t =>
      cases t with
      | positive => cases s <;> rfl
      | negative => exact absurd hu hx
    | _ => rfl
  have hmodel : (x + y).toModel = x.toModel := by
    show Float.Model.pack (UnpackedFloat.add .binary64 x.toModel.unpack y.toModel.unpack) = _
    rw [hy, hadd]
    exact (eq_pack_of_unpack rfl).symm
  exact congrArg Float.ofModel hmodel

theorem beq_self_of_isFinite (hx : x.isFinite = true) : (x == x) = true :=
  (beq_iff_rank hx hx).mpr rfl

/-- **Adding zero changes nothing**: negative zero may become zero, which is equal to it. -/
theorem add_beq_of_zero (hx : x.isFinite = true) (hy : y.toModel.unpack = .zero s) :
    (x + y == x) = true := by
  by_cases hzero : x.toModel.unpack = .zero .negative
  · have hadd : ∃ t, UnpackedFloat.add .binary64 (.zero .negative) (.zero s) = .zero t := by
      cases s <;> exact ⟨_, rfl⟩
    obtain ⟨t, ht⟩ := hadd
    have hsum : (x + y).toModel.unpack = .zero t := by
      show (Float.Model.pack
        (UnpackedFloat.add .binary64 x.toModel.unpack y.toModel.unpack)).unpack = _
      rw [hzero, hy, ht]
      exact unpack_packedZero
    rw [beq_iff_compare, hsum, hzero]
    rfl
  · rw [add_of_unpack_zero hy hzero]
    exact beq_self_of_isFinite hx

theorem isFinite_of_beq (hy : y.isFinite = true) (h : (x == y) = true) : x.isFinite = true := by
  rw [beq_iff_compare] at h
  replace hy : y.toModel.unpack.isFinite = true := hy
  show x.toModel.unpack.isFinite = true
  cases hu : x.toModel.unpack with
  | zero s | finite s m e hm => rfl
  | notANumber =>
    rw [hu] at h
    cases y.toModel.unpack <;> cases h
  | infinity s =>
    rw [hu, compare_swap y.toModel.unpack] at h
    cases s with
    | negative =>
      rw [(compare_infinity_of_isFinite hy).1] at h
      cases h
    | positive =>
      rw [(compare_infinity_of_isFinite hy).2] at h
      cases h

end Decimal

/-- **A finite float has a number**, which is equal to it: that of negative zero is zero. -/
theorem Number.exists_ofResult? {x : Float} (hx : x.isFinite = true) :
    ∃ n, Number.ofResult? x = some n ∧ (n.toFloat == x) = true := by
  by_cases hzero : x = -0.0
  · have hunpack : x.toModel.unpack = .zero .negative := by
      rw [hzero]
      rfl
    have hwhole : Decimal.whole? x = some 0 := by
      rw [Decimal.whole?, Decimal.ofFloat_eq, hunpack]
      exact congrArg (Option.map (Decimal.signed true)) (Decimal.whole?_zero (-1074))
    refine ⟨.int 0, ?_, ?_⟩
    · rw [Number.ofResult?, hwhole]
      exact if_pos (Nat.zero_le exactBound)
    · have hresult : (Number.int 0).toFloat.toModel.unpack = .zero .positive := rfl
      rw [Decimal.beq_iff_compare, hresult, hunpack]
      rfl
  · have hresult := Number.map_toFloat_ofResult? hzero
    rw [if_pos hx, Option.map_eq_some_iff] at hresult
    obtain ⟨n, hn, rfl⟩ := hresult
    exact ⟨n, hn, Decimal.beq_self_of_isFinite hx⟩

end MapStyle
