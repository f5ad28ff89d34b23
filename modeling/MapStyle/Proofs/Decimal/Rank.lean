/-
The finite floats in a row.

A finite float has a rank, an integer made of its sign, its exponent and its mantissa, in that
order of weight.  Finite floats compare as their ranks do, so that what holds of the order of the
integers holds of theirs; both zeros have the rank 0.

* `rank`, `compare_eq_compare_rank` — the rank and what it is for;
* `le_iff_rank`, `beq_iff_rank` — the comparisons of finite floats;
* `not_lt_of_le`, `lt_of_not_le` — of two floats, also of infinite ones, one is not less, and the
  other is less or equal unless one of them is NaN;
* `isFinite_of_lt_of_le` — what lies between finite floats is finite;
* `unpack_sub_of_beq`, `abs_sub_lt_epsilon` — the difference of equal floats is zero, so that they
  are less than `epsilon` apart.
-/
import MapStyle.Expression.Blend
import MapStyle.Proofs.Decimal.Order

namespace MapStyle.Decimal

open Float.Model Float.Model.UnpackedFloat

/-- The place of a finite value among all of them. -/
def rank : UnpackedFloat → Int
  | .finite s m e _ => s.apply ((e + 1075) * 2 ^ 53 + m)
  | _ => 0

/-- Mantissas are too small to make up for an exponent. -/
theorem compare_then_compare {e f : Int} {m n : Nat} (hm : m < 2 ^ 53) (hn : n < 2 ^ 53) :
    (compare e f).then (compare m n) =
      compare ((e + 1075) * 2 ^ 53 + m) ((f + 1075) * 2 ^ 53 + n) := by
  rcases Int.lt_trichotomy e f with hlt | rfl | hgt
  · have hrank : (e + 1075) * 2 ^ 53 + m < (f + 1075) * 2 ^ 53 + n := by omega
    rw [Int.compare_eq_lt.mpr hlt, Int.compare_eq_lt.mpr hrank]
    rfl
  · rw [Int.compare_eq_eq.mpr rfl]
    show compare m n = _
    rcases Nat.lt_trichotomy m n with hlt | rfl | hgt
    · rw [Nat.compare_eq_lt.mpr hlt, Int.compare_eq_lt.mpr (by omega)]
    · rw [Nat.compare_eq_eq.mpr rfl, Int.compare_eq_eq.mpr rfl]
    · rw [Nat.compare_eq_gt.mpr hgt, Int.compare_eq_gt.mpr (by omega)]
  · have hrank : (f + 1075) * 2 ^ 53 + n < (e + 1075) * 2 ^ 53 + m := by omega
    rw [Int.compare_eq_gt.mpr hgt, Int.compare_eq_gt.mpr hrank]
    rfl

theorem compare_neg_neg (a b : Int) : compare (-a) (-b) = (compare a b).swap := by
  rw [← Std.OrientedOrd.eq_swap]
  rcases Int.lt_trichotomy b a with hlt | rfl | hgt
  · rw [Int.compare_eq_lt.mpr hlt, Int.compare_eq_lt.mpr (by omega)]
  · rw [Int.compare_eq_eq.mpr rfl, Int.compare_eq_eq.mpr rfl]
  · rw [Int.compare_eq_gt.mpr hgt, Int.compare_eq_gt.mpr (by omega)]

variable {x y z : Float}

/-- What is not zero has a mantissa that fits, and a rank on the side of its sign. -/
theorem bounds_of_unpack {x : Float.Model} {s : Sign} {m : Nat} {e : Int} {hm : 0 < m}
    (h : x.unpack = .finite s m e hm) : m < 2 ^ 53 ∧ 0 < (e + 1075) * 2 ^ 53 + (m : Int) := by
  rcases unpack_finite_cases h with hnormal | ⟨hsmall, rfl⟩
  · have hhigh := hnormal.high
    have hleast := hnormal.least
    omega
  · omega

/-- **Finite floats compare as their ranks do.** -/
theorem compare_eq_compare_rank (hx : x.isFinite = true) (hy : y.isFinite = true) :
    x.toModel.unpack.compare y.toModel.unpack =
      some (compare (rank x.toModel.unpack) (rank y.toModel.unpack)) := by
  replace hx : x.toModel.unpack.isFinite = true := hx
  replace hy : y.toModel.unpack.isFinite = true := hy
  cases hu : x.toModel.unpack with
  | notANumber | infinity s =>
    rw [hu] at hx
    cases hx
  | zero s =>
    cases hv : y.toModel.unpack with
    | notANumber | infinity t =>
      rw [hv] at hy
      cases hy
    | zero t => rfl
    | finite t n f hn =>
      obtain ⟨-, hpos⟩ := bounds_of_unpack hv
      cases t
      · exact congrArg some (Int.compare_eq_gt.mpr (Int.neg_neg_of_pos hpos)).symm
      · exact congrArg some (Int.compare_eq_lt.mpr hpos).symm
  | finite s m e hm =>
    obtain ⟨hm, hxpos⟩ := bounds_of_unpack hu
    cases hv : y.toModel.unpack with
    | notANumber | infinity t =>
      rw [hv] at hy
      cases hy
    | zero t =>
      cases s
      · exact congrArg some (Int.compare_eq_lt.mpr (Int.neg_neg_of_pos hxpos)).symm
      · exact congrArg some (Int.compare_eq_gt.mpr hxpos).symm
    | finite t n f hn =>
      obtain ⟨hn, hypos⟩ := bounds_of_unpack hv
      cases s <;> cases t
      · -- Of two negative values the ranks are turned round.
        rw [UnpackedFloat.compare, compare_then_compare hm hn]
        exact congrArg some (compare_neg_neg _ _).symm
      · exact congrArg some (Int.compare_eq_lt.mpr (by simp only [rank, Sign.apply]; omega)).symm
      · exact congrArg some (Int.compare_eq_gt.mpr (by simp only [rank, Sign.apply]; omega)).symm
      · rw [UnpackedFloat.compare, compare_then_compare hm hn]
        rfl

theorem le_iff_rank (hx : x.isFinite = true) (hy : y.isFinite = true) :
    x ≤ y ↔ rank x.toModel.unpack ≤ rank y.toModel.unpack := by
  rw [le_iff_compare, compare_eq_compare_rank hx hy, Option.any_some, Int.isLE_compare]

theorem beq_iff_rank (hx : x.isFinite = true) (hy : y.isFinite = true) :
    (x == y) = true ↔ rank x.toModel.unpack = rank y.toModel.unpack := by
  rw [beq_iff_compare, compare_eq_compare_rank hx hy, Option.some_inj, Int.compare_eq_eq]

theorem le_total_of_isFinite (hx : x.isFinite = true) (hy : y.isFinite = true) :
    x ≤ y ∨ y ≤ x := by
  rw [le_iff_rank hx hy, le_iff_rank hy hx]
  exact Int.le_total _ _

theorem le_refl_of_isFinite (hx : x.isFinite = true) : x ≤ x :=
  (le_total_of_isFinite hx hx).elim id id

/-- Whatever two values are, their order is turned round with them. -/
theorem compare_swap (u v : UnpackedFloat) : v.compare u = (u.compare v).map Ordering.swap := by
  by_cases hfinite : u.isFinite = true ∧ v.isFinite = true
  · obtain ⟨o, ho, hswap⟩ := exists_compare hfinite.1 hfinite.2
    rw [ho, hswap]
    rfl
  · cases u with
    | notANumber => cases v <;> rfl
    | infinity s =>
      cases v with
      | notANumber => rfl
      | infinity t => cases s <;> cases t <;> rfl
      | zero t | finite t n f hn => cases s <;> rfl
    | zero s | finite s m e hm =>
      cases v with
      | notANumber => rfl
      | infinity t => cases t <;> rfl
      | zero t | finite t n f hn => exact absurd ⟨rfl, rfl⟩ hfinite

theorem not_lt_of_le (h : y ≤ x) : ¬ x < y := by
  rw [le_iff_compare, compare_swap] at h
  rw [lt_iff_compare]
  intro hlt
  rw [hlt] at h
  exact Bool.false_ne_true h

theorem not_le_of_lt (h : x < y) : ¬ y ≤ x := fun hle => not_lt_of_le hle h

/-! ### What is not finite -/

/-- Only NaN has no order. -/
theorem compare_ne_none {u v : UnpackedFloat} (hu : u.isNaN = false) (hv : v.isNaN = false) :
    u.compare v ≠ none := by
  by_cases hfinite : u.isFinite = true ∧ v.isFinite = true
  · obtain ⟨o, ho, -⟩ := exists_compare hfinite.1 hfinite.2
    rw [ho]
    exact Option.some_ne_none o
  · cases u with
    | notANumber => cases hu
    | infinity s =>
      cases v with
      | notANumber => cases hv
      | infinity t => cases s <;> cases t <;> exact Option.some_ne_none _
      | zero t | finite t n f hn => cases s <;> exact Option.some_ne_none _
    | zero s | finite s m e hm =>
      cases v with
      | notANumber => cases hv
      | infinity t => cases t <;> exact Option.some_ne_none _
      | zero t | finite t n f hn => exact absurd ⟨rfl, rfl⟩ hfinite

theorem le_of_lt (h : x < y) : x ≤ y := by
  rw [le_iff_compare, lt_iff_compare.mp h]
  rfl

/-- Of two numbers one is no greater than the other; only NaN is no number. -/
theorem lt_of_not_le (hx : x.isNaN = false) (hy : y.isNaN = false) (h : ¬ x ≤ y) : y < x := by
  rw [le_iff_compare] at h
  rw [lt_iff_compare, compare_swap x.toModel.unpack]
  cases ho : x.toModel.unpack.compare y.toModel.unpack with
  | none => exact absurd ho (compare_ne_none hx hy)
  | some o =>
    rw [ho] at h
    cases o with
    | lt | eq => exact absurd rfl h
    | gt => rfl

theorem isNaN_of_isFinite (hx : x.isFinite = true) : x.isNaN = false := by
  replace hx : x.toModel.unpack.isFinite = true := hx
  show x.toModel.unpack.isNaN = false
  cases hu : x.toModel.unpack with
  | notANumber =>
    rw [hu] at hx
    cases hx
  | infinity s | zero s | finite s m e hm => rfl

theorem not_le_of_isNaN (hx : x.isNaN = true) : ¬ x ≤ y := by
  replace hx : x.toModel.unpack.isNaN = true := hx
  rw [le_iff_compare]
  cases hu : x.toModel.unpack with
  | notANumber => cases y.toModel.unpack <;> exact Bool.false_ne_true
  | infinity s | zero s | finite s m e hm =>
    rw [hu] at hx
    cases hx

theorem compare_infinity_of_isFinite {u : UnpackedFloat} (hu : u.isFinite = true) :
    u.compare (.infinity .negative) = some .gt ∧ u.compare (.infinity .positive) = some .lt := by
  cases u with
  | notANumber | infinity s => cases hu
  | zero s | finite s m e hm => exact ⟨rfl, rfl⟩

/-- What lies between two finite floats is finite. -/
theorem isFinite_of_lt_of_le (hx : x.isFinite = true) (hz : z.isFinite = true) (hxy : x < y)
    (hyz : y ≤ z) : y.isFinite = true := by
  rw [lt_iff_compare] at hxy
  rw [le_iff_compare, compare_swap z.toModel.unpack] at hyz
  show y.toModel.unpack.isFinite = true
  cases hy : y.toModel.unpack with
  | zero s | finite s m e hm => rfl
  | notANumber =>
    rw [hy, compare_swap .notANumber] at hyz
    cases hyz
  | infinity s =>
    rw [hy] at hxy hyz
    cases s with
    | negative =>
      rw [(compare_infinity_of_isFinite hx).1] at hxy
      cases hxy
    | positive =>
      rw [(compare_infinity_of_isFinite hz).2] at hyz
      cases hyz

/-! ### Equal floats -/

theorem beq_swap (x y : Float) : (x == y) = (y == x) := by
  rw [Bool.eq_iff_iff, beq_iff_compare, beq_iff_compare, compare_swap x.toModel.unpack]
  cases x.toModel.unpack.compare y.toModel.unpack with
  | none => rfl
  | some o => cases o <;> decide

/-- Equal values have no difference. -/
theorem sub_of_compare {u v : UnpackedFloat} (hu : u.isFinite = true)
    (h : u.compare v = some .eq) : ∃ s, UnpackedFloat.sub .binary64 u v = .zero s := by
  cases v with
  | notANumber => cases u <;> cases h
  | infinity t =>
    cases u with
    | notANumber | infinity s => cases hu
    | zero s | finite s m e hm => cases t <;> cases h
  | zero t =>
    cases u with
    | notANumber | infinity s => cases hu
    | zero s => cases s <;> cases t <;> exact ⟨_, rfl⟩
    | finite s m e hm => cases s <;> cases h
  | finite t n f hn =>
    obtain rfl := eq_of_compare h
    refine ⟨.positive, ?_⟩
    rw [UnpackedFloat.sub]
    simp only [Int.sub_self]
    rfl

theorem unpack_sub_of_beq (hx : x.isFinite = true) (h : (x == y) = true) :
    ∃ s, (x - y).toModel.unpack = .zero s := by
  obtain ⟨s, hsub⟩ := sub_of_compare hx (beq_iff_compare.mp h)
  refine ⟨s, ?_⟩
  show (Float.Model.pack
    (UnpackedFloat.sub .binary64 x.toModel.unpack y.toModel.unpack)).unpack = _
  rw [hsub]
  exact unpack_packedZero

/-- **Equal floats are less than `epsilon` apart.** -/
theorem abs_sub_lt_epsilon (hx : x.isFinite = true) (h : (x == y) = true) :
    (x - y).abs < epsilon := by
  obtain ⟨s, hdifference⟩ := unpack_sub_of_beq hx h
  have habs : (x - y).abs.toModel.unpack = .zero .positive := by
    show (Float.Model.pack (x - y).toModel.unpack.abs).unpack = _
    rw [hdifference]
    exact unpack_packedZero
  have hepsilon : epsilon.toModel.unpack =
      .finite .positive (2 ^ 52) (-104) (Nat.two_pow_pos 52) := by
    rfl
  rw [lt_iff_compare, habs, hepsilon]
  rfl

end MapStyle.Decimal
