/-
All floats but NaN in a row.

The infinities stand before and behind the finite floats, so that every float but NaN has a rank,
and floats compare as their ranks do.  What has no rank has no order, which is why the laws of the
order hold of all floats without a condition, as long as they do not say that one is there.

* `rank?`, `compare_eq_compare_rank?` — the rank, and what it is for;
* `lt_iff_rank?`, `le_iff_rank?`, `beq_iff_rank?` — the comparisons of floats;
* `le_trans`, `lt_of_le_of_lt`, `lt_of_lt_of_le`, `beq_trans` — hence they follow from one another
  along a chain;
* `le_of_not_lt` — and of two numbers one is no greater than the other.
-/
import MapStyle.Proofs.Decimal.Rank

namespace MapStyle.Decimal

open Float.Model Float.Model.UnpackedFloat

/-- The place of a value among all of them; NaN has none. -/
def place? : UnpackedFloat → Option Int
  | .notANumber => none
  | .infinity s => some (s.apply (2 ^ 64))
  | .zero s => some (rank (.zero s))
  | .finite s m e hm => some (rank (.finite s m e hm))

/-- The place of a float. -/
def rank? (x : Float) : Option Int := place? x.toModel.unpack

variable {x y z : Float}

/-! ### Ranks -/

theorem rank?_of_isFinite (hx : x.isFinite = true) : rank? x = some (rank x.toModel.unpack) := by
  replace hx : x.toModel.unpack.isFinite = true := hx
  show place? x.toModel.unpack = _
  cases hu : x.toModel.unpack with
  | notANumber | infinity s =>
    rw [hu] at hx
    cases hx
  | zero s | finite s m e hm => rfl

theorem rank?_eq_none_iff : rank? x = none ↔ x.isNaN = true := by
  show place? x.toModel.unpack = none ↔ x.toModel.unpack.isNaN = true
  cases x.toModel.unpack with
  | notANumber => exact ⟨fun _ => rfl, fun _ => rfl⟩
  | infinity s | zero s | finite s m e hm => exact ⟨nofun, nofun⟩

theorem exists_rank? (hx : x.isNaN = false) : ∃ a, rank? x = some a := by
  refine Option.ne_none_iff_exists'.mp fun hnone => ?_
  rw [rank?_eq_none_iff, hx] at hnone
  exact Bool.false_ne_true hnone

/-- No finite float is as far out as an infinity. -/
theorem rank_bounds (x : Float) :
    -2 ^ 64 < rank x.toModel.unpack ∧ rank x.toModel.unpack < 2 ^ 64 := by
  cases hu : x.toModel.unpack with
  | notANumber | infinity s | zero s =>
    show -2 ^ 64 < (0 : Int) ∧ (0 : Int) < 2 ^ 64
    decide
  | finite s m e hm =>
    have hgreatest : e ≤ 971 := by
      rcases unpack_finite_cases hu with hnormal | ⟨-, rfl⟩
      · exact hnormal.greatest
      · decide
    obtain ⟨hfit, hpos⟩ := bounds_of_unpack hu
    cases s <;> simp only [rank, Sign.apply] <;> omega

/-- **Floats compare as their ranks do**, and what has no rank has no order. -/
theorem compare_eq_compare_rank? (x y : Float) :
    x.toModel.unpack.compare y.toModel.unpack =
      (rank? x).bind fun a => (rank? y).map fun b => compare a b := by
  by_cases hfinite : x.isFinite = true ∧ y.isFinite = true
  · rw [compare_eq_compare_rank hfinite.1 hfinite.2, rank?_of_isFinite hfinite.1,
      rank?_of_isFinite hfinite.2]
    rfl
  -- One of the two is not finite, and the other one is on one side of it or has no rank.
  have hx := rank_bounds x
  have hy := rank_bounds y
  replace hfinite :
    ¬ (x.toModel.unpack.isFinite = true ∧ y.toModel.unpack.isFinite = true) := hfinite
  show _ = (place? x.toModel.unpack).bind fun a => (place? y.toModel.unpack).map (compare a)
  cases hu : x.toModel.unpack with
  | notANumber => rfl
  | infinity s =>
    cases hv : y.toModel.unpack with
    | notANumber => cases s <;> rfl
    | infinity t => cases s <;> cases t <;> rfl
    | zero t | finite t n f hn =>
      rw [hv] at hy
      cases s with
      | negative => exact congrArg some (Int.compare_eq_lt.mpr hy.1).symm
      | positive => exact congrArg some (Int.compare_eq_gt.mpr hy.2).symm
  | zero s | finite s m e hm =>
    rw [hu] at hx hfinite
    cases hv : y.toModel.unpack with
    | notANumber => rfl
    | infinity t =>
      cases t with
      | negative => exact congrArg some (Int.compare_eq_gt.mpr hx.1).symm
      | positive => exact congrArg some (Int.compare_eq_lt.mpr hx.2).symm
    | zero t | finite t n f hn =>
      rw [hv] at hfinite
      exact absurd ⟨rfl, rfl⟩ hfinite

/-! ### The order -/

theorem compare_eq_some_iff {o : Ordering} :
    x.toModel.unpack.compare y.toModel.unpack = some o ↔
      ∃ a b, rank? x = some a ∧ rank? y = some b ∧ compare a b = o := by
  rw [compare_eq_compare_rank?, Option.bind_eq_some_iff]
  constructor
  · rintro ⟨a, hx, h⟩
    obtain ⟨b, hy, ho⟩ := Option.map_eq_some_iff.mp h
    exact ⟨a, b, hx, hy, ho⟩
  · rintro ⟨a, b, hx, hy, ho⟩
    exact ⟨a, hx, Option.map_eq_some_iff.mpr ⟨b, hy, ho⟩⟩

theorem lt_iff_rank? : x < y ↔ ∃ a b, rank? x = some a ∧ rank? y = some b ∧ a < b := by
  simp only [lt_iff_compare, compare_eq_some_iff, Int.compare_eq_lt]

theorem le_iff_rank? : x ≤ y ↔ ∃ a b, rank? x = some a ∧ rank? y = some b ∧ a ≤ b := by
  rw [le_iff_compare, Option.any_eq_true]
  constructor
  · rintro ⟨o, ho, hle⟩
    obtain ⟨a, b, hx, hy, rfl⟩ := compare_eq_some_iff.mp ho
    exact ⟨a, b, hx, hy, Int.isLE_compare.mp hle⟩
  · rintro ⟨a, b, hx, hy, hle⟩
    exact ⟨compare a b, compare_eq_some_iff.mpr ⟨a, b, hx, hy, rfl⟩, Int.isLE_compare.mpr hle⟩

theorem beq_iff_rank? : (x == y) = true ↔ ∃ a, rank? x = some a ∧ rank? y = some a := by
  rw [beq_iff_compare, compare_eq_some_iff]
  constructor
  · rintro ⟨a, b, hx, hy, h⟩
    obtain rfl := Int.compare_eq_eq.mp h
    exact ⟨a, hx, hy⟩
  · rintro ⟨a, hx, hy⟩
    exact ⟨a, a, hx, hy, Int.compare_eq_eq.mpr rfl⟩

theorem le_of_beq (h : (x == y) = true) : x ≤ y := by
  obtain ⟨a, hx, hy⟩ := beq_iff_rank?.mp h
  exact le_iff_rank?.mpr ⟨a, a, hx, hy, Int.le_refl a⟩

theorem le_trans (hxy : x ≤ y) (hyz : y ≤ z) : x ≤ z := by
  obtain ⟨a, b, hx, hy, hab⟩ := le_iff_rank?.mp hxy
  obtain ⟨b', c, hy', hz, hbc⟩ := le_iff_rank?.mp hyz
  obtain rfl := Option.some.inj (hy.symm.trans hy')
  exact le_iff_rank?.mpr ⟨a, c, hx, hz, Int.le_trans hab hbc⟩

theorem lt_of_le_of_lt (hxy : x ≤ y) (hyz : y < z) : x < z := by
  obtain ⟨a, b, hx, hy, hab⟩ := le_iff_rank?.mp hxy
  obtain ⟨b', c, hy', hz, hbc⟩ := lt_iff_rank?.mp hyz
  obtain rfl := Option.some.inj (hy.symm.trans hy')
  exact lt_iff_rank?.mpr ⟨a, c, hx, hz, Int.lt_of_le_of_lt hab hbc⟩

theorem lt_of_lt_of_le (hxy : x < y) (hyz : y ≤ z) : x < z := by
  obtain ⟨a, b, hx, hy, hab⟩ := lt_iff_rank?.mp hxy
  obtain ⟨b', c, hy', hz, hbc⟩ := le_iff_rank?.mp hyz
  obtain rfl := Option.some.inj (hy.symm.trans hy')
  exact lt_iff_rank?.mpr ⟨a, c, hx, hz, Int.lt_of_lt_of_le hab hbc⟩

theorem lt_trans (hxy : x < y) (hyz : y < z) : x < z := lt_of_le_of_lt (le_of_lt hxy) hyz

theorem beq_trans (hxy : (x == y) = true) (hyz : (y == z) = true) : (x == z) = true := by
  obtain ⟨a, hx, hy⟩ := beq_iff_rank?.mp hxy
  obtain ⟨b, hy', hz⟩ := beq_iff_rank?.mp hyz
  obtain rfl := Option.some.inj (hy.symm.trans hy')
  exact beq_iff_rank?.mpr ⟨a, hx, hz⟩

/-- What is less than something is a number. -/
theorem isNaN_eq_false_of_lt (h : x < y) : x.isNaN = false := by
  obtain ⟨a, b, ha, -, -⟩ := lt_iff_rank?.mp h
  rw [← Bool.not_eq_true, ← rank?_eq_none_iff, ha]
  exact Option.some_ne_none a

/-- Of two numbers one is no greater than the other. -/
theorem le_of_not_lt (hx : x.isNaN = false) (hy : y.isNaN = false) (h : ¬ x < y) : y ≤ x := by
  obtain ⟨a, ha⟩ := exists_rank? hx
  obtain ⟨b, hb⟩ := exists_rank? hy
  refine le_iff_rank?.mpr ⟨b, a, hb, ha, Int.not_lt.mp fun hlt => ?_⟩
  exact h (lt_iff_rank?.mpr ⟨a, b, ha, hb, hlt⟩)

end MapStyle.Decimal
