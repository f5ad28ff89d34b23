/-
The order of finite floats.

Floats are compared unpacked.  Of two finite ones one is less, or they are equal, or the other
is less; only NaN has no order, and of two zeros neither is less whatever their signs are.

* `exists_compare` — two finite values have an order, which is turned round with them;
* `eq_of_beq` — what is equal to a float that is not zero is that float;
* `exists_floatOrder?` — and so have two finite floats, whichever of the comparisons is asked.
-/
import Mathlib
import MapStyle.Expression.Comparison
import MapStyle.Proofs.Decimal.Packing

namespace MapStyle

namespace Decimal

open Float.Model

/-- Two finite values have an order, and the opposite one the other way round. -/
theorem exists_compare {u v : UnpackedFloat} (hu : u.isFinite = true) (hv : v.isFinite = true) :
    ∃ o, u.compare v = some o ∧ v.compare u = some o.swap := by
  cases u with
  | notANumber | infinity s => exact nomatch hu
  | zero s =>
    cases v with
    | notANumber | infinity t => exact nomatch hv
    | zero t => exact ⟨.eq, rfl, rfl⟩
    | finite t m e hm => cases t <;> exact ⟨_, rfl, rfl⟩
  | finite s m e hm =>
    cases v with
    | notANumber | infinity t => exact nomatch hv
    | zero t => cases s <;> exact ⟨_, rfl, rfl⟩
    | finite t n f hn =>
      -- Of the same sign, the exponents come first and then the mantissas.
      have hswap : (compare f e).then (compare n m) = ((compare e f).then (compare m n)).swap := by
        rw [Ordering.swap_then, ← Std.OrientedOrd.eq_swap, ← Std.OrientedOrd.eq_swap]
      cases s <;> cases t
      · exact ⟨_, rfl, by rw [UnpackedFloat.compare, hswap]⟩
      · exact ⟨.lt, rfl, rfl⟩
      · exact ⟨.gt, rfl, rfl⟩
      · exact ⟨_, rfl, by rw [UnpackedFloat.compare, hswap]⟩

theorem eq_of_compare_then {e f : Int} {m n : Nat}
    (h : (compare e f).then (compare m n) = .eq) : e = f ∧ m = n := by
  obtain ⟨hexponent, hmantissa⟩ := Ordering.then_eq_eq.mp h
  exact ⟨Std.LawfulEqCmp.eq_of_compare hexponent, Std.LawfulEqCmp.eq_of_compare hmantissa⟩

/-- Of each value that is not zero there is only one float. -/
theorem eq_of_compare {u : UnpackedFloat} {s : UnpackedFloat.Sign} {m : Nat} {e : Int} {hm : 0 < m}
    (h : u.compare (.finite s m e hm) = some .eq) : u = .finite s m e hm := by
  cases u with
  | notANumber => exact nomatch h
  | infinity t => cases t <;> exact nomatch h
  | zero t => cases s <;> exact nomatch h
  | finite t n f hn =>
    cases s <;> cases t
    · -- Negative values have the opposite order, in which equal ones are equal too.
      obtain ⟨rfl, rfl⟩ := eq_of_compare_then (Ordering.swap_eq_eq.mp (Option.some.inj h))
      rfl
    · exact nomatch h
    · exact nomatch h
    · obtain ⟨rfl, rfl⟩ := eq_of_compare_then (Option.some.inj h)
      rfl

variable {x y : Float}

theorem lt_iff_compare : x < y ↔ x.toModel.unpack.compare y.toModel.unpack = some .lt := by
  have hmodel : x < y ↔ x.toModel < y.toModel := decide_eq_true_iff
  rw [hmodel, ← beq_iff_eq]
  exact Iff.rfl

theorem beq_iff_compare :
    (x == y) = true ↔ x.toModel.unpack.compare y.toModel.unpack = some .eq := by
  show (x.toModel.unpack.compare y.toModel.unpack == some .eq) = true ↔ _
  exact beq_iff_eq

theorem eq_of_beq {s : UnpackedFloat.Sign} {m : Nat} {e : Int} {hm : 0 < m}
    (hy : y.toModel.unpack = .finite s m e hm) (h : (x == y) = true) : x = y := by
  have hcompare := beq_iff_compare.mp h
  rw [hy] at hcompare
  have hunpack : x.toModel.unpack = y.toModel.unpack := (eq_of_compare hcompare).trans hy.symm
  obtain ⟨x⟩ := x
  obtain ⟨y⟩ := y
  rw [eq_pack_of_unpack (x := x) rfl, eq_pack_of_unpack (x := y) rfl, hunpack]

theorem le_iff_compare : x ≤ y ↔ (x.toModel.unpack.compare y.toModel.unpack).any (·.isLE) = true :=
  decide_eq_true_iff

end Decimal

open Decimal

/-- **Two finite floats have an order**, and one is at most the other just if it is not greater. -/
theorem Json.exists_floatOrder? {x y : Float} (hx : x.isFinite = true) (hy : y.isFinite = true) :
    ∃ o, floatOrder? x y = some o ∧ (y ≤ x ↔ o ≠ .lt) := by
  obtain ⟨o, ho, hswap⟩ := exists_compare (u := x.toModel.unpack) (v := y.toModel.unpack) hx hy
  refine ⟨o, ?_, ?_⟩
  · rw [floatOrder?]
    simp only [lt_iff_compare, beq_iff_compare, ho, hswap, Option.some_inj]
    cases o <;> rfl
  · rw [le_iff_compare, hswap]
    cases o <;> decide

end MapStyle
