/-
Whole floats.

Up to `2 ^ 53` a whole number needs no more bits than the mantissa of a float has, so nothing
is rounded when it is made one, and a float that is whole comes back from its integer.

* `round_whole` — a whole number that fits is not rounded;
* `ofInt_of_whole?` — a whole float is the float of its integer, unless it is negative zero;
* `Number.map_toFloat_ofResult?` — a computed number is the float that it was made of.
-/
import MapStyle.Json.Basic
import MapStyle.Proofs.Decimal.Rounding

namespace MapStyle

namespace Decimal

open Float.Model Float.Model.UnpackedFloat

/-! ### Rounding -/

variable {m n k : Nat} {e : Int}

/-- A whole number is rounded to itself, moved up until it has its leading one. -/
theorem round_whole (s : Sign) (h : IsNormal (n * 2 ^ k) (-k)) :
    UnpackedFloat.round .binary64 s n 0 = .finite s (n * 2 ^ k) (-k) h.pos := by
  have hheld : IsHeld .binary64 (n * 2 ^ k) (0 - k) := by
    rw [Int.zero_sub]
    exact h.isHeld
  have hround := hheld.round_of_moved s
  simpa only [Int.zero_sub] using hround

/-- The product with 1, whose mantissa is the leading one alone. -/
theorem mul_one_unpacked (s : Sign) (h : IsNormal m e) :
    UnpackedFloat.mul .binary64 (.finite s m e h.pos)
      (.finite .positive (2 ^ 52) (-52) (Nat.two_pow_pos 52)) = .finite s m e h.pos := by
  have hsign : s * .positive = s := by cases s <;> rfl
  rw [UnpackedFloat.mul, hsign]
  exact h.isHeld.roundWithAccuracy_mul_two_pow s 52

/-! ### The float of a whole number -/

theorem toModel_ofNat (h : IsNormal (n * 2 ^ k) (-k)) :
    (Float.ofNat n).toModel = .pack (.finite .positive (n * 2 ^ k) (-k) h.pos) := by
  have hn : n < 2 ^ 53 :=
    Nat.lt_of_le_of_lt (Nat.le_mul_of_pos_right n (Nat.two_pow_pos k)) h.high
  have hpos : 0 < n := Nat.pos_of_mul_pos_right h.pos
  have hword : n.toUInt64.toNat = n := UInt64.toNat_ofNat_of_lt' (by show n < 2 ^ 64; omega)
  have hinteger : Float.Model.ofUInt64 n.toUInt64 =
      .pack (.finite .positive (n * 2 ^ k) (-k) h.pos) := by
    have hcompare : compare (n : Int) 0 = .gt := by
      rw [Int.compare_eq_gt]
      omega
    rw [Float.Model.ofUInt64, UnpackedFloat.ofUInt64, hword, UnpackedFloat.ofNat,
      UnpackedFloat.ofInt, UnpackedFloat.normalize]
    simp only [hcompare, Int.toNat_natCast]
    rw [round_whole .positive h]
  have hone : (getElem Float.exactlyRepresentablePowersOfTen 0 (by decide)).toModel.unpack =
      .finite .positive (2 ^ 52) (-52) (Nat.two_pow_pos 52) := rfl
  -- The float is made as a decimal, with the power of ten that is 1.
  show (Float.ofScientific n false 0).toModel = _
  rw [Float.ofScientific, dif_pos ⟨hn, Nat.zero_le 22⟩]
  show Float.Model.pack (UnpackedFloat.mul .binary64 (Float.Model.ofUInt64 n.toUInt64).unpack
    (getElem Float.exactlyRepresentablePowersOfTen 0 (by decide)).toModel.unpack) = _
  rw [hinteger, h.unpack_pack, hone, mul_one_unpacked _ h]

theorem ofInt_neg_natCast (hn : 0 < n) : Float.ofInt (-(n : Int)) = (Float.ofNat n).neg := by
  cases n with
  | zero => exact absurd hn (Nat.lt_irrefl 0)
  | succ n => rfl

/-! ### Floats that are whole -/

theorem whole?_zero (e : Int) : Magnitude.whole? ⟨0, e⟩ = some 0 := by
  cases e <;> simp [Magnitude.whole?]

theorem whole?_cases (h : Magnitude.whole? ⟨m, e⟩ = some n) :
    ∃ k : Nat, (e = k ∧ n = m * 2 ^ k) ∨ (e = -k ∧ m = n * 2 ^ k) := by
  rw [Magnitude.whole?] at h
  cases e with
  | ofNat e =>
    obtain rfl : m * 2 ^ e = n := Option.some.inj h
    exact ⟨e, .inl ⟨rfl, rfl⟩⟩
  | negSucc e =>
    by_cases hmod : m % Nat.pow 2 (e + 1) = 0
    · obtain rfl : m / Nat.pow 2 (e + 1) = n := Option.some.inj ((if_pos hmod).symm.trans h)
      exact ⟨e + 1, .inr ⟨rfl, (Nat.div_mul_cancel (Nat.dvd_of_mod_eq_zero hmod)).symm⟩⟩
    · exact nomatch (if_neg hmod).symm.trans h

theorem pos_of_whole? (hm : 0 < m) (h : Magnitude.whole? ⟨m, e⟩ = some n) : 0 < n := by
  obtain ⟨k, ⟨-, rfl⟩ | ⟨-, rfl⟩⟩ := whole?_cases h
  · exact Nat.mul_pos hm (Nat.two_pow_pos k)
  · exact Nat.pos_of_mul_pos_right hm

/-- A whole number of at most 53 bits is a mantissa moved down, and the next one is the least
mantissa moved up by one place. -/
theorem whole?_normal_cases (hnormal : IsNormal m e) (h : Magnitude.whole? ⟨m, e⟩ = some n)
    (hn : n ≤ 2 ^ 53) :
    (∃ k : Nat, e = -k ∧ m = n * 2 ^ k) ∨ (n = 2 ^ 53 ∧ m = 2 ^ 52 ∧ e = 1) := by
  have hlow := hnormal.low
  obtain ⟨k, ⟨rfl, rfl⟩ | ⟨rfl, rfl⟩⟩ := whole?_cases h
  · rcases k with _ | _ | k
    · exact .inl ⟨0, rfl, by rw [Nat.pow_zero, Nat.mul_one, Nat.mul_one]⟩
    · exact .inr ⟨by omega, by omega, rfl⟩
    · have hpow : 2 ^ 2 ≤ 2 ^ (k + 1 + 1) := Nat.pow_le_pow_right Nat.two_pos (by omega)
      have hle : m * 2 ^ 2 ≤ m * 2 ^ (k + 1 + 1) := Nat.mul_le_mul_left m hpow
      omega
  · exact .inl ⟨k, rfl, rfl⟩

theorem toModel_ofNat_of_whole? (hnormal : IsNormal m e)
    (h : Magnitude.whole? ⟨m, e⟩ = some n) (hn : n ≤ 2 ^ 53) :
    (Float.ofNat n).toModel = .pack (.finite .positive m e hnormal.pos) := by
  rcases whole?_normal_cases hnormal h hn with ⟨k, rfl, rfl⟩ | ⟨rfl, rfl, rfl⟩
  · exact toModel_ofNat hnormal
  · rfl

theorem ofInt_signed_of_whole? {x : Float.Model} {s : Sign} (hnormal : IsNormal m e)
    (hx : x.unpack = .finite s m e hnormal.pos) (h : Magnitude.whole? ⟨m, e⟩ = some n)
    (hn : n ≤ 2 ^ 53) : Float.ofInt (signed (isNegative s) n) = .ofModel x := by
  have hnat : (Float.ofNat n).toModel = .pack (.finite .positive m e hnormal.pos) :=
    toModel_ofNat_of_whole? hnormal h hn
  rw [eq_pack_of_unpack hx]
  cases s with
  | positive =>
    rw [← hnat]
    rfl
  | negative =>
    show Float.ofInt (-(n : Int)) = _
    rw [ofInt_neg_natCast (pos_of_whole? hnormal.pos h)]
    show Float.ofModel (.pack (Float.ofNat n).toModel.unpack.neg) = _
    rw [hnat, hnormal.unpack_pack]
    rfl

theorem natAbs_signed (negative : Bool) (n : Nat) : (signed negative n).natAbs = n := by
  cases negative
  · rfl
  · exact Int.natAbs_neg n

/-- **A whole float is the float of its integer**, up to the greatest size at which every
integer is a float; only negative zero has lost its sign. -/
theorem ofInt_of_whole? {x : Float} {n : Int} (h : whole? x = some n) (hn : n.natAbs ≤ 2 ^ 53)
    (hx : x ≠ -0.0) : Float.ofInt n = x := by
  obtain ⟨x⟩ := x
  rw [whole?, ofFloat_eq] at h
  cases hu : x.unpack with
  | notANumber | infinity s =>
    simp only [hu, Reading.ofUnpacked] at h
    exact nomatch h
  | zero s =>
    simp only [hu, Reading.ofUnpacked] at h
    rw [eq_pack_of_unpack hu] at hx ⊢
    cases s with
    | negative => exact absurd rfl hx
    | positive =>
      rw [whole?_zero] at h
      obtain rfl : 0 = n := Option.some.inj h
      rfl
  | finite s m e hm =>
    simp only [hu, Reading.ofUnpacked] at h
    obtain ⟨k, hk, rfl⟩ := Option.map_eq_some_iff.mp h
    rw [natAbs_signed] at hn
    rcases unpack_finite_cases hu with hnormal | ⟨hsmall, rfl⟩
    · exact ofInt_signed_of_whole? hnormal hu hk hn
    · -- A value without a leading one is far too small for a whole number.
      obtain ⟨j, ⟨hj, -⟩ | ⟨hj, rfl⟩⟩ := whole?_cases hk
      · omega
      · have hpow : 2 ^ 52 ≤ 2 ^ j := Nat.pow_le_pow_right Nat.two_pos (by omega)
        have hle : 2 ^ j ≤ k * 2 ^ j := Nat.le_mul_of_pos_left _ (pos_of_whole? hm hk)
        omega

theorem isFinite_of_whole? {x : Float} {n : Int} (h : whole? x = some n) : x.isFinite = true := by
  rw [whole?, ofFloat_eq] at h
  show x.toModel.unpack.isFinite = true
  cases hu : x.toModel.unpack with
  | notANumber | infinity s =>
    simp only [hu, Reading.ofUnpacked] at h
    exact nomatch h
  | zero s | finite s m e hm => rfl

end Decimal

theorem Number.map_toFloat_ofFinite? (x : Float) :
    (Number.ofFinite? x).map Number.toFloat = if x.isFinite then some x else none := by
  rw [Number.ofFinite?]
  split <;> rfl

/-- A computed number is a JSON number just if it is finite. -/
theorem Number.isSome_ofResult? (x : Float) : (Number.ofResult? x).isSome = x.isFinite := by
  rw [Number.ofResult?]
  cases h : Decimal.whole? x with
  | none =>
    show (Number.ofFinite? x).isSome = _
    rw [Number.ofFinite?]
    cases x.isFinite <;> rfl
  | some n =>
    show (if n.natAbs ≤ exactBound then some (Number.int n) else some (.float x)).isSome = _
    rw [Decimal.isFinite_of_whole? h]
    split <;> rfl

/-- A computed number counts as the float that it was made of, whether it became an integer or
not; negative zero becomes zero. -/
theorem Number.map_toFloat_ofResult? {x : Float} (hx : x ≠ -0.0) :
    (Number.ofResult? x).map Number.toFloat = if x.isFinite then some x else none := by
  rw [Number.ofResult?]
  cases h : Decimal.whole? x with
  | none => exact Number.map_toFloat_ofFinite? x
  | some n =>
    show (if n.natAbs ≤ exactBound then some (Number.int n) else some (.float x)).map _ = _
    rw [if_pos (Decimal.isFinite_of_whole? h)]
    by_cases hn : n.natAbs ≤ exactBound
    · rw [if_pos hn, Option.map_some, Number.toFloat, Decimal.ofInt_of_whole? h hn hx]
    · rw [if_neg hn, Option.map_some, Number.toFloat]

end MapStyle
