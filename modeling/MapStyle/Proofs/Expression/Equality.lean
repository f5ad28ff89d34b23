/-
Equality of values in the style language.

Numbers are equal when their floats are, lists when they have equal items in the same places, and
an object equals nothing, not even itself.  That is all that is missing from an equivalence:
equality goes both ways and along a chain, and a value is equal to itself unless an object stands
somewhere in it.

* `Json.same_comm`, `Json.same_trans` — equality goes both ways, and along a chain;
* `Json.same_congr`, `Json.same_cases` — equal values are equal to the same values, and of one type;
* `Json.hasObject` — an object stands somewhere in a value;
* `Json.same_self` — what equals itself;
* `Json.fits_of_isArray_eq_false` — a label that is no list fits what it is equal to.
-/
import MapStyle.Expression.Apply
import MapStyle.Proofs.Decimal.Zeros
import MapStyle.Proofs.StopFunction.Written

namespace MapStyle

namespace Json

variable {a b c : Json}

/-- **Equality goes both ways**, at every depth. -/
theorem same_comm (a b : Json) : a.same b = b.same a := by
  -- Along both values at once, and item by item along two lists.
  induction a, b using same.induct (motive_2 := fun as bs => sameItems as bs = sameItems bs as) with
  | case1 => rfl
  | case2 a b => rw [same, same, Bool.beq_comm]
  | case3 a b => rw [same, same, Decimal.beq_swap]
  | case4 a b => rw [same, same, BEq.comm]
  | case5 as bs ih => rw [same, same, ih]
  | case6 a b hnull hbool hnumber hstring harray =>
    rw [same.eq_6 a b hnull hbool hnumber hstring harray,
      same.eq_6 b a (fun hb ha => hnull ha hb) (fun x y hb ha => hbool y x ha hb)
        (fun x y hb ha => hnumber y x ha hb) (fun x y hb ha => hstring y x ha hb)
        (fun x y hb ha => harray y x ha hb)]
  | case7 => rfl
  | case8 a as b bs iha ihas => rw [sameItems, sameItems, iha, ihas]
  | case9 as bs hnil hcons =>
    rw [sameItems.eq_3 as bs hnil hcons,
      sameItems.eq_3 bs as (fun hb ha => hnil ha hb) fun y ys x xs hb ha => hcons x xs y ys ha hb]

/-- **Equality goes along a chain**, at every depth. -/
theorem same_trans (hab : a.same b = true) (hbc : b.same c = true) : a.same c = true := by
  -- Along the first two values at once, whatever the third one is.
  induction a, b using same.induct
    (motive_2 := fun as bs => ∀ cs, sameItems as bs = true → sameItems bs cs = true →
      sameItems as cs = true) generalizing c with
  | case1 => exact hbc
  | case2 a b | case4 a b =>
    rw [same, beq_iff_eq] at hab
    rwa [hab]
  | case3 a b =>
    cases c with
    | number c => exact Decimal.beq_trans hab hbc
    | _ => cases hbc
  | case5 as bs ih =>
    cases c with
    | array cs => exact ih cs hab hbc
    | _ => cases hbc
  | case6 a b hnull hbool hnumber hstring harray =>
    rw [same.eq_6 a b hnull hbool hnumber hstring harray] at hab
    cases hab
  | case7 cs hab hbc => exact hbc
  | case8 a as b bs iha ihas cs hab hbc =>
    cases cs with
    | nil => cases hbc
    | cons c cs =>
      rw [sameItems, Bool.and_eq_true] at hab hbc ⊢
      exact ⟨iha hab.1 hbc.1, ihas cs hab.2 hbc.2⟩
  | case9 as bs hnil hcons cs hab hbc =>
    rw [sameItems.eq_3 as bs hnil hcons] at hab
    cases hab

/-- Equal values are equal to the same values. -/
theorem same_congr (h : a.same b = true) (v : Json) : v.same a = v.same b := by
  have hback : b.same a = true := by rwa [same_comm]
  rw [Bool.eq_iff_iff]
  exact ⟨fun hv => same_trans hv h, fun hv => same_trans hv hback⟩

/-- Equal values are of one type.  Two texts are the same, and two lists have equal items. -/
@[elab_as_elim]
theorem same_cases {motive : (a b : Json) → a.same b = true → Prop}
    (null : motive null null rfl)
    (bool : ∀ x y h, motive (bool x) (bool y) h)
    (number : ∀ m n h, motive (number m) (number n) h)
    (string : ∀ s h, motive (string s) (string s) h)
    (array : ∀ as bs (h : sameItems as bs = true), motive (array as) (array bs) h)
    (a b : Json) (h : a.same b = true) : motive a b h := by
  cases a, b using same.fun_cases with
  | case1 => exact null
  | case2 x y => exact bool x y h
  | case3 m n => exact number m n h
  | case4 s t =>
    obtain rfl : s = t := beq_iff_eq.mp h
    exact string s h
  | case5 as bs => exact array as bs h
  | case6 a b hnull hbool hnumber hstring harray =>
    have hne := same.eq_6 a b hnull hbool hnumber hstring harray
    rw [h] at hne
    cases hne

/-! ### What equals itself -/

mutual

/-- Whether an object stands somewhere in a value. -/
def hasObject : Json → Bool
  | object _ => true
  | array items => haveObject items
  | _ => false

/-- Whether an object stands somewhere in one of some values. -/
def haveObject : List Json → Bool
  | [] => false
  | v :: rest => v.hasObject || haveObject rest

end

/-- **A value is equal to itself unless an object stands somewhere in it.**  No number of a document
is NaN. -/
theorem same_self {v : Json} (hfinite : v.isFinite = true) : v.same v = !v.hasObject := by
  induction v using hasObject.induct
    (motive_2 := fun vs => areFinite vs = true → sameItems vs vs = !haveObject vs) with
  | case1 members => rfl
  | case2 items ih => exact ih hfinite
  | case3 v hobject harray =>
    cases v with
    | null => rfl
    | bool b => exact beq_self_eq_true b
    | number n => exact Decimal.beq_self_of_isFinite hfinite
    | string s => exact beq_self_eq_true s
    | array items => exact absurd rfl (harray items)
    | object members => exact absurd rfl (hobject members)
  | case4 hfinite => rfl
  | case5 v rest ih ihs hfinite =>
    rw [areFinite, Bool.and_eq_true] at hfinite
    rw [sameItems, haveObject, ih hfinite.1, ihs hfinite.2, Bool.not_or]

/-- An object is not equal to itself, and neither is a list that holds it. -/
example : (array [null, object []]).same (array [null, object []]) = false := rfl

/-! ### Labels -/

theorem fits_of_isArray_eq_false {label : Json} (h : label.isArray = false) (v : Json) :
    fits v label = label.same v := by
  rw [same_comm]
  cases label with
  | array labels => cases h
  | _ => rfl

end Json

end MapStyle
