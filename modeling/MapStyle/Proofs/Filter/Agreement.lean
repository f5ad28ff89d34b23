/-
A plain filter has one verdict, whichever way it is evaluated.

Some plain filters are also expressions, and are evaluated as such: truth values, tests
for a property, and what `all` and `any` make of them.  The verdict is that of the plain
form all the same, and both are what the filter means.

* `plainHolds_iff` — evaluated in the plain form, a filter holds just if it should;
* `evaluate?_of_isExpressionFilter` — evaluated as an expression, a filter never fails,
  and has the same verdict;
* `holds_toJson` — hence the verdict on a feature is that of the plain form.
-/
import MapStyle.Proofs.Expression.Variadic
import MapStyle.Proofs.Filter.Grammar

namespace MapStyle

namespace PlainFilter

variable {feature : Feature} {key : String}

/-! ### The plain form -/

theorem lookup_satisfies_iff {p : Json → Bool} :
    ((feature.lookup? key).map p).getD false = true ↔ ∃ w, feature.Has key w ∧ p w = true := by
  constructor
  · intro h
    cases hw : feature.lookup? key with
    | none => rw [hw] at h; exact absurd h Bool.false_ne_true
    | some w => exact ⟨w, Feature.has_iff.mpr hw, by rwa [hw] at h⟩
  · rintro ⟨w, hw, hp⟩
    rw [Feature.has_iff.mp hw]
    exact hp

theorem lookup_isSome_iff : (feature.lookup? key).isSome = true ↔ ∃ w, feature.Has key w := by
  rw [Option.isSome_iff_exists]
  exact exists_congr fun w => Feature.has_iff.symm

theorem ordered_iff {c : Comparison} {v : Json} :
    (((feature.lookup? key).bind fun w => w.order? v).map c.holds).getD false = true ↔
      ∃ w o, feature.Has key w ∧ w.order? v = some o ∧ c.holds o = true := by
  constructor
  · intro h
    cases ho : (feature.lookup? key).bind fun w => w.order? v with
    | none => rw [ho] at h; exact absurd h Bool.false_ne_true
    | some o =>
      obtain ⟨w, hw, hwo⟩ := Option.bind_eq_some_iff.mp ho
      exact ⟨w, o, Feature.has_iff.mpr hw, hwo, by rwa [ho] at h⟩
  · rintro ⟨w, o, hw, ho, hc⟩
    rw [Feature.has_iff.mp hw, Option.bind_some, ho]
    exact hc

theorem any_equals_iff {vs : List Scalar} :
    ((vs.map Scalar.json).any fun v => ((feature.lookup? key).map fun w => w.same v).getD false) =
        true ↔ ∃ w, feature.Has key w ∧ ∃ v ∈ vs, w.same v.json = true := by
  rw [List.any_map, List.any_eq_true]
  constructor
  · rintro ⟨v, hv, h⟩
    obtain ⟨w, hw, hsame⟩ := lookup_satisfies_iff.mp h
    exact ⟨w, hw, v, hv, hsame⟩
  · rintro ⟨w, hw, v, hv, hsame⟩
    exact ⟨v, hv, lookup_satisfies_iff.mpr ⟨w, hw, hsame⟩⟩

/-- What a comparison makes of its operands in the plain form. -/
theorem plainVerdict_symbol (c : Comparison) (v : Json) (nested : List Bool) :
    plainVerdict feature c.symbol [.string key, v] nested =
      (((feature.lookup? key).bind fun w => w.order? v).map c.holds).getD false := by
  cases c <;> rfl

theorem not_eq_true_iff {b : Bool} {p : Prop} (h : b = true ↔ p) : (!b) = true ↔ ¬ p := by
  rw [Bool.not_eq_true', ← Bool.not_eq_true, h]

/-- The verdicts of the parts of a connective. -/
theorem nested_verdicts (feature : Feature) (fs : List PlainFilter) :
    (toJsonEach fs).map (plainHolds feature) = fs.map fun f => plainHolds feature f.toJson := by
  rw [toJsonEach_eq_map, List.map_map]
  rfl

theorem any_holds_iff {fs : List PlainFilter}
    (h : ∀ f ∈ fs, plainHolds feature f.toJson = true ↔ f.Holds feature) :
    ((fs.map fun f => plainHolds feature f.toJson).any fun b => b) = true ↔
      ∃ f, ∃ _ : f ∈ fs, f.Holds feature := by
  rw [List.any_map, List.any_eq_true]
  constructor
  · rintro ⟨f, hf, hholds⟩
    exact ⟨f, hf, (h f hf).mp hholds⟩
  · rintro ⟨f, hf, hholds⟩
    exact ⟨f, hf, (h f hf).mpr hholds⟩

/-- **In the plain form a filter holds just if it should.** -/
theorem plainHolds_iff (feature : Feature) (f : PlainFilter) :
    plainHolds feature f.toJson = true ↔ f.Holds feature := by
  -- A test depends on what stands under its key, a connective on its parts.
  induction f with
  | const b =>
    rw [toJson, plainHolds, Holds]
  | equal key v =>
    rw [toJson, plainHolds_array, Holds]
    exact lookup_satisfies_iff
  | notEqual key v =>
    rw [toJson, plainHolds_array, Holds]
    exact not_eq_true_iff lookup_satisfies_iff
  | compare c key v =>
    rw [toJson, plainHolds_array, plainVerdict_symbol, Holds]
    exact ordered_iff
  | oneOf key vs =>
    rw [toJson, plainHolds_array, Holds]
    exact any_equals_iff
  | noneOf key vs =>
    rw [toJson, plainHolds_array, Holds]
    exact not_eq_true_iff any_equals_iff
  | has key =>
    rw [toJson, plainHolds_array, Holds]
    exact lookup_isSome_iff
  | hasNot key =>
    rw [toJson, plainHolds_array, Holds]
    show (feature.lookup? key).isNone = true ↔ _
    rw [← Option.not_isSome]
    exact not_eq_true_iff lookup_isSome_iff
  | all fs ih =>
    rw [toJson, plainHolds_array, nested_verdicts, Holds]
    show ((fs.map fun f => plainHolds feature f.toJson).all fun b => b) = true ↔ _
    rw [List.all_map, List.all_eq_true]
    constructor
    · intro h f hf
      exact (ih f hf).mp (h f hf)
    · intro h f hf
      exact (ih f hf).mpr (h f hf)
  | any fs ih =>
    rw [toJson, plainHolds_array, nested_verdicts, Holds]
    exact any_holds_iff ih
  | none fs ih =>
    rw [toJson, plainHolds_array, nested_verdicts, Holds]
    refine (not_eq_true_iff (any_holds_iff ih)).trans ?_
    constructor
    · intro h f hf hholds
      exact h ⟨f, hf, hholds⟩
    · rintro h ⟨f, hf, hholds⟩
      exact h f hf hholds

/-! ### Filters that are expressions -/

theorem isExpressionFilter_each {fs : List PlainFilter}
    (h : (((toJsonEach fs).map Json.isExpressionFilter).all fun b => b) = true) :
    ∀ f ∈ fs, f.toJson.isExpressionFilter = true := by
  intro f hf
  rw [toJsonEach_eq_map, List.map_map, List.all_map, List.all_eq_true] at h
  exact h f hf

/-- A test that compares a key with values is never an expression. -/
theorem not_isExpressionFilter_of_compare (c : Comparison) (key : String) (v : Scalar) :
    (compare c key v).toJson.isExpressionFilter = false := by
  rw [toJson, Json.isExpressionFilter_array]
  cases c <;> exact v.isArray_eq_false

/-- A key that is not special names a property, as it does in an expression. -/
theorem lookup?_of_not_isSpecialKey (h : isSpecialKey (.string key) = false) :
    feature.lookup? key = feature.properties.find? key := by
  rw [isSpecialKey, Bool.or_eq_false_iff, beq_eq_false_iff_ne, beq_eq_false_iff_ne] at h
  rw [Feature.lookup?, if_neg h.2, if_neg h.1]

/-- **As an expression a filter has the verdict of the plain form.** -/
theorem evaluate?_of_isExpressionFilter (feature : Feature) (zoom : Float) (f : PlainFilter)
    (h : f.toJson.isExpressionFilter = true) :
    f.toJson.evaluate? (.ofFeature feature zoom) = some (.bool (plainHolds feature f.toJson)) := by
  -- Only truth values, tests for a property and connectives of such are expressions; in the
  -- other cases `h` is refuted by the shape of the operands.
  induction f with
  | const b => rfl
  | equal key v =>
    rw [toJson, Json.isExpressionFilter_array] at h
    exact absurd (v.isArray_eq_false.symm.trans h) Bool.false_ne_true
  | notEqual key v =>
    rw [toJson, Json.isExpressionFilter_array] at h
    exact absurd (v.isArray_eq_false.symm.trans h) Bool.false_ne_true
  | compare c key v =>
    rw [not_isExpressionFilter_of_compare] at h
    exact absurd h Bool.false_ne_true
  | oneOf key vs =>
    rw [toJson, Json.isExpressionFilter_array] at h
    cases vs with
    | nil => exact absurd h Bool.false_ne_true
    | cons v rest => exact absurd (v.isArray_eq_false.symm.trans h) Bool.false_ne_true
  | noneOf key vs =>
    rw [toJson, Json.isExpressionFilter_array] at h
    exact absurd h Bool.false_ne_true
  | has key =>
    -- The key is not special, so both forms look among the properties.
    rw [toJson, Json.isExpressionFilter_array] at h
    rw [toJson, Json.evaluate?_array, plainHolds_array]
    show some (Json.bool (feature.properties.find? key).isSome) =
      some (.bool (feature.lookup? key).isSome)
    have hplain : isSpecialKey (.string key) = false := by
      rw [← Bool.not_eq_true']
      exact h
    rw [lookup?_of_not_isSpecialKey hplain]
  | hasNot key =>
    rw [toJson, Json.isExpressionFilter_array] at h
    exact absurd h Bool.false_ne_true
  | all fs ih =>
    -- All parts are expressions themselves, and so none of them can fail.
    rw [toJson, Json.isExpressionFilter_array] at h
    rw [toJson, plainHolds_array, nested_verdicts, toJsonEach_eq_map]
    exact Json.evaluate?_all fun f hf => ih f hf (isExpressionFilter_each h f hf)
  | any fs ih =>
    rw [toJson, Json.isExpressionFilter_array] at h
    rw [toJson, plainHolds_array, nested_verdicts, toJsonEach_eq_map]
    exact Json.evaluate?_any fun f hf => ih f hf (isExpressionFilter_each h f hf)
  | none fs ih =>
    rw [toJson, Json.isExpressionFilter_array] at h
    exact absurd h Bool.false_ne_true

/-! ### The verdict -/

theorem toJson_ne_null (f : PlainFilter) : f.toJson ≠ .null := by
  cases f <;> rw [toJson] <;> exact fun h => nomatch h

/-- Whichever way a filter is evaluated, the verdict is that of the plain form. -/
theorem holds_toJson (feature : Feature) (zoom : Float) (f : PlainFilter) :
    (Filter.ofJson (some f.toJson)).holds feature zoom = plainHolds feature f.toJson := by
  have hform : Filter.ofJson (some f.toJson) =
      if f.toJson.isExpressionFilter then .expression f.toJson else .plain f.toJson := by
    rw [Filter.ofJson]
    exact f.toJson_ne_null
  rw [hform]
  by_cases h : f.toJson.isExpressionFilter = true
  · rw [if_pos h, Filter.holds, evaluate?_of_isExpressionFilter feature zoom f h]
    rfl
  · rw [if_neg h, Filter.holds]

/-- **The verdict of a plain filter on a feature is what the filter means**, also where the
filter is evaluated as an expression.  Where nothing stands under the key of a test, just the
tests that deny something hold. -/
theorem verdict_iff_holds (f : PlainFilter) (feature : Feature) (zoom : Float) :
    ((Filter.ofJson (some f.toJson)).holds feature zoom = true ↔ f.Holds feature) ∧
    (Filter.ofJson (some f.toJson)).holds feature zoom = plainHolds feature f.toJson ∧
    (f.toJson.isExpressionFilter = true →
      f.toJson.evaluate? (.ofFeature feature zoom) =
        some (.bool (plainHolds feature f.toJson))) ∧
    ∀ key, f.key? = some key → (∀ v, ¬ feature.Has key v) →
      (Filter.ofJson (some f.toJson)).holds feature zoom = f.denies := by
  have hholds : (Filter.ofJson (some f.toJson)).holds feature zoom = true ↔ f.Holds feature := by
    rw [holds_toJson]
    exact plainHolds_iff feature f
  refine ⟨hholds, holds_toJson feature zoom f, evaluate?_of_isExpressionFilter feature zoom f, ?_⟩
  intro key hkey hmissing
  rw [Bool.eq_iff_iff, hholds]
  exact holds_of_missing hkey hmissing

end PlainFilter

end MapStyle
