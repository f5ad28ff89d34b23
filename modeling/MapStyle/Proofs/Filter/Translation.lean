/-
Plain filters translated to expressions.

A key becomes an expression for what it names, and a test or a connective the application
that does the same.  An expression fails where a plain test would merely not hold, and one
failure would spoil every connective around it.  So the two agree on features that have what
the filter compares, in values that can be compared.

* `PlainFilter.toExpression` — the translation, and `PlainFilter.IsTranslatable`, the filters
  that have one;
* `PlainFilter.Suits` — the feature has what the filter compares;
* `evaluate?_toExpression` — a translation never fails on such a feature, and has the verdict
  of the plain form;
* `holds_toExpression` — hence a filter and its translation have one verdict.
-/
import MapStyle.Proofs.Expression.Order
import MapStyle.Proofs.Filter.Agreement

namespace MapStyle

theorem Scalar.evaluate?_json (v : Scalar) (context : Context) :
    v.json.evaluate? context = some v.json :=
  Json.evaluate?_of_isArray_eq_false v.isArray_eq_false

namespace PlainFilter

/-! ### The translation -/

/-- What a key names, as an expression. -/
def reference (key : String) : Json :=
  if key = "$type" then .array [.string "geometry-type"]
  else if key = "$id" then .array [.string "id"]
  else .array [.string "get", .string key]

/-- The test whether a key names one of some values, as an expression. -/
def membership (key : String) (vs : List Scalar) : Json :=
  .array [.string "in", reference key, .array [.string "literal", .array (vs.map Scalar.json)]]

mutual

/-- The filter as an expression. -/
def toExpression : PlainFilter → Json
  | const b => .bool b
  | equal key v => .array [.string "==", reference key, v.json]
  | notEqual key v => .array [.string "!=", reference key, v.json]
  | compare c key v => .array [.string c.symbol, reference key, v.json]
  | oneOf key vs => membership key vs
  | noneOf key vs => .array [.string "!", membership key vs]
  | has key => .array [.string "has", .string key]
  | hasNot key => .array [.string "!", .array [.string "has", .string key]]
  | all fs => .array (.string "all" :: toExpressionEach fs)
  | any fs => .array (.string "any" :: toExpressionEach fs)
  | none fs => .array [.string "!", .array (.string "any" :: toExpressionEach fs)]

/-- Some filters as expressions. -/
def toExpressionEach : List PlainFilter → List Json
  | [] => []
  | f :: rest => f.toExpression :: toExpressionEach rest

end

theorem toExpressionEach_eq_map (fs : List PlainFilter) :
    toExpressionEach fs = fs.map toExpression := by
  induction fs with
  | nil => rw [toExpressionEach, List.map_nil]
  | cons f rest ih => rw [toExpressionEach, ih, List.map_cons]

/-- An expression can ask for the presence of a property, but not of a geometry or an id. -/
def IsTranslatable : PlainFilter → Prop
  | has key | hasNot key => key ≠ "$type" ∧ key ≠ "$id"
  | all fs | any fs | none fs => ∀ f ∈ fs, f.IsTranslatable
  | const _ | equal _ _ | notEqual _ _ | compare _ _ _ | oneOf _ _ | noneOf _ _ => True

/-- The feature has something under every key whose value is compared, and where values are
ordered, two of a kind. -/
def Suits (feature : Feature) : PlainFilter → Prop
  | equal key _ | notEqual key _ | oneOf key _ | noneOf key _ => ∃ w, feature.Has key w
  | compare _ key v => ∃ w, feature.Has key w ∧ w.Comparable v.json
  | all fs | any fs | none fs => ∀ f ∈ fs, f.Suits feature
  | const _ | has _ | hasNot _ => True

variable {feature : Feature} {key : String} {zoom : Float}

/-! ### Tests -/

theorem evaluate?_reference {w : Json} (h : feature.Has key w) :
    (reference key).evaluate? (.ofFeature feature zoom) = some w := by
  cases h with
  | @type name hname =>
    show feature.geometry.styleName?.map Json.string = _
    rw [hname]
    rfl
  | id hid =>
    show some (Json.orNull feature.id) = _
    rw [hid]
    rfl
  | property htype hid hw =>
    rw [reference, if_neg htype, if_neg hid]
    show some (Json.orNull (feature.properties.find? key)) = _
    rw [hw]
    rfl

/-- An operator on what a key names and a value. -/
theorem evaluate?_test {name : String} {op : Operator} {w : Json}
    (hop : Operator.ofName? name = some op) (hw : feature.Has key w) (v : Scalar) :
    (Json.array [.string name, reference key, v.json]).evaluate? (.ofFeature feature zoom) =
      op.apply (.ofFeature feature zoom) [⟨reference key, some w⟩, ⟨v.json, some v.json⟩] := by
  rw [Json.evaluate?_array, hop, Option.bind_some, List.map_cons, List.map_cons, List.map_nil,
    evaluate?_reference hw, v.evaluate?_json]

theorem evaluate?_membership {w : Json} (hw : feature.Has key w) (vs : List Scalar) :
    (membership key vs).evaluate? (.ofFeature feature zoom) =
      some (.bool ((vs.map Scalar.json).any w.same)) := by
  have hlist : (Json.array [.string "literal", .array (vs.map Scalar.json)]).evaluate?
      (.ofFeature feature zoom) = some (.array (vs.map Scalar.json)) :=
    Json.evaluate?_array _ "literal" _
  rw [membership, Json.evaluate?_array, List.map_cons, List.map_cons, evaluate?_reference hw, hlist]
  rfl

theorem evaluate?_has (hkey : key ≠ "$type" ∧ key ≠ "$id") :
    (Json.array [.string "has", .string key]).evaluate? (.ofFeature feature zoom) =
      some (.bool (feature.lookup? key).isSome) := by
  rw [Feature.lookup?, if_neg hkey.1, if_neg hkey.2]
  exact Json.evaluate?_array _ "has" _

theorem evaluate?_not {context : Context} {e : Json} {b : Bool}
    (h : e.evaluate? context = some (.bool b)) :
    (Json.array [.string "!", e]).evaluate? context = some (.bool !b) := by
  rw [Json.evaluate?_array, List.map_cons, h]
  cases b <;> rfl

theorem ofName?_symbol (c : Comparison) : Operator.ofName? c.symbol = some (.compare c) := by
  cases c <;> rfl

/-- **On a feature that suits it, a translation has the verdict of the plain form.** -/
theorem evaluate?_toExpression (f : PlainFilter) (htranslatable : f.IsTranslatable)
    (hsuits : f.Suits feature) :
    f.toExpression.evaluate? (.ofFeature feature zoom) =
      some (.bool (plainHolds feature f.toJson)) := by
  -- No part fails, so that a connective looks at the same verdicts in both forms.
  induction f with
  | const b => rfl
  | equal key v =>
    rw [Suits] at hsuits
    obtain ⟨w, hw⟩ := hsuits
    have hop : Operator.ofName? "==" = some .equal := rfl
    rw [toExpression, evaluate?_test hop hw, toJson, plainHolds_array]
    show _ = some (Json.bool (((feature.lookup? key).map fun w => w.same v.json).getD false))
    rw [Feature.has_iff.mp hw]
    rfl
  | notEqual key v =>
    rw [Suits] at hsuits
    obtain ⟨w, hw⟩ := hsuits
    have hop : Operator.ofName? "!=" = some .notEqual := rfl
    rw [toExpression, evaluate?_test hop hw, toJson, plainHolds_array]
    show _ = some (Json.bool !((feature.lookup? key).map fun w => w.same v.json).getD false)
    rw [Feature.has_iff.mp hw]
    rfl
  | compare c key v =>
    rw [Suits] at hsuits
    obtain ⟨w, hw, hcomparable⟩ := hsuits
    obtain ⟨o, ho⟩ := hcomparable.exists_order?
    rw [toExpression, evaluate?_test (ofName?_symbol c) hw, toJson, plainHolds_array,
      plainVerdict_symbol, Feature.has_iff.mp hw, Option.bind_some, ho]
    show (w.order? v.json).bind _ = _
    rw [ho]
    rfl
  | oneOf key vs =>
    rw [Suits] at hsuits
    obtain ⟨w, hw⟩ := hsuits
    rw [toExpression, evaluate?_membership hw, toJson, plainHolds_array]
    show _ = some (Json.bool ((vs.map Scalar.json).any fun v =>
      ((feature.lookup? key).map fun w => w.same v).getD false))
    rw [Feature.has_iff.mp hw]
    rfl
  | noneOf key vs =>
    rw [Suits] at hsuits
    obtain ⟨w, hw⟩ := hsuits
    rw [toExpression, evaluate?_not (evaluate?_membership hw vs), toJson, plainHolds_array]
    show _ = some (Json.bool !(vs.map Scalar.json).any fun v =>
      ((feature.lookup? key).map fun w => w.same v).getD false)
    rw [Feature.has_iff.mp hw]
    rfl
  | has key =>
    rw [IsTranslatable] at htranslatable
    rw [toExpression, evaluate?_has htranslatable, toJson, plainHolds_array]
    rfl
  | hasNot key =>
    rw [IsTranslatable] at htranslatable
    rw [toExpression, evaluate?_not (evaluate?_has htranslatable), toJson, plainHolds_array]
    show _ = some (Json.bool (feature.lookup? key).isNone)
    rw [Option.not_isSome]
  | all fs ih =>
    rw [IsTranslatable] at htranslatable
    rw [Suits] at hsuits
    rw [toExpression, toExpressionEach_eq_map, toJson, plainHolds_array, nested_verdicts]
    exact Json.evaluate?_all fun f hf => ih f hf (htranslatable f hf) (hsuits f hf)
  | any fs ih =>
    rw [IsTranslatable] at htranslatable
    rw [Suits] at hsuits
    rw [toExpression, toExpressionEach_eq_map, toJson, plainHolds_array, nested_verdicts]
    exact Json.evaluate?_any fun f hf => ih f hf (htranslatable f hf) (hsuits f hf)
  | none fs ih =>
    rw [IsTranslatable] at htranslatable
    rw [Suits] at hsuits
    have hany := Json.evaluate?_any fun f hf => ih f hf (htranslatable f hf) (hsuits f hf)
    rw [toExpression, toExpressionEach_eq_map, evaluate?_not hany, toJson, plainHolds_array,
      nested_verdicts]
    rfl

/-! ### The verdict -/

theorem isArray_reference (key : String) : (reference key).isArray = true := by
  rw [reference]
  split
  · rfl
  · split <;> rfl

theorem isExpressionFilter_connective {op : String} (hop : op = "all" ∨ op = "any")
    {fs : List PlainFilter} (h : ∀ f ∈ fs, f.toExpression.isExpressionFilter = true) :
    (Json.array (.string op :: toExpressionEach fs)).isExpressionFilter = true := by
  have hparts : (((toExpressionEach fs).map Json.isExpressionFilter).all fun b => b) = true := by
    rw [toExpressionEach_eq_map, List.map_map, List.all_map, List.all_eq_true]
    exact h
  rw [Json.isExpressionFilter_array]
  rcases hop with rfl | rfl <;> exact hparts

/-- A translation is taken for an expression. -/
theorem isExpressionFilter_toExpression (f : PlainFilter) (htranslatable : f.IsTranslatable) :
    f.toExpression.isExpressionFilter = true := by
  induction f with
  | const b => rfl
  | equal key v | notEqual key v =>
    rw [toExpression, Json.isExpressionFilter_array]
    show ((reference key).isArray || v.json.isArray) = true
    rw [isArray_reference, Bool.true_or]
  | compare c key v =>
    rw [toExpression, Json.isExpressionFilter_array]
    have hdecide : operandsDecide c.symbol [reference key, v.json]
        ([reference key, v.json].map Json.isExpressionFilter) =
          ((reference key).isArray || v.json.isArray) := by
      cases c <;> rfl
    rw [hdecide, isArray_reference, Bool.true_or]
  | oneOf key vs =>
    rw [toExpression, membership, Json.isExpressionFilter_array]
    show (!(reference key).isString || true) = true
    rw [Bool.or_true]
  | noneOf key vs | hasNot key | none fs ih =>
    rw [toExpression, Json.isExpressionFilter_array]
    rfl
  | has key =>
    rw [IsTranslatable] at htranslatable
    rw [toExpression, Json.isExpressionFilter_array]
    show (!isSpecialKey (.string key)) = true
    rw [isSpecialKey, beq_eq_false_iff_ne.mpr htranslatable.1,
      beq_eq_false_iff_ne.mpr htranslatable.2]
    rfl
  | all fs ih =>
    rw [IsTranslatable] at htranslatable
    rw [toExpression]
    exact isExpressionFilter_connective (.inl rfl) fun f hf => ih f hf (htranslatable f hf)
  | any fs ih =>
    rw [IsTranslatable] at htranslatable
    rw [toExpression]
    exact isExpressionFilter_connective (.inr rfl) fun f hf => ih f hf (htranslatable f hf)

theorem ofJson_of_isExpressionFilter {e : Json} (h : e.isExpressionFilter = true) :
    Filter.ofJson (some e) = .expression e := by
  have hnull : e ≠ .null := by
    rintro rfl
    exact Bool.false_ne_true h
  rw [Filter.ofJson, if_pos h]
  exact hnull

/-- **A filter and its translation have one verdict** on every feature that suits the filter, at
every zoom.  The translation is taken for an expression whatever becomes of the filter itself,
and its value is always true or false. -/
theorem holds_toExpression (f : PlainFilter) (htranslatable : f.IsTranslatable)
    (feature : Feature) (hsuits : f.Suits feature) (zoom : Float) :
    Filter.ofJson (some f.toExpression) = .expression f.toExpression ∧
    (∃ b, f.toExpression.evaluate? (.ofFeature feature zoom) = some (.bool b)) ∧
    (Filter.ofJson (some f.toExpression)).holds feature zoom =
      (Filter.ofJson (some f.toJson)).holds feature zoom := by
  have hform : Filter.ofJson (some f.toExpression) = .expression f.toExpression :=
    ofJson_of_isExpressionFilter (isExpressionFilter_toExpression f htranslatable)
  have hvalue : f.toExpression.evaluate? (.ofFeature feature zoom) =
      some (.bool (plainHolds feature f.toJson)) := evaluate?_toExpression f htranslatable hsuits
  refine ⟨hform, ⟨_, hvalue⟩, ?_⟩
  rw [hform, holds_toJson, Filter.holds, hvalue]
  rfl

/-- Main roads and railways, but no bridges and nothing that is closed. -/
def mainRoutes : PlainFilter :=
  .all [.equal "$type" ⟨.string "LineString", rfl⟩, .hasNot "bridge",
    .any [.compare .lessEqual "rank" ⟨.number (.float 2.5), rfl⟩,
      .oneOf "class" [⟨.string "rail", rfl⟩, ⟨.null, rfl⟩]],
    .none [.noneOf "$id" [⟨.number (.int 7), rfl⟩], .const false, .has "closed"]]

/-- A railway of rank 4. -/
def railway : Feature :=
  ⟨some (.number (.int 7)), .multiLineString, some "transport",
    [("class", .string "rail"), ("rank", .number (.int 4))]⟩

theorem holds_toExpression_mainRoutes :
    mainRoutes.IsTranslatable ∧ mainRoutes.Suits railway ∧
    (Filter.ofJson (some mainRoutes.toExpression)).holds railway 9.0 =
      (Filter.ofJson (some mainRoutes.toJson)).holds railway 9.0 := by
  have hgeometry : railway.Has "$type" (.string "LineString") := .type rfl
  have hid : railway.Has "$id" (.number (.int 7)) := .id rfl
  have hclass : railway.Has "class" (.string "rail") := .property (by decide) (by decide) rfl
  have hrank : railway.Has "rank" (.number (.int 4)) := .property (by decide) (by decide) rfl
  have htranslatable : mainRoutes.IsTranslatable := by
    simp [mainRoutes, IsTranslatable]
  have hsuits : mainRoutes.Suits railway := by
    simp only [mainRoutes, Suits, List.mem_cons, List.not_mem_nil, or_false, forall_eq_or_imp,
      forall_eq, and_true, true_and]
    exact ⟨⟨_, hgeometry⟩, ⟨⟨_, hrank, .numbers rfl rfl⟩, ⟨_, hclass⟩⟩, ⟨_, hid⟩⟩
  exact ⟨htranslatable, hsuits, (holds_toExpression _ htranslatable _ hsuits _).2.2⟩

end PlainFilter

end MapStyle
