/-
What an evaluation depends on.

Of its context an operator reads the zoom, or something of the feature, or nothing at all.
So the names at the heads of the arrays in an expression tell what its value may depend on,
and what is evaluated may be kept for a zoom, for a feature or for good.

* `Json.heads` — the names at the heads of the arrays in an expression, at any depth;
* `Context.Agree` — an operator cannot tell two contexts apart;
* `Json.evaluate?_congr` — an expression has one value in two contexts if none of its
  operators tells them apart;
* `Property.readsZoom`, `Property.readsFeature`, `Filter.readsZoom` — what a property and
  a filter may depend on;
* `evaluate?_depends_on_names` — they depend on nothing else.
-/
import MapStyle.Filter
import MapStyle.Property

namespace MapStyle

/-! ### The names in an expression -/

namespace Json

mutual

/-- The names at the heads of the arrays in an expression, at any depth.  An object stands for
itself, and what is inside it is not evaluated. -/
def heads : Json → List String
  | array items => (items.head?.bind string?).toList ++ headsEach items
  | _ => []

/-- The names in some expressions. -/
def headsEach : List Json → List String
  | [] => []
  | v :: rest => v.heads ++ headsEach rest

end

end Json

/-- The names of the operators that look at the feature. -/
def featureNames : List String := ["get", "has", "properties", "id", "geometry-type"]

/-! ### Operators in two contexts -/

/-- What is called `name` has the same value in both contexts, whatever its operands are. -/
def Context.Agree (c c' : Context) (name : String) : Prop :=
  ∀ op, Operator.ofName? name = some op → ∀ operands, op.apply c operands = op.apply c' operands

namespace Operator

variable {op : Operator} {name : String}

theorem eq_zoom_of_ofName? (h : ofName? name = some .zoom) : name = "zoom" := by
  unfold ofName? at h
  split at h <;> cases h
  rfl

/-- Whether an operator looks at the feature. -/
def readsFeature : Operator → Bool
  | get | has | properties | id | geometryType => true
  | _ => false

theorem mem_featureNames_of_ofName? (h : ofName? name = some op) (hop : op.readsFeature = true) :
    name ∈ featureNames := by
  unfold ofName? at h
  split at h <;> cases h
  all_goals first
    | exact absurd hop Bool.false_ne_true
    | decide

theorem apply_zoom (hop : op ≠ zoom) (c : Context) (z : Float) (operands : List Operand) :
    op.apply { c with zoom := z } operands = op.apply c operands := by
  cases op with
  | zoom => exact absurd rfl hop
  | _ => rcases operands with _ | ⟨a, _ | ⟨b, _ | ⟨d, _ | ⟨e, rest⟩⟩⟩⟩ <;> rfl

theorem apply_feature (hop : op.readsFeature = false) {c c' : Context} (hzoom : c.zoom = c'.zoom)
    (operands : List Operand) : op.apply c operands = op.apply c' operands := by
  obtain ⟨properties, z, geometryType, featureId⟩ := c
  obtain rfl : z = c'.zoom := hzoom
  cases op with
  | get | has | properties | id | geometryType => exact nomatch hop
  | _ => rcases operands with _ | ⟨a, _ | ⟨b, _ | ⟨d, _ | ⟨e, rest⟩⟩⟩⟩ <;> rfl

end Operator

namespace Context

variable {name : String}

theorem agree_zoom (hname : name ≠ "zoom") (c : Context) (z : Float) :
    Agree { c with zoom := z } c name := by
  intro op hop operands
  refine Operator.apply_zoom ?_ c z operands
  rintro rfl
  exact hname (Operator.eq_zoom_of_ofName? hop)

theorem agree_feature (hname : name ∉ featureNames) {c c' : Context} (hzoom : c.zoom = c'.zoom) :
    Agree c c' name := by
  intro op hop operands
  refine Operator.apply_feature ?_ hzoom operands
  rw [← Bool.not_eq_true]
  intro hreads
  exact hname (Operator.mem_featureNames_of_ofName? hop hreads)

end Context

/-! ### Expressions in two contexts -/

namespace Json

variable {c c' : Context}

mutual

/-- **An expression has one value in two contexts if none of its operators tells them apart.** -/
theorem evaluate?_congr :
    (e : Json) → (∀ name ∈ e.heads, c.Agree c' name) → e.evaluate? c = e.evaluate? c'
  | array [], _ => by rw [evaluate?, evaluate?]
  | array (head :: operands), h => by
    have hoperands : evaluateAll c operands = evaluateAll c' operands := by
      refine evaluateAll_congr operands fun name hname => h name ?_
      rw [heads, headsEach]
      exact List.mem_append_right _ (List.mem_append_right _ hname)
    rw [evaluate?, evaluate?, hoperands]
    cases hop : head.string?.bind Operator.ofName? with
    | none => rfl
    | some op =>
      obtain ⟨name, hname, hop⟩ := Option.bind_eq_some_iff.mp hop
      have hhead : name ∈ (array (head :: operands)).heads := by
        rw [heads, List.head?_cons, Option.bind_some, hname]
        exact List.mem_append_left _ (List.mem_singleton_self name)
      exact h name hhead op hop _
  | null, _ | bool _, _ | number _, _ | string _, _ | object _, _ => by simp only [evaluate?]

/-- The same for the operands, one by one. -/
theorem evaluateAll_congr :
    (vs : List Json) → (∀ name ∈ headsEach vs, c.Agree c' name) →
      evaluateAll c vs = evaluateAll c' vs
  | [], _ => by rw [evaluateAll, evaluateAll]
  | v :: rest, h => by
    have hv : v.evaluate? c = v.evaluate? c' := by
      refine evaluate?_congr v fun name hname => h name ?_
      rw [headsEach]
      exact List.mem_append_left _ hname
    have hrest : evaluateAll c rest = evaluateAll c' rest := by
      refine evaluateAll_congr rest fun name hname => h name ?_
      rw [headsEach]
      exact List.mem_append_right _ hname
    rw [evaluateAll, evaluateAll, hv, hrest]

end

theorem evaluate?_zoom {e : Json} (h : "zoom" ∉ e.heads) (c : Context) (z : Float) :
    e.evaluate? { c with zoom := z } = e.evaluate? c := by
  refine evaluate?_congr e fun name hname => Context.agree_zoom ?_ c z
  rintro rfl
  exact h hname

theorem evaluate?_feature {e : Json} (h : ∀ name ∈ featureNames, name ∉ e.heads)
    (hzoom : c.zoom = c'.zoom) : e.evaluate? c = e.evaluate? c' := by
  refine evaluate?_congr e fun name hname => Context.agree_feature ?_ hzoom
  intro hfeature
  exact h name hfeature hname

end Json

/-! ### Stop functions, properties and filters -/

namespace StopFunction

variable {f : StopFunction} {c c' : Context}

theorem evaluate?_of_plain (hplain : f.isComposite = false) (c : Context) :
    f.evaluate? c = ((f.input? c).bind (f.evaluateStops? f.stops) <|> f.default) := by
  rw [evaluate?, if_neg (by rw [hplain]; exact Bool.false_ne_true)]

theorem evaluate?_zoom (hproperty : f.property.isSome = true) (hplain : f.isComposite = false)
    (c : Context) (z : Float) : f.evaluate? { c with zoom := z } = f.evaluate? c := by
  have hinput : f.input? { c with zoom := z } = f.input? c := by
    obtain ⟨name, hname⟩ := Option.isSome_iff_exists.mp hproperty
    rw [input?, input?, hname]
  rw [evaluate?_of_plain hplain, evaluate?_of_plain hplain, hinput]

theorem evaluate?_feature (hproperty : f.property = none) (hzoom : c.zoom = c'.zoom) :
    f.evaluate? c = f.evaluate? c' := by
  have hplain : f.isComposite = false := by rw [isComposite, hproperty]; rfl
  have hinput : f.input? c = f.input? c' := by rw [input?, input?, hproperty, hzoom]
  rw [evaluate?_of_plain hplain, evaluate?_of_plain hplain, hinput]

end StopFunction

namespace Property

/-- Whether the value may depend on the zoom. -/
def readsZoom : Property → Bool
  | literal _ => false
  | stops f => f.property.isNone || f.isComposite
  | expression e => e.heads.contains "zoom"

/-- Whether the value may depend on the feature. -/
def readsFeature : Property → Bool
  | literal _ => false
  | stops f => f.property.isSome
  | expression e => featureNames.any fun name => e.heads.contains name

variable {p : Property} {c c' : Context}

theorem evaluate?_zoom (h : p.readsZoom = false) (c : Context) (z : Float) :
    p.evaluate? { c with zoom := z } = p.evaluate? c := by
  cases p with
  | literal v => rfl
  | stops f =>
    rw [readsZoom, Bool.or_eq_false_iff] at h
    refine StopFunction.evaluate?_zoom ?_ h.2 c z
    rw [← Option.not_isNone, h.1]
    rfl
  | expression e =>
    rw [readsZoom, List.contains_eq_mem, decide_eq_false_iff_not] at h
    exact Json.evaluate?_zoom h c z

theorem evaluate?_feature (h : p.readsFeature = false) (hzoom : c.zoom = c'.zoom) :
    p.evaluate? c = p.evaluate? c' := by
  cases p with
  | literal v => rfl
  | stops f =>
    rw [readsFeature, Option.isSome_eq_false_iff, Option.isNone_iff_eq_none] at h
    exact StopFunction.evaluate?_feature h hzoom
  | expression e =>
    refine Json.evaluate?_feature (fun name hname hhead => ?_) hzoom
    have hnone := List.any_eq_false.mp h name hname
    rw [List.contains_eq_mem, decide_eq_true_iff] at hnone
    exact hnone hhead

end Property

namespace Filter

/-- Whether the verdict may depend on the zoom. -/
def readsZoom : Filter → Bool
  | always | plain _ => false
  | expression e => e.heads.contains "zoom"

theorem holds_zoom {filter : Filter} (h : filter.readsZoom = false) (feature : Feature)
    (zoom zoom' : Float) : filter.holds feature zoom = filter.holds feature zoom' := by
  cases filter with
  | always | plain v => rfl
  | expression e =>
    rw [readsZoom, List.contains_eq_mem, decide_eq_false_iff_not] at h
    rw [holds, holds]
    exact congrArg (fun v => (Option.bind v Json.bool?).getD false)
      (Json.evaluate?_zoom h (.ofFeature feature zoom') zoom)

end Filter

/-- **An evaluation depends on nothing that is not named.**  Without the name of the zoom an
expression has one value at all zooms, and without the names that look at the feature it has one
value for all features at a zoom.  So it is with properties, where a function of the zoom has no
property and a function of a property alone is not composite, and with filters, of which the
plain ones never look at the zoom. -/
theorem evaluate?_depends_on_names :
    (∀ e : Json, "zoom" ∉ e.heads →
      ∀ c zoom, e.evaluate? { c with zoom := zoom } = e.evaluate? c) ∧
    (∀ e : Json, (∀ name ∈ featureNames, name ∉ e.heads) →
      ∀ c c' : Context, c.zoom = c'.zoom → e.evaluate? c = e.evaluate? c') ∧
    (∀ p : Property, p.readsZoom = false →
      ∀ c zoom, p.evaluate? { c with zoom := zoom } = p.evaluate? c) ∧
    (∀ p : Property, p.readsFeature = false →
      ∀ c c' : Context, c.zoom = c'.zoom → p.evaluate? c = p.evaluate? c') ∧
    (∀ filter : Filter, filter.readsZoom = false →
      ∀ feature zoom zoom', filter.holds feature zoom = filter.holds feature zoom') := by
  refine ⟨?_, ?_, ?_, ?_, ?_⟩
  · intro e h c zoom
    exact Json.evaluate?_zoom h c zoom
  · intro e h c c' hzoom
    exact Json.evaluate?_feature h hzoom
  · intro p h c zoom
    exact Property.evaluate?_zoom h c zoom
  · intro p h c c' hzoom
    exact Property.evaluate?_feature h hzoom
  · intro filter h feature zoom zoom'
    exact Filter.holds_zoom h feature zoom zoom'

/-- A width that grows with an input. -/
def growingWidth (input : String) (operands : List Json) : Json :=
  .array [.string "interpolate", .array [.string "linear"], .array (.string input :: operands),
    .number (.int 0), .number (.int 1), .number (.int 9), .array [.string "+", .number (.int 4)]]

/-- The same for a rank, as a function. -/
def widthOfRank : StopFunction :=
  ⟨none, 1, some "rank",
    [(.number (.int 0), .number (.int 1)), (.number (.int 9), .number (.int 4))], none⟩

/-- The filter that passes the first ranks. -/
def firstRanks : Filter := .plain (.array [.string "<", .string "rank", .number (.int 5)])

/-- A road of some rank, seen at zoom 7. -/
def roadContext (rank : Int) : Context := .ofProperties [("rank", .number (.int rank))] 7.0

theorem evaluate?_depends_on_names_width :
    ("zoom" ∉ (growingWidth "get" [.string "rank"]).heads ∧
      (growingWidth "get" [.string "rank"]).evaluate? { roadContext 3 with zoom := 9.5 } =
        (growingWidth "get" [.string "rank"]).evaluate? (roadContext 3)) ∧
    ((∀ name ∈ featureNames, name ∉ (growingWidth "zoom" []).heads) ∧
      (roadContext 3).zoom = (roadContext 8).zoom ∧
      (growingWidth "zoom" []).evaluate? (roadContext 3) =
        (growingWidth "zoom" []).evaluate? (roadContext 8)) ∧
    ((Property.stops widthOfRank).readsZoom = false ∧
      (Property.stops widthOfRank).evaluate? { roadContext 3 with zoom := 9.5 } =
        (Property.stops widthOfRank).evaluate? (roadContext 3)) ∧
    ((Property.stops { widthOfRank with property := none }).readsFeature = false ∧
      (Property.stops { widthOfRank with property := none }).evaluate? (roadContext 3) =
        (Property.stops { widthOfRank with property := none }).evaluate? (roadContext 8)) ∧
    firstRanks.readsZoom = false ∧
      ∀ feature, firstRanks.holds feature 7.0 = firstRanks.holds feature 9.5 := by
  obtain ⟨hzoom, hfeature, hpropertyZoom, hpropertyFeature, hfilter⟩ := evaluate?_depends_on_names
  have hrank : "zoom" ∉ (growingWidth "get" [.string "rank"]).heads := by decide
  have hnames : ∀ name ∈ featureNames, name ∉ (growingWidth "zoom" []).heads := by decide
  refine ⟨⟨hrank, hzoom _ hrank _ _⟩, ⟨hnames, rfl, hfeature _ hnames _ _ rfl⟩,
    ⟨rfl, hpropertyZoom _ rfl _ _⟩, ⟨rfl, hpropertyFeature _ rfl _ _ rfl⟩, rfl, ?_⟩
  intro feature
  exact hfilter _ rfl feature _ _

end MapStyle
