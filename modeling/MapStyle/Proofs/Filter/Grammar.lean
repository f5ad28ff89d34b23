/-
Filters in the plain form, and what they mean.

A plain filter is a truth value, a test of one key, or other plain filters under a
connective.  The meaning is said for the filter itself, whichever way it is evaluated.

* `PlainFilter` — the filters, and `PlainFilter.toJson`, how they are written;
* `PlainFilter.induction` — induction in which the parts of a connective are known;
* `Feature.Has` — what stands under a key of a feature;
* `PlainFilter.Holds` — the meaning;
* `PlainFilter.holds_of_missing` — what follows from a key under which nothing stands.
-/
import MapStyle.Filter

namespace MapStyle

/-- Whether a value holds no other values. -/
def Json.isScalar (v : Json) : Bool := !v.isArray && !v.isObject

/-- A value that holds no other values. -/
structure Scalar where
  json : Json
  isScalar : json.isScalar = true

theorem Scalar.isArray_eq_false (v : Scalar) : v.json.isArray = false := by
  have h := v.isScalar
  rw [Json.isScalar, Bool.and_eq_true, Bool.not_eq_true'] at h
  exact h.1

/-- The sign of an ordered comparison. -/
def Comparison.symbol : Comparison → String
  | less => "<"
  | lessEqual => "<="
  | greater => ">"
  | greaterEqual => ">="

/-- A filter in the plain form. -/
inductive PlainFilter where
  | const (b : Bool)
  | equal (key : String) (v : Scalar)
  | notEqual (key : String) (v : Scalar)
  | compare (c : Comparison) (key : String) (v : Scalar)
  | oneOf (key : String) (vs : List Scalar)
  | noneOf (key : String) (vs : List Scalar)
  | has (key : String)
  | hasNot (key : String)
  | all (fs : List PlainFilter)
  | any (fs : List PlainFilter)
  | none (fs : List PlainFilter)

namespace PlainFilter

/-- Induction over a filter; under a connective the claim is known for every part. -/
@[elab_as_elim, induction_eliminator]
theorem induction {motive : PlainFilter → Prop}
    (const : ∀ b, motive (const b))
    (equal : ∀ key v, motive (equal key v))
    (notEqual : ∀ key v, motive (notEqual key v))
    (compare : ∀ c key v, motive (compare c key v))
    (oneOf : ∀ key vs, motive (oneOf key vs))
    (noneOf : ∀ key vs, motive (noneOf key vs))
    (has : ∀ key, motive (has key))
    (hasNot : ∀ key, motive (hasNot key))
    (all : ∀ fs, (∀ f ∈ fs, motive f) → motive (all fs))
    (any : ∀ fs, (∀ f ∈ fs, motive f) → motive (any fs))
    (none : ∀ fs, (∀ f ∈ fs, motive f) → motive (none fs)) (f : PlainFilter) : motive f :=
  match f with
  | .const b => const b
  | .equal key v => equal key v
  | .notEqual key v => notEqual key v
  | .compare c key v => compare c key v
  | .oneOf key vs => oneOf key vs
  | .noneOf key vs => noneOf key vs
  | .has key => has key
  | .hasNot key => hasNot key
  | .all fs => all fs fun f _ =>
    induction const equal notEqual compare oneOf noneOf has hasNot all any none f
  | .any fs => any fs fun f _ =>
    induction const equal notEqual compare oneOf noneOf has hasNot all any none f
  | .none fs => none fs fun f _ =>
    induction const equal notEqual compare oneOf noneOf has hasNot all any none f

mutual

/-- The filter as it is written. -/
def toJson : PlainFilter → Json
  | const b => .bool b
  | equal key v => .array [.string "==", .string key, v.json]
  | notEqual key v => .array [.string "!=", .string key, v.json]
  | compare c key v => .array [.string c.symbol, .string key, v.json]
  | oneOf key vs => .array (.string "in" :: .string key :: vs.map Scalar.json)
  | noneOf key vs => .array (.string "!in" :: .string key :: vs.map Scalar.json)
  | has key => .array [.string "has", .string key]
  | hasNot key => .array [.string "!has", .string key]
  | all fs => .array (.string "all" :: toJsonEach fs)
  | any fs => .array (.string "any" :: toJsonEach fs)
  | none fs => .array (.string "none" :: toJsonEach fs)

/-- Some filters as they are written. -/
def toJsonEach : List PlainFilter → List Json
  | [] => []
  | f :: rest => f.toJson :: toJsonEach rest

end

theorem toJsonEach_eq_map (fs : List PlainFilter) : toJsonEach fs = fs.map toJson := by
  induction fs with
  | nil => rw [toJsonEach, List.map_nil]
  | cons f rest ih => rw [toJsonEach, ih, List.map_cons]

end PlainFilter

/-- The value `v` stands under a key of a feature: the name of its geometry, its id, or a
property. -/
inductive Feature.Has (feature : Feature) : String → Json → Prop
  | type {name : String} :
      feature.geometry.styleName? = some name → Has feature "$type" (.string name)
  | id {v : Json} : feature.id = some v → Has feature "$id" v
  | property {key : String} {v : Json} :
      key ≠ "$type" → key ≠ "$id" → feature.properties.find? key = some v → Has feature key v

theorem Feature.has_iff {feature : Feature} {key : String} {v : Json} :
    feature.Has key v ↔ feature.lookup? key = some v := by
  rw [lookup?]
  constructor
  · rintro (hname | hid | ⟨htype, hid, hv⟩)
    · rw [if_pos rfl, hname]
      rfl
    · rw [if_neg (by decide), if_pos rfl]
      exact hid
    · rw [if_neg htype, if_neg hid]
      exact hv
  · intro h
    by_cases htype : key = "$type"
    · subst htype
      rw [if_pos rfl] at h
      obtain ⟨name, hname, rfl⟩ := Option.map_eq_some_iff.mp h
      exact .type hname
    · rw [if_neg htype] at h
      by_cases hid : key = "$id"
      · subst hid
        rw [if_pos rfl] at h
        exact .id h
      · rw [if_neg hid] at h
        exact .property htype hid h

namespace PlainFilter

/-- The feature passes the filter. -/
def Holds (feature : Feature) : PlainFilter → Prop
  | const b => b = true
  | equal key v => ∃ w, feature.Has key w ∧ w.same v.json = true
  | notEqual key v => ¬ ∃ w, feature.Has key w ∧ w.same v.json = true
  | compare c key v =>
    ∃ w o, feature.Has key w ∧ w.order? v.json = some o ∧ c.holds o = true
  | oneOf key vs => ∃ w, feature.Has key w ∧ ∃ v ∈ vs, w.same v.json = true
  | noneOf key vs => ¬ ∃ w, feature.Has key w ∧ ∃ v ∈ vs, w.same v.json = true
  | has key => ∃ w, feature.Has key w
  | hasNot key => ¬ ∃ w, feature.Has key w
  | all fs => ∀ f ∈ fs, f.Holds feature
  | any fs => ∃ f, ∃ _ : f ∈ fs, f.Holds feature
  | none fs => ∀ f ∈ fs, ¬ f.Holds feature

/-- The key that a filter tests, if it is a test. -/
def key? : PlainFilter → Option String
  | equal key _ | notEqual key _ | compare _ key _ | oneOf key _ | noneOf key _ | has key
  | hasNot key => some key
  | const _ | all _ | any _ | none _ => .none

/-- Whether a filter denies something of its key. -/
def denies : PlainFilter → Bool
  | notEqual _ _ | noneOf _ _ | hasNot _ => true
  | _ => false

/-- If nothing stands under its key, a test holds just if it denies something. -/
theorem holds_of_missing {feature : Feature} {f : PlainFilter} {key : String}
    (hkey : f.key? = some key) (hmissing : ∀ v, ¬ feature.Has key v) :
    f.Holds feature ↔ f.denies = true := by
  -- Whatever a test asks of the value under its key, there is none.
  have hnone (p : Json → Prop) : ¬ ∃ w, feature.Has key w ∧ p w :=
    fun ⟨w, hw, _⟩ => hmissing w hw
  have hnothing : ¬ ∃ w, feature.Has key w := fun ⟨w, hw⟩ => hmissing w hw
  cases f with
  | const b | all fs | any fs | none fs => exact absurd hkey (by simp [key?])
  | equal k v | oneOf k vs =>
    obtain rfl : k = key := Option.some.inj hkey
    rw [Holds]
    exact iff_of_false (hnone _) Bool.false_ne_true
  | notEqual k v | noneOf k vs =>
    obtain rfl : k = key := Option.some.inj hkey
    rw [Holds]
    exact iff_of_true (hnone _) rfl
  | compare c k v =>
    obtain rfl : k = key := Option.some.inj hkey
    rw [Holds]
    refine iff_of_false ?_ Bool.false_ne_true
    rintro ⟨w, o, hw, -⟩
    exact hmissing w hw
  | has k =>
    obtain rfl : k = key := Option.some.inj hkey
    rw [Holds]
    exact iff_of_false hnothing Bool.false_ne_true
  | hasNot k =>
    obtain rfl : k = key := Option.some.inj hkey
    rw [Holds]
    exact iff_of_true hnothing rfl

end PlainFilter

end MapStyle
