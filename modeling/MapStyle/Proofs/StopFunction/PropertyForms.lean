/-
Functions of a property in two forms.

A categorical function of a property is a choice among its outputs by labels, and an identity is
the property with a default behind it.  Both may be written as an object with stops or as an
expression, `match` and `coalesce`, and the forms are evaluated apart from one another: an object
takes a missing property and a null one for no input at all and falls back on its default, and an
expression goes on with null.

* `LabelStop` — a stop at a value that is not null, and `LabelStop.function`, a function of a
  property with such stops as it is written;
* `evaluate?_categorical`, `evaluate?_choice` — the value of a categorical function, and of a
  choice by the same labels;
* `evaluate?_identity`, `evaluate?_fallback` — the value of an identity, and of a property with
  the same default;
* `LabelStop.evaluate?_both_forms` — hence the forms have one value for every feature and zoom.
-/
import MapStyle.Proofs.Expression.Branches
import MapStyle.Proofs.Expression.Equality
import MapStyle.Proofs.Filter.Grammar
import MapStyle.Proofs.StopFunction.OneZoom

namespace MapStyle

open Json (orNull outputFor)

/-- A stop at a value that is not null and no list or object, with an output that is no list. -/
structure LabelStop where
  label : Scalar
  notNull : label.json.isNull = false
  output : Json
  plain : output.isArray = false

namespace LabelStop

/-- The label with its output, as a stop of a function and as a branch of a choice. -/
def stop (s : LabelStop) : Json × Json := (s.label.json, s.output)

/-- A function of a property as an object, whose kind, base and stops may be left out. -/
def function (kind : Option StopKind) (base : Option Json) (name : String)
    (stops : Option (List LabelStop)) (default : Json) : Json :=
  .object (Dictionary.ofFields [
    ("base", base),
    ("default", some default),
    ("property", some (.string name)),
    ("stops", stops.map fun stops => .array (stops.map fun s => .array [s.label.json, s.output])),
    ("type", kind.map fun k => .string k.name)])

/-- The property of a feature as an expression. -/
def property (name : String) : Json := .array [.string "get", .string name]

/-- The property, or what holds without it, as an expression. -/
def fallback (name : String) (default : Json) : Json :=
  .array [.string "coalesce", property name, default]

variable {context : Context} {name : String} {default : Json}

/-! ### The object -/

/-- The function that the object describes. -/
def parsed (kind : Option StopKind) (base : Option Json) (name : String)
    (stops : Option (List LabelStop)) (default : Json) : StopFunction :=
  ⟨kind, (base.bind Json.float?).getD 1.0, some name, (stops.getD []).map stop, some default⟩

theorem mapM_stop? (stops : List LabelStop) :
    (stops.map fun s => Json.array [s.label.json, s.output]).mapM StopFunction.stop? =
      some (stops.map stop) :=
  Json.mapM_map fun _ _ => rfl

/-- Only an identity may be without stops. -/
theorem ofJson?_function {kind : Option StopKind} {stops : Option (List LabelStop)}
    (h : kind = some .identity ∨ stops.isSome = true) (base : Option Json) (name : String)
    (default : Json) :
    StopFunction.ofJson? (function kind base name stops default) =
      some (parsed kind base name stops default) := by
  cases stops with
  | none =>
    obtain rfl : kind = some .identity := by simpa using h
    cases base <;> rfl
  | some stops =>
    have hstops := mapM_stop? stops
    cases base <;> rcases kind with _ | _ | _ | _ | _ <;>
      · show Option.bind (List.mapM StopFunction.stop? _) _ = _
        rw [hstops]
        rfl

theorem isObject_label (s : LabelStop) : s.label.json.isObject = false := by
  have hscalar := s.label.isScalar
  rw [Json.isScalar, Bool.and_eq_true, Bool.not_eq_true', Bool.not_eq_true'] at hscalar
  exact hscalar.2

/-- The value of an object: the output for the property, if it has one, or else the default. -/
theorem evaluate?_function {kind : Option StopKind} {stops : Option (List LabelStop)}
    (h : kind = some .identity ∨ stops.isSome = true) (base : Option Json) :
    (Property.ofJson (function kind base name stops default)).evaluate? context =
      some ((((context.properties.find? name).filter (!·.isNull)).bind
        ((parsed kind base name stops default).evaluateStops? ((stops.getD []).map stop))).getD
          default) := by
  have hplain : (parsed kind base name stops default).isComposite = false :=
    StopFunction.isComposite_of_plain (List.forall_mem_map.mpr fun s _ => s.isObject_label)
  rw [Property.ofJson, ofJson?_function h]
  show (parsed kind base name stops default).evaluate? context = _
  rw [StopFunction.evaluate?, if_neg (ne_true_of_eq_false hplain)]
  show (((context.properties.find? name).filter (!·.isNull)).bind
    ((parsed kind base name stops default).evaluateStops? ((stops.getD []).map stop)) <|>
      some default) = _
  cases ((context.properties.find? name).filter (!·.isNull)).bind
    ((parsed kind base name stops default).evaluateStops? ((stops.getD []).map stop)) <;> rfl

/-- The kind is categorical where it is declared so, or where no kind is declared and some label
is a text or a truth value. -/
theorem resolvedKind_parsed {kind : Option StopKind} {stops : List LabelStop}
    (h : kind = some .categorical ∨
      kind = none ∧ ∃ s ∈ stops, s.label.json.isString = true ∨ s.label.json.isBool = true)
    (base : Option Json) :
    (parsed kind base name (some stops) default).resolvedKind = .categorical := by
  obtain rfl | ⟨rfl, s, hs, hlabel⟩ := h
  · rfl
  · have hany : ((stops.map stop).any fun s => s.1.isString || s.1.isBool) = true := by
      rw [List.any_map, List.any_eq_true]
      exact ⟨s, hs, by simpa [stop] using hlabel⟩
    rw [StopFunction.resolvedKind]
    exact if_pos hany

/-! ### The output for a label -/

/-- The output that belongs to a value is that of the first stop with an equal label. -/
theorem outputFor_stops (v : Json) (stops : List LabelStop) (default : Json) :
    outputFor v (stops.map stop) default =
      (((stops.map stop).find? fun s => s.1.same v).map Prod.snd).getD default := by
  have hfits : ∀ s ∈ stops, fits v (stop s).1 = (stop s).1.same v := fun s _ =>
    Json.fits_of_isArray_eq_false s.label.isArray_eq_false v
  rw [outputFor, List.find?_map, List.find?_map]
  congr 3
  exact List.find?_congr hfits

/-- No label is null, so that null leads to the default. -/
theorem outputFor_null (stops : List LabelStop) (default : Json) :
    outputFor .null (stops.map stop) default = default := by
  have hnone : ((stops.map stop).find? fun s => s.1.same .null) = none := by
    rw [List.find?_eq_none]
    refine List.forall_mem_map.mpr fun s _ => ?_
    have hnull := s.notNull
    rw [stop]
    cases hlabel : s.label.json with
    | null =>
      rw [hlabel] at hnull
      cases hnull
    | _ => exact Bool.false_ne_true
  rw [outputFor_stops, hnone]
  rfl

theorem isArray_outputFor (hdefault : default.isArray = false) (v : Json) (stops : List LabelStop) :
    (outputFor v (stops.map stop) default).isArray = false := by
  rw [outputFor]
  cases hfind : (stops.map stop).find? fun b => fits v b.1 with
  | none =>
    rw [Option.map_none, Option.getD_none]
    exact hdefault
  | some b =>
    rw [Option.map_some, Option.getD_some]
    obtain ⟨s, -, rfl⟩ := List.mem_map.mp (List.mem_of_find?_eq_some hfind)
    exact s.plain

/-! ### Categorical functions -/

/-- **The value of a categorical function**: the output for the property, where a missing one
counts as null. -/
theorem evaluate?_categorical {kind : Option StopKind} {stops : List LabelStop}
    (h : kind = some .categorical ∨
      kind = none ∧ ∃ s ∈ stops, s.label.json.isString = true ∨ s.label.json.isBool = true)
    (base : Option Json) :
    (Property.ofJson (function kind base name (some stops) default)).evaluate? context =
      some (outputFor (orNull (context.properties.find? name)) (stops.map stop) default) := by
  have hstops : ∀ v,
      (parsed kind base name (some stops) default).evaluateStops? (stops.map stop) v =
        ((stops.map stop).find? fun s => s.1.same v).map Prod.snd := by
    intro v
    rw [StopFunction.evaluateStops?, resolvedKind_parsed h]
  rw [evaluate?_function (.inr rfl), Option.getD_some, Option.some_inj]
  cases hfind : context.properties.find? name with
  | none => exact (outputFor_null stops default).symm
  | some v =>
    by_cases hnull : v.isNull = true
    · obtain rfl : v = .null := by
        cases v with
        | null => rfl
        | _ => cases hnull
      exact (outputFor_null stops default).symm
    · have hfilter : (some v).filter (!·.isNull) = some v :=
        Option.filter_some_pos (by simpa using hnull)
      rw [hfilter, Option.bind_some, hstops]
      exact (outputFor_stops v stops default).symm

theorem evaluate?_property (name : String) :
    (property name).evaluate? context = some (orNull (context.properties.find? name)) := by
  rw [property, Json.evaluate?_array]
  rfl

/-- **The value of the choice by the same labels.** -/
theorem evaluate?_choice {stops : List LabelStop} (hstops : stops ≠ [])
    (hdefault : default.isArray = false) :
    (Json.matching (property name) (stops.map stop) default).evaluate? context =
      some (outputFor (orNull (context.properties.find? name)) (stops.map stop) default) := by
  rw [Json.evaluate?_matching, if_neg (by rwa [List.map_eq_nil_iff]), evaluate?_property,
    Option.bind_some]
  exact Json.evaluate?_of_isArray_eq_false (isArray_outputFor hdefault _ stops)

/-! ### Identities -/

/-- **The value of an identity**: the property, or the default where it is missing or null.  Its
stops are not looked at, if it has any. -/
theorem evaluate?_identity (base : Option Json) (stops : Option (List LabelStop)) :
    (Property.ofJson (function (some .identity) base name stops default)).evaluate? context =
      some (((context.properties.find? name).filter (!·.isNull)).getD default) := by
  rw [evaluate?_function (.inl rfl)]
  cases (context.properties.find? name).filter (!·.isNull) <;> rfl

/-- **The value of the property with the same default behind it.** -/
theorem evaluate?_fallback (hdefault : default.isArray = false) (hnull : default.isNull = false) :
    (fallback name default).evaluate? context =
      some (((context.properties.find? name).filter (!·.isNull)).getD default) := by
  have hvalue : default.evaluate? context = some default :=
    Json.evaluate?_of_isArray_eq_false hdefault
  have hkept : (some default).filter (!·.isNull) = some default :=
    Option.filter_some_pos (by rw [hnull]; rfl)
  rw [fallback, Json.evaluate?_array, List.map_cons, List.map_cons, List.map_nil,
    evaluate?_property, hvalue]
  show List.findSome? (fun o : Operand => o.value.filter (!·.isNull)) _ = _
  rw [List.findSome?_cons, List.findSome?_cons, hkept]
  cases context.properties.find? name with
  | none => rfl
  | some v => cases v <;> rfl

/-! ### Both forms -/

/-- **A function of a property has one value in both forms**, for every feature and zoom: a
categorical function that of the choice by its labels, which is the output for the property, and an
identity that of the property with the default behind it. -/
theorem evaluate?_both_forms (context : Context) (name : String) (base : Option Json)
    (default : Json) (hdefault : default.isArray = false) :
    (∀ (kind : Option StopKind) (stops : List LabelStop), stops ≠ [] →
      (kind = some .categorical ∨
        kind = none ∧ ∃ s ∈ stops, s.label.json.isString = true ∨ s.label.json.isBool = true) →
      (Property.ofJson (function kind base name (some stops) default)).evaluate? context =
          (Json.matching (property name) (stops.map stop) default).evaluate? context ∧
        (Property.ofJson (function kind base name (some stops) default)).evaluate? context =
          some (outputFor (orNull (context.properties.find? name)) (stops.map stop) default)) ∧
    (default.isNull = false → ∀ stops : Option (List LabelStop),
      (Property.ofJson (function (some .identity) base name stops default)).evaluate? context =
          (fallback name default).evaluate? context ∧
        (Property.ofJson (function (some .identity) base name stops default)).evaluate? context =
          some (((context.properties.find? name).filter (!·.isNull)).getD default)) := by
  constructor
  · intro kind stops hne hkind
    rw [evaluate?_choice hne hdefault, evaluate?_categorical hkind]
    exact ⟨rfl, rfl⟩
  · intro hnull stops
    rw [evaluate?_fallback hdefault hnull, evaluate?_identity]
    exact ⟨rfl, rfl⟩

/-- Parks have the output null, which is not the default. -/
def park : LabelStop := ⟨⟨.string "park", rfl⟩, rfl, .null, rfl⟩

/-- The number 8, written with a point. -/
def eight : LabelStop := ⟨⟨.number (.float 8.0), rfl⟩, rfl, .number (.int 2), rfl⟩

theorem evaluate?_both_forms_rank :
    let context : Context := .ofProperties [("rank", .number (.int 8))] 5.0
    let nine : Json := .number (.int 9)
    nine.isArray = false ∧ [park, eight] ≠ [] ∧ park ∈ [park, eight] ∧
      park.label.json.isString = true ∧ nine.isNull = false ∧
      (Property.ofJson (function none none "rank" (some [park, eight]) nine)).evaluate? context =
        (Json.matching (property "rank") ([park, eight].map stop) nine).evaluate? context ∧
      (Property.ofJson (function none none "rank" (some [park, eight]) nine)).evaluate? context =
        some (.number (.int 2)) ∧
      (Property.ofJson (function (some .identity) none "name" none nine)).evaluate? context =
        (fallback "name" nine).evaluate? context := by
  intro context nine
  have harray : nine.isArray = false := rfl
  have hnull : nine.isNull = false := rfl
  have hmem : park ∈ [park, eight] := List.mem_cons_self
  have htext : park.label.json.isString = true := rfl
  have hranks := (evaluate?_both_forms context "rank" none nine harray).1 none [park, eight]
    (List.cons_ne_nil park [eight]) (.inr ⟨rfl, park, hmem, .inl htext⟩)
  have hnames := (evaluate?_both_forms context "name" none nine harray).2 hnull none
  exact ⟨harray, List.cons_ne_nil park [eight], hmem, htext, hnull, hranks.1, hranks.2, hnames.1⟩

/-- An output that is null is taken, and the default only where no label fits. -/
example :
    (Property.ofJson (function none none "class" (some [park, eight]) (.string "other"))).evaluate?
        (.ofProperties [("class", .string "park")] 5.0) = some .null := by
  rfl

end LabelStop

end MapStyle
