/-
What properties mean after they are written and read again.

Plain values and expressions are written as they are.  A stop function mostly comes back as it
was, too, but two things are lost.  Stops that are none are left out, and only an identity of a
property is read without stops: any other function without stops comes back as a plain object,
which is its own value.  And a base exactly `epsilon` from one is left out as if it were one,
although only a base that is closer puts the values between two stops on a straight line.

* `StopFunction.LosesStops`, `StopFunction.KeepsBase` — where each of the two is lost;
* `ofJson?_toJson_of_keeps`, `ofJson?_toJson_of_loses` — what is read from a written function;
* `evaluate?_reread` — a base that is kept leaves every value;
* `Property.evaluate?_rewritten` — what is kept has its form and its values, and what is lost is
  another property in every context;
* `Property.rewritten_without_stops` — a function that is lost.
-/
import MapStyle.Proofs.StopFunction.Default
import MapStyle.Proofs.StopFunction.Written

namespace MapStyle

/-- A member of an object is not the object. -/
theorem Json.ne_object_of_mem {members : Dictionary Json} {name : String} {v : Json}
    (h : (name, v) ∈ members) : v ≠ .object members := by
  intro heq
  have hmember := List.sizeOf_lt_of_mem h
  have hobject : sizeOf v = sizeOf (Json.object members) := congrArg sizeOf heq
  simp only [Prod.mk.sizeOf_spec, Json.object.sizeOf_spec] at hmember hobject
  omega

namespace StopFunction

variable {f : StopFunction} {context : Context}

/-- Whether the function has no stops but needs some to be read. -/
def LosesStops (f : StopFunction) : Prop :=
  f.stops = [] ∧ ¬ (f.kind = some .identity ∧ f.property.isSome = true)

/-- Whether the base does not matter, or is closer to one than `epsilon`, or farther from it. -/
def KeepsBase (f : StopFunction) : Prop :=
  f.resolvedKind = .exponential →
    (f.base - 1.0).abs < epsilon ∨ epsilon < (f.base - 1.0).abs

/-! ### What is read -/

theorem declared?_fields (f : StopFunction) :
    declared? (Dictionary.ofFields f.fields) = some f.kind := by
  have hkind : (Dictionary.ofFields f.fields).find? "type" =
      f.kind.map fun k => Json.string k.name := find?_fields f "type"
  rw [declared?, hkind]
  cases f.kind with
  | none => rfl
  | some k => exact congrArg (Option.map some) (StopKind.ofName?_name k)

theorem stops?_fields (f : StopFunction) :
    stops? (Dictionary.ofFields f.fields) f.kind =
      if f.stops = [] then
        if f.kind = some .identity ∧ f.property.isSome = true then some [] else none
      else some f.stops := by
  have hstops : (Dictionary.ofFields f.fields).find? "stops" = stopsField f.stops :=
    find?_fields f "stops"
  have hproperty : (Dictionary.ofFields f.fields).find? "property" = f.property.map .string :=
    find?_fields f "property"
  rw [stops?, hstops, hproperty, property_of_field, stopsField]
  by_cases hnil : f.stops = []
  · rw [if_pos (List.isEmpty_iff.mpr hnil), if_pos hnil]
  · rw [if_neg (List.isEmpty_iff.not.mpr hnil), if_neg hnil]
    exact mapM_stop? f.stops

/-- A function that does not lose its stops is read from what is written. -/
theorem ofJson?_toJson_of_keeps (hbase : f.base.isFinite = true) (h : ¬ f.LosesStops) :
    ofJson? f.toJson = some f.reread := by
  have hstops : stops? (Dictionary.ofFields f.fields) f.kind = some f.stops := by
    rw [stops?_fields]
    by_cases hnil : f.stops = []
    · have hneeds : f.kind = some .identity ∧ f.property.isSome = true :=
        not_not.mp fun hneeds => h ⟨hnil, hneeds⟩
      rw [if_pos hnil, if_pos hneeds, hnil]
    · rw [if_neg hnil]
  rw [toJson_eq, ofJson?_object, declared?_fields, Option.bind_some, hstops, Option.bind_some,
    read_fields hbase]
  rfl

/-- A function that loses its stops is no function any more. -/
theorem ofJson?_toJson_of_loses (h : f.LosesStops) : ofJson? f.toJson = none := by
  rw [toJson_eq, ofJson?_object, declared?_fields, Option.bind_some, stops?_fields, if_pos h.1,
    if_neg h.2]
  rfl

/-! ### A base that is kept -/

/-- Every base closer to one than `epsilon` leaves a straight line. -/
theorem exponential?_of_close (hclose : (f.base - 1.0).abs < epsilon) (stops : List Stop)
    (input : Float) : exponential? stops input f.base = exponential? stops input 1.0 := by
  have hone : ((1.0 : Float) - 1.0).abs < epsilon := by decide
  have hprogress : progress input f.base = progress input 1.0 := by
    funext lower upper
    rw [progress, progress, if_pos hclose, if_pos hone]
  rw [exponential?, exponential?, hprogress]

theorem exponential?_reread (h : f.KeepsBase) (hkind : f.resolvedKind = .exponential)
    (stops : List Stop) (input : Float) :
    exponential? stops input f.reread.base = exponential? stops input f.base := by
  rw [reread]
  by_cases hfar : epsilon < (f.base - 1.0).abs
  · rw [if_pos hfar]
  · rw [if_neg hfar]
    exact (exponential?_of_close ((h hkind).resolve_right hfar) stops input).symm

theorem evaluateStops?_reread (h : f.KeepsBase) : f.reread.evaluateStops? = f.evaluateStops? := by
  funext stops input
  have hresolved : f.reread.resolvedKind = f.resolvedKind := rfl
  rw [evaluateStops?, evaluateStops?, hresolved]
  cases hkind : f.resolvedKind with
  | exponential => exact congrArg input.float?.bind (funext (exponential?_reread h hkind stops))
  | interval | categorical | identity => rfl

theorem acrossZooms?_reread (h : f.KeepsBase) : f.reread.acrossZooms? = f.acrossZooms? := by
  funext zoom stops
  have hresolved : f.reread.resolvedKind = f.resolvedKind := rfl
  rw [acrossZooms?, acrossZooms?, hresolved]
  cases hkind : f.resolvedKind with
  | exponential => exact exponential?_reread h hkind stops zoom
  | interval | categorical | identity => rfl

/-- **A function whose base is kept has the same values.** -/
theorem evaluate?_reread (h : f.KeepsBase) (context : Context) :
    f.reread.evaluate? context = f.evaluate? context := by
  have hinput : f.reread.input? context = f.input? context := rfl
  rw [evaluate?, evaluate?, hinput, evaluateStops?_reread h]
  by_cases hcomposite : f.isComposite = true
  · have hcomposite' : f.reread.isComposite = true := hcomposite
    have hzooms (input : Json) : f.reread.zoomStops? input = f.zoomStops? input := by
      rw [zoomStops?, zoomStops?, evaluateStops?_reread h]
      rfl
    rw [if_pos hcomposite, if_pos hcomposite', evaluateComposite?_eq hcomposite,
      evaluateComposite?_eq hcomposite', acrossZooms?_reread h, hinput]
    simp only [hzooms]
    rfl
  · have hcomposite' : ¬ f.reread.isComposite = true := hcomposite
    rw [if_neg hcomposite, if_neg hcomposite']
    rfl

-- The float after one is neither closer to one than epsilon nor farther, and is read as one.
example :
    let f : StopFunction := ⟨none, 1.0000000000000002, none, [], none⟩
    ¬ f.KeepsBase ∧ (f.reread.base == 1.0) = true := by
  refine ⟨fun h => ?_, by decide +kernel⟩
  exact absurd (h rfl) (by decide +kernel)

/-! ### Stops that are lost -/

/-- An identity is declared. -/
theorem kind_of_resolvedKind (h : f.resolvedKind = .identity) : f.kind = some .identity := by
  rw [resolvedKind] at h
  cases hkind : f.kind with
  | some kind =>
    rw [hkind] at h
    exact congrArg some h
  | none =>
    rw [hkind] at h
    split_ifs at h

/-- What has no property has a number as its input. -/
theorem exists_number_of_input? (hproperty : f.property = none) {input : Json}
    (h : f.input? context = some input) : ∃ n, input = .number n := by
  rw [input?, hproperty] at h
  obtain ⟨n, -, hn⟩ := Option.map_eq_some_iff.mp (Option.filter_eq_some_iff.mp h).1
  exact ⟨n, hn.symm⟩

/-- Without stops there is no value of a property, but the zoom is one. -/
theorem evaluate?_of_loses (h : f.LosesStops) (context : Context) :
    f.evaluate? context = f.default ∨ ∃ n, f.evaluate? context = some (.number n) := by
  have hcomposite : f.isComposite = false := by
    rw [isComposite, h.1, List.any_nil, Bool.and_false]
  rw [evaluate?, hcomposite, if_neg Bool.false_ne_true, h.1]
  cases hinput : f.input? context with
  | none => exact Or.inl rfl
  | some input =>
    rw [Option.bind_some, evaluateStops?]
    cases hkind : f.resolvedKind with
    | categorical | interval => exact Or.inl rfl
    | exponential =>
      refine Or.inl ?_
      cases input.float? <;> rfl
    | identity =>
      -- An identity that has a property would be read without stops, so that this one has none.
      have hproperty : f.property = none := by
        cases hname : f.property with
        | none => rfl
        | some name => exact absurd ⟨kind_of_resolvedKind hkind, by rw [hname]; rfl⟩ h.2
      obtain ⟨n, rfl⟩ := exists_number_of_input? hproperty hinput
      exact Or.inr ⟨n, rfl⟩

/-- The default is a member of what is written, and so not all of it. -/
theorem default_ne_toJson (f : StopFunction) : f.default ≠ some f.toJson := by
  intro h
  have hfind : (Dictionary.ofFields f.fields).find? "default" = f.default :=
    find?_fields f "default"
  rw [h] at hfind
  exact Json.ne_object_of_mem (Dictionary.mem_of_find? hfind) (toJson_eq f)

/-- A function without stops never has its written form as its value. -/
theorem evaluate?_ne_toJson (h : f.LosesStops) (context : Context) :
    f.evaluate? context ≠ some f.toJson := by
  rcases evaluate?_of_loses h context with hdefault | ⟨n, hn⟩
  · rw [hdefault]
    exact default_ne_toJson f
  · rw [hn]
    intro heq
    cases Option.some.inj heq

end StopFunction

/-! ### Properties -/

namespace Property

variable {v : Json}

/-- What is read from the written property. -/
def rewritten (p : Property) : Property := ofJson p.toJson

/-- Whether two properties are both plain values, both functions or both expressions. -/
def SameForm : Property → Property → Prop
  | literal _, literal _ | stops _, stops _ | expression _, expression _ => True
  | _, _ => False

/-- Whether the property is a function that is not read without its stops. -/
def LosesStops : Property → Prop
  | stops f => f.LosesStops
  | _ => False

/-- Whether the property has no base that is lost. -/
def KeepsBase : Property → Prop
  | stops f => f.KeepsBase
  | _ => True

theorem sameForm_self (p : Property) : p.SameForm p := by
  cases p <;> exact trivial

theorem rewritten_of_none (h : StopFunction.ofJson? v = none) :
    (ofJson v).rewritten = ofJson v := by
  rw [rewritten, toJson_ofJson_of_none h]

theorem ofJson_of_some {f : StopFunction} (h : StopFunction.ofJson? v = some f) :
    ofJson v = stops f := by
  rw [ofJson, h]

/-- An object that is no function is a plain value. -/
theorem ofJson_toJson_of_loses {f : StopFunction} (h : f.LosesStops) :
    ofJson f.toJson = literal f.toJson := by
  rw [ofJson, StopFunction.ofJson?_toJson_of_loses h]
  rfl

/-- **A property comes back in its form with its values**, unless it is a function whose stops or
base are left out.  Without its stops it is another property in every context. -/
theorem evaluate?_rewritten (hv : v.isFinite = true) :
    ((ofJson v).rewritten.SameForm (ofJson v) ↔ ¬ (ofJson v).LosesStops) ∧
      (∀ context, (ofJson v).LosesStops →
        (ofJson v).rewritten.evaluate? context ≠ (ofJson v).evaluate? context) ∧
      (∀ context, ¬ (ofJson v).LosesStops → (ofJson v).KeepsBase →
        (ofJson v).rewritten.evaluate? context = (ofJson v).evaluate? context) := by
  cases hf : StopFunction.ofJson? v with
  | none =>
    have hkept : ¬ (ofJson v).LosesStops := by
      rw [ofJson, hf]
      show ¬ (if v.isExpression then expression v else literal v).LosesStops
      split <;> exact id
    rw [rewritten_of_none hf]
    exact ⟨iff_of_true (sameForm_self _) hkept, fun _ h => absurd h hkept, fun _ _ _ => rfl⟩
  | some f =>
    rw [ofJson_of_some hf]
    by_cases hloses : f.LosesStops
    · have hrewritten : (stops f).rewritten = literal f.toJson := ofJson_toJson_of_loses hloses
      rw [hrewritten]
      refine ⟨iff_of_false id (not_not.mpr hloses), fun context _ => ?_,
        fun _ hkept => absurd hloses hkept⟩
      exact (f.evaluate?_ne_toJson hloses context).symm
    · have hrewritten : (stops f).rewritten = stops f.reread :=
        ofJson_of_some (f.ofJson?_toJson_of_keeps (f.isFinite_base hv hf) hloses)
      rw [hrewritten]
      refine ⟨iff_of_true trivial hloses, fun _ h => absurd h hloses, fun context _ hbase => ?_⟩
      exact f.evaluate?_reread hbase context

/-- A width that grows by half from each zoom to the next. -/
theorem evaluate?_rewritten_width :
    let written : Json := .object [("base", .number (.float 1.5)),
      ("stops", .array [.array [.number (.int 4), .number (.int 1)],
        .array [.number (.int 12), .number (.int 3)]])]
    written.isFinite = true ∧ (ofJson written).rewritten.SameForm (ofJson written) ∧
      ∀ context, (ofJson written).rewritten.evaluate? context =
        (ofJson written).evaluate? context := by
  intro written
  have hfinite : written.isFinite = true := by decide +kernel
  have hkept : ¬ (ofJson written).LosesStops := by
    rintro ⟨hnil, -⟩
    cases hnil
  have hbase : (ofJson written).KeepsBase := fun _ => Or.inr (by decide +kernel)
  obtain ⟨hform, -, hvalues⟩ := evaluate?_rewritten hfinite
  exact ⟨hfinite, hform.mpr hkept, fun context => hvalues context hkept hbase⟩

/-- A function without stops has its default, but what is written of it is an object. -/
theorem rewritten_without_stops :
    let p := ofJson (.object [("default", .number (.int 3)), ("stops", .array [])])
    let context : Context := .ofProperties [] 0.0
    p.evaluate? context = some (.number (.int 3)) ∧
      p.rewritten.evaluate? context = some (.object [("default", .number (.int 3))]) ∧
      ¬ p.rewritten.SameForm p :=
  ⟨rfl, rfl, id⟩

end Property

end MapStyle
