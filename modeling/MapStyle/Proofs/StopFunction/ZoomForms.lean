/-
Functions of the zoom in two forms.

A function of the zoom is written as an object with its stops, or as an expression:
`interpolate` where it blends, and `step` where it does not.  The forms are evaluated apart
from one another.  An object takes the zoom as it is and searches the stops by the order of
values, and an expression computes the zoom and searches by the order of floats.

* `ZoomStop` — a stop at a zoom, and `ZoomStop.function`, `ZoomStop.interpolation` and
  `ZoomStop.steps`, the forms of a function with such stops;
* `exponential?_map_stop` — a blend is the same in both forms;
* `intervalFrom?_map_stop` — and so is the output of the last stop that is not above;
* `ZoomStop.evaluate?_forms` — hence the forms have one value at every zoom.
-/
import MapStyle.Json.Record
import MapStyle.Property
import MapStyle.Proofs.Decimal.Order
import MapStyle.Proofs.Decimal.Whole
import MapStyle.Proofs.Expression.Operands

namespace MapStyle

/-! ### Values, bases and neighbours -/

/-- An operand that stands for itself. -/
def Operand.itself (v : Json) : Operand := ⟨v, some v⟩

theorem base?_exponential (base : Option Json) :
    base? (.array (.string "exponential" :: base.toList)) =
      some ((base.bind Json.float?).getD 1.0) := by
  cases base <;> rfl

theorem mem_of_bracket {α : Type} {above : α → Bool} {before lower upper : α} {items : List α}
    (h : bracket above before items = some (lower, upper)) :
    lower ∈ before :: items ∧ upper ∈ items := by
  induction items generalizing before with
  | nil => exact nomatch h
  | cons item rest ih =>
    rw [bracket] at h
    split at h
    · obtain ⟨rfl, rfl⟩ := Prod.mk.inj (Option.some.inj h)
      exact ⟨List.mem_cons_self, List.mem_cons_self⟩
    · obtain ⟨hlower, hupper⟩ := ih h
      exact ⟨List.mem_cons_of_mem _ hlower, List.mem_cons_of_mem _ hupper⟩

theorem intervalFrom?_cons (input current stop output : Json) (rest : List Stop) :
    intervalFrom? input current ((stop, output) :: rest) =
      (input.order? stop).bind fun o =>
        if o = .lt then some current else intervalFrom? input output rest := by
  rw [intervalFrom?]
  cases input.order? stop with
  | none => rfl
  | some o => cases o <;> rfl

/-! ### The forms -/

/-- A stop at a zoom.  No number of a document is NaN or infinite. -/
structure ZoomStop where
  zoom : Number
  finite : zoom.toFloat.isFinite = true
  output : Json

namespace ZoomStop

open Operand (itself)

/-- The zoom and the output one behind the other. -/
def written (s : ZoomStop) : List Json := [.number s.zoom, s.output]

/-- The function with some stops as an object, whose base and kind may be left out. -/
def function (kind : Option StopKind) (base : Option Json) (stops : List ZoomStop) : Json :=
  let members : List (Option (String × Json)) := [
    base.map fun v => ("base", v),
    some ("stops", .array (stops.map fun s => .array s.written)),
    kind.map fun k => ("type", .string k.name)]
  .object (members.filterMap fun m => m)

/-- The blend along some stops as an expression. -/
def interpolation (base : Option Json) (stops : List ZoomStop) : Json :=
  .array (.string "interpolate" :: .array (.string "exponential" :: base.toList) ::
    .array [.string "zoom"] :: stops.flatMap written)

/-- The steps along some stops as an expression.  Below the first stop its output holds too. -/
def steps (first : ZoomStop) (rest : List ZoomStop) : Json :=
  .array (.string "step" :: .array [.string "zoom"] :: first.output ::
    (first :: rest).flatMap written)

/-- The output is a number, or a text that is a colour. -/
def Blends (s : ZoomStop) : Prop :=
  (∃ n, s.output = .number n) ∨ ∃ text, s.output = .string text ∧ (Color.parse? text).isSome

theorem Blends.isArray_eq_false {s : ZoomStop} (h : s.Blends) : s.output.isArray = false := by
  obtain ⟨n, hn⟩ | ⟨text, htext, -⟩ := h
  · rw [hn]
    rfl
  · rw [htext]
    rfl

theorem Blends.canBlend {s : ZoomStop} (h : s.Blends) : s.output.canBlend = true := by
  obtain ⟨n, hn⟩ | ⟨text, htext, hcolor⟩ := h
  · rw [hn]
    rfl
  · rw [htext]
    exact hcolor

/-! ### The stops of an object -/

/-- The stop among those of a function. -/
def stop (s : ZoomStop) : Stop := (.number s.zoom, s.output)

theorem mapM_stop? (stops : List ZoomStop) :
    (stops.map fun s => Json.array s.written).mapM StopFunction.stop? = some (stops.map stop) :=
  Json.mapM_map fun _ _ => rfl

/-- The function that the object describes. -/
def parsed (kind : Option StopKind) (base : Option Json) (stops : List ZoomStop) : StopFunction :=
  ⟨kind, (base.bind Json.float?).getD 1.0, none, stops.map stop, none⟩

theorem ofJson?_function (kind : Option StopKind) (base : Option Json) (stops : List ZoomStop) :
    StopFunction.ofJson? (function kind base stops) = some (parsed kind base stops) := by
  have hstops := mapM_stop? stops
  cases base <;> rcases kind with _ | _ | _ | _ | _ <;>
    · show Option.bind (List.mapM StopFunction.stop? _) _ = _
      rw [hstops]
      rfl

variable {context : Context} {stops : List ZoomStop}

/-- The value of an object: its stops are not looked at when the zoom is no number. -/
theorem evaluate?_function (kind : Option StopKind) (base : Option Json) (stops : List ZoomStop) :
    (Property.ofJson (function kind base stops)).evaluate? context =
      if context.zoom.isFinite then
        (parsed kind base stops).evaluateStops? (stops.map stop) (.number (.float context.zoom))
      else none := by
  rw [Property.ofJson, ofJson?_function]
  show ((((Number.ofFinite? context.zoom).map Json.number).filter (!·.isNull)).bind
    ((parsed kind base stops).evaluateStops? (stops.map stop)) <|> none) = _
  rw [Number.ofFinite?]
  split
  · rw [Option.orElse_eq_orElse, Option.orElse_eq_or, Option.or_none]
    rfl
  · rfl

theorem resolvedKind_parsed {kind : Option StopKind} (base : Option Json)
    (hkind : kind = none ∨ kind = some .exponential) (hblends : ∀ s ∈ stops, s.Blends) :
    (parsed kind base stops).resolvedKind = .exponential := by
  obtain rfl | rfl := hkind
  · have hinputs : (stops.map stop).any (fun s => s.1.isString || s.1.isBool) = false := by
      rw [List.any_map, List.any_eq_false]
      exact fun s _ => Bool.false_ne_true
    have houtputs : (stops.map stop).all (fun s => s.2.canBlend) = true := by
      rw [List.all_map, List.all_eq_true]
      exact fun s hs => (hblends s hs).canBlend
    simp [StopFunction.resolvedKind, parsed, hinputs, houtputs]
  · rfl

/-! ### The operands of an expression -/

theorem operands_eq_itself (h : ∀ s ∈ stops, s.output.isArray = false) :
    (stops.flatMap written).map (fun v => (⟨v, v.evaluate? context⟩ : Operand)) =
      (stops.flatMap written).map itself := by
  refine List.map_congr_left fun v hv => ?_
  obtain ⟨s, hs, hv⟩ := List.mem_flatMap.mp hv
  have harray : v.isArray = false := by
    obtain rfl | rfl : v = .number s.zoom ∨ v = s.output := by simpa [written] using hv
    · rfl
    · exact h s hs
  rw [Json.evaluate?_of_isArray_eq_false harray, itself]

theorem pairs_operands (stops : List ZoomStop) :
    pairs ((stops.flatMap written).map itself) =
      stops.map fun s => (itself (.number s.zoom), itself s.output) := by
  rw [List.map_flatMap]
  exact pairs_flatMap _ _ stops

theorem numericStops_operands (stops : List ZoomStop) :
    numericStops ((stops.flatMap written).map itself) =
      stops.map fun s => (s.zoom.toFloat, itself s.output) := by
  rw [numericStops, pairs_operands, List.filterMap_map]
  exact congrFun List.filterMap_eq_map stops

/-- The zoom as an operand. -/
theorem float?_zoom (hzoom : context.zoom ≠ -0.0) :
    Operand.float? ⟨.array [.string "zoom"], (Json.array [.string "zoom"]).evaluate? context⟩ =
      if context.zoom.isFinite then some context.zoom else none := by
  have hvalue : (Json.array [.string "zoom"]).evaluate? context = Json.ofResult? context.zoom :=
    Json.evaluate?_array context "zoom" []
  rw [← Number.map_toFloat_ofResult? hzoom, Operand.float?, hvalue, Json.ofResult?]
  cases Number.ofResult? context.zoom <;> rfl

/-! ### The search of the stops -/

theorem exponential?_map_stop (input base : Float) (hblends : ∀ s ∈ stops, s.Blends) :
    exponential? (stops.map stop) input base =
      interpolate? base input (stops.map fun s => (s.zoom.toFloat, itself s.output)) := by
  cases stops with
  | nil => rfl
  | cons first rest =>
    obtain ⟨last, hlast⟩ : ∃ last, (first :: rest).getLast? = some last :=
      ⟨_, List.getLast?_eq_some_getLast (List.cons_ne_nil first rest)⟩
    rw [exponential?, interpolate?, List.getLast?_map, List.getLast?_map, hlast]
    show (if input ≤ first.zoom.toFloat then some first.output
      else if last.zoom.toFloat ≤ input then some last.output
      else (bracket _ (stop first) (rest.map stop)).bind _) =
      (if input ≤ first.zoom.toFloat then some first.output
      else if last.zoom.toFloat ≤ input then some last.output
      else (bracket _ (first.zoom.toFloat, itself first.output) (rest.map _)).bind _)
    rw [bracket_map stop, bracket_map (fun s => (s.zoom.toFloat, itself s.output)) _ first]
    split
    · rfl
    split
    · rfl
    -- Between the ends the neighbours are the same two stops, whose outputs blend.
    show ((bracket (fun s => decide (input < s.zoom.toFloat)) first rest).map _).bind _ =
      ((bracket (fun s => decide (input < s.zoom.toFloat)) first rest).map _).bind _
    cases hneighbours : bracket (fun s => decide (input < s.zoom.toFloat)) first rest with
    | none => rfl
    | some neighbours =>
      obtain ⟨lower, upper⟩ := neighbours
      obtain ⟨hlower, hupper⟩ := mem_of_bracket hneighbours
      have hblend : (lower.output.canBlend && upper.output.canBlend) = true := by
        rw [(hblends lower hlower).canBlend,
          (hblends upper (List.mem_cons_of_mem first hupper)).canBlend]
        rfl
      exact if_pos hblend

/-- Searched by the order of values, the stops give what they give by the order of floats. -/
theorem intervalFrom?_map_stop {x : Float} (hx : x.isFinite = true) (current : Json)
    (stops : List ZoomStop) :
    intervalFrom? (.number (.float x)) current (stops.map stop) =
      (stepFrom? x (itself current)
        (stops.map fun s => (itself (.number s.zoom), itself s.output))).bind Operand.value := by
  induction stops generalizing current with
  | nil => rfl
  | cons s rest ih =>
    obtain ⟨o, ho, hle⟩ := Json.exists_floatOrder? hx s.finite
    have horder : (Json.number (.float x)).order? (.number s.zoom) = some o := ho
    rw [List.map_cons, stop, intervalFrom?_cons, horder, Option.bind_some, ih]
    show _ = (if s.zoom.toFloat ≤ x then stepFrom? x (itself s.output) _
      else some (itself current)).bind Operand.value
    by_cases hlt : o = .lt
    · rw [if_pos hlt, if_neg (mt hle.mp (not_not_intro hlt))]
      rfl
    · rw [if_neg hlt, if_pos (hle.mpr hlt)]

/-! ### The value in both forms -/

theorem evaluate?_interpolation {kind : Option StopKind} (base : Option Json)
    (hzoom : context.zoom ≠ -0.0) (hkind : kind = none ∨ kind = some .exponential)
    (hblends : ∀ s ∈ stops, s.Blends) :
    (Property.ofJson (function kind base stops)).evaluate? context =
      (interpolation base stops).evaluate? context := by
  have hexpression : (interpolation base stops).evaluate? context =
      (if context.zoom.isFinite then some context.zoom else none).bind fun x =>
        exponential? (stops.map stop) x ((base.bind Json.float?).getD 1.0) := by
    rw [interpolation, Json.evaluate?_array]
    show Operator.interpolate.apply context (_ :: _ :: (stops.flatMap written).map _) = _
    rw [Operator.apply_interpolate_cons, float?_zoom hzoom, base?_exponential,
      operands_eq_itself fun s hs => (hblends s hs).isArray_eq_false, numericStops_operands]
    simp only [Option.bind_some, exponential?_map_stop _ _ hblends]
  rw [hexpression, evaluate?_function, StopFunction.evaluateStops?,
    resolvedKind_parsed base hkind hblends]
  split <;> rfl

theorem evaluate?_steps (base : Option Json) (hzoom : context.zoom ≠ -0.0) {first : ZoomStop}
    {rest : List ZoomStop} (houtputs : ∀ s ∈ first :: rest, s.output.isArray = false) :
    (Property.ofJson (function (some .interval) base (first :: rest))).evaluate? context =
      (steps first rest).evaluate? context := by
  have hexpression : (steps first rest).evaluate? context =
      (if context.zoom.isFinite then some context.zoom else none).bind fun x =>
        (stepFrom? x (itself first.output) ((first :: rest).map fun s =>
          (itself (.number s.zoom), itself s.output))).bind Operand.value := by
    rw [steps, Json.evaluate?_array]
    show (Operand.float? _).bind (fun x => (stepFrom? x ⟨first.output, _⟩
      (pairs (((first :: rest).flatMap written).map _))).bind Operand.value) = _
    rw [float?_zoom hzoom, operands_eq_itself houtputs, pairs_operands,
      Json.evaluate?_of_isArray_eq_false (houtputs first List.mem_cons_self)]
    rfl
  rw [hexpression, evaluate?_function]
  split
  · next hfinite => exact intervalFrom?_map_stop hfinite first.output (first :: rest)
  · rfl

/-- **A function of the zoom has one value in both forms**, whatever the order of its stops and
wherever the zoom lies, NaN and the infinities included.  Only negative zero is computed to
zero in an expression and kept in an object. -/
theorem evaluate?_forms (context : Context) (hzoom : context.zoom ≠ -0.0) (base : Option Json)
    (first : ZoomStop) (rest : List ZoomStop) :
    ((∀ s ∈ first :: rest, s.Blends) → ∀ kind, kind = none ∨ kind = some .exponential →
      (Property.ofJson (function kind base (first :: rest))).evaluate? context =
        (interpolation base (first :: rest)).evaluate? context) ∧
    ((∀ s ∈ first :: rest, s.output.isArray = false) →
      (Property.ofJson (function (some .interval) base (first :: rest))).evaluate? context =
        (steps first rest).evaluate? context) := by
  refine ⟨?_, evaluate?_steps base hzoom⟩
  intro hblends kind hkind
  exact evaluate?_interpolation base hzoom hkind hblends

/-- A narrow line at zoom 5. -/
def narrow : ZoomStop := ⟨.int 5, rfl, .number (.int 1)⟩

/-- A wide line half way from zoom 9 to zoom 10. -/
def wide : ZoomStop := ⟨.float 9.5, rfl, .number (.int 4)⟩

theorem evaluate?_forms_line :
    (Context.ofProperties [] 8.0).zoom ≠ -0.0 ∧
    (Property.ofJson (function none (some (.number (.int 1))) [narrow, wide])).evaluate?
        (.ofProperties [] 8.0) =
      (interpolation (some (.number (.int 1))) [narrow, wide]).evaluate? (.ofProperties [] 8.0) ∧
    (Property.ofJson (function (some .interval) none [wide, narrow])).evaluate?
        (.ofProperties [] 8.0) =
      (steps wide [narrow]).evaluate? (.ofProperties [] 8.0) := by
  have hzoom : (Context.ofProperties [] 8.0).zoom ≠ -0.0 := by decide
  have hblends : ∀ s ∈ [narrow, wide], s.Blends := by
    intro s hs
    obtain rfl | rfl : s = narrow ∨ s = wide := by simpa using hs
    · exact .inl ⟨_, rfl⟩
    · exact .inl ⟨_, rfl⟩
  have houtputs : ∀ s ∈ [wide, narrow], s.output.isArray = false := by decide
  exact ⟨hzoom, (evaluate?_forms _ hzoom _ narrow [wide]).1 hblends none (.inl rfl),
    (evaluate?_forms _ hzoom none wide [narrow]).2 houtputs⟩

end ZoomStop

end MapStyle
