/-
Functions given by stops.

A stop function maps the zoom, or a property of the feature, through a list of
stops.  If its stops name both a zoom and a value, the property is mapped at each
zoom and the results are then mapped across the zooms (`evaluateComposite?`).

* `exponential?` — a blend of the stops around the input;
* `interval?` — the output of the last stop not above the input;
* `StopFunction.evaluate?` — the value for one context, or the default;
* `StopFunction.toJson` — the function as it is written.
-/
import MapStyle.Expression.Apply

namespace MapStyle

/-- How an input is mapped onto the outputs of the stops. -/
inductive StopKind where
  | exponential
  | interval
  | categorical
  | identity
deriving DecidableEq, Repr

namespace StopKind

def name : StopKind → String
  | exponential => "exponential"
  | interval => "interval"
  | categorical => "categorical"
  | identity => "identity"

def ofName? : String → Option StopKind
  | "exponential" => some exponential
  | "interval" => some interval
  | "categorical" => some categorical
  | "identity" => some identity
  | _ => none

theorem ofName?_name (k : StopKind) : ofName? k.name = some k := by cases k <;> rfl

end StopKind

/-- A stop: an input and its output. -/
abbrev Stop := Json × Json

/-- A function given by stops. -/
structure StopFunction where
  /-- The declared kind; without one the stops decide. -/
  kind : Option StopKind
  base : Float
  /-- The property that is the input; the zoom if there is none. -/
  property : Option String
  stops : List Stop
  default : Option Json
deriving Repr, BEq

/-- The blend of the stops around an input.  The first and the last stop hold beyond
the ends, and where an output cannot be blended the lower stop holds. -/
def exponential? (stops : List Stop) (input base : Float) : Option Json := do
  let first ← stops.head?
  let last ← stops.getLast?
  if input ≤ (← first.1.float?) then some first.2
  else if (← last.1.float?) ≤ input then some last.2
  else
    let above (stop : Stop) : Bool := (stop.1.float?.map fun x => decide (input < x)).getD false
    let (lower, upper) ← bracket above first stops.tail
    if lower.2.canBlend && upper.2.canBlend then
      Json.blend? (progress input base (← lower.1.float?) (← upper.1.float?)) lower.2 upper.2
    else some lower.2

/-- The output of the last stop before the first above the input, and `current` if that
is the first of all.  It fails at a stop that cannot be compared with the input. -/
def intervalFrom? (input current : Json) : List Stop → Option Json
  | [] => some current
  | (stop, output) :: rest =>
    match input.order? stop with
    | none => none
    | some .lt => some current
    | some _ => intervalFrom? input output rest

/-- The output of the last stop not above the input, or that of the first stop. -/
def interval? (stops : List Stop) (input : Json) : Option Json := do
  intervalFrom? input (← stops.head?).2 stops

/-- The zoom that the input of a stop names. -/
def stopZoom? (stop : Stop) : Option Float := do (← stop.1.member? "zoom").float?

/-- The different zooms of some stops, each as it first comes. -/
def distinctZooms (seen : List Float) : List Float → List Float
  | [] => seen.reverse
  | z :: rest =>
    if seen.any fun s => (s - z).abs < epsilon then distinctZooms seen rest
    else distinctZooms (z :: seen) rest

namespace StopFunction

/-- A stop from its two-item list. -/
def stop? : Json → Option Stop
  | .array [input, output] => some (input, output)
  | _ => none

/-- The function that an object describes. -/
def ofJson? (v : Json) : Option StopFunction := do
  let members ← v.members?
  let kind ←
    match members.find? "type" with
    | some t => (t.string?.bind StopKind.ofName?).map some
    | none => some none
  let property := (members.find? "property").bind Json.string?
  let stops ←
    match members.find? "stops" with
    | some stops => do (← stops.items?).mapM stop?
    | none => if kind = some .identity ∧ property.isSome then some [] else none
  some {
    kind := kind
    base := ((members.find? "base").bind Json.float?).getD 1.0
    property := property
    stops := stops
    default := members.find? "default" }

/-- The function as an object; what has its default is left out. -/
def toJson (f : StopFunction) : Json :=
  let members : List (Option (String × Json)) := [
    if epsilon < (f.base - 1.0).abs then some ("base", .ofFloat f.base) else none,
    f.default.map fun v => ("default", v),
    f.property.map fun p => ("property", .string p),
    if f.stops.isEmpty then none
    else some ("stops", .array (f.stops.map fun s => .array [s.1, s.2])),
    f.kind.map fun k => ("type", .string k.name)]
  .object (members.filterMap fun m => m)

/-- Whether the stops name a zoom and a value of a property. -/
def isComposite (f : StopFunction) : Bool := f.property.isSome && f.stops.any (·.1.isObject)

/-- The kind that holds: as declared, or else by the stops. -/
def resolvedKind (f : StopFunction) : StopKind :=
  match f.kind with
  | some kind => kind
  | none =>
    if f.stops.any fun s => s.1.isString || s.1.isBool then .categorical
    else if f.stops.all fun s => s.2.canBlend then .exponential
    else .interval

/-- The output for an input among `stops`. -/
def evaluateStops? (f : StopFunction) (stops : List Stop) (input : Json) : Option Json :=
  match f.resolvedKind with
  | .identity => some input
  | .categorical => (stops.find? fun s => s.1.same input).map (·.2)
  | .interval => interval? stops input
  | .exponential => do exponential? stops (← input.float?) f.base

/-- The stops at one zoom, with the values that they name there. -/
def stopsAt (f : StopFunction) (zoom : Float) : List Stop :=
  (f.stops.filter fun s => ((stopZoom? s).map fun z => z == zoom).getD false).filterMap fun s =>
    (s.1.member? "value").map fun v => (v, s.2)

/-- The outputs at the zooms of the stops, in the order of the zooms. -/
def zoomStops? (f : StopFunction) (input : Json) : Option (List Stop) := do
  let zooms ← f.stops.mapM stopZoom?
  let ordered := (distinctZooms [] zooms).mergeSort fun a b => decide (a ≤ b)
  some (ordered.filterMap fun z =>
    (f.evaluateStops? (f.stopsAt z) input).map fun v => (.ofFloat z, v))

/-- The value of a function of zoom and property.  A stop without a zoom leaves it
without a value. -/
def evaluateComposite? (f : StopFunction) (context : Context) : Option Json := do
  match (context.properties.find? (← f.property)).filter (!·.isNull) with
  | none => f.default
  | some input =>
    -- First the property at each zoom, then the zoom among those results.
    let stops ← f.zoomStops? input
    let value :=
      match f.resolvedKind with
      | .exponential => exponential? stops context.zoom f.base
      | _ => interval? stops (.ofFloat context.zoom)
    value <|> f.default

/-- The input of a function of zoom or property; null counts as none. -/
def input? (f : StopFunction) (context : Context) : Option Json :=
  (match f.property with
    | some name => context.properties.find? name
    | none => (Number.ofFinite? context.zoom).map .number).filter (!·.isNull)

/-- The value of the function in a context. -/
def evaluate? (f : StopFunction) (context : Context) : Option Json :=
  if f.isComposite then f.evaluateComposite? context
  else ((f.input? context).bind (f.evaluateStops? f.stops)) <|> f.default

end StopFunction

end MapStyle
