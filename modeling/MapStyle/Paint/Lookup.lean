/-
The properties of a layer for one feature.

Each property belongs either to the layout or to the paint of its layer, and is
looked for only there.

* `Layer.property?` — a property as the style gives it;
* `Layer.length`, `Layer.color?`, `Layer.label?` and the others — its value for a
  feature, in one form or another.
-/
import MapStyle.Document.Layer
import MapStyle.Paint.Template
import MapStyle.Sprite.Atlas

namespace MapStyle.Layer

/-- The properties that belong to the layout. -/
def layoutNames : List String := [
  "visibility", "line-cap", "line-join", "symbol-placement", "icon-image", "icon-size",
  "icon-rotate", "icon-anchor", "icon-offset", "text-field", "text-font", "text-size",
  "text-anchor", "text-offset", "text-transform", "text-max-width", "text-letter-spacing"]

/-- A property as the style gives it. -/
def property? (l : Layer) (name : String) : Option Property :=
  (if layoutNames.contains name then l.layout else l.paint).find? name

/-- The value of a property. -/
def value? (l : Layer) (context : Context) (name : String) : Option Json := do
  (← l.property? name).evaluate? context

/-- A number, or what is to be taken where there is none. -/
def length (l : Layer) (context : Context) (name : String) (otherwise : Float) : Float32 :=
  Decimal.narrow (((l.property? name).bind (·.float? context)).getD otherwise)

/-- A colour. -/
def color? (l : Layer) (context : Context) (name : String) : Option Color := do
  (← l.property? name).color? context

/-- A colour, or another where there is none, with its opacity multiplied by a number. -/
def fadedColor (l : Layer) (context : Context) (color opacity : String) (otherwise : Color) :
    Color :=
  ((l.color? context color).getD otherwise).fade (l.length context opacity 1)

/-- A text as it is. -/
def keyword? (l : Layer) (context : Context) (name : String) : Option String := do
  (← l.property? name).string? context

/-- A text that is filled as a template, unless an expression gave it. -/
def label? (l : Layer) (context : Context) (name : String) : Option String := do
  let property ← l.property? name
  let text ← property.string? context
  match property with
  | .expression _ => some text
  | _ => some (Template.fill context.properties text)

/-- A list of numbers only. -/
def lengths? (l : Layer) (context : Context) (name : String) : Option (List Float32) := do
  match ← l.value? context name with
  | .array vs => vs.mapM fun v => v.float?.map Decimal.narrow
  | _ => none

/-- A list of texts only. -/
def texts? (l : Layer) (context : Context) (name : String) : Option (List String) := do
  match ← l.value? context name with
  | .array vs => vs.mapM Json.string?
  | _ => none

/-- The usable icon that a property names. -/
def icon? (l : Layer) (context : Context) (atlas : Atlas) (name : String) : Option Icon := do
  let icon ← l.label? context name
  if icon = "" then none else Icon.resolve? atlas icon

end MapStyle.Layer
