/-
Layers of a style document: how the features of a source are painted.
-/
import MapStyle.Json.Record
import MapStyle.Property

namespace MapStyle

/-- The types of layer that styles know. -/
inductive LayerType where
  | fill
  | line
  | symbol
  | background
  | circle
  | raster
  | hillshade
  | fillExtrusion
  | unknown
deriving DecidableEq, Repr

namespace LayerType

def name : LayerType → String
  | fill => "fill"
  | line => "line"
  | symbol => "symbol"
  | background => "background"
  | circle => "circle"
  | raster => "raster"
  | hillshade => "hillshade"
  | fillExtrusion => "fill-extrusion"
  | unknown => "unknown"

/-- The type with a name; any other name is unknown. -/
def ofName : String → LayerType
  | "fill" => fill
  | "line" => line
  | "symbol" => symbol
  | "background" => background
  | "circle" => circle
  | "raster" => raster
  | "hillshade" => hillshade
  | "fill-extrusion" => fillExtrusion
  | _ => unknown

theorem ofName_name (t : LayerType) : ofName t.name = t := by cases t <;> rfl

end LayerType

/-- A layer of a style document. -/
structure Layer where
  id : String
  type : LayerType
  source : Option String
  sourceLayer : Option String
  filter : Option Json
  layout : Dictionary Property
  paint : Dictionary Property
  /-- The least zoom at which the layer is shown. -/
  minZoom : Option Float
  /-- The zoom from which on the layer is no longer shown. -/
  maxZoom : Option Float
deriving Repr, BEq

namespace Layer

/-- A layer from its record. -/
def ofJson? (v : Json) : Option Layer := do
  let r ← Json.Record.ofJson? 9 v
  let id ← r.required? 0 "id" Json.string?
  let type ← r.required? 1 "type" Json.asKeyword?
  let source ← r.optional? 2 "source" Json.string?
  let sourceLayer ← r.optional? 3 "source-layer" Json.string?
  let filter ← r.optional? 4 "filter" Json.asIs?
  let properties := Json.asDictionary? fun p => some (Property.ofJson p)
  let layout ← r.withDefault? 5 "layout" [] properties
  let paint ← r.withDefault? 6 "paint" [] properties
  let minZoom ← r.optional? 7 "minzoom" Json.float?
  let maxZoom ← r.optional? 8 "maxzoom" Json.float?
  some ⟨id, .ofName type, source, sourceLayer, filter, layout, paint, minZoom, maxZoom⟩

/-- The layer as it is written, with null for what it does not have. -/
def toJson (l : Layer) : Json :=
  .object [
    ("filter", Json.orNull l.filter),
    ("id", .string l.id),
    ("layout", .object (l.layout.mapValues Property.toJson)),
    ("maxzoom", Json.orNull (l.maxZoom.map Json.ofFloat)),
    ("minzoom", Json.orNull (l.minZoom.map Json.ofFloat)),
    ("paint", .object (l.paint.mapValues Property.toJson)),
    ("source", Json.orNull (l.source.map .string)),
    ("source-layer", Json.orNull (l.sourceLayer.map .string)),
    ("type", .string l.type.name)]

/-- Whether the layer is shown at all: its visibility is not plainly `none`. -/
def isVisible (l : Layer) : Bool :=
  match l.layout.find? "visibility" with
  | some (.literal (.string v)) => v != "none"
  | _ => true

/-- Whether a zoom lies between the least zoom, included, and the greatest, excluded. -/
def inZoomRange (l : Layer) (zoom : Float) : Bool :=
  (l.minZoom.map fun z => decide (z ≤ zoom)).getD true &&
    (l.maxZoom.map fun z => decide (zoom < z)).getD true

end Layer

end MapStyle
