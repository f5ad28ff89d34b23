/-
Map features: what a style is evaluated for.
-/
import MapStyle.Json.Basic

namespace MapStyle

/-- The kinds of geometry. -/
inductive Geometry where
  | point
  | multiPoint
  | lineString
  | multiLineString
  | polygon
  | multiPolygon
  /-- A geometry that the style language has no name for. -/
  | unknown
deriving DecidableEq, Repr

namespace Geometry

/-- The name that styles use, which is the same for one shape and for many. -/
def styleName? : Geometry → Option String
  | point | multiPoint => some "Point"
  | lineString | multiLineString => some "LineString"
  | polygon | multiPolygon => some "Polygon"
  | unknown => none

/-- The kind with a name; any other name is unknown. -/
def ofName (name : String) : Geometry :=
  match name with
  | "Point" => point
  | "MultiPoint" => multiPoint
  | "LineString" => lineString
  | "MultiLineString" => multiLineString
  | "Polygon" => polygon
  | "MultiPolygon" => multiPolygon
  | _ => unknown

end Geometry

/-- A feature of a map. -/
structure Feature where
  id : Option Json
  geometry : Geometry
  /-- The layer of the tile that the feature belongs to. -/
  sourceLayer : Option String
  properties : Dictionary Json

end MapStyle
