/-
Sources of a style document: where the features come from.
-/
import MapStyle.Json.Record

namespace MapStyle

/-- The types of source that styles know. -/
inductive SourceType where
  | vector
  | raster
  | rasterDem
  | geoJson
  | image
  | video
  | unknown
deriving DecidableEq, Repr

namespace SourceType

def name : SourceType → String
  | vector => "vector"
  | raster => "raster"
  | rasterDem => "raster-dem"
  | geoJson => "geojson"
  | image => "image"
  | video => "video"
  | unknown => "unknown"

/-- The type with a name; any other name is unknown. -/
def ofName : String → SourceType
  | "vector" => vector
  | "raster" => raster
  | "raster-dem" => rasterDem
  | "geojson" => geoJson
  | "image" => image
  | "video" => video
  | _ => unknown

theorem ofName_name (t : SourceType) : ofName t.name = t := by cases t <;> rfl

end SourceType

/-- A source of a style document. -/
structure Source where
  type : SourceType
  url : Option String
  tiles : Option (List String)
  /-- The members that are kept as they are. -/
  extra : Dictionary Json
deriving Repr, BEq

namespace Source

/-- The members of a source that have a meaning here. -/
def knownNames : List String := ["type", "url", "tiles"]

/-- A source, which is always written as an object. -/
def ofJson? (v : Json) : Option Source := do
  let members ← v.members?
  let r := Json.Record.named members
  let type ← r.required? 0 "type" Json.asKeyword?
  let url ← r.optional? 1 "url" Json.string?
  let tiles ← r.optional? 2 "tiles" (Json.asList? Json.string?)
  some ⟨.ofName type, url, tiles, members.filterNames fun n => !knownNames.contains n⟩

/-- The source as it is written; what it does not have is left out. -/
def toJson (s : Source) : Json :=
  let withUrl := match s.url with
    | some url => Dictionary.insert "url" (.string url) s.extra
    | none => s.extra
  let withTiles := match s.tiles with
    | some tiles => Dictionary.insert "tiles" (.array (tiles.map .string)) withUrl
    | none => withUrl
  .object (Dictionary.insert "type" (.string s.type.name) withTiles)

end Source

end MapStyle
