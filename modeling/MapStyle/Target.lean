/-
The layers of a map on which a style is installed, by kind.

* `LayerKind.hostsStyle` — whether a kind of layer can be styled per feature;
* `SourceKind.accepts` — whether a kind of source can take a source of a style.
-/
import MapStyle.Document.Source

namespace MapStyle

/-- The kinds of source that a map layer can have. -/
inductive SourceKind where
  /-- Features kept in memory. -/
  | vector
  /-- A pyramid of vector tiles. -/
  | vectorTile
  | raster
  | image
deriving DecidableEq, Repr

namespace SourceKind

def name : SourceKind → String
  | vector => "Vector"
  | vectorTile => "VectorTile"
  | raster => "Raster"
  | image => "Image"

/-- The types of style source that can feed a source of this kind. -/
def acceptedTypes : SourceKind → List SourceType
  | vector => [.vector, .geoJson]
  | vectorTile => [.vector]
  | raster => [.raster, .rasterDem]
  | image => [.image]

/-- Whether a style source can feed a source of this kind. -/
def accepts (k : SourceKind) (t : SourceType) : Bool := k.acceptedTypes.contains t

/-- The accepted types in words. -/
def expectation (k : SourceKind) : String :=
  String.intercalate " or " (k.acceptedTypes.map SourceType.name)

end SourceKind

/-- The kinds of map layer. -/
inductive LayerKind where
  /-- Features that are styled one by one. -/
  | vector
  /-- Vector tiles. -/
  | vectorTile
  /-- One rendered image. -/
  | image
  /-- Raster tiles. -/
  | tile
deriving DecidableEq, Repr

namespace LayerKind

def name : LayerKind → String
  | vector => "Vector"
  | vectorTile => "VectorTile"
  | image => "Image"
  | tile => "Tile"

/-- Whether a style can be installed on a layer of this kind. -/
def hostsStyle : LayerKind → Bool
  | vector | vectorTile => true
  | image | tile => false

/-- The kind of source that a layer without one is taken to have. -/
def defaultSource : LayerKind → SourceKind
  | vector => .vector
  | vectorTile => .vectorTile
  | image => .image
  | tile => .raster

/-- The kind as messages name it. -/
def label (k : LayerKind) : String := "layer." ++ k.name

end LayerKind

/-- What a style has to fit: a kind of layer and the kind of its source, if it has one. -/
structure Target where
  kind : LayerKind
  source : Option SourceKind
deriving DecidableEq, Repr

namespace Target

/-- The kind of source that the layer has or is taken to have. -/
def sourceKind (t : Target) : SourceKind := t.source.getD t.kind.defaultSource

/-- A layer of features without a source. -/
def vector : Target := ⟨.vector, none⟩

/-- A layer of vector tiles with its source. -/
def vectorTile : Target := ⟨.vectorTile, some .vectorTile⟩

/-- A layer of one image with its source. -/
def image : Target := ⟨.image, some .image⟩

end Target

end MapStyle
