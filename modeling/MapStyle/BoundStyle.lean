/-
A style bound to one of its sources: from a feature and a resolution to what is painted.

* `BoundStyle.compile` — the layers that a source feeds, with the sprite.  Hidden
  layers are left out, and layers of background are always kept;
* `BoundLayer.applies` — whether a layer paints a feature at all;
* `BoundStyle.paintAt`, `BoundStyle.paint` — what all layers paint, in the order of
  the style, at a zoom or at a resolution.
-/
import MapStyle.Document.Style
import MapStyle.Filter
import MapStyle.Paint.Layer
import MapStyle.Zoom

namespace MapStyle

/-- A layer with its place in the style and its filter. -/
structure BoundLayer where
  index : Nat
  layer : Layer
  filter : Filter

/-- A style bound to one of its sources. -/
structure BoundStyle where
  layers : List BoundLayer
  atlas : Atlas
  /-- The resolutions of the whole zooms. -/
  resolutions : List Float

namespace Layer

/-- Whether the layer is a background, which needs no feature. -/
def isBackground (l : Layer) : Bool := l.type == .background

/-- Whether a source feeds the layer. -/
def isFedBy (l : Layer) (source : String) : Bool := l.isBackground || l.source == some source

end Layer

namespace BoundLayer

/-- Whether the layer paints a feature at a zoom. -/
def applies (b : BoundLayer) (feature : Feature) (zoom : Float) : Bool :=
  b.layer.inZoomRange zoom &&
    (b.layer.isBackground ||
      ((b.layer.sourceLayer.isNone || feature.sourceLayer == b.layer.sourceLayer) &&
        b.filter.holds feature zoom))

/-- What the layer paints. -/
def paint (b : BoundLayer) (atlas : Atlas) (feature : Feature) (zoom : Float) :
    List Instruction :=
  if b.applies feature zoom then
    (b.layer.paints (.ofFeature feature zoom) atlas).map fun p => ⟨b.layer.id, b.index, p⟩
  else []

end BoundLayer

namespace BoundStyle

/-- The layers of a style that a source feeds and that are shown, the first of them
at a given place in the style. -/
def bind (source : String) (index : Nat) : List Layer → List BoundLayer
  | [] => []
  | l :: rest =>
    let others := bind source (index + 1) rest
    if l.isFedBy source && l.isVisible then ⟨index, l, .ofJson l.filter⟩ :: others else others

/-- A style bound to a source, with the default resolutions. -/
def compile (style : Style) (source : String) (atlas : Atlas) : BoundStyle :=
  ⟨bind source 0 style.layers, atlas, Zoom.defaultTable⟩

/-- What is painted for a feature at a zoom, in the order of the style. -/
def paintAt (b : BoundStyle) (feature : Feature) (zoom : Float) : List Instruction :=
  b.layers.flatMap fun l => l.paint b.atlas feature zoom

/-- What is painted for a feature at a resolution, whose zoom is found by the logarithm `ln`. -/
def paintBy (ln : Float → Float) (b : BoundStyle) (feature : Feature) (resolution : Float) :
    List Instruction :=
  b.paintAt feature (Zoom.ofResolutionBy ln resolution b.resolutions)

/-- What is painted for a feature at a resolution. -/
def paint (b : BoundStyle) (feature : Feature) (resolution : Float) : List Instruction :=
  b.paintBy Float.log feature resolution

end BoundStyle

end MapStyle
