/-
Applying a style to a layer of a map.

The style is checked, its sprite is looked for, and the style bound to its source is
installed.  The first step that fails ends the application, and the layer keeps what
it had.

* `MapLayer` — a layer of a map with the style that is installed on it;
* `MapLayer.applyBy` — one application, with the layer as it is afterwards, where images are read
  by a given decoder;
* `MapLayer.apply` — the same with plain images read.
-/
import MapStyle.BoundStyle
import MapStyle.Document.Loading
import MapStyle.Sprite.Search

namespace MapStyle

/-- A layer of a map and the style that is installed on it. -/
structure MapLayer where
  target : Target
  installed : Option BoundStyle

namespace MapLayer

/-- A layer on which nothing is installed. -/
def ofTarget (target : Target) : MapLayer := ⟨target, none⟩

/-- What the installed style paints for a feature. -/
def paint? (layer : MapLayer) (feature : Feature) (resolution : Float) :
    Option (List Instruction) :=
  layer.installed.map (·.paint feature resolution)

/-- The layer in words. -/
def text (layer : MapLayer) : String :=
  "MapLayer \x7b kind: " ++ layer.target.kind.name ++ ", source: " ++
    ((layer.target.source.map fun s => "Some(" ++ s.name ++ ")").getD "None") ++ ", styled: " ++
    (if layer.installed.isSome then "true" else "false") ++ " \x7d"

end MapLayer

/-- How far an application has come. -/
inductive Stage where
  | idle
  | validating
  | resolvingSprite
  | compiling
  | installed
  | failed
deriving DecidableEq, Repr

namespace Stage

/-- Whether nothing follows. -/
def isTerminal (s : Stage) : Bool := s == installed || s == failed

end Stage

/-- The settings of an application. -/
structure ApplyOptions where
  /-- Pixels of the display for one pixel of the map. -/
  density : Float
  /-- The resolutions of the whole zooms, the greatest first. -/
  resolutions : List Float
  /-- What gives access to sprites that a service keeps. -/
  token : Option String

namespace ApplyOptions

/-- A plain display, and resolutions that halve. -/
def plain : ApplyOptions := ⟨1, Zoom.defaultTable, none⟩

/-- How the sprite of a style in a directory is looked for. -/
def sprite (o : ApplyOptions) (directory : Option String) : Sprite.Options :=
  ⟨o.density, directory, o.token⟩

end ApplyOptions

/-- What is to be applied: a style, the name of its source, and what its sprite is
relative to. -/
structure StyleRequest where
  style : StyleInput
  source : String
  directory : Option String

/-- What came of an application. -/
structure Application where
  /-- The layer as it is afterwards. -/
  layer : MapLayer
  result : Except StyleError Unit
  /-- The URLs that were asked for, in order. -/
  asked : List String

namespace Application

/-- Where the application ended. -/
def stage (a : Application) : Stage :=
  match a.result with
  | .ok _ => .installed
  | .error _ => .failed

end Application

namespace MapLayer

/-- The layer on which a checked style is installed, once its sprite has been looked for. -/
def install (layer : MapLayer) (valid : ValidStyle) (resolutions : List Float)
    (search : SpriteSearch) : Application :=
  match search.result with
  | .ok atlas =>
    let bound := BoundStyle.compile valid.style valid.sourceName atlas
    ⟨{ layer with installed := some { bound with resolutions := resolutions } }, .ok (),
      search.asked⟩
  | .error e => ⟨layer, .error e, search.asked⟩

/-- Applies a style to the layer, the image of whose sprite `decode` reads. -/
def applyBy (decode : Image.Decoder) (layer : MapLayer) (transport : Transport)
    (options : ApplyOptions) (request : StyleRequest) : Application :=
  match Style.validate request.style layer.target request.source with
  | .error e => ⟨layer, .error e, []⟩
  | .ok valid =>
    -- Nothing is asked for until the style is known to fit.
    layer.install valid options.resolutions
      (Sprite.findBy decode transport (options.sprite request.directory) valid.style.sprite)

/-- Applies a style to the layer. -/
def apply (layer : MapLayer) (transport : Transport) (options : ApplyOptions)
    (request : StyleRequest) : Application :=
  layer.applyBy Raster.decode? transport options request

end MapLayer

end MapStyle
