/-
The search for the sprite of a style.

The variants are tried in turn.  One whose index cannot be had is passed over; from
the first index on its image is needed too, and nothing else is tried.

* `Sprite.readVariants` — the search among variants, one after another;
* `Sprite.findBy` — the search for the sprite that a style names, which asks for
  nothing if the style names none, with images read by a given decoder;
* `Sprite.find` — the same with plain images read.
-/
import MapStyle.Error
import MapStyle.Raster.Png
import MapStyle.Sprite.Atlas
import MapStyle.Sprite.Reference
import MapStyle.Text.Blank

namespace MapStyle

/-- What came of a search, and the URLs that were asked for, in order. -/
structure SpriteSearch where
  result : Except StyleError Atlas
  asked : List String

namespace Sprite

/-- The index in an answer. -/
def indexOf : Except FetchError ByteArray → Except IndexFailure (Dictionary SpriteEntry)
  | .error e => .error (.fetch e)
  | .ok bytes =>
    match readIndex? bytes with
    | some entries => .ok entries
    | none => .error .invalid

/-- The image in an answer. -/
def imageOf (decode : Image.Decoder) : Except FetchError ByteArray → Except ImageFailure Image
  | .error e => .error (.fetch e)
  | .ok bytes =>
    match decode bytes.toList with
    | some image => .ok image
    | none => .error .undecodable

/-- The atlas of a variant from its index and the answer to the request for its image. -/
def atlasOf (decode : Image.Decoder) (v : SpriteVariant) (entries : Dictionary SpriteEntry)
    (answer : Except FetchError ByteArray) : Except StyleError Atlas :=
  match imageOf decode answer with
  | .ok image => .ok ⟨entries, some image, Float32.ofNat v.scale, some v.baseUrl⟩
  | .error failure => .error (.spriteImage v.imageUrl failure)

/-- The first variant with an index, of one variant and those after it, where `asked`
has been asked for before. -/
def readVariants (decode : Image.Decoder) (transport : Transport) (asked : List String)
    (v : SpriteVariant) (others : List SpriteVariant) : SpriteSearch :=
  let now := asked ++ [v.indexUrl]
  match indexOf (transport asked v.indexUrl) with
  -- From here on there is no way back to another variant.
  | .ok entries => ⟨atlasOf decode v entries (transport now v.imageUrl), now ++ [v.imageUrl]⟩
  | .error failure =>
    match others with
    | next :: more => readVariants decode transport now next more
    | [] => ⟨.error (.spriteNotFound v.indexUrl failure), now⟩

/-- How a style's sprite is looked for. -/
structure Options where
  /-- Pixels of the display for one pixel of the map. -/
  density : Float
  /-- What a reference that is no URL is relative to. -/
  directory : Option String
  /-- What gives access to sprites that a service keeps. -/
  token : Option String

/-- The reference of a style to its sprite, unless it is missing or blank. -/
def reference? (sprite : Option String) : Option String :=
  (sprite.map Text.trim).filter (· ≠ "")

/-- The search for the sprite of a style, whose image `decode` reads. -/
def findBy (decode : Image.Decoder) (transport : Transport) (options : Options)
    (sprite : Option String) : SpriteSearch :=
  match reference? sprite with
  | none => ⟨.ok .empty, []⟩
  | some reference =>
    let url := locate reference options.directory options.token
    readVariants decode transport [] (bestVariant url options.density)
      (otherVariants url options.density)

/-- The search for the sprite of a style. -/
def find (transport : Transport) (options : Options) (sprite : Option String) : SpriteSearch :=
  findBy Raster.decode? transport options sprite

end Sprite

end MapStyle
