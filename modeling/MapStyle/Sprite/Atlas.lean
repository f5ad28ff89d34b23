/-
Sprite atlases: an index of icons with the image that holds them.

* `SpriteEntry.fits` — whether an icon lies inside an image;
* `Atlas.region?` — the entry of a usable icon.  An icon that reaches past the
  image counts as missing;
* `Atlas.corners?` — where an icon lies, as fractions of the image;
* `Icon.resolve?` — an icon with all that is needed to draw it.
-/
import MapStyle.Raster.Image
import MapStyle.Sprite.Entry

namespace MapStyle

/-- The icons of a style. -/
structure Atlas where
  entries : Dictionary SpriteEntry
  image : Option Image
  /-- The density of the image, 1 or 2. -/
  pixelRatio : Float32
  /-- The URL that the index and the image share, without extension. -/
  url : Option String

/-- Whether an icon lies inside an image. -/
def SpriteEntry.fits (e : SpriteEntry) (image : Image) : Bool :=
  e.x.toNat + e.width.toNat ≤ image.width.toNat && e.y.toNat + e.height.toNat ≤ image.height.toNat

/-- The corners of an icon as fractions of the size of an image: left, top, right, bottom. -/
structure Corners where
  left : Float32
  top : Float32
  right : Float32
  bottom : Float32
deriving DecidableEq, Repr

namespace Corners

/-- A length as a fraction of another. -/
def fraction (part whole : Nat) : Float32 :=
  Decimal.narrow (Float.ofNat part / Float.ofNat whole)

/-- The corners of an icon in an image. -/
def of (e : SpriteEntry) (image : Image) : Corners where
  left := fraction e.x.toNat image.width.toNat
  top := fraction e.y.toNat image.height.toNat
  right := fraction (e.x.toNat + e.width.toNat) image.width.toNat
  bottom := fraction (e.y.toNat + e.height.toNat) image.height.toNat

end Corners

namespace Atlas

/-- The atlas without icons. -/
def empty : Atlas := ⟨[], none, 1, none⟩

/-- The entry of an icon, unless it reaches past the image. -/
def region? (a : Atlas) (name : String) : Option SpriteEntry := do
  let entry ← a.entries.find? name
  match a.image with
  | some image => if entry.fits image then some entry else none
  | none => some entry

/-- Where an icon lies in the image, if there is an image with an area. -/
def corners? (a : Atlas) (name : String) : Option Corners := do
  let entry ← a.region? name
  let image ← a.image
  if image.width = 0 ∨ image.height = 0 then none else some (.of entry image)

end Atlas

/-- An icon with its place in the atlas. -/
structure Icon where
  name : String
  x : UInt32
  y : UInt32
  width : UInt32
  height : UInt32
  pixelRatio : Float32
  sdf : Bool
  corners : Option Corners
deriving DecidableEq, Repr

/-- The usable icon of a name. -/
def Icon.resolve? (atlas : Atlas) (name : String) : Option Icon := do
  let e ← atlas.region? name
  some ⟨name, e.x, e.y, e.width, e.height, e.pixelRatio, e.sdf, atlas.corners? name⟩

end MapStyle
