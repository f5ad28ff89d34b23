/-
Where the sprite of a style is.

A style names its sprite by a reference.  The index, the image and their variants for
displays of higher density lie at one URL but for what is put behind its path.

* `Sprite.locate` — the URL that a reference stands for;
* `SpriteVariant.indexUrl`, `SpriteVariant.imageUrl` — the URLs of one variant;
* `Sprite.variants` — the variants to be tried for a density, the best first.
-/
import MapStyle.Sprite.RelativePath
import MapStyle.Url.Parsing

namespace MapStyle

/-- The sprite at one density. -/
structure SpriteVariant where
  /-- The URL up to its query. -/
  path : String
  /-- The query with its question mark, or nothing. -/
  query : String
  /-- Pixels of the image for one pixel of the map. -/
  scale : Nat
deriving DecidableEq, Repr

namespace SpriteVariant

/-- The variant at a scale of the sprite at a URL. -/
def ofUrl (url : String) (scale : Nat) : SpriteVariant where
  path := String.ofList (url.toList.takeWhile (· != '?'))
  query := String.ofList (url.toList.dropWhile (· != '?'))
  scale := scale

/-- What tells a variant of higher density from the plain one. -/
def mark (v : SpriteVariant) : String := if 1 < v.scale then "@" ++ toString v.scale ++ "x" else ""

/-- What the index and the image share. -/
def baseUrl (v : SpriteVariant) : String := v.path ++ v.mark

def indexUrl (v : SpriteVariant) : String := v.path ++ v.mark ++ ".json" ++ v.query

def imageUrl (v : SpriteVariant) : String := v.path ++ v.mark ++ ".png" ++ v.query

end SpriteVariant

namespace Sprite

/-- The density of a display from which on the finer variant is preferred. -/
def fineDensity : Float := 1.5

/-- The variant of the sprite at a URL that is to be tried first. -/
def bestVariant (url : String) (density : Float) : SpriteVariant :=
  .ofUrl url (if fineDensity ≤ density then 2 else 1)

/-- The variants that are to be tried after the best. -/
def otherVariants (url : String) (density : Float) : List SpriteVariant :=
  if fineDensity ≤ density then [.ofUrl url 1] else []

/-- The variants of the sprite at a URL that are to be tried in turn. -/
def variants (url : String) (density : Float) : List SpriteVariant :=
  bestVariant url density :: otherVariants url density

/-- The front of references to sprites that a service keeps. -/
def hostedLead : String := "mapbox://sprites/"

/-- Where the service keeps them. -/
def hostedRoot : String := "https://api.mapbox.com/styles/v1/"

/-- The URL of a sprite that the service keeps, with the token that gives access to it. -/
def hostedUrl (path : String) (token : Option String) : String :=
  hostedRoot ++ Text.trimEnd '/' path ++ "/sprite" ++
    ((token.map ("?access_token=" ++ ·)).getD "")

/-- A reference read inside a directory, which is a URL or a path. -/
def inside (directory reference : String) : String :=
  let directory := if directory.endsWith "/" then directory else directory ++ "/"
  match Url.parse directory with
  | .ok base =>
    match base.join reference with
    | .ok url => url.text
    | .error _ => reference
  | .error _ => RelativePath.join directory reference

/-- The URL that a reference stands for.  A URL stands for itself; what is not a URL
is relative to a directory, if one is known. -/
def locate (reference : String) (directory token : Option String) : String :=
  match Text.dropLead? hostedLead.toList reference.toList with
  | some path => hostedUrl (String.ofList path) token
  | none =>
    match Url.parse reference with
    | .ok _ => reference
    | .error _ =>
      match directory.filter (· ≠ "") with
      | some directory => inside directory reference
      | none => reference

end Sprite

end MapStyle
