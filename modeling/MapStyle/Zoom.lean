/-
Zooms and resolutions.

A resolution is the length of one pixel on the ground.  A table gives the resolution
of each whole zoom, the greatest first; between two of them the zoom follows the
logarithm of the resolution, and beyond its ends it stays at the end.

* `Zoom.defaultTable` — each zoom halves the resolution;
* `Zoom.ofResolutionBy` — the zoom of a resolution in a table, by a given logarithm;
* `Zoom.ofResolution` — the same by the logarithm of the platform.
-/
namespace MapStyle.Zoom

/-- The resolution of zoom 0 where the world is one tile of 512 pixels. -/
def greatestResolution : Float := 78271.51696402048

/-- The last zoom of the default table. -/
def lastZoom : Nat := 24

/-- The resolutions of the whole zooms, each half of the one before. -/
def defaultTable : List Float :=
  (List.range (lastZoom + 1)).map fun zoom => greatestResolution / Float.ofNat (Nat.pow 2 zoom)

/-- How far a resolution lies on the way from a greater to a smaller one, from 0 to 1, by the
logarithm `ln`. -/
def part (ln : Float → Float) (resolution greater smaller : Float) : Float :=
  ln (greater / resolution) / ln (greater / smaller)

/-- The zoom of a resolution between two neighbours of a table, whose first zoom is `zoom`. -/
def between? (ln : Float → Float) (resolution : Float) (zoom : Nat) : List Float → Option Float
  | greater :: smaller :: rest =>
    if resolution ≤ greater ∧ smaller < resolution then
      some (Float.ofNat zoom + part ln resolution greater smaller)
    else between? ln resolution (zoom + 1) (smaller :: rest)
  | _ => none

/-- The zoom of a resolution without a table, which is not negative. -/
def untabled (resolution : Float) : Float :=
  let zoom := (greatestResolution / resolution).log2
  if 0 < zoom then zoom else 0

/-- The zoom of a resolution, by the logarithm `ln`. -/
def ofResolutionBy (ln : Float → Float) (resolution : Float) (table : List Float) : Float :=
  match table.head?, table.getLast? with
  | some first, some last =>
    let greatest := Float.ofNat (table.length - 1)
    if first ≤ resolution then 0
    else if resolution ≤ last then greatest
    else (between? ln resolution 0 table).getD greatest
  | _, _ => untabled resolution

/-- The zoom of a resolution. -/
def ofResolution (resolution : Float) (table : List Float) : Float :=
  ofResolutionBy Float.log resolution table

end MapStyle.Zoom
