/-
Fonts of labels.

A style gives a font as the names of faces, the best first.  The name of a face holds
the family and, in some of its words, the weight and the slant.

* `FontFace.ofName` — a face from its name; of several weights the last counts;
* `Font.css` — the first face of a list at a size, as style sheets write fonts.
-/
import MapStyle.Decimal.Layout
import MapStyle.Text.Blank
import MapStyle.Text.Case

namespace MapStyle

/-- A face of a font. -/
structure FontFace where
  /-- `normal`, `italic` or `oblique`. -/
  slant : String
  /-- From 100 for the thinnest to 900 for the heaviest. -/
  weight : Nat
  /-- The words of the family. -/
  family : List String
deriving DecidableEq, Repr

namespace FontFace

/-- A face of normal weight without a family. -/
def plain : FontFace := ⟨"normal", 400, []⟩

/-- The face with one more word of its name. -/
def addWord (face : FontFace) (word : String) : FontFace :=
  match Text.lower word with
  | "thin" | "hairline" => { face with weight := 100 }
  | "extralight" | "ultralight" => { face with weight := 200 }
  | "light" => { face with weight := 300 }
  | "regular" | "normal" | "book" | "roman" => { face with weight := 400 }
  | "medium" => { face with weight := 500 }
  | "semibold" | "demibold" => { face with weight := 600 }
  | "bold" => { face with weight := 700 }
  | "extrabold" | "ultrabold" => { face with weight := 800 }
  | "black" | "heavy" => { face with weight := 900 }
  | "italic" => { face with slant := "italic" }
  | "oblique" => { face with slant := "oblique" }
  | _ => { face with family := face.family ++ [word] }

/-- The face of a name. -/
def ofName (name : String) : FontFace := (Text.words name).foldl addWord plain

end FontFace

namespace Font

/-- The faces of a label that names none. -/
def defaultFaces : List String := ["Open Sans Regular", "Arial Unicode MS Regular"]

/-- Sizes have no exponent and no point behind a whole number. -/
def sizeLayout : Decimal.Layout := ⟨fun _ => true, "", .away⟩

/-- The text of a size. -/
def sizeText (size : Float32) : String :=
  if size.isNaN then "NaN"
  else (sizeLayout.float32 size).getD (if size < 0 then "-inf" else "inf")

/-- The first of some faces at a size, as style sheets write it. -/
def css (faces : List String) (size : Float32) : String :=
  let face := FontFace.ofName (faces.head?.getD (defaultFaces.headD ""))
  face.slant ++ " " ++ toString face.weight ++ " " ++ sizeText size ++ "px \"" ++
    String.intercalate " " face.family ++ "\""

end Font

end MapStyle
