/-
What a style has painted for a feature.

* `Paint` — one thing to be painted, with all that is needed to paint it;
* `Instruction` — a paint with the layer that it comes from;
* `Paint.withoutIcons` — a paint with its pattern taken away, or none for an icon.
-/
import MapStyle.Color
import MapStyle.Sprite.Atlas

namespace MapStyle

/-- The point of an icon or a label that lies at its place. -/
inductive Anchor where
  | center
  | left
  | right
  | top
  | bottom
  | topLeft
  | topRight
  | bottomLeft
  | bottomRight
deriving DecidableEq, Repr

namespace Anchor

/-- The anchor of a name. -/
def ofName? : String → Option Anchor
  | "center" => some center
  | "left" => some left
  | "right" => some right
  | "top" => some top
  | "bottom" => some bottom
  | "top-left" => some topLeft
  | "top-right" => some topRight
  | "bottom-left" => some bottomLeft
  | "bottom-right" => some bottomRight
  | _ => none

end Anchor

/-- The shape of the ends of a line. -/
inductive LineCap where
  | butt
  | round
  | square
deriving DecidableEq, Repr

namespace LineCap

/-- The cap of a name; any other name is a butt. -/
def ofName : String → LineCap
  | "round" => round
  | "square" => square
  | _ => butt

end LineCap

/-- The shape of the bends of a line. -/
inductive LineJoin where
  | bevel
  | round
  | miter
deriving DecidableEq, Repr

namespace LineJoin

/-- The join of a name; any other name is a miter. -/
def ofName : String → LineJoin
  | "round" => round
  | "bevel" => bevel
  | _ => miter

end LineJoin

/-- How a label lies on its feature. -/
inductive Placement where
  | point
  | line
  | lineCenter
deriving DecidableEq, Repr

namespace Placement

/-- The placement of a name; any other name is a point. -/
def ofName : String → Placement
  | "line" => line
  | "line-center" => lineCenter
  | _ => point

end Placement

/-- A distance to the right and a distance down. -/
structure Offset where
  right : Float32
  down : Float32
deriving DecidableEq, Repr

/-- An area. -/
structure FillPaint where
  color : Color
  outline : Option Color
  pattern : Option Icon
deriving DecidableEq, Repr

/-- A line. -/
structure LinePaint where
  color : Color
  width : Float32
  /-- The lengths of dashes and gaps in pixels. -/
  dash : Option (List Float32)
  cap : LineCap
  join : LineJoin
  pattern : Option Icon
deriving DecidableEq, Repr

/-- A disc with a rim. -/
structure CirclePaint where
  color : Color
  radius : Float32
  rimColor : Color
  rimWidth : Float32
deriving DecidableEq, Repr

/-- An icon. -/
structure IconPaint where
  icon : Icon
  anchor : Anchor
  /-- The pixels of the display for one pixel of the image. -/
  scale : Float32
  /-- In degrees clockwise. -/
  rotation : Float32
  opacity : Float32
  /-- The colour of an icon that is kept as distances. -/
  color : Option Color
  offset : Offset
deriving DecidableEq, Repr

/-- A label.  Its lengths are in pixels. -/
structure TextPaint where
  text : String
  faces : List String
  css : String
  size : Float32
  color : Color
  haloColor : Color
  haloWidth : Float32
  anchor : Anchor
  offset : Offset
  placement : Placement
  maxWidth : Float32
  letterSpacing : Float32
deriving DecidableEq, Repr

/-- One thing to be painted. -/
inductive Paint where
  | background (color : Color)
  | fill (p : FillPaint)
  | line (p : LinePaint)
  | circle (p : CirclePaint)
  | icon (p : IconPaint)
  | text (p : TextPaint)
deriving DecidableEq, Repr

namespace Paint

/-- The paint without what comes from a sprite, if anything is left. -/
def withoutIcons : Paint → Option Paint
  | fill p => some (fill { p with pattern := none })
  | line p => some (line { p with pattern := none })
  | icon _ => none
  | p => some p

end Paint

/-- A paint and the layer that it comes from, by its id and its place in the style. -/
structure Instruction where
  layer : String
  index : Nat
  paint : Paint
deriving DecidableEq, Repr

end MapStyle
