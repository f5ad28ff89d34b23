/-
What a layer has painted for one feature.

What a style leaves out has a default.  Icons that the sprite does not have are left
out, and labels without text too.

* `Layer.paints` — the paints of a layer, of which an icon comes before its label.
-/
import MapStyle.Paint.Basic
import MapStyle.Paint.Font
import MapStyle.Paint.Lookup

namespace MapStyle.Layer

/-- An area. -/
def fillPaint (l : Layer) (context : Context) (atlas : Atlas) : FillPaint :=
  let opacity := l.length context "fill-opacity" 1
  { color := ((l.color? context "fill-color").getD .black).fade opacity
    outline := (l.color? context "fill-outline-color").map (·.fade opacity)
    pattern := l.icon? context atlas "fill-pattern" }

/-- A line, whose dashes a style measures in widths of the line. -/
def linePaint (l : Layer) (context : Context) (atlas : Atlas) : LinePaint :=
  let width := l.length context "line-width" 1
  { color := l.fadedColor context "line-color" "line-opacity" .black
    width := width
    dash := (l.lengths? context "line-dasharray").map fun dash => dash.map (· * width)
    cap := .ofName ((l.keyword? context "line-cap").getD "")
    join := .ofName ((l.keyword? context "line-join").getD "")
    pattern := l.icon? context atlas "line-pattern" }

/-- A disc with a rim. -/
def circlePaint (l : Layer) (context : Context) : CirclePaint where
  color := l.fadedColor context "circle-color" "circle-opacity" .black
  radius := l.length context "circle-radius" 5
  rimColor := l.fadedColor context "circle-stroke-color" "circle-stroke-opacity" .black
  rimWidth := l.length context "circle-stroke-width" 0

/-- An anchor, which is the centre unless a style says otherwise. -/
def anchor (l : Layer) (context : Context) (name : String) : Anchor :=
  ((l.keyword? context name).bind Anchor.ofName?).getD .center

/-- An offset that a style measures in some unit. -/
def offset (l : Layer) (context : Context) (name : String) (unit : Float32) : Offset :=
  let parts := (l.lengths? context name).getD []
  ⟨parts.headD 0 * unit, (parts.drop 1).headD 0 * unit⟩

/-- An icon. -/
def iconPaint (l : Layer) (context : Context) (icon : Icon) : IconPaint :=
  let size := l.length context "icon-size" 1
  { icon := icon
    anchor := l.anchor context "icon-anchor"
    -- An index may give a ratio that no size can be divided by.
    scale := if 0 < icon.pixelRatio then size / icon.pixelRatio else size
    rotation := l.length context "icon-rotate" 0
    opacity := l.length context "icon-opacity" 1
    color := if icon.sdf then l.color? context "icon-color" else none
    offset := l.offset context "icon-offset" size }

/-- A text in the case that a style asks for. -/
def inCase (l : Layer) (context : Context) (text : String) : String :=
  match l.keyword? context "text-transform" with
  | some "uppercase" => Text.upper text
  | some "lowercase" => Text.lower text
  | _ => text

/-- A label, whose lengths a style measures in sizes of the text. -/
def textPaint (l : Layer) (context : Context) (text : String) : TextPaint :=
  let size := l.length context "text-size" 16
  let faces := (l.texts? context "text-font").getD Font.defaultFaces
  { text := l.inCase context text
    faces := faces
    css := Font.css faces size
    size := size
    color := l.fadedColor context "text-color" "text-opacity" .black
    haloColor := (l.color? context "text-halo-color").getD .transparent
    haloWidth := l.length context "text-halo-width" 0
    anchor := l.anchor context "text-anchor"
    offset := l.offset context "text-offset" size
    placement := .ofName ((l.keyword? context "symbol-placement").getD "")
    maxWidth := l.length context "text-max-width" 10 * size
    letterSpacing := l.length context "text-letter-spacing" 0 * size }

/-- The icon of a layer, if the sprite has it. -/
def iconPaints (l : Layer) (context : Context) (atlas : Atlas) : List Paint :=
  (l.icon? context atlas "icon-image").toList.map fun icon => .icon (l.iconPaint context icon)

/-- The label of a layer, if it has text. -/
def textPaints (l : Layer) (context : Context) : List Paint :=
  ((l.label? context "text-field").filter (· ≠ "")).toList.map fun text =>
    .text (l.textPaint context text)

/-- What a layer has painted. -/
def paints (l : Layer) (context : Context) (atlas : Atlas) : List Paint :=
  match l.type with
  | .background =>
    [.background (l.fadedColor context "background-color" "background-opacity" .black)]
  | .fill => [.fill (l.fillPaint context atlas)]
  | .line => [.line (l.linePaint context atlas)]
  | .circle => [.circle (l.circlePaint context)]
  | .symbol => l.iconPaints context atlas ++ l.textPaints context
  | _ => []

end MapStyle.Layer
