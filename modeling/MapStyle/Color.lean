/-
Colours.

A colour has four 32-bit components between 0 and 1, alpha last.

* `Color.parse?` — hexadecimal colours, `rgb(…)`, `hsl(…)` and a few names;
* `Color.ofJson?` — a colour from its text or from a list of components;
* `Color.toJson` — the list form in which expressions pass colours on;
* `Color.mix` — the colour part of the way between two.
-/
import MapStyle.Decimal.Numeral
import MapStyle.Json.Basic
import MapStyle.Text.Blank
import MapStyle.Text.Case
import MapStyle.Text.Hex

namespace MapStyle

/-- A colour with its opacity. -/
structure Color where
  red : Float32
  green : Float32
  blue : Float32
  alpha : Float32
deriving DecidableEq, Repr

namespace Color

def black : Color := ⟨0, 0, 0, 1⟩

def transparent : Color := ⟨0, 0, 0, 0⟩

/-- The colours that have a name, by lower-case name. -/
def named : List (String × Color) := [
  ("black", black), ("white", ⟨1, 1, 1, 1⟩), ("red", ⟨1, 0, 0, 1⟩), ("green", ⟨0, 0.5, 0, 1⟩),
  ("blue", ⟨0, 0, 1, 1⟩), ("yellow", ⟨1, 1, 0, 1⟩), ("cyan", ⟨0, 1, 1, 1⟩),
  ("aqua", ⟨0, 1, 1, 1⟩), ("magenta", ⟨1, 0, 1, 1⟩), ("fuchsia", ⟨1, 0, 1, 1⟩),
  ("gray", ⟨0.5, 0.5, 0.5, 1⟩), ("grey", ⟨0.5, 0.5, 0.5, 1⟩),
  ("silver", ⟨0.753, 0.753, 0.753, 1⟩), ("orange", ⟨1, 0.647, 0, 1⟩),
  ("transparent", transparent)]

/-- The number that two characters spell in base sixteen.  The first may be a plus sign. -/
def hexPair? (c d : Char) : Option Nat := do
  let low ← Text.hexValue? d
  if c = '+' then some low
  else
    let high ← Text.hexValue? c
    some (16 * high + low)

/-- A component out of 255. -/
def ofByte (n : Nat) : Float32 := Float32.ofNat n / 255

/-- The colour of four components out of 255. -/
def ofBytes? (red green blue alpha : Option Nat) : Option Color := do
  some ⟨ofByte (← red), ofByte (← green), ofByte (← blue), ofByte (← alpha)⟩

/-- The hexadecimal forms: one or two digits for each component, with or without alpha. -/
def ofHex? : List Char → Option Color
  | [r, g, b] => ofBytes? (hexPair? r r) (hexPair? g g) (hexPair? b b) (some 255)
  | [r, g, b, a] => ofBytes? (hexPair? r r) (hexPair? g g) (hexPair? b b) (hexPair? a a)
  | [r, r', g, g', b, b'] =>
    ofBytes? (hexPair? r r') (hexPair? g g') (hexPair? b b') (some 255)
  | [r, r', g, g', b, b', a, a'] =>
    ofBytes? (hexPair? r r') (hexPair? g g') (hexPair? b b') (hexPair? a a')
  | _ => none

/-- The arguments of a colour written as a call of `name`, or of `name` with an `a` behind it. -/
def arguments (name : String) (text : String) : List String :=
  let inner := Text.dropLeads (name ++ "(").toList (Text.dropLeads (name ++ "a(").toList text.toList)
  (Text.split ',' (Text.trimEnd ')' (String.ofList inner))).map Text.trim

/-- The opacity among arguments: the fourth, or 1 if it is missing or no number. -/
def alphaOf (rest : List String) : Float32 :=
  match rest with
  | a :: _ => (Decimal.parseFloat32? a).getD 1
  | [] => 1

/-- A number with or without percent signs behind it. -/
def percentage? (text : String) : Option Float32 := Decimal.parseFloat32? (Text.trimEnd '%' text)

/-- Red, green and blue out of 255, or out of 100 if the first has a percent sign. -/
def ofRgb? (text : String) : Option Color :=
  match arguments "rgb" text with
  | r :: g :: b :: rest => do
    let red ← percentage? r
    let green ← percentage? g
    let blue ← percentage? b
    let whole : Float32 := if r.toList.contains '%' then 100 else 255
    some ⟨red / whole, green / whole, blue / whole, alphaOf rest⟩
  | _ => none

/-- The component at `hue`, a fraction of the turn, between the bounds `p` and `q`. -/
def ofHue (p q hue : Float32) : Float32 :=
  let t := if hue < 0 then hue + 1 else hue
  let t := if t > 1 then t - 1 else t
  if t < 1 / 6 then p + (q - p) * 6 * t
  else if t < 0.5 then q
  else if t < 2 / 3 then p + (q - p) * (2 / 3 - t) * 6
  else p

/-- The colour of a hue, a saturation and a lightness. -/
def ofHsl (hue saturation lightness alpha : Float32) : Color :=
  if saturation == 0 then ⟨lightness, lightness, lightness, alpha⟩
  else
    let q :=
      if lightness < 0.5 then lightness * (1 + saturation)
      else lightness + saturation - lightness * saturation
    let p := 2 * lightness - q
    ⟨ofHue p q (hue + 1 / 3), ofHue p q hue, ofHue p q (hue - 1 / 3), alpha⟩

/-- A hue in degrees, and a saturation and a lightness in percent. -/
def ofHslText? (text : String) : Option Color :=
  match arguments "hsl" text with
  | h :: s :: l :: rest => do
    let hue ← Decimal.parseFloat32? h
    let saturation ← percentage? s
    let lightness ← percentage? l
    some (ofHsl (hue / 360) (saturation / 100) (lightness / 100) (alphaOf rest))
  | _ => none

/-- The colour that a text describes; blanks around it do not matter. -/
def parse? (text : String) : Option Color :=
  let text := Text.trim text
  if text.startsWith "#" then ofHex? (text.toList.dropWhile (· == '#'))
  else if text.startsWith "rgb" then ofRgb? text
  else if text.startsWith "hsl" then ofHslText? text
  else named.lookup (Text.lower text)

/-- A colour from its text, or from a list of three components or four. -/
def ofJson? : Json → Option Color
  | .string text => parse? text
  | .array (r :: g :: b :: rest) => do
    let red ← r.float?
    let green ← g.float?
    let blue ← b.float?
    let alpha := (rest.head?.bind Json.float?).getD 1.0
    some ⟨Decimal.narrow red, Decimal.narrow green, Decimal.narrow blue, Decimal.narrow alpha⟩
  | _ => none

/-- The components in order. -/
def components (c : Color) : List Float32 := [c.red, c.green, c.blue, c.alpha]

/-- The list of components, without those that are not finite. -/
def toJson (c : Color) : Json :=
  .array (c.components.filterMap fun x => (Number.ofFinite? (Decimal.widen x)).map .number)

/-- The colour at `t` on the way from `a` to `b`. -/
def mix (a b : Color) (t : Float) : Color :=
  let between (x y : Float32) : Float32 := x + (y - x) * Decimal.narrow t
  ⟨between a.red b.red, between a.green b.green, between a.blue b.blue, between a.alpha b.alpha⟩

/-- The colour with its opacity multiplied. -/
def fade (c : Color) (opacity : Float32) : Color := { c with alpha := c.alpha * opacity }

end Color

end MapStyle
