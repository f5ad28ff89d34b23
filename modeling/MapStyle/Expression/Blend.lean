/-
Values between two others.

* `progress` — how far an input has come from one stop to the next;
* `Json.blend?` — the value that far between two: numbers and colours mix, lists
  mix item by item, and anything else takes the nearer end.
-/
import MapStyle.Color

namespace MapStyle

/-- The distance below which two floats of the size of 1 count as equal. -/
def epsilon : Float := 2.220446049250313e-16

/-- How far `input` lies on the way from `lower` to `upper`.  With base 1 the way
is even; with another the steps grow by that factor. -/
def progress (input base lower upper : Float) : Float :=
  let way := upper - lower
  if way == 0.0 then 0.0
  else
    let done := input - lower
    if (base - 1.0).abs < epsilon then done / way
    else (base.pow done - 1.0) / (base.pow way - 1.0)

namespace Json

/-- Whether a value can be an end of a blend. -/
def canBlend : Json → Bool
  | number _ => true
  | string text => (Color.parse? text).isSome
  | array items => items.all isNumber
  | _ => false

/-- The blend of values that are not both numbers or both lists of one length. -/
def blendColors (a b : Json) (t : Float) : Json :=
  match Color.ofJson? a, Color.ofJson? b with
  | some c, some d => (c.mix d t).toJson
  | _, _ => if t < 0.5 then a else b

mutual

/-- The value at `t` on the way from `a` to `b`. -/
def blend? (t : Float) : Json → Json → Option Json
  | number a, number b =>
    (Number.ofResult? (a.toFloat + (b.toFloat - a.toFloat) * t)).map number
  | array as, array bs =>
    if as.length = bs.length then (blendItems? t as bs).map array
    else some (blendColors (array as) (array bs) t)
  | a, b => some (blendColors a b t)

/-- The blends of the items of two lists of one length. -/
def blendItems? (t : Float) : List Json → List Json → Option (List Json)
  | a :: as, b :: bs => do
    let v ← blend? t a b
    let vs ← blendItems? t as bs
    some (v :: vs)
  | _, _ => some []

end

end Json

end MapStyle
