/-
Equality and order of values in the style language.

Numbers are compared as floats whatever their kind, so `8` and `8.0` are equal;
strings are ordered code point by code point.

* `Json.same` — equality, under which no object equals anything;
* `Json.order?` — the order of two numbers or two strings, and of nothing else.
-/
import MapStyle.Json.Basic

namespace MapStyle.Json

mutual

/-- Whether two values are equal. -/
def same : Json → Json → Bool
  | null, null => true
  | bool a, bool b => a == b
  | number a, number b => a.toFloat == b.toFloat
  | string a, string b => a == b
  | array a, array b => sameItems a b
  | _, _ => false

/-- Whether two lists hold equal values in the same places. -/
def sameItems : List Json → List Json → Bool
  | [], [] => true
  | a :: as, b :: bs => same a b && sameItems as bs
  | _, _ => false

end

/-- The order of two floats, of which there is none with NaN. -/
def floatOrder? (x y : Float) : Option Ordering :=
  if x < y then some .lt
  else if x == y then some .eq
  else if y < x then some .gt
  else none

/-- The order of two values. -/
def order? : Json → Json → Option Ordering
  | number a, number b => floatOrder? a.toFloat b.toFloat
  | string a, string b => some (compare a b)
  | _, _ => none

end MapStyle.Json
