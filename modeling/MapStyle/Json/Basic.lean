/-
JSON values.

Numbers keep the kind they were written with: an integer stays an integer and
anything with a point or an exponent is a 64-bit float.  Comparison and
arithmetic see both as floats (`Number.toFloat`).

* `Number.ofFinite?` — a float as a number, which NaN and the infinities are not;
* `Number.ofResult?` — the same for computed results, where whole ones become
  integers so that their text has no point;
* `Json.member?`, `Json.items?`, … — what a value holds when it is of that shape.
-/
import MapStyle.Decimal.Binary
import MapStyle.Decimal.Precision
import MapStyle.Dictionary

namespace MapStyle

/-- A JSON number. -/
inductive Number where
  | int (n : Int)
  | float (x : Float)
deriving DecidableEq, Repr

namespace Number

/-- The number as a 64-bit float. -/
def toFloat : Number → Float
  | int n => Float.ofInt n
  | float x => x

/-- The number as a 32-bit float, rounded once. -/
def toFloat32 : Number → Float32
  | int n => Float32.ofInt n
  | float x => Decimal.narrow x

/-- A finite float as a number. -/
def ofFinite? (x : Float) : Option Number := if x.isFinite then some (.float x) else none

/-- Integers up to this size are exact as floats. -/
def exactBound : Nat := Nat.pow 2 53

/-- A computed float as a number: an integer when it is whole and exact, and
`none` when it is not finite. -/
def ofResult? (x : Float) : Option Number :=
  match Decimal.whole? x with
  | some n => if n.natAbs ≤ exactBound then some (.int n) else some (.float x)
  | none => ofFinite? x

end Number

/-- A JSON value.  The members of an object stand in the order of their names. -/
inductive Json where
  | null
  | bool (b : Bool)
  | number (n : Number)
  | string (s : String)
  | array (items : List Json)
  | object (members : List (String × Json))
deriving Repr, BEq, Inhabited

namespace Json

/-- A float as a value; what is not finite is null. -/
def ofFloat (x : Float) : Json := ((Number.ofFinite? x).map number).getD null

/-- An integer as a value. -/
def ofNat (n : Nat) : Json := number (.int n)

/-- The truth value that a value is. -/
def bool? : Json → Option Bool
  | bool b => some b
  | _ => none

/-- The number that a value is, as a float. -/
def float? : Json → Option Float
  | number n => some n.toFloat
  | _ => none

/-- The text that a value is. -/
def string? : Json → Option String
  | string s => some s
  | _ => none

/-- The items of an array. -/
def items? : Json → Option (List Json)
  | array items => some items
  | _ => none

/-- The members of an object. -/
def members? : Json → Option (Dictionary Json)
  | object members => some members
  | _ => none

/-- The member of an object under `name`. -/
def member? (name : String) (v : Json) : Option Json := do (← v.members?).find? name

def isNull : Json → Bool
  | null => true
  | _ => false

def isBool : Json → Bool
  | bool _ => true
  | _ => false

def isNumber : Json → Bool
  | number _ => true
  | _ => false

def isString : Json → Bool
  | string _ => true
  | _ => false

def isArray : Json → Bool
  | array _ => true
  | _ => false

def isObject : Json → Bool
  | object _ => true
  | _ => false

/-- An optional value, with null for none. -/
def orNull (v : Option Json) : Json := v.getD null

end Json

end MapStyle
