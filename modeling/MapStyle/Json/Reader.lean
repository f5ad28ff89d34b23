/-
From JSON text to values.

* `text?` — the text of a string: two code units that form a surrogate pair are one
  character, a surrogate without its partner is an error, and so are bytes that are
  no text;
* `Literal.value?` — the value of a number.  Integers that fit 64 bits are kept.
  Of anything else as many leading digits count as fit 64 bits; they are rounded
  to a float, which is then multiplied or divided by one power of ten;
* `Written.value?` — a value nested at most `depth` deep; of members with one
  name the last counts;
* `Json.ofText?` — a text as a value, nested at most `maxDepth` deep.
-/
import MapStyle.Json.Basic
import MapStyle.Json.Written

namespace MapStyle.Json

/-- A code unit that begins a surrogate pair. -/
def isLead (n : Nat) : Bool := 0xD800 ≤ n && n < 0xDC00

/-- A code unit that ends a surrogate pair. -/
def isTrail (n : Nat) : Bool := 0xDC00 ≤ n && n < 0xE000

/-- The code point of a surrogate pair. -/
def pairValue (lead trail : Nat) : Nat := 0x10000 + (lead - 0xD800) * 0x400 + (trail - 0xDC00)

/-- The bytes of the character of a code point. -/
def encoded (n : Nat) : List UInt8 := String.utf8EncodeChar (Char.ofNat n)

/-- The bytes of a string, or `none` if a surrogate stands alone. -/
def bytes? : List Piece → Option (List UInt8)
  | [] => some []
  | .byte b :: rest => (bytes? rest).map (b :: ·)
  | .unit u :: .unit v :: rest =>
    if isLead u then
      if isTrail v then (bytes? rest).map (encoded (pairValue u v) ++ ·) else none
    else if isTrail u then none
    else (bytes? (.unit v :: rest)).map (encoded u ++ ·)
  | .unit u :: rest =>
    if isLead u || isTrail u then none else (bytes? rest).map (encoded u ++ ·)

/-- The text of a string. -/
def text? (pieces : List Piece) : Option String := do
  String.fromUTF8? (← bytes? pieces).toByteArray

/-- The digits at the front that fit 64 bits behind `n`, as a number, and the others. -/
def absorb (n : Nat) : List Char → Nat × List Char
  | [] => (n, [])
  | c :: cs =>
    let m := 10 * n + (c.toNat - '0'.toNat)
    if m < Nat.pow 2 64 then absorb m cs else (n, c :: cs)

/-- The float nearest to `10 ^ n`. -/
def powerOfTen (n : Nat) : Float := Float.ofScientific 1 false n

/-- The largest power of ten that is a float. -/
def maxPower : Nat := 308

/-- `x` divided by `10 ^ n`, no more than `maxPower` places at a time. -/
def scaleDown (x : Float) (n : Nat) : Float :=
  if n ≤ maxPower then x / powerOfTen n
  else if x == 0.0 then x
  else scaleDown (x / powerOfTen maxPower) (n - maxPower)
termination_by n
decreasing_by simp only [maxPower] at *; omega

/-- `x` times `10 ^ exponent`, or `none` where no float is large enough. -/
def scale? (x : Float) (exponent : Int) : Option Float :=
  match exponent with
  | .negSucc n => some (scaleDown x (n + 1))
  | .ofNat n =>
    if n ≤ maxPower then
      let y := x * powerOfTen n
      if y.isInf then none else some y
    else if x == 0.0 then some x
    else none

/-- The value of a number that has a point, an exponent or too many digits. -/
def Literal.float? (l : Literal) : Option Number := do
  let (leading, skipped) := absorb 0 l.whole
  let (significand, ignored) := absorb leading (l.fraction.getD [])
  let places := (l.fraction.getD []).length - ignored.length
  let x ← scale? (Float.ofNat significand) (l.exponent.getD 0 + skipped.length - places)
  some (.float (if l.negative then -x else x))

/-- The value of a number. -/
def Literal.value? (l : Literal) : Option Number :=
  match l.fraction, l.exponent with
  | none, none =>
    let n := Decimal.digitsValue l.whole
    if l.negative then
      if 0 < n ∧ n ≤ Nat.pow 2 63 then some (.int (-n)) else l.float?
    else if n < Nat.pow 2 64 then some (.int n)
    else l.float?
  | _, _ => l.float?

mutual

/-- The value of a text nested at most `depth` deep. -/
def Written.value? (depth : Nat) : Written → Option Json
  | .null => some .null
  | .bool b => some (.bool b)
  | .number l => l.value?.map .number
  | .string ps => (text? ps).map .string
  | .array items => if depth = 0 then none else (itemValues? (depth - 1) items).map .array
  | .object members =>
    if depth = 0 then none
    else (memberValues? (depth - 1) members).map fun ms => .object (Dictionary.ofList ms)

/-- The values of the items of an array. -/
def itemValues? (depth : Nat) : List Written → Option (List Json)
  | [] => some []
  | item :: rest => do
    let v ← item.value? depth
    let vs ← itemValues? depth rest
    some (v :: vs)

/-- The values of the members of an object, in the order of the text. -/
def memberValues? (depth : Nat) : List (List Piece × Written) → Option (List (String × Json))
  | [] => some []
  | (name, member) :: rest => do
    let name ← text? name
    let v ← member.value? depth
    let vs ← memberValues? depth rest
    some ((name, v) :: vs)

end

/-- How deep arrays and objects may be nested. -/
def maxDepth : Nat := 127

/-- The value of a text. -/
def ofText? (text : String) : Option Json := do (← Written.ofBytes? text.toUTF8).value? maxDepth

end MapStyle.Json
