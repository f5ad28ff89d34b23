/-
What each operator makes of its operands.

An operand comes both as it is written and with its value, `none` if it has none.
Operators that read an operand as written (labels, stops, literals) ignore its
value; the others fail when a value they need is missing.  An operand that is not
needed may fail without harm, so operators that choose stay lazy in this sense:

* `firstMatch`, `firstCase` — the output of the first label or condition that fits;
* `bracket` — the neighbouring stops around an input;
* `Operator.apply` — the value of an application.
-/
import MapStyle.Decimal.Binary
import MapStyle.Expression.Blend
import MapStyle.Expression.Comparison
import MapStyle.Expression.Context
import MapStyle.Expression.Operator
import MapStyle.Json.Writer

namespace MapStyle

/-- An operand, as written and evaluated. -/
structure Operand where
  written : Json
  value : Option Json

/-- A computed number as a value. -/
def Json.ofResult? (x : Float) : Option Json := (Number.ofResult? x).map .number

namespace Operand

/-- The value as a number. -/
def float? (o : Operand) : Option Float := do (← o.value).float?

/-- The value as a text. -/
def string? (o : Operand) : Option String := do (← o.value).string?

/-- Whether the value is true; a value of another type counts as false. -/
def truth? (o : Operand) : Option Bool := o.value.map fun v => v.bool? == some true

end Operand

/-- A list in pairs; a last item on its own is left out. -/
def pairs {α : Type} : List α → List (α × α)
  | a :: b :: rest => (a, b) :: pairs rest
  | _ => []

theorem pairs_flatMap_append {α β : Type} (f g : α → β) (xs : List α) {tail : List β}
    (h : tail.length ≤ 1) :
    pairs ((xs.flatMap fun x => [f x, g x]) ++ tail) = xs.map fun x => (f x, g x) := by
  induction xs with
  | nil =>
    rcases tail with _ | ⟨_, _ | ⟨_, _⟩⟩
    · rfl
    · rfl
    · simp at h
  | cons x rest ih =>
    rw [List.map_cons, ← ih]
    rfl

theorem pairs_flatMap {α β : Type} (f g : α → β) (xs : List α) :
    pairs (xs.flatMap fun x => [f x, g x]) = xs.map fun x => (f x, g x) := by
  have hnone : ([] : List β).length ≤ 1 := Nat.zero_le 1
  rw [← pairs_flatMap_append f g xs hnone, List.append_nil]

/-- The value under the name that the first operand gives, in the second operand or
else among the properties. -/
def found? (properties : Dictionary Json) : List Operand → Option (Option Json)
  | key :: rest => do
    let name ← key.string?
    match rest with
    | holder :: _ => some ((← holder.value).member? name)
    | [] => some (properties.find? name)
  | [] => none

/-- The item of a list at an index that must be whole and not negative. -/
def itemAt? (index : Float) (items : List Json) : Option Json :=
  match Decimal.whole? index with
  | some n => if n < 0 then none else items[n.toNat]?
  | none => none

/-- The number of characters of a text, or of items of a list. -/
def length? : Json → Option Nat
  | .string s => some s.length
  | .array items => some items.length
  | _ => none

/-- Whether a text occurs in a text, or a value among the items of a list. -/
def occurs? (needle : Json) : Json → Option Bool
  | .array items => some (items.any needle.same)
  | .string text => needle.string?.map fun part => Text.contains part.toList text.toList
  | _ => none

/-- The base of an interpolation: only exponential ones have one other than 1. -/
def base? : Json → Option Float
  | .array (.string kind :: rest) =>
    some (if kind = "exponential" then (rest.head?.bind Json.float?).getD 1.0 else 1.0)
  | .array _ => none
  | _ => some 1.0

/-- The first item that satisfies `above`, with the item before it. -/
def bracket {α : Type} (above : α → Bool) (before : α) : List α → Option (α × α)
  | [] => none
  | item :: rest => if above item then some (before, item) else bracket above item rest

/-- The stops whose input is a number. -/
def numericStops (operands : List Operand) : List (Float × Operand) :=
  (pairs operands).filterMap fun p => p.1.written.float?.map fun x => (x, p.2)

/-- The value at `input` between stops in their written order.  Below the first and
above the last their own values hold. -/
def interpolate? (base input : Float) (stops : List (Float × Operand)) : Option Json := do
  let first ← stops.head?
  let last ← stops.getLast?
  if input ≤ first.1 then first.2.value
  else if last.1 ≤ input then last.2.value
  else
    -- The input lies above the first stop, so the bracket cannot begin before it.
    let (lower, upper) ← bracket (fun stop => decide (input < stop.1)) first stops.tail
    let t := progress input base lower.1 upper.1
    Json.blend? t (← lower.2.value) (← upper.2.value)

/-- The output of the last stop before the first that lies above `input`, and
`current` if that is the first of all.  A stop that is no number fails when met. -/
def stepFrom? (input : Float) (current : Operand) : List (Operand × Operand) → Option Operand
  | [] => some current
  | (stop, output) :: rest => do
    let x ← stop.written.float?
    if x ≤ input then stepFrom? input output rest else some current

/-- Whether a label, or one of a list of labels, equals a value. -/
def fits (input : Json) : Json → Bool
  | .array labels => labels.any input.same
  | label => input.same label

/-- The output behind the first label that fits, or the default. -/
def firstMatch (input : Json) (default : Operand) : List (Operand × Operand) → Operand
  | [] => default
  | (label, output) :: rest =>
    if fits input label.written then output else firstMatch input default rest

/-- The output behind the first condition that is true, or the default. -/
def firstCase (default : Operand) : List (Operand × Operand) → Option Operand
  | [] => some default
  | (condition, output) :: rest => do
    if ← condition.truth? then some output else firstCase default rest

/-- Whether all operands are true, looking no further than the first that is not. -/
def allTrue? : List Operand → Option Bool
  | [] => some true
  | o :: rest => do if ← o.truth? then allTrue? rest else some false

/-- Whether an operand is true, looking no further than the first that is. -/
def anyTrue? : List Operand → Option Bool
  | [] => some false
  | o :: rest => do if ← o.truth? then some true else anyTrue? rest

/-- The numbers combined from left to right. -/
def foldFloats? (op : Float → Float → Float) (start : Float) : List Operand → Option Float
  | [] => some start
  | o :: rest => do foldFloats? op (op start (← o.float?)) rest

/-- The quotient, remainder or power; nothing can be divided by zero. -/
def Arithmetic.apply? : Arithmetic → Float → Float → Option Float
  | divide, a, b => if b == 0.0 then none else some (a / b)
  | remainder, a, b => if b == 0.0 then none else some (Decimal.remainder a b)
  | power, a, b => some (a.pow b)

/-- The value of a function; halves are rounded away from zero. -/
def Function.apply : Function → Float → Float
  | abs, x => x.abs
  | ceil, x => x.ceil
  | floor, x => x.floor
  | round, x => x.round
  | ln, x => x.log
  | log10, x => x.log10
  | log2, x => x.log2
  | sin, x => x.sin
  | cos, x => x.cos
  | tan, x => x.tan
  | sqrt, x => x.sqrt

/-- The smaller or larger of two numbers. -/
def Extremum.pick : Extremum → Float → Float → Float
  | min, a, b => if b < a then b else a
  | max, a, b => if a < b then b else a

/-- What the extremum of no numbers would be. -/
def Extremum.start : Extremum → Float
  | min => 1.0 / 0.0
  | max => -1.0 / 0.0

/-- The texts of the values, one behind the other. -/
def concat? : List Operand → Option String
  | [] => some ""
  | o :: rest => do
    let v ← o.value
    let tail ← concat? rest
    some (v.plainText ++ tail)

/-- The number that a value stands for. -/
def asNumber? : Json → Option Float
  | .number n => some n.toFloat
  | .string s => Decimal.parseFloat? (Text.trim s)
  | .bool b => some (if b then 1.0 else 0.0)
  | .null => some 0.0
  | _ => none

/-- The number that the first operand with one stands for. -/
def firstNumber? : List Operand → Option Json
  | [] => none
  | o :: rest => do
    match asNumber? (← o.value) with
    | some x => Json.ofResult? x
    | none => firstNumber? rest

/-- The colour that the first operand with one stands for. -/
def firstColor? : List Operand → Option Json
  | [] => none
  | o :: rest => do
    match Color.ofJson? (← o.value) with
    | some c => some c.toJson
    | none => firstColor? rest

/-- Whether a value counts as true: not null, false, zero, NaN or empty text. -/
def asBool : Json → Bool
  | .bool b => b
  | .number n => n.toFloat != 0.0 && !n.toFloat.isNaN
  | .string s => !s.isEmpty
  | .null => false
  | _ => true

/-- The name of a value's type. -/
def typeName : Json → String
  | .null => "null"
  | .bool _ => "boolean"
  | .number _ => "number"
  | .string _ => "string"
  | .array _ => "array"
  | .object _ => "object"

/-- Whether a value has the required type. -/
def Expectation.accepts : Expectation → Json → Bool
  | number, v => v.isNumber
  | string, v => v.isString
  | boolean, v => v.isBool

/-- The colour with components out of 255 and an opacity. -/
def colorOf (red green blue alpha : Float) : Color :=
  ⟨Decimal.narrow (red / 255.0), Decimal.narrow (green / 255.0), Decimal.narrow (blue / 255.0),
    Decimal.narrow alpha⟩

/-- The value of an application, if it has one. -/
def Operator.apply (context : Context) : Operator → List Operand → Option Json
  | get, operands => (found? context.properties operands).map Json.orNull
  | has, operands => (found? context.properties operands).map fun v => .bool v.isSome
  | .at, index :: items :: _ => do itemAt? (← index.float?) (← (← items.value).items?)
  | length, v :: _ => do some (.ofNat (← length? (← v.value)))
  | .in, needle :: holder :: _ => do some (.bool (← occurs? (← needle.value) (← holder.value)))
  | id, _ => some (Json.orNull context.featureId)
  | properties, _ => some (.object context.properties)
  | interpolate, kind :: input :: stop :: output :: rest => do
    let input ← input.float?
    interpolate? (← base? kind.written) input (numericStops (stop :: output :: rest))
  | step, input :: default :: stops => do
    (← stepFrom? (← input.float?) default (pairs stops)).value
  | .match, input :: first :: second :: rest => do
    let operands := first :: second :: rest
    (firstMatch (← input.value) (operands.getLast (by simp [operands]))
      (pairs operands.dropLast)).value
  | case, first :: second :: rest => do
    let operands := first :: second :: rest
    (← firstCase (operands.getLast (by simp [operands])) (pairs operands.dropLast)).value
  | coalesce, operands => operands.findSome? fun o => o.value.filter (!·.isNull)
  | equal, a :: b :: _ => do some (.bool ((← a.value).same (← b.value)))
  | notEqual, a :: b :: _ => do some (.bool !((← a.value).same (← b.value)))
  | compare c, a :: b :: _ => do some (.bool (c.holds (← (← a.value).order? (← b.value))))
  | all, operands => (allTrue? operands).map .bool
  | any, operands => (anyTrue? operands).map .bool
  | not, v :: _ => do some (.bool !(← v.truth?))
  | add, operands => do Json.ofResult? (← foldFloats? (· + ·) 0.0 operands)
  | subtract, [a] => do Json.ofResult? (-(← a.float?))
  | subtract, a :: b :: _ => do Json.ofResult? ((← a.float?) - (← b.float?))
  | multiply, operands => do Json.ofResult? (← foldFloats? (· * ·) 1.0 operands)
  | arithmetic op, a :: b :: _ => do Json.ofResult? (← op.apply? (← a.float?) (← b.float?))
  | function f, x :: _ => do Json.ofResult? (f.apply (← x.float?))
  | extremum e, first :: rest => do
    Json.ofResult? (← foldFloats? e.pick e.start (first :: rest))
  | concat, operands => (concat? operands).map .string
  | format, sections => (concat? (sections.filter (!·.written.isObject))).map .string
  | downcase, s :: _ => do some (.string (Text.lower (← s.string?)))
  | upcase, s :: _ => do some (.string (Text.upper (← s.string?)))
  | image, v :: _ => v.value
  | toNumber, operands => firstNumber? operands
  | toString, v :: _ => do some (.string (← v.value).plainText)
  | toBoolean, v :: _ => do some (.bool (asBool (← v.value)))
  | toColor, operands => firstColor? operands
  | typeof, v :: _ => do some (.string (typeName (← v.value)))
  | require e, operands => operands.findSome? fun o => o.value.filter e.accepts
  | rgb, r :: g :: b :: _ => do
    some (colorOf (← r.float?) (← g.float?) (← b.float?) 1.0).toJson
  | rgba, r :: g :: b :: a :: _ => do
    some (colorOf (← r.float?) (← g.float?) (← b.float?) (← a.float?)).toJson
  | zoom, _ => Json.ofResult? context.zoom
  | geometryType, _ => context.geometryType.map .string
  | literal, v :: _ => some v.written
  | _, _ => none

end MapStyle
