/-
Filters of layers.

A filter is written either as an expression or in a form of its own, in which a
bare string names a property and `$type` and `$id` name the geometry and the id.
Which of the two it is follows from the operands (`Json.isExpressionFilter`).

* `Filter.ofJson` — the filter that a value is;
* `plainHolds` — the verdict of the plain form.  What is no filter holds;
* `Filter.holds` — the verdict on a feature at a zoom.
-/
import MapStyle.Expression.Evaluation

namespace MapStyle

/-- A filter by the form that it is written in. -/
inductive Filter where
  /-- No filter. -/
  | always
  | plain (filter : Json)
  | expression (filter : Json)
deriving Repr, BEq

/-- Whether an operand names the geometry or the id of a feature. -/
def isSpecialKey : Json → Bool
  | .string key => key == "$id" || key == "$type"
  | _ => false

/-- Whether the operands of an operator make it an expression, given which of them are
truth values or expressions themselves. -/
def operandsDecide (op : String) (operands : List Json) (nested : List Bool) : Bool :=
  match op with
  | "has" =>
    match operands with
    | key :: _ => !isSpecialKey key
    | [] => false
  | "in" =>
    match operands with
    | key :: holder :: _ => !key.isString || holder.isArray
    | _ => false
  | "!in" | "!has" | "none" => false
  | "==" | "!=" | ">" | ">=" | "<" | "<=" =>
    match operands with
    | [a, b] => a.isArray || b.isArray
    | _ => true
  | "any" | "all" => nested.all fun b => b
  | _ => true

namespace Json

mutual

/-- Whether a filter is written as an expression. -/
def isExpressionFilter : Json → Bool
  | bool _ => true
  | array (string op :: operands) => operandsDecide op operands (areExpressionFilters operands)
  | _ => false

/-- Which of some filters are written as expressions. -/
def areExpressionFilters : List Json → List Bool
  | [] => []
  | v :: rest => isExpressionFilter v :: areExpressionFilters rest

end

theorem areExpressionFilters_eq_map (vs : List Json) :
    areExpressionFilters vs = vs.map isExpressionFilter := by
  induction vs with
  | nil => rw [areExpressionFilters, List.map_nil]
  | cons v rest ih => rw [areExpressionFilters, ih, List.map_cons]

theorem isExpressionFilter_array (op : String) (operands : List Json) :
    (array (string op :: operands)).isExpressionFilter =
      operandsDecide op operands (operands.map isExpressionFilter) := by
  rw [isExpressionFilter, areExpressionFilters_eq_map]

end Json

/-- What a key of a plain filter names. -/
def Feature.lookup? (feature : Feature) (key : String) : Option Json :=
  if key = "$type" then feature.geometry.styleName?.map .string
  else if key = "$id" then feature.id
  else feature.properties.find? key

/-- The verdict of a plain operator, given the verdicts of its operands as filters. -/
def plainVerdict (feature : Feature) (op : String) (operands : List Json) (nested : List Bool) :
    Bool :=
  let key := (operands.head?.bind Json.string?).getD ""
  let equals (v : Json) : Bool := ((feature.lookup? key).map fun w => w.same v).getD false
  let ordered (p : Ordering → Bool) (v : Json) : Bool :=
    (((feature.lookup? key).bind fun w => w.order? v).map p).getD false
  match op, operands with
  | "==", [_, v] => equals v
  | "!=", [_, v] => !equals v
  | "<", [_, v] => ordered Ordering.isLT v
  | "<=", [_, v] => ordered Ordering.isLE v
  | ">", [_, v] => ordered Ordering.isGT v
  | ">=", [_, v] => ordered Ordering.isGE v
  | "in", _ :: vs => vs.any equals
  | "!in", _ :: vs => !vs.any equals
  | "has", _ => (feature.lookup? key).isSome
  | "!has", _ => (feature.lookup? key).isNone
  | "all", _ => nested.all fun b => b
  | "any", _ => nested.any fun b => b
  | "none", _ => !nested.any fun b => b
  | _, _ => true

mutual

/-- The verdict of a plain filter. -/
def plainHolds (feature : Feature) : Json → Bool
  | .bool b => b
  | .array (.string op :: operands) =>
    plainVerdict feature op operands (plainHoldsEach feature operands)
  | _ => true

/-- The verdicts of some plain filters. -/
def plainHoldsEach (feature : Feature) : List Json → List Bool
  | [] => []
  | v :: rest => plainHolds feature v :: plainHoldsEach feature rest

end

theorem plainHoldsEach_eq_map (feature : Feature) (vs : List Json) :
    plainHoldsEach feature vs = vs.map (plainHolds feature) := by
  induction vs with
  | nil => rw [plainHoldsEach, List.map_nil]
  | cons v rest ih => rw [plainHoldsEach, ih, List.map_cons]

theorem plainHolds_array (feature : Feature) (op : String) (operands : List Json) :
    plainHolds feature (.array (.string op :: operands)) =
      plainVerdict feature op operands (operands.map (plainHolds feature)) := by
  rw [plainHolds, plainHoldsEach_eq_map]

namespace Filter

/-- The filter that a value is; no value and null let everything pass. -/
def ofJson : Option Json → Filter
  | none | some .null => always
  | some v => if v.isExpressionFilter then expression v else plain v

/-- The verdict on a feature at a zoom.  An expression holds only if it is true. -/
def holds (feature : Feature) (zoom : Float) : Filter → Bool
  | always => true
  | plain v => plainHolds feature v
  | expression v => ((v.evaluate? (.ofFeature feature zoom)).bind Json.bool?).getD false

end Filter

end MapStyle
