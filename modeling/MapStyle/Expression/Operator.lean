/-
The operators of expressions.

An array whose first item is the name of an operator is an expression; any other
array is a list of values (`Json.isExpression`).
-/
import MapStyle.Json.Basic

namespace MapStyle

/-- The ordered comparisons. -/
inductive Comparison where
  | less
  | lessEqual
  | greater
  | greaterEqual
deriving DecidableEq, Repr

/-- Whether two values in the given order satisfy the comparison. -/
def Comparison.holds : Comparison → Ordering → Bool
  | less, o => o.isLT
  | lessEqual, o => o.isLE
  | greater, o => o.isGT
  | greaterEqual, o => o.isGE

/-- Arithmetic on two numbers. -/
inductive Arithmetic where
  | divide
  | remainder
  | power
deriving DecidableEq, Repr

/-- Functions of one number. -/
inductive Function where
  | abs
  | ceil
  | floor
  | round
  | ln
  | log10
  | log2
  | sin
  | cos
  | tan
  | sqrt
deriving DecidableEq, Repr

/-- The smallest or the largest of some numbers. -/
inductive Extremum where
  | min
  | max
deriving DecidableEq, Repr

/-- The types that a value can be required to have. -/
inductive Expectation where
  | number
  | string
  | boolean
deriving DecidableEq, Repr

/-- What an expression does with its operands. -/
inductive Operator where
  | get
  | has
  | at
  | length
  | in
  | id
  | properties
  | interpolate
  | step
  | «match»
  | case
  | coalesce
  | equal
  | notEqual
  | compare (c : Comparison)
  | all
  | any
  | not
  | add
  | subtract
  | multiply
  | arithmetic (a : Arithmetic)
  | function (f : Function)
  | extremum (e : Extremum)
  | concat
  | format
  | downcase
  | upcase
  | image
  | toNumber
  | toString
  | toBoolean
  | toColor
  | typeof
  | require (e : Expectation)
  | rgb
  | rgba
  | zoom
  | geometryType
  | literal
deriving DecidableEq, Repr

/-- The operator with a name.  Blends are the same in every colour space. -/
def Operator.ofName? : String → Option Operator
  | "get" => some .get
  | "has" => some .has
  | "at" => some .at
  | "length" => some .length
  | "in" => some .in
  | "id" => some .id
  | "properties" => some .properties
  | "interpolate" | "interpolate-hcl" | "interpolate-lab" => some .interpolate
  | "step" => some .step
  | "match" => some .match
  | "case" => some .case
  | "coalesce" => some .coalesce
  | "==" => some .equal
  | "!=" => some .notEqual
  | "<" => some (.compare .less)
  | "<=" => some (.compare .lessEqual)
  | ">" => some (.compare .greater)
  | ">=" => some (.compare .greaterEqual)
  | "all" => some .all
  | "any" => some .any
  | "!" => some .not
  | "+" => some .add
  | "-" => some .subtract
  | "*" => some .multiply
  | "/" => some (.arithmetic .divide)
  | "%" => some (.arithmetic .remainder)
  | "^" => some (.arithmetic .power)
  | "abs" => some (.function .abs)
  | "ceil" => some (.function .ceil)
  | "floor" => some (.function .floor)
  | "round" => some (.function .round)
  | "ln" => some (.function .ln)
  | "log10" => some (.function .log10)
  | "log2" => some (.function .log2)
  | "sin" => some (.function .sin)
  | "cos" => some (.function .cos)
  | "tan" => some (.function .tan)
  | "sqrt" => some (.function .sqrt)
  | "min" => some (.extremum .min)
  | "max" => some (.extremum .max)
  | "concat" => some .concat
  | "format" => some .format
  | "downcase" => some .downcase
  | "upcase" => some .upcase
  | "image" => some .image
  | "to-number" => some .toNumber
  | "to-string" => some .toString
  | "to-boolean" => some .toBoolean
  | "to-color" => some .toColor
  | "typeof" => some .typeof
  | "number" => some (.require .number)
  | "string" => some (.require .string)
  | "boolean" => some (.require .boolean)
  | "rgb" => some .rgb
  | "rgba" => some .rgba
  | "zoom" => some .zoom
  | "geometry-type" => some .geometryType
  | "literal" => some .literal
  | _ => none

/-- The operator that a value is the application of. -/
def Json.operator? : Json → Option Operator
  | .array (.string name :: _) => Operator.ofName? name
  | _ => none

/-- Whether a value is an expression rather than a plain value. -/
def Json.isExpression (v : Json) : Bool := v.operator?.isSome

end MapStyle
