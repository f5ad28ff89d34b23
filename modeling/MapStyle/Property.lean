/-
Properties of layers: a plain value, a stop function or an expression.

* `Property.ofJson` — which of the three a written value is;
* `Property.toJson` — the written value again;
* `Property.evaluate?` and its typed forms — the value in a context.
-/
import MapStyle.Expression.Evaluation
import MapStyle.StopFunction

namespace MapStyle

/-- The value of a paint or layout property. -/
inductive Property where
  | literal (value : Json)
  | stops (function : StopFunction)
  | expression (value : Json)
deriving Repr, BEq

namespace Property

/-- What a written value is. -/
def ofJson (v : Json) : Property :=
  match StopFunction.ofJson? v with
  | some f => stops f
  | none => if v.isExpression then expression v else literal v

/-- The written value. -/
def toJson : Property → Json
  | literal v | expression v => v
  | stops f => f.toJson

/-- Whether the property is a plain value. -/
def isLiteral : Property → Bool
  | literal _ => true
  | _ => false

/-- The value in a context. -/
def evaluate? (context : Context) : Property → Option Json
  | literal v => some v
  | stops f => f.evaluate? context
  | expression v => v.evaluate? context

/-- The value as a number. -/
def float? (p : Property) (context : Context) : Option Float := do
  (← p.evaluate? context).float?

/-- The value as a colour. -/
def color? (p : Property) (context : Context) : Option Color := do
  Color.ofJson? (← p.evaluate? context)

/-- The value as text, if it is a text, a number or a truth value. -/
def string? (p : Property) (context : Context) : Option String := do
  match ← p.evaluate? context with
  | .string s => some s
  | .number n => some n.text
  | .bool b => some (if b then "true" else "false")
  | _ => none

end Property

end MapStyle
