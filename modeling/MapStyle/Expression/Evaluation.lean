/-
The value of an expression.

Evaluation is by recursion on the expression: first every operand, then the
operator on what came out.  It never stops with an error; an expression without
a value has the value `none`, and whoever asked falls back on a default.

* `Json.evaluate?` — the value;
* `Json.evaluateFloat?`, `Json.evaluateColor?` — the value as a number or a colour;
* `evaluate?_of_isArray_eq_false` — what is no array stands for itself;
* `evaluate?_array` — the value of an application is its operator on its operands.
-/
import MapStyle.Expression.Apply

namespace MapStyle

namespace Json

mutual

/-- The value of an expression.  A value that is no array stands for itself. -/
def evaluate? (context : Context) : Json → Option Json
  | array [] => none
  | array (head :: operands) =>
    match head.string?.bind Operator.ofName? with
    | some op => op.apply context (evaluateAll context operands)
    | none => none
  | v => some v

/-- The operands with their values. -/
def evaluateAll (context : Context) : List Json → List Operand
  | [] => []
  | v :: rest => ⟨v, evaluate? context v⟩ :: evaluateAll context rest

end

/-- The value of an expression as a number. -/
def evaluateFloat? (context : Context) (v : Json) : Option Float := do
  (← v.evaluate? context).float?

/-- The value of an expression as a colour. -/
def evaluateColor? (context : Context) (v : Json) : Option Color := do
  Color.ofJson? (← v.evaluate? context)

theorem evaluate?_of_isArray_eq_false {context : Context} {v : Json} (h : v.isArray = false) :
    v.evaluate? context = some v := by
  cases v with
  | array items => exact nomatch h
  | _ => simp [evaluate?]

theorem evaluateAll_eq_map (context : Context) (vs : List Json) :
    evaluateAll context vs = vs.map fun v => ⟨v, v.evaluate? context⟩ := by
  induction vs with
  | nil => simp [evaluateAll]
  | cons v rest ih => simp [evaluateAll, ih]

theorem evaluate?_array (context : Context) (name : String) (operands : List Json) :
    (array (string name :: operands)).evaluate? context =
      (Operator.ofName? name).bind fun op =>
        op.apply context (operands.map fun v => ⟨v, v.evaluate? context⟩) := by
  simp only [evaluate?, string?, Option.bind_some, evaluateAll_eq_map]
  cases Operator.ofName? name <;> rfl

end Json

end MapStyle
