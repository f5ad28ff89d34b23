/-
Equal parts make equal expressions.

An expression is evaluated part by part, so that a part counts for nothing but its value:
it may be replaced by any other part of the same value, and none counts as a value here.
That holds wherever a part is evaluated at all, and not where it is read as written.

* `Hole` — an expression from which a part is taken out, and `Hole.fill`, with a part in
  that place;
* `Hole.IsEvaluated` — whatever stands in the hole is evaluated;
* `Hole.IsSection` — the hole is a section of a format, which must not be an object;
* `Hole.evaluate?_fill` — parts of one value give expressions of one value, and every part
  may be replaced by its value as a literal.
-/
import MapStyle.Proofs.Expression.Operands

namespace MapStyle

/-- An expression with a hole: the hole alone, or an application with the hole somewhere inside
one of its operands. -/
inductive Hole where
  | here
  | inside (operator : String) (before : List Json) (operand : Hole) (after : List Json)

namespace Hole

/-- The expression with `e` in the hole. -/
def fill (e : Json) : Hole → Json
  | here => e
  | inside operator before operand after =>
    .array (.string operator :: (before ++ operand.fill e :: after))

/-- Every operand on the way to the hole is read for its value.  What no operator is named by
has no operands, and no value either. -/
def IsEvaluated : Hole → Prop
  | here => True
  | inside operator before operand after =>
    (∀ op, Operator.ofName? operator = some op →
      op.readsWritten (before.length + 1 + after.length) before.length = false) ∧
    operand.IsEvaluated

/-- The hole itself is a section of a format. -/
def IsSection : Hole → Prop
  | here => False
  | inside operator _ here _ => operator = "format"
  | inside _ _ operand _ => operand.IsSection

variable {context : Context} {hole : Hole} {e e' : Json}

theorem eq_format_of_ofName? {name : String} (h : Operator.ofName? name = some .format) :
    name = "format" := by
  unfold Operator.ofName? at h
  split at h <;> cases h
  rfl

/-- One application around two parts of one value. -/
theorem evaluate?_operand {operator : String} {before after : List Json}
    (hplace : ∀ op, Operator.ofName? operator = some op →
      op.readsWritten (before.length + 1 + after.length) before.length = false)
    (hsection : operator = "format" → e.isObject = false ∧ e'.isObject = false)
    (hvalue : e.evaluate? context = e'.evaluate? context) :
    (Json.array (.string operator :: (before ++ e :: after))).evaluate? context =
      (Json.array (.string operator :: (before ++ e' :: after))).evaluate? context := by
  rw [Json.evaluate?_array, Json.evaluate?_array]
  refine Option.bind_congr fun op hop => ?_
  rw [List.map_append, List.map_append, List.map_cons, List.map_cons]
  refine op.apply_replace hvalue ?_ ?_
  · rw [List.length_map, List.length_map]
    exact hplace op hop
  · rintro rfl
    exact hsection (eq_format_of_ofName? hop)

/-- Parts of one value give expressions of one value. -/
theorem evaluate?_fill_eq (hole : Hole) (hevaluated : hole.IsEvaluated)
    (hsection : hole.IsSection → e.isObject = false ∧ e'.isObject = false)
    (hvalue : e.evaluate? context = e'.evaluate? context) :
    (hole.fill e).evaluate? context = (hole.fill e').evaluate? context := by
  -- Going down to the hole, the parts are those of the operand that holds it.
  induction hole with
  | here => exact hvalue
  | inside operator before operand after ih =>
    refine evaluate?_operand hevaluated.1 ?_ ?_
    · intro hformat
      cases operand with
      | here => exact hsection hformat
      | inside _ _ _ _ => exact ⟨rfl, rfl⟩
    · cases operand with
      | here => exact hvalue
      | inside _ _ _ _ => exact ih hevaluated.2 hsection

/-- A value as an expression. -/
def literal (v : Json) : Json := .array [.string "literal", v]

theorem evaluate?_literal (v : Json) : (literal v).evaluate? context = some v :=
  Json.evaluate?_array context "literal" [v]

/-- **A part of an expression counts for nothing but its value.** -/
theorem evaluate?_fill (context : Context) (hole : Hole) (hevaluated : hole.IsEvaluated) :
    (∀ e e' : Json, e.evaluate? context = e'.evaluate? context →
      (hole.IsSection → e.isObject = false ∧ e'.isObject = false) →
      (hole.fill e).evaluate? context = (hole.fill e').evaluate? context) ∧
    ∀ e v : Json, e.evaluate? context = some v → (hole.IsSection → e.isObject = false) →
      (hole.fill e).evaluate? context = (hole.fill (literal v)).evaluate? context := by
  refine ⟨fun e e' hvalue hsection => evaluate?_fill_eq hole hevaluated hsection hvalue, ?_⟩
  intro e v hvalue hsection
  refine evaluate?_fill_eq hole hevaluated (fun h => ⟨hsection h, rfl⟩) ?_
  rw [hvalue, evaluate?_literal]

/-- A name that is shown from zoom 5 on: the hole is a section of a format, which is the output
of a stop. -/
def nameFromZoom : Hole :=
  inside "step" [.array [.string "zoom"], .string "", .number (.int 5)]
    (inside "format" [] here [.object []]) []

theorem evaluate?_fill_nameFromZoom :
    nameFromZoom.IsEvaluated ∧ nameFromZoom.IsSection ∧
    (nameFromZoom.fill (.array [.string "get", .string "name"])).evaluate?
        (.ofProperties [("name", .string "Rhine")] 7.0) =
      (nameFromZoom.fill (.string "Rhine")).evaluate?
        (.ofProperties [("name", .string "Rhine")] 7.0) ∧
    (nameFromZoom.fill (.array [.string "get", .string "name"])).evaluate?
        (.ofProperties [("name", .string "Rhine")] 7.0) =
      (nameFromZoom.fill (literal (.string "Rhine"))).evaluate?
        (.ofProperties [("name", .string "Rhine")] 7.0) := by
  have hevaluated : nameFromZoom.IsEvaluated := by
    refine ⟨fun op hop => ?_, fun op hop => ?_, trivial⟩
    · obtain rfl : Operator.step = op := Option.some.inj hop
      rfl
    · obtain rfl : Operator.format = op := Option.some.inj hop
      rfl
  have hname : (Json.array [.string "get", .string "name"]).evaluate?
      (.ofProperties [("name", .string "Rhine")] 7.0) = some (.string "Rhine") := rfl
  obtain ⟨hparts, hliteral⟩ :=
    evaluate?_fill (.ofProperties [("name", .string "Rhine")] 7.0) nameFromZoom hevaluated
  exact ⟨hevaluated, rfl, hparts _ _ hname fun _ => ⟨rfl, rfl⟩, hliteral _ _ hname fun _ => rfl⟩

end Hole

end MapStyle
