/-
Operators that go along their operands.

`all` and `any` stop at the operand that decides, `coalesce` at the first value that is not
null, and `concat` never.  An operand that fails spoils `concat`, spoils `all` and `any` if they
come to it, and is passed over by `coalesce`.  The laws below hold with all of that: both sides
come to the same operands in the same order.

* `searchTruth?` — the search that `all` and `any` are, the one for a false operand and the
  other for a true one;
* `searchTruth?_map_negated` — among negated operands it is the search for the opposite;
* `evaluate?_all`, `evaluate?_any` — the values on operands none of which can fail;
* `Operator.Flattens` — an operand that is the same operator on operands of its own may be
  replaced by these;
* `variadic_laws` — hence what expressions of these operators have the same value.
-/
import MapStyle.Expression.Evaluation

namespace MapStyle

/-! ### The search for a decision -/

/-- The search for an operand whose truth is `b`.  It ends with `b` if there is one and with the
opposite if there is none, and fails with an operand that it comes to. -/
def searchTruth? (b : Bool) : List Operand → Option Bool
  | [] => some !b
  | o :: rest => do if (← o.truth?) = b then some b else searchTruth? b rest

theorem allTrue?_eq (os : List Operand) : allTrue? os = searchTruth? false os := by
  induction os with
  | nil => rfl
  | cons o rest ih =>
    rw [allTrue?, ih, searchTruth?]
    rcases o.truth? with _ | _ | _ <;> rfl

theorem anyTrue?_eq (os : List Operand) : anyTrue? os = searchTruth? true os := by
  induction os with
  | nil => rfl
  | cons o rest ih =>
    rw [anyTrue?, ih, searchTruth?]

theorem searchTruth?_append (b : Bool) (os os' : List Operand) :
    searchTruth? b (os ++ os') =
      (searchTruth? b os).bind fun t => if t = b then some b else searchTruth? b os' := by
  induction os with
  | nil => cases b <;> rfl
  | cons o rest ih =>
    rw [List.cons_append, searchTruth?, ih, searchTruth?]
    rcases o.truth? with _ | _ | _ <;> cases b <;> rfl

/-- The value of an operand that is true, false or failing. -/
theorem Operand.truth?_of_value {o : Operand} {t : Option Bool} (h : o.value = t.map Json.bool) :
    o.truth? = t := by
  rw [truth?, h]
  rcases t with _ | _ | _ <;> rfl

section Operands

variable {α : Type} {f g : α → Operand} {as : List α}

/-- Among negated operands the search is the one for the opposite, with the opposite result. -/
theorem searchTruth?_map_negated (h : ∀ a, (g a).truth? = (f a).truth?.map not) (b : Bool)
    (as : List α) : searchTruth? (!b) (as.map g) = (searchTruth? b (as.map f)).map not := by
  -- The first operand fails on both sides, or decides on both, or leaves both to the rest.
  induction as with
  | nil => rfl
  | cons a rest ih =>
    rw [List.map_cons, searchTruth?, h, ih, List.map_cons, searchTruth?]
    rcases (f a).truth? with _ | _ | _ <;> cases b <;> rfl

/-- If no operand fails, all of them count. -/
theorem allTrue?_map {verdict : α → Bool} (h : ∀ a ∈ as, (f a).truth? = some (verdict a)) :
    allTrue? (as.map f) = some ((as.map verdict).all fun b => b) := by
  induction as with
  | nil => rfl
  | cons a rest ih =>
    have hrest := ih fun a ha => h a (List.mem_cons_of_mem _ ha)
    rw [List.map_cons, allTrue?, h a List.mem_cons_self, hrest, List.map_cons, List.all_cons]
    cases verdict a <;> rfl

theorem anyTrue?_map {verdict : α → Bool} (h : ∀ a ∈ as, (f a).truth? = some (verdict a)) :
    anyTrue? (as.map f) = some ((as.map verdict).any fun b => b) := by
  induction as with
  | nil => rfl
  | cons a rest ih =>
    have hrest := ih fun a ha => h a (List.mem_cons_of_mem _ ha)
    rw [List.map_cons, anyTrue?, h a List.mem_cons_self, hrest, List.map_cons, List.any_cons]
    cases verdict a <;> rfl

end Operands

namespace Json

variable {context : Context}

section Verdicts

variable {α : Type} {write : α → Json} {verdict : α → Bool} {as : List α}

/-- The value of `all` on operands that are all true or false. -/
theorem evaluate?_all (h : ∀ a ∈ as, (write a).evaluate? context = some (bool (verdict a))) :
    (array (string "all" :: as.map write)).evaluate? context =
      some (bool ((as.map verdict).all fun b => b)) := by
  rw [evaluate?_array, List.map_map]
  exact congrArg (Option.map bool) (allTrue?_map fun a ha => Operand.truth?_of_value (h a ha))

/-- The value of `any` on operands that are all true or false. -/
theorem evaluate?_any (h : ∀ a ∈ as, (write a).evaluate? context = some (bool (verdict a))) :
    (array (string "any" :: as.map write)).evaluate? context =
      some (bool ((as.map verdict).any fun b => b)) := by
  rw [evaluate?_array, List.map_map]
  exact congrArg (Option.map bool) (anyTrue?_map fun a ha => Operand.truth?_of_value (h a ha))

end Verdicts

/-! ### Negation -/

/-- The negation of an expression. -/
def negation (e : Json) : Json := array [string "!", e]

theorem evaluate?_negation (e : Json) :
    (negation e).evaluate? context =
      ((Operand.truth? ⟨e, e.evaluate? context⟩).map not).map bool := by
  rw [negation, evaluate?_array]
  show (do some (bool !(← Operand.truth? ⟨e, e.evaluate? context⟩))) = _
  cases Operand.truth? ⟨e, e.evaluate? context⟩ <;> rfl

/-- The negation of a search is the search for the opposite among the negations. -/
theorem negated_search (b : Bool) (es : List Json) :
    (searchTruth? b (es.map fun e => ⟨e, e.evaluate? context⟩)).map not =
      searchTruth? (!b) ((es.map negation).map fun e => ⟨e, e.evaluate? context⟩) := by
  have htruth (e : Json) :
      Operand.truth? ⟨negation e, (negation e).evaluate? context⟩ =
        (Operand.truth? ⟨e, e.evaluate? context⟩).map not :=
    Operand.truth?_of_value (evaluate?_negation e)
  rw [List.map_map]
  exact (searchTruth?_map_negated htruth b es).symm

/-- What is not true of all is false of one. -/
theorem evaluate?_negation_all (es : List Json) :
    (negation (array (string "all" :: es))).evaluate? context =
      (array (string "any" :: es.map negation)).evaluate? context := by
  rw [evaluate?_negation, Operand.truth?_of_value (evaluate?_array context "all" es),
    evaluate?_array, allTrue?_eq, negated_search]
  show _ = (anyTrue? _).map bool
  rw [anyTrue?_eq]
  rfl

/-- What is not true of any is false of all. -/
theorem evaluate?_negation_any (es : List Json) :
    (negation (array (string "any" :: es))).evaluate? context =
      (array (string "all" :: es.map negation)).evaluate? context := by
  rw [evaluate?_negation, Operand.truth?_of_value (evaluate?_array context "any" es),
    evaluate?_array, anyTrue?_eq, negated_search]
  show _ = (allTrue? _).map bool
  rw [allTrue?_eq]
  rfl

end Json

/-! ### Nesting -/

theorem concat?_append (os os' : List Operand) :
    concat? (os ++ os') = (concat? os).bind fun s => (concat? os').map fun t => s ++ t := by
  induction os with
  | nil => simp [concat?]
  | cons o rest ih =>
    rw [List.cons_append, concat?, ih, concat?]
    cases o.value with
    | none => rfl
    | some v => cases concat? rest <;> cases concat? os' <;> simp [String.append_assoc]

/-- The first value that is accepted is accepted. -/
theorem filter_findSome? (p : Json → Bool) (os : List Operand) :
    (os.findSome? fun o => o.value.filter p).filter p =
      os.findSome? fun o => o.value.filter p := by
  cases hfound : os.findSome? fun o => o.value.filter p with
  | none => rfl
  | some v =>
    obtain ⟨o, -, ho⟩ := List.exists_of_findSome?_eq_some hfound
    exact Option.filter_eq_some_iff.mpr ⟨rfl, (Option.filter_eq_some_iff.mp ho).2⟩

namespace Operator

/-- Among the operands of an operator, one that has the value of the same operator on operands
of its own may be replaced by these. -/
def Flattens (op : Operator) : Prop :=
  ∀ (context : Context) (before inner after : List Operand) (o : Operand),
    o.value = op.apply context inner →
      op.apply context (before ++ o :: after) = op.apply context (before ++ (inner ++ after))

theorem flattens_of_search {op : Operator} (b : Bool)
    (h : ∀ context os, op.apply context os = (searchTruth? b os).map Json.bool) : op.Flattens := by
  intro context before inner after o hvalue
  rw [h] at hvalue
  rw [h, h, searchTruth?_append, searchTruth?, Operand.truth?_of_value hvalue,
    searchTruth?_append b before, searchTruth?_append b inner]
  rfl

theorem flattens_all : all.Flattens := by
  refine flattens_of_search false fun context os => ?_
  rw [← allTrue?_eq, apply]

theorem flattens_any : any.Flattens := by
  refine flattens_of_search true fun context os => ?_
  rw [← anyTrue?_eq, apply]

theorem flattens_concat : concat.Flattens := by
  intro context before inner after o hvalue
  -- The text of a text is itself, so the inner texts are joined once more as they are.
  have hinner : concat? (o :: after) = concat? (inner ++ after) := by
    rw [concat?, hvalue, concat?_append, apply]
    cases concat? inner with
    | none => rfl
    | some s => cases concat? after <;> rfl
  show (concat? _).map Json.string = (concat? _).map Json.string
  rw [concat?_append, hinner, concat?_append before]

theorem flattens_coalesce : coalesce.Flattens := by
  intro context before inner after o hvalue
  -- What the inner search finds is not null, and so the outer one takes it.
  simp only [apply, List.findSome?_append, List.findSome?_cons, hvalue, filter_findSome?]
  cases inner.findSome? fun o => o.value.filter (!·.isNull) <;> rfl

end Operator

/-- One application inside another of the same operator. -/
theorem Json.evaluate?_nested {name : String} {op : Operator} (hop : Operator.ofName? name = some op)
    (hflattens : op.Flattens) (context : Context) (before inner after : List Json) :
    (array (string name :: (before ++ array (string name :: inner) :: after))).evaluate? context =
      (array (string name :: (before ++ (inner ++ after)))).evaluate? context := by
  rw [evaluate?_array, evaluate?_array, hop, Option.bind_some, Option.bind_some, List.map_append,
    List.map_append, List.map_append, List.map_cons]
  refine hflattens context _ _ _ _ ?_
  rw [evaluate?_array, hop, Option.bind_some]

open Json

/-- **Operators on lists of operands obey their laws, failures included.**  Negation turns `all`
into `any` of the negations and `any` into `all` of them, and an application of `all`, `any`,
`concat` or `coalesce` among the operands of another may be written without its brackets. -/
theorem variadic_laws (context : Context) :
    (∀ es : List Json, (negation (array (string "all" :: es))).evaluate? context =
      (array (string "any" :: es.map negation)).evaluate? context) ∧
    (∀ es : List Json, (negation (array (string "any" :: es))).evaluate? context =
      (array (string "all" :: es.map negation)).evaluate? context) ∧
    ∀ name ∈ ["all", "any", "concat", "coalesce"], ∀ before inner after : List Json,
      (array (string name :: (before ++ array (string name :: inner) :: after))).evaluate? context =
        (array (string name :: (before ++ (inner ++ after)))).evaluate? context := by
  refine ⟨evaluate?_negation_all, evaluate?_negation_any, ?_⟩
  simp only [List.forall_mem_cons]
  exact ⟨evaluate?_nested rfl Operator.flattens_all context,
    evaluate?_nested rfl Operator.flattens_any context,
    evaluate?_nested rfl Operator.flattens_concat context,
    evaluate?_nested rfl Operator.flattens_coalesce context, nofun⟩

/-- The label of a river: its name, and its length in brackets. -/
def riverLabel : List Json :=
  [array [string "get", string "name"],
    array [string "concat", string " (", array [string "get", string "length"], string " km)"],
    string "!"]

/-- A river with a name and a length. -/
def river : Context := .ofProperties [("length", .number (.int 1233)), ("name", .string "Rhine")] 9

theorem variadic_laws_riverLabel :
    "concat" ∈ ["all", "any", "concat", "coalesce"] ∧
    (array (string "concat" :: riverLabel)).evaluate? river = some (string "Rhine (1233 km)!") ∧
    (array (string "concat" :: riverLabel)).evaluate? river =
      (array [string "concat", array [string "get", string "name"], string " (",
        array [string "get", string "length"], string " km)", string "!"]).evaluate? river ∧
    -- The second operand fails, and neither side comes to it.
    (negation (array [string "any", bool true, array []])).evaluate? river =
      (array [string "all", negation (bool true), negation (array [])]).evaluate? river := by
  obtain ⟨-, hany, hnested⟩ := variadic_laws river
  refine ⟨by decide, ?_, ?_, hany [bool true, array []]⟩
  · rfl
  · exact hnested "concat" (by decide) [array [string "get", string "name"]]
      [string " (", array [string "get", string "length"], string " km)"] [string "!"]

end MapStyle
