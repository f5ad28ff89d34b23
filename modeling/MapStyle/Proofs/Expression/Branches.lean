/-
A choice by labels as a choice by conditions.

`match` compares one input with labels, and `case` asks one condition after the other.  The
first is the second with the comparisons written out: equality for a label, and membership for
a list of labels.  Both take the first branch that applies or else the default, and do not look
at any other output.

* `Json.matching`, `Json.choosing` — the two choices, by their branches and their default;
* `Json.labelTest` — the condition that the input fits a label;
* `Json.outputFor` — the output that belongs to a value of the input;
* `evaluate?_matching` — the value of a choice by labels, in terms of that output;
* `match_eq_case` — the choice by conditions has the same value, and fails with it.
-/
import MapStyle.Proofs.Expression.Replacement

namespace MapStyle

open Hole (literal evaluate?_literal)

namespace Json

/-- The branches one behind the other, and the default.  A branch is a label or a condition with
an output. -/
def branchItems (branches : List (Json × Json)) (default : Json) : List Json :=
  (branches.flatMap fun b => [b.1, b.2]) ++ [default]

/-- A choice among outputs by the label that an input fits. -/
def matching (input : Json) (branches : List (Json × Json)) (default : Json) : Json :=
  array (string "match" :: input :: branchItems branches default)

/-- A choice among outputs by the first condition that is true. -/
def choosing (branches : List (Json × Json)) (default : Json) : Json :=
  array (string "case" :: branchItems branches default)

/-- The condition that an input fits a label, or one of a list of labels. -/
def labelTest (input : Json) : Json → Json
  | array labels => array [string "in", input, literal (array labels)]
  | label => array [string "==", input, literal label]

/-- The output of the first branch whose label a value fits, or else the default. -/
def outputFor (v : Json) (branches : List (Json × Json)) (default : Json) : Json :=
  ((branches.find? fun b => fits v b.1).map Prod.snd).getD default

variable {context : Context} {input default : Json} {branches : List (Json × Json)}

/-! ### Operands -/

theorem map_branchItems {α : Type} (f : Json → α) (branches : List (Json × Json)) (default : Json) :
    (branchItems branches default).map f =
      (branches.flatMap fun b => [f b.1, f b.2]) ++ [f default] := by
  rw [branchItems, List.map_append, List.map_flatMap]
  rfl

theorem two_le_length_map_branchItems {α : Type} (f : Json → α) (h : branches ≠ []) :
    2 ≤ ((branchItems branches default).map f).length := by
  cases branches with
  | nil => exact absurd rfl h
  | cons b rest => simp [branchItems]

variable (context) in
/-- A branch as operands. -/
def branchOperands (b : Json × Json) : Operand × Operand :=
  (⟨b.1, b.1.evaluate? context⟩, ⟨b.2, b.2.evaluate? context⟩)

theorem apply_match_branches (h : branches ≠ []) (o : Operand) :
    Operator.match.apply context
        (o :: (branchItems branches default).map fun v => ⟨v, v.evaluate? context⟩) =
      o.value.bind fun v => (firstMatch v ⟨default, default.evaluate? context⟩
        (branches.map (branchOperands context))).value := by
  rw [Operator.apply_match_cons o (two_le_length_map_branchItems _ h), map_branchItems,
    List.getLast?_concat, List.dropLast_concat, pairs_flatMap]
  simp only [Option.map_some, Option.bind_some, firstMatch_map_bareOutput]
  rfl

theorem apply_case_branches (h : branches ≠ []) :
    Operator.case.apply context
        ((branchItems branches default).map fun v => ⟨v, v.evaluate? context⟩) =
      (firstCase ⟨default, default.evaluate? context⟩
        (branches.map (branchOperands context))).bind Operand.value := by
  rw [Operator.apply_case (two_le_length_map_branchItems _ h), map_branchItems,
    List.getLast?_concat, List.dropLast_concat, pairs_flatMap]
  rfl

/-! ### The choice by labels -/

theorem value_firstMatch (v : Json) (branches : List (Json × Json)) (default : Json) :
    (firstMatch v ⟨default, default.evaluate? context⟩
      (branches.map (branchOperands context))).value =
      (outputFor v branches default).evaluate? context := by
  induction branches with
  | nil => rfl
  | cons b rest ih =>
    rw [List.map_cons, branchOperands, firstMatch, outputFor, List.find?_cons]
    cases hfits : fits v b.1 with
    | true => rfl
    | false => exact ih

/-- The value of a choice by labels.  There is none without a branch. -/
theorem evaluate?_matching (input : Json) (branches : List (Json × Json)) (default : Json) :
    (matching input branches default).evaluate? context =
      if branches = [] then none
      else (input.evaluate? context).bind fun v =>
        (outputFor v branches default).evaluate? context := by
  rw [matching, evaluate?_array, List.map_cons]
  split
  case isTrue h =>
    rw [h]
    rfl
  case isFalse h =>
    show Operator.match.apply context _ = _
    rw [apply_match_branches h]
    simp only [value_firstMatch]

/-! ### The choice by conditions -/

/-- The test of a label tells whether the value of the input fits it, and fails with the input. -/
theorem evaluate?_labelTest (input label : Json) :
    (labelTest input label).evaluate? context =
      (input.evaluate? context).map fun v => bool (fits v label) := by
  -- The literal has the label itself as its value, so that no label is evaluated.
  cases label with
  | array labels =>
    rw [labelTest, evaluate?_array, List.map_cons, List.map_cons, evaluate?_literal]
    cases input.evaluate? context <;> rfl
  | null | bool _ | number _ | string _ | object _ =>
    rw [labelTest, evaluate?_array, List.map_cons, List.map_cons, evaluate?_literal]
    · cases input.evaluate? context <;> rfl
    · exact nofun

theorem truth?_labelTest {v : Json} (hv : input.evaluate? context = some v) (label : Json) :
    Operand.truth? ⟨labelTest input label, (labelTest input label).evaluate? context⟩ =
      some (fits v label) := by
  rw [evaluate?_labelTest, hv]
  show some (some (fits v label) == some true) = _
  cases fits v label <;> rfl

/-- Asked one after the other, the tests of the labels find the first label that fits. -/
theorem firstCase_labelTests {v : Json} (hv : input.evaluate? context = some v)
    (default : Operand) (branches : List (Json × Json)) :
    firstCase default (branches.map fun b => branchOperands context (labelTest input b.1, b.2)) =
      some (firstMatch v default (branches.map (branchOperands context))) := by
  -- A test that is false sends both sides on to the same rest.
  induction branches with
  | nil => rfl
  | cons b rest ih =>
    rw [List.map_cons, branchOperands, firstCase, truth?_labelTest hv, ih, List.map_cons,
      branchOperands, firstMatch]
    cases fits v b.1 <;> rfl

/-- The value of the choice by the tests of labels: it is that of the choice by the labels. -/
theorem evaluate?_choosing (input : Json) (branches : List (Json × Json)) (default : Json) :
    (choosing (branches.map fun b => (labelTest input b.1, b.2)) default).evaluate? context =
      if branches = [] then none
      else (input.evaluate? context).bind fun v =>
        (outputFor v branches default).evaluate? context := by
  rw [choosing, evaluate?_array]
  split
  case isTrue h =>
    rw [h]
    rfl
  case isFalse h =>
    show Operator.case.apply context _ = _
    rw [apply_case_branches (by rwa [ne_eq, List.map_eq_nil_iff]), List.map_map]
    cases hv : input.evaluate? context with
    | some v =>
      simp only [Function.comp_def, firstCase_labelTests hv, Option.bind_some, value_firstMatch]
    | none =>
      -- The first of the tests fails, and no output is reached.
      obtain ⟨b, rest, rfl⟩ := List.exists_cons_of_ne_nil h
      have hfails : Operand.truth? ⟨labelTest input b.1,
          (labelTest input b.1).evaluate? context⟩ = none := by
        rw [evaluate?_labelTest, hv]
        rfl
      rw [List.map_cons, Function.comp_apply, branchOperands, firstCase, hfails]
      rfl

end Json

open Json

/-- **A choice by labels is the choice by the tests of the labels**, in every context and for any
number of branches, also where the input or the output that is taken has no value.  What both
give is the value of the first output whose label the input fits, or else of the default; without
a branch, or without a value of the input, they give nothing. -/
theorem match_eq_case (context : Context) (input : Json) (branches : List (Json × Json))
    (default : Json) :
    (matching input branches default).evaluate? context =
      (choosing (branches.map fun b => (labelTest input b.1, b.2)) default).evaluate? context ∧
    (matching input branches default).evaluate? context =
      if branches = [] then none
      else (input.evaluate? context).bind fun v =>
        (outputFor v branches default).evaluate? context := by
  rw [evaluate?_choosing]
  exact ⟨evaluate?_matching input branches default, evaluate?_matching input branches default⟩

end MapStyle
