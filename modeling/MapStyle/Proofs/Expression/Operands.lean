/-
What an application reads of its operands.

An operand comes as it is written and with its value.  All but a few operators read the
values alone, and the others read as written just the operands at certain places.

* `Operator.readsWritten` — the places of the operands that are read as written;
* `Operand.bare` — an operand with nothing but its value;
* `Operator.apply_map_bare` — most operators cannot tell an operand from its bare form;
* `Operator.apply_replace` — an application does not change when the operand at a place
  that is read for its value is replaced by another of the same value.
-/
import MapStyle.Expression.Evaluation

namespace MapStyle

/-- Whether the operand at `index`, of `count`, is the input of a stop, where two operands
stand before the stops.  What has no output behind it is no stop. -/
def isStopInput (count index : Nat) : Bool := 2 ≤ index && index % 2 == 0 && index + 1 < count

/-- Whether an operator reads the operand at `index`, of `count`, as it is written. -/
def Operator.readsWritten (count index : Nat) : Operator → Bool
  | literal => index == 0
  -- The first operand is the kind of the blend.
  | interpolate => index == 0 || isStopInput count index
  | step => isStopInput count index
  -- The labels: the last operand is the default, and every label has an output.
  | .match => index % 2 == 1 && index + 2 < count
  | _ => false

/-- The operand with its value, and nothing of how it is written. -/
def Operand.bare (o : Operand) : Operand := ⟨.null, o.value⟩

theorem Operand.bare_eq_bare {o o' : Operand} (h : o.value = o'.value) : o.bare = o'.bare := by
  rw [bare, h, bare]

/-! ### Operators that read values -/

section Bare

open Operand

theorem found?_map_bare (properties : Dictionary Json) (os : List Operand) :
    found? properties (os.map bare) = found? properties os := by
  rcases os with _ | ⟨key, _ | ⟨holder, rest⟩⟩ <;> rfl

theorem allTrue?_map_bare (os : List Operand) : allTrue? (os.map bare) = allTrue? os := by
  induction os with
  | nil => rfl
  | cons o rest ih =>
    rw [List.map_cons, allTrue?, ih, allTrue?]
    rfl

theorem anyTrue?_map_bare (os : List Operand) : anyTrue? (os.map bare) = anyTrue? os := by
  induction os with
  | nil => rfl
  | cons o rest ih =>
    rw [List.map_cons, anyTrue?, ih, anyTrue?]
    rfl

theorem foldFloats?_map_bare (op : Float → Float → Float) (start : Float) (os : List Operand) :
    foldFloats? op start (os.map bare) = foldFloats? op start os := by
  induction os generalizing start with
  | nil => rfl
  | cons o rest ih =>
    rw [List.map_cons, foldFloats?, foldFloats?]
    simp only [ih]
    rfl

theorem concat?_map_bare (os : List Operand) : concat? (os.map bare) = concat? os := by
  induction os with
  | nil => rfl
  | cons o rest ih =>
    rw [List.map_cons, concat?, ih, concat?]
    rfl

theorem firstNumber?_map_bare (os : List Operand) :
    firstNumber? (os.map bare) = firstNumber? os := by
  induction os with
  | nil => rfl
  | cons o rest ih =>
    rw [List.map_cons, firstNumber?, ih, firstNumber?]
    rfl

theorem firstColor?_map_bare (os : List Operand) : firstColor? (os.map bare) = firstColor? os := by
  induction os with
  | nil => rfl
  | cons o rest ih =>
    rw [List.map_cons, firstColor?, ih, firstColor?]
    rfl

theorem pairs_map {α β : Type} (f : α → β) (xs : List α) :
    pairs (xs.map f) = (pairs xs).map (Prod.map f f) := by
  induction xs using pairs.induct with
  | case1 a b rest ih => rw [List.map_cons, List.map_cons, pairs, ih, pairs, List.map_cons]; rfl
  | case2 xs h =>
    rcases xs with _ | ⟨a, _ | ⟨b, rest⟩⟩
    · rfl
    · rfl
    · exact absurd rfl (h a b rest)

theorem firstCase_map_bare (default : Operand) (cases : List (Operand × Operand)) :
    firstCase default.bare (cases.map (Prod.map bare bare)) =
      (firstCase default cases).map bare := by
  induction cases with
  | nil => rfl
  | cons c rest ih =>
    rw [List.map_cons, firstCase, ih, firstCase]
    show (c.1.truth?.bind fun t => if t then some c.2.bare else (firstCase default rest).map bare) =
      (c.1.truth?.bind fun t => if t then some c.2 else firstCase default rest).map bare
    cases c.1.truth? with
    | none => rfl
    | some t => cases t <;> rfl

variable {op : Operator} {context : Context}

/-- Behind the conditions and their outputs the last operand is the default. -/
theorem Operator.apply_case {os : List Operand} (hlength : 2 ≤ os.length) :
    Operator.case.apply context os = os.getLast?.bind fun default =>
      (firstCase default (pairs os.dropLast)).bind Operand.value := by
  rcases os with _ | ⟨first, _ | ⟨second, rest⟩⟩
  · simp at hlength
  · simp at hlength
  · have hlast : (first :: second :: rest).getLast? =
        some ((first :: second :: rest).getLast (List.cons_ne_nil first _)) :=
      List.getLast?_eq_some_getLast _
    rw [hlast]
    rfl

/-- Whether an operator reads every operand for its value. -/
def Operator.readsValues : Operator → Bool
  | literal | interpolate | step | .match | format => false
  | _ => true

/-- An operator that reads values does not look at how its operands are written. -/
theorem Operator.apply_map_bare (hop : op.readsValues = true) (os : List Operand) :
    op.apply context (os.map bare) = op.apply context os := by
  cases op with
  | literal | interpolate | step | «match» | format => exact nomatch hop
  | get | has => simp only [apply, found?_map_bare]
  | all => simp only [apply, allTrue?_map_bare]
  | any => simp only [apply, anyTrue?_map_bare]
  | add | multiply => simp only [apply, foldFloats?_map_bare]
  | concat => simp only [apply, concat?_map_bare]
  | toNumber => simp only [apply, firstNumber?_map_bare]
  | toColor => simp only [apply, firstColor?_map_bare]
  | coalesce | require e => simp only [apply, List.findSome?_map]; rfl
  | extremum e =>
    cases os with
    | nil => rfl
    | cons o rest =>
      show (foldFloats? e.pick e.start ((o :: rest).map bare)).bind Json.ofResult? =
        (foldFloats? e.pick e.start (o :: rest)).bind Json.ofResult?
      rw [foldFloats?_map_bare]
  | case =>
    by_cases hlength : 2 ≤ os.length
    · have hlength' : 2 ≤ (os.map bare).length := by rwa [List.length_map]
      rw [apply_case hlength, apply_case hlength', List.getLast?_map, ← List.map_dropLast,
        pairs_map, Option.bind_map]
      simp only [Function.comp_def, firstCase_map_bare, Option.bind_map]
      rfl
    · rcases os with _ | ⟨default, _ | ⟨b, rest⟩⟩
      · rfl
      · rfl
      · simp at hlength
  | _ => rcases os with _ | ⟨a, _ | ⟨b, _ | ⟨c, _ | ⟨d, rest⟩⟩⟩⟩ <;> rfl

end Bare

/-! ### Operators that read labels and stops -/

section Stops

open Operand

/-- The output of a stop or of a label, with nothing of how it is written. -/
abbrev bareOutput {α : Type} (stop : α × Operand) : α × Operand := (stop.1, stop.2.bare)

variable {before after : List Operand} {o o' : Operand}

/-- Among labels and outputs in turn, an output may be replaced by another of the same value,
and so may a last label without an output. -/
theorem pairs_replace (hbare : o.bare = o'.bare) (hplace : before.length % 2 = 1 ∨ after = []) :
    (pairs (before ++ o :: after)).map bareOutput =
      (pairs (before ++ o' :: after)).map bareOutput := by
  induction before using pairs.induct with
  | case1 a b rest ih =>
    have hplace' : rest.length % 2 = 1 ∨ after = [] := by
      refine hplace.imp_left fun h => ?_
      rw [List.length_cons, List.length_cons] at h
      omega
    rw [List.cons_append, List.cons_append, pairs, List.map_cons, ih hplace']
    rfl
  | case2 before h =>
    rcases before with _ | ⟨a, _ | ⟨b, rest⟩⟩
    · obtain rfl : after = [] := by simpa using hplace
      rfl
    · show bareOutput (a, o) :: _ = bareOutput (a, o') :: _
      rw [bareOutput, bareOutput, hbare]
    · exact absurd rfl (h a b rest)

theorem bracket_map {α β : Type} (f : α → β) (above : β → Bool) (before : α) (items : List α) :
    bracket above (f before) (items.map f) =
      (bracket (fun a => above (f a)) before items).map (Prod.map f f) := by
  induction items generalizing before with
  | nil => rfl
  | cons item rest ih =>
    rw [List.map_cons, bracket, ih, bracket]
    split <;> rfl

theorem interpolate?_map_bareOutput (base input : Float) (stops : List (Float × Operand)) :
    interpolate? base input (stops.map bareOutput) = interpolate? base input stops := by
  rw [interpolate?, interpolate?, List.head?_map, List.getLast?_map, ← List.map_tail]
  cases stops.head? with
  | none => rfl
  | some first =>
    cases stops.getLast? with
    | none => rfl
    | some last =>
      simp only [Option.map_some, Option.bind_eq_bind, Option.bind_some, bracket_map]
      split
      · rfl
      · split
        · rfl
        · rw [Option.bind_map]
          rfl

theorem interpolate?_numericStops_congr {as bs : List Operand} (base input : Float)
    (h : (pairs as).map bareOutput = (pairs bs).map bareOutput) :
    interpolate? base input (numericStops as) = interpolate? base input (numericStops bs) := by
  have hmap (os : List Operand) : (numericStops os).map bareOutput =
      ((pairs os).map bareOutput).filterMap fun p => p.1.written.float?.map fun x => (x, p.2) := by
    simp [numericStops, List.map_filterMap, List.filterMap_map, Function.comp_def]
  rw [← interpolate?_map_bareOutput, hmap, h, ← hmap, interpolate?_map_bareOutput]

theorem stepFrom?_map_bareOutput (input : Float) (current : Operand)
    (stops : List (Operand × Operand)) :
    stepFrom? input current.bare (stops.map bareOutput) =
      (stepFrom? input current stops).map bare := by
  induction stops generalizing current with
  | nil => rfl
  | cons stop rest ih =>
    show (stop.1.written.float?.bind fun x =>
        if x ≤ input then stepFrom? input stop.2.bare (rest.map bareOutput)
        else some current.bare) =
      (stop.1.written.float?.bind fun x =>
        if x ≤ input then stepFrom? input stop.2 rest else some current).map bare
    rw [ih]
    cases stop.1.written.float? with
    | none => rfl
    | some x =>
      show (if x ≤ input then _ else _) =
        (if x ≤ input then _ else _ : Option Operand).map bare
      split <;> rfl

theorem firstMatch_map_bareOutput (input : Json) (default : Operand)
    (labels : List (Operand × Operand)) :
    firstMatch input default.bare (labels.map bareOutput) =
      (firstMatch input default labels).bare := by
  induction labels with
  | nil => rfl
  | cons label rest ih =>
    show (if fits input label.1.written then label.2.bare else _) =
      (if fits input label.1.written then label.2 else _).bare
    rw [ih]
    split <;> rfl

end Stops

/-! ### One operand replaced by another of the same value -/

namespace Operator

open Operand (bare bare_eq_bare)

variable {context : Context} {before after : List Operand} {o o' : Operand}

/-- Two operands before the stops, what is not the input of a stop is an output or the last. -/
theorem place_of_isStopInput {a b : Operand}
    (h : isStopInput ((a :: b :: before).length + 1 + after.length) (a :: b :: before).length =
      false) : before.length % 2 = 1 ∨ after = [] := by
  simp only [isStopInput, List.length_cons, Bool.and_eq_false_iff, decide_eq_false_iff_not,
    beq_eq_false_iff_ne] at h
  rw [← List.length_eq_zero_iff]
  omega

theorem apply_interpolate_cons (kind input : Operand) (stops : List Operand) :
    interpolate.apply context (kind :: input :: stops) =
      input.float?.bind fun x => (base? kind.written).bind fun base =>
        interpolate? base x (numericStops stops) := by
  rcases stops with _ | ⟨stop, _ | ⟨output, rest⟩⟩
  -- Without an output there is no stop, and nothing to blend.
  · cases input.float? <;> cases base? kind.written <;> rfl
  · cases input.float? <;> cases base? kind.written <;> rfl
  · rfl

theorem apply_interpolate_replace (hvalue : o.value = o'.value)
    (hplace : interpolate.readsWritten (before.length + 1 + after.length) before.length = false) :
    interpolate.apply context (before ++ o :: after) =
      interpolate.apply context (before ++ o' :: after) := by
  rcases before with _ | ⟨kind, _ | ⟨input, stops⟩⟩
  · exact nomatch hplace
  · show interpolate.apply context (kind :: o :: after) =
      interpolate.apply context (kind :: o' :: after)
    rw [apply_interpolate_cons, apply_interpolate_cons, Operand.float?, hvalue, Operand.float?]
  · rw [readsWritten, Bool.or_eq_false_iff] at hplace
    have hplace' := place_of_isStopInput hplace.2
    show interpolate.apply context (kind :: input :: (stops ++ o :: after)) =
      interpolate.apply context (kind :: input :: (stops ++ o' :: after))
    rw [apply_interpolate_cons, apply_interpolate_cons]
    simp only [interpolate?_numericStops_congr _ _ (pairs_replace (bare_eq_bare hvalue) hplace')]

theorem apply_step_cons (input default : Operand) (stops : List Operand) :
    step.apply context (input :: default :: stops) =
      input.float?.bind fun x =>
        (stepFrom? x default.bare ((pairs stops).map bareOutput)).bind Operand.value := by
  simp only [stepFrom?_map_bareOutput, Option.bind_map]
  rfl

theorem apply_step_replace (hvalue : o.value = o'.value)
    (hplace : step.readsWritten (before.length + 1 + after.length) before.length = false) :
    step.apply context (before ++ o :: after) = step.apply context (before ++ o' :: after) := by
  rcases before with _ | ⟨input, _ | ⟨default, stops⟩⟩
  · cases after with
    | nil => rfl
    | cons default stops =>
      show step.apply context (o :: default :: stops) = step.apply context (o' :: default :: stops)
      rw [apply_step_cons, apply_step_cons, Operand.float?, hvalue, Operand.float?]
  · show step.apply context (input :: o :: after) = step.apply context (input :: o' :: after)
    rw [apply_step_cons, apply_step_cons, bare_eq_bare hvalue]
  · have hplace' := place_of_isStopInput hplace
    show step.apply context (input :: default :: (stops ++ o :: after)) =
      step.apply context (input :: default :: (stops ++ o' :: after))
    rw [apply_step_cons, apply_step_cons, pairs_replace (bare_eq_bare hvalue) hplace']

theorem apply_match_cons (input : Operand) {labels : List Operand} (hlength : 2 ≤ labels.length) :
    Operator.match.apply context (input :: labels) =
      input.value.bind fun v => (labels.getLast?.map bare).bind fun default =>
        (firstMatch v default ((pairs labels.dropLast).map bareOutput)).value := by
  rcases labels with _ | ⟨first, _ | ⟨second, rest⟩⟩
  · simp at hlength
  · simp at hlength
  · have hlast : (first :: second :: rest).getLast? =
        some ((first :: second :: rest).getLast (List.cons_ne_nil first _)) :=
      List.getLast?_eq_some_getLast _
    rw [hlast]
    simp only [Option.map_some, Option.bind_some, firstMatch_map_bareOutput]
    rfl

/-- Behind the input stand the labels with their outputs, and behind these the default. -/
theorem apply_match_concat (input default : Operand) {labels : List Operand} (h : labels ≠ []) :
    Operator.match.apply context (input :: (labels ++ [default])) =
      input.value.bind fun v =>
        (firstMatch v default.bare ((pairs labels).map bareOutput)).value := by
  obtain ⟨label, rest, rfl⟩ := List.exists_cons_of_ne_nil h
  have hlength : 2 ≤ (label :: rest ++ [default]).length := by simp
  rw [apply_match_cons input hlength, List.getLast?_concat, List.dropLast_concat]
  rfl

theorem apply_match_replace (hvalue : o.value = o'.value)
    (hplace : Operator.match.readsWritten (before.length + 1 + after.length) before.length =
      false) :
    Operator.match.apply context (before ++ o :: after) =
      Operator.match.apply context (before ++ o' :: after) := by
  rcases before with _ | ⟨input, labels⟩
  · rcases after with _ | ⟨first, _ | ⟨second, rest⟩⟩
    · rfl
    · rfl
    · have hlength : 2 ≤ (first :: second :: rest).length := by simp
      show Operator.match.apply context (o :: first :: second :: rest) =
        Operator.match.apply context (o' :: first :: second :: rest)
      rw [apply_match_cons o hlength, apply_match_cons o' hlength, hvalue]
  · -- The operand is the default, or it stands before it.
    rcases List.eq_nil_or_concat after with rfl | ⟨rest, default, rfl⟩
    · cases labels with
      | nil => rfl
      | cons label labels =>
        have hne : label :: labels ≠ [] := List.cons_ne_nil label labels
        show Operator.match.apply context (input :: (label :: labels ++ [o])) =
          Operator.match.apply context (input :: (label :: labels ++ [o']))
        rw [apply_match_concat input o hne, apply_match_concat input o' hne, bare_eq_bare hvalue]
    · have hne (o : Operand) : labels ++ o :: rest ≠ [] := by simp
      have hsplit (o : Operand) :
          input :: labels ++ o :: rest.concat default =
            input :: ((labels ++ o :: rest) ++ [default]) := by simp
      have hplace' : labels.length % 2 = 1 ∨ rest = [] := by
        simp only [readsWritten, List.length_cons, List.concat_eq_append, List.length_append,
          List.length_nil, Bool.and_eq_false_iff, decide_eq_false_iff_not,
          beq_eq_false_iff_ne] at hplace
        rw [← List.length_eq_zero_iff]
        omega
      rw [hsplit, hsplit, apply_match_concat input default (hne o),
        apply_match_concat input default (hne o'), pairs_replace (bare_eq_bare hvalue) hplace']

/-- **An application depends on the values of its operands**, those places apart that its
operator reads as written and, for a format, which of its sections are objects. -/
theorem apply_replace (op : Operator) (hvalue : o.value = o'.value)
    (hplace : op.readsWritten (before.length + 1 + after.length) before.length = false)
    (hsection : op = format → o.written.isObject = false ∧ o'.written.isObject = false) :
    op.apply context (before ++ o :: after) = op.apply context (before ++ o' :: after) := by
  have hbare : o.bare = o'.bare := bare_eq_bare hvalue
  cases hop : op.readsValues with
  | true =>
    rw [← apply_map_bare hop, ← apply_map_bare hop (before ++ o' :: after), List.map_append,
      List.map_append, List.map_cons, List.map_cons, hbare]
  | false =>
    cases op with
    | literal =>
      cases before with
      | nil => exact nomatch hplace
      | cons first rest => rfl
    | interpolate => exact apply_interpolate_replace hvalue hplace
    | step => exact apply_step_replace hvalue hplace
    | «match» => exact apply_match_replace hvalue hplace
    | format =>
      obtain ⟨hobject, hobject'⟩ := hsection rfl
      have hsections : ((before ++ o :: after).filter (!·.written.isObject)).map Operand.bare =
          ((before ++ o' :: after).filter (!·.written.isObject)).map Operand.bare := by
        simp only [List.filter_append, List.filter_cons, hobject, hobject', List.map_append,
          Bool.not_false, if_true, List.map_cons, hbare]
      simp only [apply]
      rw [← concat?_map_bare, hsections, concat?_map_bare]
    | _ => exact nomatch hop

end Operator

end MapStyle
