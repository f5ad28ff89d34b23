/-
Labels in expressions.

A choice by labels and a membership compare values and do not look at how these are written, so
that a label may be replaced by an equal one: `8` by `8.0`, also where it stands in a list, in a
list of lists, and so on.  What else stands in these lists need not be equal to anything.

* `Json.Relabels` — a label in place of another: an equal one, or a list with such a label inside;
* `Relabels.same_right`, `Relabels.same_left` — both are equal to the same values;
* `Relabels.fits_eq`, `Relabels.occurs?_left`, `Relabels.occurs?_right` — they fit the same values,
  occur in the same, and hold the same;
* `evaluate?_match_relabels`, `evaluate?_in_needle`, `evaluate?_in_holder` — hence choices and
  memberships have one value with either label.
-/
import MapStyle.Proofs.Expression.Equality
import MapStyle.Proofs.Expression.Operands

namespace MapStyle

namespace Json

/-- A label in place of another one: it is equal to it, or both are lists that differ in one item,
which is replaced in this way. -/
inductive Relabels : Json → Json → Prop
  | equal {a b : Json} : a.same b = true → Relabels a b
  | inside {a b : Json} (before after : List Json) : Relabels a b →
      Relabels (array (before ++ a :: after)) (array (before ++ b :: after))

/-- Neither of two values is an object, and if one is a list, a truth value or a text, then so is
the other, and the same text. -/
structure SameShape (a b : Json) : Prop where
  left : a.isObject = false
  right : b.isObject = false
  isArray : a.isArray = b.isArray
  isBool : a.isBool = b.isBool
  string? : a.string? = b.string?

variable {a b : Json}

theorem SameShape.isString (h : SameShape a b) : a.isString = b.isString := by
  have hstring : ∀ v : Json, v.isString = v.string?.isSome := fun v => by cases v <;> rfl
  rw [hstring, hstring, h.string?]

theorem sameItems_append_cons (h : ∀ v : Json, v.same a = v.same b) (vs before after : List Json) :
    sameItems vs (before ++ a :: after) = sameItems vs (before ++ b :: after) := by
  induction before generalizing vs with
  | nil =>
    cases vs with
    | nil => rfl
    | cons v vs => rw [List.nil_append, List.nil_append, sameItems, sameItems, h]
  | cons item before ih =>
    cases vs with
    | nil => rfl
    | cons v vs => rw [List.cons_append, List.cons_append, sameItems, sameItems, ih]

theorem any_same_of_sameItems {as bs : List Json} (h : sameItems as bs = true) (v : Json) :
    as.any v.same = bs.any v.same := by
  induction as generalizing bs with
  | nil =>
    cases bs with
    | nil => rfl
    | cons b bs => cases h
  | cons a as ih =>
    cases bs with
    | nil => cases h
    | cons b bs =>
      rw [sameItems, Bool.and_eq_true] at h
      rw [List.any_cons, List.any_cons, same_congr h.1, ih h.2]

namespace Relabels

theorem sameShape (h : a.Relabels b) : SameShape a b := by
  cases h with
  | equal h => cases a, b, h using same_cases <;> exact ⟨rfl, rfl, rfl, rfl, rfl⟩
  | inside before after h => exact ⟨rfl, rfl, rfl, rfl, rfl⟩

/-- **Labels in place of one another are equal to the same values.** -/
theorem same_right (h : a.Relabels b) (v : Json) : v.same a = v.same b := by
  induction h generalizing v with
  | equal h => exact same_congr h v
  | inside before after h ih =>
    cases v with
    | array vs => exact sameItems_append_cons ih vs before after
    | _ => rfl

theorem same_left (h : a.Relabels b) (v : Json) : a.same v = b.same v := by
  rw [same_comm a, same_comm b]
  exact h.same_right v

theorem any_append_cons (h : a.Relabels b) (v : Json) (before after : List Json) :
    (before ++ a :: after).any v.same = (before ++ b :: after).any v.same := by
  rw [List.any_append, List.any_append, List.any_cons, List.any_cons, h.same_right]

/-- They fit the same values, also as lists of labels. -/
theorem fits_eq (h : a.Relabels b) (v : Json) : fits v a = fits v b := by
  cases h with
  | equal h =>
    cases a, b, h using same_cases with
    | array as bs hitems => exact any_same_of_sameItems hitems v
    | bool x y h | number m n h => exact same_congr h v
    | null | string s h => rfl
  | inside before after h => exact h.any_append_cons v before after

/-- They occur in the same lists and texts. -/
theorem occurs?_left (h : a.Relabels b) (w : Json) : occurs? a w = occurs? b w := by
  cases w with
  | array items =>
    have hsame : a.same = b.same := funext h.same_left
    rw [occurs?, occurs?, hsame]
  | string text => rw [occurs?, occurs?, h.sameShape.string?]
  | _ => rfl

/-- The same values occur in them. -/
theorem occurs?_right (h : a.Relabels b) (v : Json) : occurs? v a = occurs? v b := by
  cases h with
  | equal h =>
    cases a, b, h using same_cases with
    | array as bs hitems => exact congrArg some (any_same_of_sameItems hitems v)
    | null | bool x y h | number m n h | string s h => rfl
  | inside before after h => exact congrArg some (h.any_append_cons v before after)

end Relabels

/-! ### Choices -/

section Match

variable {context : Context}

/-- Among labels and outputs in turn, the label at an even place may be replaced. -/
theorem firstMatch_relabels {o o' : Operand} (h : o.written.Relabels o'.written)
    {before : List Operand} (hplace : before.length % 2 = 0) (after : List Operand) (v : Json)
    (default : Operand) :
    firstMatch v default ((pairs (before ++ o :: after)).map bareOutput) =
      firstMatch v default ((pairs (before ++ o' :: after)).map bareOutput) := by
  induction before using pairs.induct with
  | case1 label output rest ih =>
    have hplace' : rest.length % 2 = 0 := by
      rw [List.length_cons, List.length_cons] at hplace
      omega
    rw [List.cons_append, List.cons_append, pairs, List.map_cons, firstMatch, ih hplace']
    rfl
  | case2 before hshort =>
    rcases before with _ | ⟨label, _ | ⟨output, rest⟩⟩
    · cases after with
      | nil => rfl
      | cons output rest =>
        show (if fits v o.written then output.bare else _) =
          (if fits v o'.written then output.bare else _)
        rw [h.fits_eq]
    · cases hplace
    · exact absurd rfl (hshort label output rest)

theorem apply_match_relabels {o o' : Operand} (h : o.written.Relabels o'.written)
    {before after : List Operand}
    (hplace : Operator.match.readsWritten (before.length + 1 + after.length) before.length = true) :
    Operator.match.apply context (before ++ o :: after) =
      Operator.match.apply context (before ++ o' :: after) := by
  rw [Operator.readsWritten, Bool.and_eq_true, beq_iff_eq, decide_eq_true_eq] at hplace
  -- The input stands before the labels, and the default behind them.
  rcases before with _ | ⟨input, labels⟩
  · cases hplace.1
  · rcases List.eq_nil_or_concat after with rfl | ⟨rest, default, rfl⟩
    · simp at hplace
    · have hne (o : Operand) : labels ++ o :: rest ≠ [] := by simp
      have hsplit (o : Operand) :
          input :: labels ++ o :: rest.concat default =
            input :: ((labels ++ o :: rest) ++ [default]) := by simp
      have hlabels : labels.length % 2 = 0 := by
        rw [List.length_cons] at hplace
        omega
      rw [hsplit, hsplit, Operator.apply_match_concat input default (hne o),
        Operator.apply_match_concat input default (hne o')]
      simp only [firstMatch_relabels h hlabels]

/-- **A choice has one value with either label**, whatever else it holds. -/
theorem evaluate?_match_relabels (h : a.Relabels b) {before after : List Json}
    (hplace : Operator.match.readsWritten (before.length + 1 + after.length) before.length = true) :
    (array (string "match" :: (before ++ a :: after))).evaluate? context =
      (array (string "match" :: (before ++ b :: after))).evaluate? context := by
  rw [evaluate?_array, evaluate?_array, List.map_append, List.map_append, List.map_cons,
    List.map_cons]
  refine Option.bind_congr fun op hop => ?_
  obtain rfl : Operator.match = op := Option.some.inj hop
  refine apply_match_relabels h ?_
  rwa [List.length_map, List.length_map]

/-- Two lists of labels, of which one holds a list with a point in its number. -/
example :
    let context : Context := .ofProperties [("ranks", array [number (.int 8)])] 5.0
    let choice (label : Json) : Json :=
      array [string "match", array [string "get", string "ranks"], label, bool true, bool false]
    (choice (array [null, array [number (.int 8)]])).evaluate? context = some (bool true) ∧
      (choice (array [null, array [number (.float 8.0)]])).evaluate? context = some (bool true) :=
  ⟨rfl, rfl⟩

end Match

/-! ### Memberships -/

section In

variable {context : Context} {needle needle' holder holder' : Json}

theorem evaluate?_in (needle holder : Json) (rest : List Json) :
    (array (string "in" :: needle :: holder :: rest)).evaluate? context =
      (needle.evaluate? context).bind fun v => (holder.evaluate? context).bind fun w =>
        (occurs? v w).map bool := by
  rw [evaluate?_array]
  show (needle.evaluate? context).bind (fun v => (holder.evaluate? context).bind fun w =>
    (occurs? v w).bind fun found => some (bool found)) = _
  cases needle.evaluate? context <;> cases holder.evaluate? context <;> simp [Option.map_eq_bind]

/-- **A membership has one value with either label**, where the label is looked for. -/
theorem evaluate?_in_needle (h : a.Relabels b) (rest : List Json)
    (ha : needle.evaluate? context = some a) (hb : needle'.evaluate? context = some b) :
    (array (string "in" :: needle :: holder :: rest)).evaluate? context =
      (array (string "in" :: needle' :: holder :: rest)).evaluate? context := by
  rw [evaluate?_in, evaluate?_in, ha, hb, Option.bind_some, Option.bind_some]
  simp only [h.occurs?_left]

/-- **So it has where values are looked for in the label.** -/
theorem evaluate?_in_holder (h : a.Relabels b) (rest : List Json)
    (ha : holder.evaluate? context = some a) (hb : holder'.evaluate? context = some b) :
    (array (string "in" :: needle :: holder :: rest)).evaluate? context =
      (array (string "in" :: needle :: holder' :: rest)).evaluate? context := by
  rw [evaluate?_in, evaluate?_in, ha, hb]
  simp only [Option.bind_some, h.occurs?_right]

end In

end Json

end MapStyle
