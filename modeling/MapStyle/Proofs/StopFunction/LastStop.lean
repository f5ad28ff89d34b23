/-
The last stop that is not above an input.

Steps and intervals go along their stops and stop at the first one that lies above the input.  If
the stops are in order, all behind it lie above the input, too, so that what is found is the last
stop of all that does not, or what holds without one: the default of a step, and the output of the
first stop of an interval.

* `lastWhere?` — the last item that satisfies a test, wherever it stands;
* `filter_eq_takeWhile` — where an item that satisfies it has none before it that does not, nothing
  is lost at the first item that does not;
* `stepFrom?_eq`, `intervalFrom?_eq` — what the two searches find, in any order of the stops;
* `last_stop` — hence what they find among stops in order.
-/
import MapStyle.Proofs.Decimal.ExtendedRank
import MapStyle.Proofs.StopFunction.ZoomForms
import MapStyle.Proofs.Text.ByteOrder

namespace MapStyle

open Operand (itself)
open Text (bytes)

/-! ### The last item of a kind -/

section Items

variable {α β : Type} {p : α → Bool} {items : List α}

/-- The last item that satisfies a test. -/
def lastWhere? (p : α → Bool) (items : List α) : Option α := (items.filter p).getLast?

/-- **Nothing is lost at the first item that does not satisfy a test**, if none behind it does. -/
theorem filter_eq_takeWhile (h : items.Pairwise fun a b => p b = true → p a = true) :
    items.filter p = items.takeWhile p := by
  induction items with
  | nil => rfl
  | cons a rest ih =>
    obtain ⟨hfirst, hrest⟩ := List.pairwise_cons.mp h
    by_cases ha : p a = true
    · rw [List.filter_cons_of_pos ha, List.takeWhile_cons_of_pos ha, ih hrest]
    · rw [List.filter_cons_of_neg ha, List.takeWhile_cons_of_neg ha, List.filter_eq_nil_iff]
      exact fun b hb hpb => ha (hfirst b hb hpb)

theorem lastWhere?_eq (h : items.Pairwise fun a b => p b = true → p a = true) :
    lastWhere? p items = (items.takeWhile p).getLast? := by
  rw [lastWhere?, filter_eq_takeWhile h]

end Items

/-! ### The searches -/

/-- A step has the output of the last stop before the first above the input, or its default. -/
theorem stepFrom?_eq (f : Json → Operand) (x : Float) (current : Json)
    (stops : List (Number × Json)) :
    stepFrom? x (f current) (stops.map fun s => (itself (.number s.1), f s.2)) =
      some (f (((stops.takeWhile fun s => decide (s.1.toFloat ≤ x)).getLast?.map Prod.snd).getD
        current)) := by
  induction stops generalizing current with
  | nil => rfl
  | cons s rest ih =>
    show (if s.1.toFloat ≤ x then stepFrom? x (f s.2) _ else some (f current)) = _
    by_cases hle : s.1.toFloat ≤ x
    · rw [if_pos hle, ih]
      simp only [List.takeWhile_cons, decide_eq_true hle, if_true, List.getLast?_cons]
      cases (rest.takeWhile fun s => decide (s.1.toFloat ≤ x)).getLast? <;> rfl
    · simp only [hle, List.takeWhile_cons, decide_false, Bool.false_eq_true, if_false]
      rfl

/-- Steps as an expression: an input, a default, the stops one behind the other, and what is left
over behind them. -/
def Json.stepping (input default : Json) (stops : List (Number × Json)) (tail : List Json) : Json :=
  .array (.string "step" :: input :: default ::
    ((stops.flatMap fun s => [.number s.1, s.2]) ++ tail))

open Json (stepping)

/-- What is left over is no stop without an output, and is not looked at. -/
theorem evaluate?_stepping {context : Context} {input : Json} {x : Float}
    (hx : (input.evaluate? context).bind Json.float? = some x) (default : Json)
    (stops : List (Number × Json)) {tail : List Json} (htail : tail.length ≤ 1) :
    (stepping input default stops tail).evaluate? context =
      (((stops.takeWhile fun s => decide (s.1.toFloat ≤ x)).getLast?.map Prod.snd).getD
        default).evaluate? context := by
  have hpairs : pairs (((stops.flatMap fun s => [.number s.1, s.2]) ++ tail).map fun v =>
      (⟨v, v.evaluate? context⟩ : Operand)) =
      stops.map fun s => (itself (.number s.1), ⟨s.2, s.2.evaluate? context⟩) := by
    have hnumber : ∀ n : Number, (Json.number n).evaluate? context = some (.number n) := fun _ =>
      Json.evaluate?_of_isArray_eq_false rfl
    rw [List.map_append, List.map_flatMap]
    simp only [List.map_cons, List.map_nil, hnumber]
    exact pairs_flatMap_append _ _ stops (by rwa [List.length_map])
  rw [stepping, Json.evaluate?_array]
  show (Operand.float? ⟨input, input.evaluate? context⟩).bind (fun x =>
    (stepFrom? x ⟨default, default.evaluate? context⟩ (pairs _)).bind Operand.value) = _
  have hinput : Operand.float? ⟨input, input.evaluate? context⟩ = some x := hx
  rw [hinput, hpairs, Option.bind_some]
  exact congrArg (Option.bind · Operand.value)
    (stepFrom?_eq (fun v => ⟨v, v.evaluate? context⟩) x default stops)

section Interval

variable {α : Type} {f : α → Json} {p : α → Bool} {input : Json}

/-- An interval has the output of the last stop before the first above the input, if the input can
be compared with the stops. -/
theorem intervalFrom?_eq (current : Json) {stops : List (α × Json)}
    (h : ∀ s ∈ stops, ∃ o, input.order? (f s.1) = some o ∧ (p s.1 = true ↔ o ≠ .lt)) :
    intervalFrom? input current (stops.map fun s => (f s.1, s.2)) =
      some (((stops.takeWhile fun s => p s.1).getLast?.map Prod.snd).getD current) := by
  induction stops generalizing current with
  | nil => rfl
  | cons s rest ih =>
    obtain ⟨⟨o, ho, hiff⟩, hrest⟩ := List.forall_mem_cons.mp h
    rw [List.map_cons, intervalFrom?_cons, ho, Option.bind_some]
    by_cases hlt : o = .lt
    · have habove : p s.1 = false := Bool.eq_false_of_not_eq_true fun hs => hiff.mp hs hlt
      simp only [hlt, if_true, List.takeWhile_cons, habove, Bool.false_eq_true, if_false]
      rfl
    · rw [if_neg hlt, ih _ hrest]
      simp only [List.takeWhile_cons, hiff.mpr hlt, if_true, List.getLast?_cons]
      cases (rest.takeWhile fun s => p s.1).getLast? <;> rfl

/-- Among stops in order it is the last of all that is not above the input, or the first one. -/
theorem interval?_eq (first : α × Json) (rest : List (α × Json))
    (h : ∀ s ∈ first :: rest, ∃ o, input.order? (f s.1) = some o ∧ (p s.1 = true ↔ o ≠ .lt))
    (hsorted : (first :: rest).Pairwise fun s t => p t.1 = true → p s.1 = true) :
    interval? ((first :: rest).map fun s => (f s.1, s.2)) input =
      some ((lastWhere? (fun s => p s.1) (first :: rest)).getD first).2 := by
  have hsearch := intervalFrom?_eq first.2 h
  rw [← lastWhere?_eq hsorted] at hsearch
  show intervalFrom? input first.2 _ = _
  rw [hsearch]
  cases lastWhere? (fun s : α × Json => p s.1) (first :: rest) <;> rfl

end Interval

theorem interval?_numbers {x : Number} (hx : x.toFloat.isFinite = true) (first : Number × Json)
    (rest : List (Number × Json)) (hfinite : ∀ s ∈ first :: rest, s.1.toFloat.isFinite = true)
    (hsorted : (first :: rest).Pairwise fun s t => s.1.toFloat ≤ t.1.toFloat) :
    interval? ((first :: rest).map fun s => (.number s.1, s.2)) (.number x) =
      some ((lastWhere? (fun s => decide (s.1.toFloat ≤ x.toFloat)) (first :: rest)).getD
        first).2 := by
  refine interval?_eq (p := fun n : Number => decide (n.toFloat ≤ x.toFloat)) first rest ?_ ?_
  · intro s hs
    obtain ⟨o, ho, hle⟩ := Json.exists_floatOrder? hx (hfinite s hs)
    exact ⟨o, ho, by rwa [decide_eq_true_iff]⟩
  · refine hsorted.imp fun {s t} hle ht => ?_
    rw [decide_eq_true_iff] at ht ⊢
    exact Decimal.le_trans hle ht

theorem interval?_texts (x : String) (first : String × Json) (rest : List (String × Json))
    (hsorted : (first :: rest).Pairwise fun s t => bytes s.1 ≤ bytes t.1) :
    interval? ((first :: rest).map fun s => (.string s.1, s.2)) (.string x) =
      some ((lastWhere? (fun s => decide (bytes s.1 ≤ bytes x)) (first :: rest)).getD first).2 := by
  refine interval?_eq (p := fun s : String => decide (bytes s ≤ bytes x)) first rest ?_ ?_
  · intro s hs
    refine ⟨compare x s.1, rfl, ?_⟩
    rw [decide_eq_true_iff, Text.bytes_le_bytes_iff]
    exact compare_ge_iff_ge.symm
  · refine hsorted.imp fun {s t} hle ht => ?_
    rw [decide_eq_true_iff] at ht ⊢
    exact List.le_trans hle ht

/-- **Among stops in order the last one that is not above the input is found**, of all that there
are.  A step has its output for a value, or that of the default if there is none; an interval of
numbers and one of texts, whose order is that of their bytes, have its output, or that of the first
stop. -/
theorem last_stop :
    (∀ (context : Context) (input default : Json) (stops : List (Number × Json))
      (tail : List Json) (x : Float), (input.evaluate? context).bind Json.float? = some x →
      tail.length ≤ 1 → stops.Pairwise (fun s t => s.1.toFloat ≤ t.1.toFloat) →
      (stepping input default stops tail).evaluate? context =
        (((lastWhere? (fun s => decide (s.1.toFloat ≤ x)) stops).map Prod.snd).getD
          default).evaluate? context) ∧
    (∀ (x : Number) (first : Number × Json) (rest : List (Number × Json)),
      x.toFloat.isFinite = true → (∀ s ∈ first :: rest, s.1.toFloat.isFinite = true) →
      (first :: rest).Pairwise (fun s t => s.1.toFloat ≤ t.1.toFloat) →
      interval? ((first :: rest).map fun s => (.number s.1, s.2)) (.number x) =
        some ((lastWhere? (fun s => decide (s.1.toFloat ≤ x.toFloat)) (first :: rest)).getD
          first).2) ∧
    ∀ (x : String) (first : String × Json) (rest : List (String × Json)),
      (first :: rest).Pairwise (fun s t => bytes s.1 ≤ bytes t.1) →
      interval? ((first :: rest).map fun s => (.string s.1, s.2)) (.string x) =
        some ((lastWhere? (fun s => decide (bytes s.1 ≤ bytes x)) (first :: rest)).getD
          first).2 := by
  refine ⟨?_, fun x first rest hx => interval?_numbers hx first rest, interval?_texts⟩
  intro context input default stops tail x hx htail hsorted
  rw [evaluate?_stepping hx default stops htail, lastWhere?_eq]
  refine hsorted.imp fun {s t} hle ht => ?_
  rw [decide_eq_true_iff] at ht ⊢
  exact Decimal.le_trans hle ht

/-- Widths by the zoom, two of them from zoom 5 on, and what is left over. -/
def widths : List (Number × Json) :=
  [(.int 0, .number (.int 1)), (.int 5, .number (.int 2)), (.float 5.0, .number (.int 3)),
    (.float 9.5, .number (.int 4))]

/-- Colours by the first letter of a name. -/
def letters : List (String × Json) :=
  [("A", .string "red"), ("a", .string "green"), ("é", .string "blue")]

theorem last_stop_widths :
    let context : Context := .ofProperties [] 7.5
    let zoom : Json := .array [.string "zoom"]
    (zoom.evaluate? context).bind Json.float? = some 7.5 ∧ [Json.null].length ≤ 1 ∧
      widths.Pairwise (fun s t => s.1.toFloat ≤ t.1.toFloat) ∧
      (stepping zoom (.number (.int 0)) widths [.null]).evaluate? context =
        some (.number (.int 3)) ∧
      (Number.int 8).toFloat.isFinite = true ∧ (∀ s ∈ widths, s.1.toFloat.isFinite = true) ∧
      interval? (widths.map fun s => (.number s.1, s.2)) (.number (.int 8)) =
        some (.number (.int 3)) ∧
      letters.Pairwise (fun s t => bytes s.1 ≤ bytes t.1) ∧
      interval? (letters.map fun s => (.string s.1, s.2)) (.string "Århus") =
        some (.string "green") := by
  intro context zoom
  have hzoom : (zoom.evaluate? context).bind Json.float? = some 7.5 := by
    decide +kernel
  have hwidths : widths.Pairwise fun s t => s.1.toFloat ≤ t.1.toFloat := by decide +kernel
  have hfinite : ∀ s ∈ widths, s.1.toFloat.isFinite = true := by decide +kernel
  have hletters : letters.Pairwise fun s t => bytes s.1 ≤ bytes t.1 := by decide +kernel
  obtain ⟨hstep, hnumbers, htexts⟩ := last_stop
  refine ⟨hzoom, Nat.le_refl 1, hwidths, ?_, rfl, hfinite, ?_, hletters, ?_⟩
  · rw [hstep context zoom (.number (.int 0)) widths [.null] 7.5 hzoom (Nat.le_refl 1) hwidths]
    rfl
  · exact (hnumbers (.int 8) _ _ rfl hfinite hwidths).trans rfl
  · exact (htexts "Århus" _ _ hletters).trans rfl

end MapStyle
