/-
Falling back from one argument of a conversion to the next.

A conversion to a number takes the first of its arguments that stands for a number, and looks
no further.  A text may stand for NaN or an infinity, which are numbers but no values, so that
it leaves nothing and yet keeps the arguments behind it from their turn.

* `Json.toNumber` — some expressions converted to a number;
* `Json.standsFor?` — the number, finite or not, that an expression stands for;
* `evaluate?_toNumber` — the first number that is stood for decides;
* `toNumber_falls_back_iff` — hence the conversion is the first of the conversions of single
  arguments, unless that number is not finite and a later argument has one that is.
-/
import MapStyle.Expression.Evaluation
import MapStyle.Proofs.Decimal.Whole

namespace MapStyle

/-- What is made of the first answer is the first thing made of an answer, unless nothing is
made of that answer and something of a later one. -/
theorem bind_findSome?_eq_iff {α β γ : Type} (f : α → Option β) (g : β → Option γ) (as : List α) :
    (as.findSome? f).bind g = as.findSome? (fun a => (f a).bind g) ↔
      (∀ b, as.findSome? f = some b → (g b).isSome = true) ∨ ∀ a ∈ as, (f a).bind g = none := by
  induction as with
  | nil => simp
  | cons a rest ih =>
    rw [List.findSome?_cons, List.findSome?_cons, List.forall_mem_cons]
    cases hf : f a with
    | none =>
      rw [Option.bind_none, ih, eq_self, true_and]
    | some b =>
      cases hg : g b with
      | none =>
        -- The answer is lost, and an answer behind it would be found by the other side only.
        rw [Option.bind_some, hg]
        show none = rest.findSome? _ ↔ _
        rw [eq_comm, List.findSome?_eq_none_iff]
        simp [hg]
      | some c => simp [hg]

namespace Json

/-- The conversion of some expressions to a number. -/
def toNumber (es : List Json) : Json := array (string "to-number" :: es)

/-- The number that the value of an expression stands for, finite or not. -/
def standsFor? (context : Context) (e : Json) : Option Float := (e.evaluate? context).bind asNumber?

/-- A number is a value just if it is finite. -/
theorem isSome_ofResult?_iff {x : Float} : (ofResult? x).isSome = true ↔ x.isFinite = true := by
  rw [ofResult?, Option.isSome_map, Number.isSome_ofResult?]

variable {context : Context}

/-- Among arguments that have values the first number that is stood for decides. -/
theorem evaluate?_toNumber {es : List Json} (h : ∀ e ∈ es, (e.evaluate? context).isSome = true) :
    (toNumber es).evaluate? context = (es.findSome? (standsFor? context)).bind ofResult? := by
  rw [toNumber, evaluate?_array]
  show firstNumber? _ = _
  -- An argument that stands for no number is passed over.  The first that stands for one ends
  -- the search on both sides, before anything is made of the number.
  induction es with
  | nil => rfl
  | cons e rest ih =>
    obtain ⟨v, hv⟩ := Option.isSome_iff_exists.mp (h e List.mem_cons_self)
    have hrest := ih fun e he => h e (List.mem_cons_of_mem _ he)
    rw [List.map_cons, firstNumber?, hrest, List.findSome?_cons, standsFor?, hv]
    simp only [Option.bind_eq_bind, Option.bind_some]
    cases asNumber? v <;> rfl

/-- A single argument, which may have no value. -/
theorem evaluate?_toNumber_singleton (e : Json) :
    (toNumber [e]).evaluate? context = (standsFor? context e).bind ofResult? := by
  rw [toNumber, evaluate?_array, standsFor?]
  show firstNumber? [⟨e, e.evaluate? context⟩] = _
  cases e.evaluate? context with
  | none => rfl
  | some v =>
    simp only [firstNumber?, Option.bind_eq_bind, Option.bind_some]
    cases asNumber? v <;> rfl

end Json

open Json

/-- **A conversion to a number falls back from argument to argument, as long as none of them
stands for NaN or an infinity.**  The first number that is stood for decides, and there is no
value if no argument has one.  The first value among those of the single arguments is missed
just if that number is not finite and a later argument has a value. -/
theorem toNumber_falls_back_iff (context : Context) (es : List Json)
    (h : ∀ e ∈ es, (e.evaluate? context).isSome = true) :
    (toNumber es).evaluate? context = (es.findSome? (standsFor? context)).bind ofResult? ∧
    ((toNumber es).evaluate? context = es.findSome? (fun e => (toNumber [e]).evaluate? context) ↔
      (∀ x, es.findSome? (standsFor? context) = some x → x.isFinite = true) ∨
        ∀ e ∈ es, (toNumber [e]).evaluate? context = none) ∧
    ((∀ e ∈ es, (toNumber [e]).evaluate? context = none) →
      (toNumber es).evaluate? context = none) := by
  have hfirst := evaluate?_toNumber h
  have hiff : (toNumber es).evaluate? context =
        es.findSome? (fun e => (toNumber [e]).evaluate? context) ↔
      (∀ x, es.findSome? (standsFor? context) = some x → x.isFinite = true) ∨
        ∀ e ∈ es, (toNumber [e]).evaluate? context = none := by
    simp only [hfirst, evaluate?_toNumber_singleton, bind_findSome?_eq_iff, isSome_ofResult?_iff]
  refine ⟨hfirst, hiff, fun hnone => ?_⟩
  rw [hiff.mpr (.inr hnone), List.findSome?_eq_none_iff]
  exact hnone

/-- A building with a broken count of levels. -/
def building : Context := .ofProperties [("levels", .string "two"), ("roof", .object [])] 16

/-- Numbers that a building may have. -/
def heights : List Json :=
  [array [string "get", string "levels"], array [string "get", string "roof"], string " 2.5 ",
    string "inf", bool true]

theorem toNumber_falls_back_iff_heights :
    (∀ e ∈ heights, (e.evaluate? building).isSome = true) ∧
    (toNumber heights).evaluate? building = some (number (.float 2.5)) ∧
    (toNumber heights).evaluate? building =
      heights.findSome? (fun e => (toNumber [e]).evaluate? building) := by
  have hvalues : ∀ e ∈ heights, (e.evaluate? building).isSome = true := by
    simp only [heights, List.forall_mem_cons]
    exact ⟨rfl, rfl, rfl, rfl, rfl, nofun⟩
  have hfirst : heights.findSome? (standsFor? building) = some 2.5 := by
    decide +kernel
  obtain ⟨hvalue, hiff, -⟩ := toNumber_falls_back_iff building heights hvalues
  refine ⟨hvalues, ?_, hiff.mpr (.inl fun x hx => ?_)⟩
  · rw [hvalue, hfirst]
    have hresult : Number.ofResult? 2.5 = some (.float 2.5) := by decide +kernel
    exact congrArg (Option.map number) hresult
  · rw [hfirst] at hx
    obtain rfl := Option.some.inj hx
    decide +kernel

/-- Behind an infinite number a five is not reached, which would be reached alone. -/
theorem toNumber_hides_five :
    let es := [string "inf", string "5"]
    (∀ e ∈ es, (e.evaluate? building).isSome = true) ∧
      (toNumber es).evaluate? building = none ∧
      es.findSome? (fun e => (toNumber [e]).evaluate? building) = some (number (.int 5)) := by
  intro es
  have hvalues : ∀ e ∈ es, (e.evaluate? building).isSome = true := by
    simp only [es, List.forall_mem_cons]
    exact ⟨rfl, rfl, nofun⟩
  have hinf : standsFor? building (string "inf") = some (1 / 0) := by decide +kernel
  have hfive : standsFor? building (string "5") = some 5 := by decide +kernel
  have hnone : Number.ofResult? (1 / 0) = none := by decide +kernel
  have hsome : Number.ofResult? 5 = some (.int 5) := by decide +kernel
  refine ⟨hvalues, ?_, ?_⟩
  · rw [evaluate?_toNumber hvalues, List.findSome?_cons, hinf]
    exact congrArg (Option.map number) hnone
  · simp only [es, evaluate?_toNumber_singleton, List.findSome?_cons, hinf, hfive, Option.bind_some,
      ofResult?, hnone, hsome, Option.map_none, Option.map_some]

end MapStyle
