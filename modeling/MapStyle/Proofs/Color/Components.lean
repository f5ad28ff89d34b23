/-
Colours as lists of components.

An expression passes a colour on as the list of its components.  A component that is not finite
cannot stand in such a list and is left out, and then those behind it are read in its place.  So a
colour comes back from its list just if all its components are finite: no other colour does,
whatever text or list it was read from.

* `Color.ofComponents?` — a colour of components in a row;
* `Color.ofJson?_toJson` — what is read from the list of a colour;
* `Color.ofJson?_toJson_eq_some_iff` — it is the colour itself if its components are finite;
* `Color.toJson_keeps_iff` — the same for `to-color` of anything that is a colour;
* `Color.toJson_infinite_red` — an infinite red, which turns into blue.
-/
import MapStyle.Expression.Evaluation
import MapStyle.Proofs.Decimal.Precision

namespace MapStyle.Color

/-- Whether no component is infinite or NaN. -/
def isFinite (c : Color) : Bool := c.components.all Float32.isFinite

/-- The colour of three components, or of four of which the last is the opacity. -/
def ofComponents? : List Float32 → Option Color
  | red :: green :: blue :: rest => some ⟨red, green, blue, rest.head?.getD 1⟩
  | _ => none

/-- A component as it stands in the list of a colour. -/
def componentJson (x : Float32) : Json := .number (.float (Decimal.widen x))

variable {c : Color} {xs : List Float32} {v e : Json} {context : Context}

/-! ### The list of a colour -/

theorem toJson_eq (c : Color) :
    c.toJson = .array ((c.components.filter Float32.isFinite).map componentJson) := by
  have hcomponent (x : Float32) : (Number.ofFinite? (Decimal.widen x)).map Json.number =
      if x.isFinite then some (componentJson x) else none := by
    rw [Number.ofFinite?, Decimal.isFinite_widen]
    split <;> rfl
  rw [toJson]
  congr 1
  induction c.components with
  | nil => rfl
  | cons x xs ih =>
    rw [List.filterMap_cons, List.filter_cons, hcomponent, ih]
    by_cases hx : x.isFinite = true <;> simp [hx]

/-- A list of components is read as it is, since narrowing takes widening back. -/
theorem ofJson?_components (xs : List Float32) :
    ofJson? (.array (xs.map componentJson)) = ofComponents? xs := by
  match xs with
  | [] | [_] | [_, _] => rfl
  | red :: green :: blue :: rest =>
    have hread (x : Float32) : (componentJson x).float? = some (Decimal.widen x) := rfl
    have halpha : Decimal.narrow (((rest.map componentJson).head?.bind Json.float?).getD 1.0) =
        rest.head?.getD 1 := by
      cases rest with
      | nil =>
        show Decimal.narrow 1.0 = 1
        decide +kernel
      | cons alpha _ => exact Decimal.narrow_widen alpha
    simp only [List.map_cons, ofJson?, hread, Option.bind_eq_bind, Option.bind_some,
      Decimal.narrow_widen, halpha, ofComponents?]

/-- **What is read from the list of a colour**: its finite components, moved together. -/
theorem ofJson?_toJson (c : Color) :
    ofJson? c.toJson = ofComponents? (c.components.filter Float32.isFinite) := by
  rw [toJson_eq, ofJson?_components]

theorem ofComponents?_components (c : Color) : ofComponents? c.components = some c := rfl

theorem isFinite_of_ofComponents? (hxs : ∀ x ∈ xs, x.isFinite = true)
    (h : ofComponents? xs = some c) : c.isFinite = true := by
  match xs, h with
  | red :: green :: blue :: rest, h =>
    obtain rfl := Option.some.inj h
    have halpha : (rest.head?.getD 1).isFinite = true := by
      cases rest with
      | nil => rfl
      | cons alpha _ => exact hxs alpha (by simp)
    simp [isFinite, components, halpha, hxs red, hxs green, hxs blue]

/-- The colours that come back from their lists are those with finite components. -/
theorem ofJson?_toJson_eq_some_iff (c : Color) :
    ofJson? c.toJson = some c ↔ c.isFinite = true := by
  rw [ofJson?_toJson]
  constructor
  · intro h
    refine isFinite_of_ofComponents? ?_ h
    intro x hx
    exact (List.mem_filter.mp hx).2
  · intro h
    have hall : c.components.filter Float32.isFinite = c.components :=
      List.filter_eq_self.mpr (List.all_eq_true.mp h)
    rw [hall, ofComponents?_components]

/-! ### Colours in expressions -/

/-- The value of `to-color` is the list of the colour. -/
theorem evaluateColor?_toColor (hv : e.evaluate? context = some v) (hc : ofJson? v = some c) :
    (Json.array [.string "to-color", e]).evaluateColor? context = ofJson? c.toJson := by
  have hvalue : (Json.array [.string "to-color", e]).evaluate? context = some c.toJson := by
    rw [Json.evaluate?_array]
    show firstColor? [⟨e, e.evaluate? context⟩] = some c.toJson
    simp [firstColor?, hv, hc]
  rw [Json.evaluateColor?, hvalue]
  rfl

/-- **A colour is kept by its list, and by `to-color`, just if its components are finite.**  This
is so for each colour that is read from a text or a list, and for each expression that has such
a value; a text is an expression that has itself. -/
theorem toJson_keeps_iff (h : ofJson? v = some c) :
    (ofJson? c.toJson = some c ↔ c.isFinite = true) ∧
      ∀ (context : Context) (e : Json), e.evaluate? context = some v →
        ((Json.array [.string "to-color", e]).evaluateColor? context = some c ↔
          c.isFinite = true) := by
  refine ⟨ofJson?_toJson_eq_some_iff c, ?_⟩
  intro context e he
  rw [evaluateColor?_toColor he h]
  exact ofJson?_toJson_eq_some_iff c

theorem toJson_keeps_halfOrange :
    let context : Context := .ofProperties [] 0
    let orange : Color := ⟨1, 136 / 255, 0, 0.5⟩
    parse? " rgba(255, 136, 0, 0.5)" = some orange ∧
      (Json.string " rgba(255, 136, 0, 0.5)").evaluate? context =
        some (.string " rgba(255, 136, 0, 0.5)") ∧
      ofJson? orange.toJson = some orange ∧
      (Json.array [.string "to-color", .string " rgba(255, 136, 0, 0.5)"]).evaluateColor? context =
        some orange := by
  intro context orange
  have hparse : parse? " rgba(255, 136, 0, 0.5)" = some orange := by decide +kernel
  have hfinite : orange.isFinite = true := by decide +kernel
  have hvalue : (Json.string " rgba(255, 136, 0, 0.5)").evaluate? context =
      some (.string " rgba(255, 136, 0, 0.5)") := rfl
  obtain ⟨hlist, hexpression⟩ :=
    toJson_keeps_iff (v := .string " rgba(255, 136, 0, 0.5)") hparse
  exact ⟨hparse, hvalue, hlist.mpr hfinite, (hexpression context _ hvalue).mpr hfinite⟩

/-- An infinite red is left out of the list, and green, blue and opacity move up: what was
red is read as blue. -/
theorem toJson_infinite_red :
    let context : Context := .ofProperties [] 0
    let red : Color := ⟨1 / 0, 0, 0, 1⟩
    let blue : Color := ⟨0, 0, 1, 1⟩
    parse? "rgb(inf, 0, 0)" = some red ∧ ofJson? red.toJson = some blue ∧
      (Json.array [.string "to-color", .string "rgb(inf, 0, 0)"]).evaluateColor? context =
        some blue ∧ red ≠ blue := by
  intro context red blue
  have hparse : parse? "rgb(inf, 0, 0)" = some red := by decide +kernel
  have hlist : ofJson? red.toJson = some blue := by
    rw [ofJson?_toJson]
    decide +kernel
  refine ⟨hparse, hlist, ?_, by decide +kernel⟩
  rw [evaluateColor?_toColor (v := .string "rgb(inf, 0, 0)") rfl hparse]
  exact hlist

end MapStyle.Color
