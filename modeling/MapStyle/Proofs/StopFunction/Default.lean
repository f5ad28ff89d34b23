/-
Defaults of stop functions.

A function has its default where it finds no value: without an input, with an input of the wrong
type, without stops, with stops that cannot be compared with the input, at a zoom that is no
number.  There is one way past the default.  A function of zoom and property asks every stop for
its zoom before it looks for a value, and a stop that names none leaves it without any, the
default included.

* `StopFunction.withoutDefault` — the function less its default;
* `StopFunction.IsUnplaced` — there is an input, but a stop names no zoom for it;
* `evaluate?_of_placed` — the value is the one without the default, or else the default;
* `evaluate?_of_default` — with a default there is a value if and only if every stop that needs a
  zoom names one;
* `evaluate?_skips_default` — a default that is passed by.
-/
import MapStyle.Proofs.StopFunction.ZoomLevels

namespace MapStyle

namespace StopFunction

variable {f : StopFunction} {context : Context} {d : Json}

/-- The function less its default. -/
def withoutDefault (f : StopFunction) : StopFunction := { f with default := none }

/-- Whether the function has an input for the values at the zooms, but no zoom for some stop. -/
structure IsUnplaced (f : StopFunction) (context : Context) : Prop where
  composite : f.isComposite = true
  input : (f.input? context).isSome = true
  stop : ∃ s ∈ f.stops, stopZoom? s = none

/-- The output at a zoom, given those at the levels. -/
def acrossZooms? (f : StopFunction) (zoom : Float) (stops : List Stop) : Option Json :=
  match f.resolvedKind with
  | .exponential => exponential? stops zoom f.base
  | _ => interval? stops (.ofFloat zoom)

/-! ### Functions of zoom and property -/

theorem evaluateComposite?_eq (hcomposite : f.isComposite = true) (context : Context) :
    f.evaluateComposite? context =
      match f.input? context with
      | none => f.default
      | some input =>
        (f.zoomStops? input).bind fun stops => f.acrossZooms? context.zoom stops <|> f.default := by
  rw [isComposite, Bool.and_eq_true_iff] at hcomposite
  obtain ⟨name, hname⟩ := Option.isSome_iff_exists.mp hcomposite.1
  rw [evaluateComposite?, input?, hname]
  rfl

theorem zoomStops?_eq_none_iff (input : Json) :
    f.zoomStops? input = none ↔ ∃ s ∈ f.stops, stopZoom? s = none := by
  rw [zoomStops?_eq]
  by_cases hall : f.stops.all (fun s => (stopZoom? s).isSome) = true
  · rw [if_pos hall]
    refine iff_of_false (Option.some_ne_none _) ?_
    rintro ⟨s, hs, hzoom⟩
    have hsome := List.all_eq_true.mp hall s hs
    rw [hzoom] at hsome
    cases hsome
  · rw [if_neg hall]
    refine iff_of_true rfl ?_
    simpa using hall

/-! ### Values -/

/-- A stop without a zoom leaves no value, whatever the default. -/
theorem evaluate?_of_unplaced (h : f.IsUnplaced context) : f.evaluate? context = none := by
  obtain ⟨input, hinput⟩ := Option.isSome_iff_exists.mp h.input
  rw [evaluate?, if_pos h.composite, evaluateComposite?_eq h.composite, hinput]
  show (f.zoomStops? input).bind _ = none
  rw [(zoomStops?_eq_none_iff input).mpr h.stop]
  rfl

/-- **Everywhere else the value is the one without the default, or else the default.** -/
theorem evaluate?_of_placed (h : ¬ f.IsUnplaced context) :
    f.evaluate? context = (f.withoutDefault.evaluate? context <|> f.default) := by
  by_cases hcomposite : f.isComposite = true
  · have hcomposite' : f.withoutDefault.isComposite = true := hcomposite
    have hinput' : f.withoutDefault.input? context = f.input? context := rfl
    rw [evaluate?, if_pos hcomposite, evaluate?, if_pos hcomposite',
      evaluateComposite?_eq hcomposite, evaluateComposite?_eq hcomposite', hinput']
    cases hinput : f.input? context with
    | none => rfl
    | some input =>
      have hzoom : ¬ ∃ s ∈ f.stops, stopZoom? s = none := fun hstop =>
        h ⟨hcomposite, by rw [hinput]; rfl, hstop⟩
      have hne : f.zoomStops? input ≠ none := mt (zoomStops?_eq_none_iff input).mp hzoom
      obtain ⟨stops, hstops⟩ := Option.ne_none_iff_exists'.mp hne
      have hstops' : f.withoutDefault.zoomStops? input = some stops := hstops
      simp only [hstops, hstops', Option.bind_some]
      -- What is found across the zooms does not depend on the default.
      show (f.acrossZooms? context.zoom stops <|> f.default) =
        ((f.acrossZooms? context.zoom stops <|> none) <|> f.default)
      cases f.acrossZooms? context.zoom stops <;> rfl
  · have hcomposite' : ¬ f.withoutDefault.isComposite = true := hcomposite
    rw [evaluate?, if_neg hcomposite, evaluate?, if_neg hcomposite']
    show ((f.input? context).bind (f.evaluateStops? f.stops) <|> f.default) =
      (((f.input? context).bind (f.evaluateStops? f.stops) <|> none) <|> f.default)
    cases (f.input? context).bind (f.evaluateStops? f.stops) <;> rfl

/-- **A default holds wherever no value is found, unless a stop that needs a zoom has none.** -/
theorem evaluate?_of_default (h : f.default = some d) (context : Context) :
    ((f.evaluate? context).isSome = true ↔ ¬ f.IsUnplaced context) ∧
      (¬ f.IsUnplaced context →
        f.evaluate? context = some ((f.withoutDefault.evaluate? context).getD d)) := by
  have hplaced : ¬ f.IsUnplaced context →
      f.evaluate? context = some ((f.withoutDefault.evaluate? context).getD d) := by
    intro hunplaced
    rw [evaluate?_of_placed hunplaced, h]
    cases f.withoutDefault.evaluate? context <;> rfl
  refine ⟨⟨fun hsome hunplaced => ?_, fun hunplaced => ?_⟩, hplaced⟩
  · rw [evaluate?_of_unplaced hunplaced] at hsome
    cases hsome
  · rw [hplaced hunplaced]
    rfl

/-- The width of a road by its rank, for one whose rank is `"other"`. -/
theorem evaluate?_of_default_other :
    let width : StopFunction := ⟨none, 1.0, some "rank",
      [(.number (.int 1), .number (.int 4)), (.number (.int 5), .number (.int 2))],
      some (.number (.int 9))⟩
    let context : Context := .ofProperties [("rank", .string "other")] 5.0
    ¬ width.IsUnplaced context ∧ width.evaluate? context = some (.number (.int 9)) := by
  intro width context
  have hplaced : ¬ width.IsUnplaced context := by
    rintro ⟨hcomposite, -, -⟩
    cases hcomposite
  have hfound : width.withoutDefault.evaluate? context = none := rfl
  refine ⟨hplaced, ?_⟩
  rw [(evaluate?_of_default (f := width) rfl context).2 hplaced, hfound]
  rfl

/-- The default is passed by where a stop names a value and no zoom. -/
theorem evaluate?_skips_default :
    let written : Json := .object [
      ("default", .number (.int 9)), ("property", .string "rank"),
      ("stops", .array [.array [.object [("value", .number (.int 1))], .number (.int 2)]])]
    let context : Context := .ofProperties [("rank", .number (.int 1))] 0.0
    ∃ f : StopFunction, ofJson? written = some f ∧ f.default = some (.number (.int 9)) ∧
      f.evaluate? context = none :=
  ⟨_, rfl, rfl, rfl⟩

end StopFunction

end MapStyle
