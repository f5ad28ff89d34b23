/-
Functions of zoom and property with a single zoom.

The stops of a plain function of a property may be given a zoom, all the same one.  Across one
zoom there is nothing to map, and the function has the values that it had, if its kind is declared
or no input of a stop is a string or a truth value.  Without a declared kind such inputs make the
plain function categorical, but once they stand behind a zoom they are not looked at: the function
is then exponential or an interval function by its outputs.

* `StopFunction.atZoom` — the stops of a plain function at one zoom;
* `zoomStops?_atZoom` — the one result that is mapped across the zooms;
* `evaluate?_atZoom` — it is the plain function of the kind that is found, and the function itself
  if its kind does not depend on its inputs;
* `evaluate?_atZoom_ne` — a function by names of which one zoom makes another.
-/
import MapStyle.Proofs.StopFunction.Written
import MapStyle.Proofs.StopFunction.ZoomLevels

namespace MapStyle

open Decimal

/-! ### One stop -/

section OneStop

variable {x y : Float} {v : Json}

/-- One stop holds on both sides of itself. -/
theorem exponential?_one (hx : x.isFinite = true) (hy : y.isFinite = true) (base : Float) :
    exponential? [(.ofFloat y, v)] x base = some v := by
  have hread : (Json.ofFloat y).float? = some y := Json.float?_ofFloat hy
  show (do
    if x ≤ (← (Json.ofFloat y).float?) then some v
    else if (← (Json.ofFloat y).float?) ≤ x then some v
    else _) = some v
  rw [hread]
  by_cases hle : x ≤ y
  · exact if_pos hle
  · refine (if_neg hle).trans (if_pos ?_)
    exact (le_total_of_isFinite hx hy).resolve_left hle

theorem interval?_one (hx : x.isFinite = true) (hy : y.isFinite = true) :
    interval? [(.ofFloat y, v)] (.ofFloat x) = some v := by
  obtain ⟨o, ho, -⟩ := Json.exists_floatOrder? hx hy
  have horder : (Json.ofFloat x).order? (.ofFloat y) = some o := by
    rw [Json.ofFloat, Json.ofFloat, Number.ofFinite?, Number.ofFinite?, if_pos hx, if_pos hy]
    exact ho
  show intervalFrom? (.ofFloat x) v [(.ofFloat y, v)] = some v
  rw [intervalFrom?, horder]
  cases o <;> rfl

end OneStop

namespace StopFunction

variable {f : StopFunction} {z : Number}

/-- The function with its stops at one zoom. -/
def atZoom (z : Number) (f : StopFunction) : StopFunction :=
  { f with stops := f.stops.map fun s =>
      (.object [("value", s.1), ("zoom", .number z)], s.2) }

/-- The kind that outputs alone decide. -/
def outputKind (f : StopFunction) : StopKind :=
  if f.stops.all fun s => s.2.canBlend then .exponential else .interval

/-- Whether the kind is declared or no input of a stop decides it. -/
def IsKindKept (f : StopFunction) : Prop :=
  f.kind.isSome = true ∨ ∀ s ∈ f.stops, (s.1.isString || s.1.isBool) = false

/-! ### The stops at one zoom -/

theorem isComposite_atZoom (hproperty : f.property.isSome = true) (hstops : f.stops ≠ []) :
    (f.atZoom z).isComposite = true := by
  obtain ⟨s, stops, hcons⟩ := List.exists_cons_of_ne_nil hstops
  rw [isComposite, atZoom, hcons, hproperty]
  rfl

theorem isComposite_of_plain (hplain : ∀ s ∈ f.stops, s.1.isObject = false) :
    f.isComposite = false := by
  have hany : f.stops.any (·.1.isObject) = false := by
    simpa using hplain
  rw [isComposite, hany, Bool.and_false]

theorem zooms_atZoom : (f.atZoom z).zooms = List.replicate f.stops.length z.toFloat := by
  rw [zooms, atZoom, List.filterMap_map, ← List.map_const, ← List.filterMap_eq_map]
  rfl

theorem levels_atZoom (hz : z.toFloat.isFinite = true) (hstops : f.stops ≠ []) :
    (f.atZoom z).levels = [z.toFloat] := by
  rw [levels, zooms_atZoom]
  exact zoomLevels_replicate hz (List.length_eq_zero_iff.not.mpr hstops)

/-- At the one zoom the stops are the plain ones. -/
theorem stopsAt_atZoom (hz : z.toFloat.isFinite = true) :
    (f.atZoom z).stopsAt z.toFloat = f.stops := by
  have hself : (z.toFloat == z.toFloat) = true := (beq_iff_rank hz hz).mpr rfl
  have hat : ∀ s ∈ (f.atZoom z).stops, isAt z.toFloat s = true :=
    List.forall_mem_map.mpr fun _ _ => hself
  rw [stopsAt_eq, List.filter_eq_self.mpr hat, atZoom, List.filterMap_map]
  exact List.filterMap_some

/-- There is a result for the one zoom if the plain stops have one. -/
theorem zoomStops?_atZoom (hz : z.toFloat.isFinite = true) (hstops : f.stops ≠ [])
    (input : Json) :
    (f.atZoom z).zoomStops? input =
      some ((((f.atZoom z).evaluateStops? f.stops input).map
        fun v => (Json.ofFloat z.toFloat, v)).toList) := by
  have hall : ((f.atZoom z).stops.all fun s => (stopZoom? s).isSome) = true :=
    List.all_eq_true.mpr (List.forall_mem_map.mpr fun _ _ => rfl)
  rw [zoomStops?_eq, if_pos hall, levels_atZoom hz hstops, List.filterMap_cons, stopsAt_atZoom hz]
  cases (f.atZoom z).evaluateStops? f.stops input <;> rfl

/-! ### The kind -/

/-- Behind a zoom no input of a stop is looked at. -/
theorem resolvedKind_atZoom : (f.atZoom z).resolvedKind = f.kind.getD f.outputKind := by
  have hinputs : ((f.atZoom z).stops.any fun s => s.1.isString || s.1.isBool) = false :=
    List.any_eq_false.mpr (List.forall_mem_map.mpr fun _ _ => Bool.false_ne_true)
  have houtputs : ((f.atZoom z).stops.all fun s => s.2.canBlend) =
      f.stops.all fun s => s.2.canBlend := by
    rw [atZoom, List.all_map]
    rfl
  have hkind : (f.atZoom z).kind = f.kind := rfl
  rw [resolvedKind, hinputs, houtputs, hkind]
  cases f.kind <;> rfl

theorem resolvedKind_of_isKindKept (h : f.IsKindKept) :
    f.resolvedKind = f.kind.getD f.outputKind := by
  rw [resolvedKind]
  cases hkind : f.kind with
  | some kind => rfl
  | none =>
    rcases h with hsome | hplain
    · rw [hkind] at hsome
      cases hsome
    · have hinputs : (f.stops.any fun s => s.1.isString || s.1.isBool) = false :=
        List.any_eq_false.mpr fun s hs => Bool.eq_false_iff.mp (hplain s hs)
      simp only [hinputs]
      rfl

/-- The outputs are found by the kind and the base. -/
theorem evaluateStops?_congr {g : StopFunction} (hkind : g.resolvedKind = f.resolvedKind)
    (hbase : g.base = f.base) (stops : List Stop) (input : Json) :
    g.evaluateStops? stops input = f.evaluateStops? stops input := by
  rw [evaluateStops?, evaluateStops?, hkind, hbase]

/-! ### The value -/

/-- One zoom leaves the value that was found for it. -/
theorem evaluateComposite?_atZoom (hz : z.toFloat.isFinite = true) (hstops : f.stops ≠ [])
    {context : Context} (hcontext : context.zoom.isFinite = true) {name : String}
    (hproperty : f.property = some name) :
    (f.atZoom z).evaluateComposite? context =
      (((context.properties.find? name).filter (!·.isNull)).bind
        ((f.atZoom z).evaluateStops? f.stops) <|> f.default) := by
  have hname : (f.atZoom z).property = some name := hproperty
  rw [evaluateComposite?, hname, Option.bind_eq_bind, Option.bind_some]
  cases (context.properties.find? name).filter (!·.isNull) with
  | none => rfl
  | some input =>
    rw [Option.bind_some]
    show ((f.atZoom z).zoomStops? input).bind _ = _
    rw [zoomStops?_atZoom hz hstops, Option.bind_some]
    -- Without a result there is nothing to map, and with one there is nothing else.
    cases (f.atZoom z).evaluateStops? f.stops input with
    | none => cases (f.atZoom z).resolvedKind <;> rfl
    | some v =>
      have hexponential := exponential?_one (v := v) hcontext hz (f.atZoom z).base
      have hinterval := interval?_one (v := v) hcontext hz
      cases (f.atZoom z).resolvedKind with
      | exponential => exact congrArg (· <|> f.default) hexponential
      | interval | categorical | identity => exact congrArg (· <|> f.default) hinterval

theorem evaluate?_of_property (hplain : ∀ s ∈ f.stops, s.1.isObject = false) {context : Context}
    {name : String} (hproperty : f.property = some name) :
    f.evaluate? context = (((context.properties.find? name).filter (!·.isNull)).bind
      (f.evaluateStops? f.stops) <|> f.default) := by
  rw [evaluate?, isComposite_of_plain hplain, input?, hproperty]
  rfl

/-- **One zoom makes a function of a property the function of the kind that is found.**  This is
the function itself if its kind is declared or no input is a string or a truth value. -/
theorem evaluate?_atZoom (hproperty : f.property.isSome = true) (hstops : f.stops ≠ [])
    (hplain : ∀ s ∈ f.stops, s.1.isObject = false) (hz : z.toFloat.isFinite = true)
    {context : Context} (hcontext : context.zoom.isFinite = true) :
    (f.atZoom z).evaluate? context =
        { f with kind := some (f.kind.getD f.outputKind) }.evaluate? context ∧
      (f.IsKindKept → (f.atZoom z).evaluate? context = f.evaluate? context) := by
  obtain ⟨name, hname⟩ := Option.isSome_iff_exists.mp hproperty
  have hatZoom : (f.atZoom z).evaluate? context =
      (((context.properties.find? name).filter (!·.isNull)).bind
        ((f.atZoom z).evaluateStops? f.stops) <|> f.default) := by
    rw [evaluate?, if_pos (isComposite_atZoom hproperty hstops)]
    exact evaluateComposite?_atZoom hz hstops hcontext hname
  constructor
  · let g : StopFunction := { f with kind := some (f.kind.getD f.outputKind) }
    have hkind : (f.atZoom z).resolvedKind = g.resolvedKind := resolvedKind_atZoom
    rw [hatZoom, funext (evaluateStops?_congr hkind rfl f.stops)]
    exact (evaluate?_of_property (f := g) hplain hname).symm
  · intro hkept
    have hkind : (f.atZoom z).resolvedKind = f.resolvedKind :=
      resolvedKind_atZoom.trans (resolvedKind_of_isKindKept hkept).symm
    rw [hatZoom, funext (evaluateStops?_congr hkind rfl f.stops)]
    exact (evaluate?_of_property hplain hname).symm

/-- Whether roads are drawn by their rank, at zoom 4 as well as without a zoom. -/
theorem evaluate?_atZoom_rank :
    let drawn : StopFunction := ⟨none, 1.0, some "rank",
      [(.number (.int 1), .bool false), (.number (.int 5), .bool true)], none⟩
    let context : Context := .ofProperties [("rank", .number (.int 7))] 5.0
    drawn.evaluate? context = some (.bool true) ∧
      (drawn.atZoom (.int 4)).evaluate? context = some (.bool true) := by
  intro drawn context
  have hcontext : context.zoom.isFinite = true := by decide +kernel
  have hplain : drawn.evaluate? context = some (.bool true) := rfl
  refine ⟨hplain, ?_⟩
  rw [← hplain]
  exact (evaluate?_atZoom (f := drawn) rfl (List.cons_ne_nil _ _) (by decide) rfl hcontext).2
    (Or.inr (by decide))

/-- A function by names is another at zoom 0: it has the output of the name no more. -/
theorem evaluate?_atZoom_ne :
    let order : StopFunction := ⟨none, 1.0, some "class",
      [(.string "park", .number (.int 1)), (.string "water", .number (.int 2))], none⟩
    let context : Context := .ofProperties [("class", .string "water")] 5.0
    order.evaluate? context = some (.number (.int 2)) ∧
      (order.atZoom (.int 0)).evaluate? context = none := by
  intro order context
  refine ⟨rfl, ?_⟩
  have hstops : order.stops ≠ [] := List.cons_ne_nil _ _
  have hcontext : context.zoom.isFinite = true := by decide +kernel
  rw [evaluate?, if_pos (isComposite_atZoom rfl hstops),
    evaluateComposite?_atZoom (f := order) rfl hstops hcontext rfl]
  rfl

end StopFunction

end MapStyle
