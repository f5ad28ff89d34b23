/-
The order of the stops of a function of zoom and property.

The stops of one zoom are looked through in their order.  The order of stops at different zooms
says nothing: stops may be moved past one another, as long as those of each zoom keep theirs, and
the value of the function stays the same.  Behind it stands that each stop is looked at for one
zoom and no other.

* `Rearranged` — the stops in another order that keeps the order at each zoom;
* `flatMap_stopsAt_perm` — what is looked at for one zoom and the next are the stops once each;
* `StopFunction.evaluate?_rearranged` — other orders, same values, and one level for each stop.
-/
import MapStyle.Proofs.StopFunction.ZoomLevels

namespace MapStyle

open Decimal

/-- The stops in another order, in which those of each zoom keep theirs. -/
structure Rearranged (stops others : List Stop) : Prop where
  perm : stops.Perm others
  atZoom : ∀ z ∈ stops.filterMap stopZoom?, others.filter (isAt z) = stops.filter (isAt z)

/-! ### Groups -/

/-- Where every item has one key, the items of the keys are all items. -/
theorem flatMap_filter_perm {α κ : Type} {keys : List κ} {has : κ → α → Bool} {items : List α}
    (hnodup : keys.Nodup) (hone : ∀ a ∈ items, ∃! k, k ∈ keys ∧ has k a = true) :
    (keys.flatMap fun k => items.filter (has k)).Perm items := by
  induction items with
  | nil => simp
  | cons a items ih =>
    obtain ⟨k, ⟨hk, hhas⟩, hunique⟩ := hone a List.mem_cons_self
    obtain ⟨before, after, rfl⟩ := List.append_of_mem hk
    obtain ⟨hbefore, hafter⟩ := List.nodup_middle.mp hnodup |> List.nodup_cons.mp
    -- The first item is found for its own key and for none before or after it.
    have hother : ∀ l ∈ before ++ after, (a :: items).filter (has l) = items.filter (has l) := by
      intro l hl
      refine List.filter_cons_of_neg fun hhasl => ?_
      have hkeys : l ∈ before ++ k :: after := by
        rw [List.mem_append, List.mem_cons]
        rw [List.mem_append] at hl
        tauto
      rw [hunique l ⟨hkeys, hhasl⟩] at hl
      exact hbefore hl
    have hrest := ih fun b hb => hone b (List.mem_cons_of_mem a hb)
    rw [List.flatMap_append, List.flatMap_cons] at hrest ⊢
    rw [List.flatMap_congr fun l hl => hother l (List.mem_append_left _ hl),
      List.flatMap_congr fun l hl => hother l (List.mem_append_right _ hl),
      List.filter_cons_of_pos hhas]
    exact List.perm_middle.trans (hrest.cons a)

namespace StopFunction

variable {f : StopFunction} {others : List Stop}

/-- Every stop with a zoom is at one level. -/
theorem existsUnique_isAt (h : Spaced f.zooms) {s : Stop} (hs : s ∈ f.stops)
    (hzoom : (stopZoom? s).isSome = true) : ∃! y, y ∈ f.levels ∧ isAt y s = true := by
  obtain ⟨z, hz⟩ := Option.isSome_iff_exists.mp hzoom
  simp only [isAt_of_stopZoom? hz]
  exact existsUnique_level h (List.mem_filterMap.mpr ⟨s, hs, hz⟩)

/-- **What is looked at for one level and the next are the stops with a zoom and a value.** -/
theorem flatMap_stopsAt_perm (h : Spaced f.zooms) :
    (f.levels.flatMap f.stopsAt).Perm
      ((f.stops.filter fun s => (stopZoom? s).isSome).filterMap inner?) := by
  have hgroup : ∀ y, f.stopsAt y =
      ((f.stops.filter fun s => (stopZoom? s).isSome).filter (isAt y)).filterMap inner? := by
    intro y
    rw [stopsAt_eq, List.filter_filter]
    congr 1
    refine List.filter_congr fun s _ => ?_
    cases hs : stopZoom? s with
    | none => rw [isAt_of_stopZoom?_eq_none hs]; rfl
    | some z => exact (Bool.and_true _).symm
  rw [funext hgroup, ← List.filterMap_flatMap]
  refine List.Perm.filterMap _ (flatMap_filter_perm (nodup_zoomLevels h) ?_)
  intro s hs
  obtain ⟨hs, hzoom⟩ := List.mem_filter.mp hs
  exact existsUnique_isAt h hs hzoom

/-! ### Other orders -/

theorem resolvedKind_perm (hperm : f.stops.Perm others) :
    ({ f with stops := others } : StopFunction).resolvedKind = f.resolvedKind := by
  simp only [resolvedKind, hperm.any_eq, hperm.all_eq]

theorem isComposite_perm (hperm : f.stops.Perm others) :
    ({ f with stops := others } : StopFunction).isComposite = f.isComposite := by
  simp only [isComposite, hperm.any_eq]

/-- A function in another order has the same levels. -/
theorem levels_rearranged (h : Spaced f.zooms) (hothers : Rearranged f.stops others) :
    ({ f with stops := others } : StopFunction).levels = f.levels := by
  refine zoomLevels_congr h (hothers.perm.filterMap stopZoom?) fun y hy => ?_
  have hfirst : ∀ stops : List Stop, (stops.filterMap stopZoom?).find? (· == y) =
      (stops.filter (isAt y)).head?.bind stopZoom? := by
    intro stops
    rw [List.find?_filterMap, List.head?_filter]
    congr 2
    funext s
    cases hs : stopZoom? s with
    | none => rw [isAt_of_stopZoom?_eq_none hs]; rfl
    | some z => rw [isAt_of_stopZoom? hs]; rfl
  show (others.filterMap stopZoom?).find? (· == y) = (f.stops.filterMap stopZoom?).find? (· == y)
  rw [hfirst, hfirst, hothers.atZoom y hy]

/-- A function in another order looks at the same for each level. -/
theorem zoomStops?_rearranged (h : Spaced f.zooms) (hothers : Rearranged f.stops others)
    (input : Json) :
    ({ f with stops := others } : StopFunction).zoomStops? input = f.zoomStops? input := by
  rw [zoomStops?_eq, zoomStops?_eq, levels_rearranged h hothers]
  simp only [hothers.perm.all_eq]
  congr 2
  refine List.filterMap_congr fun y hy => ?_
  have hstops : ({ f with stops := others } : StopFunction).stopsAt y = f.stopsAt y := by
    rw [stopsAt_eq, stopsAt_eq, hothers.atZoom y (zoomLevels_subset h hy)]
  rw [hstops, evaluateStops?, evaluateStops?, resolvedKind_perm hothers.perm]

theorem evaluate?_of_rearranged (hcomposite : f.isComposite = true) (h : Spaced f.zooms)
    (hothers : Rearranged f.stops others) (context : Context) :
    ({ f with stops := others } : StopFunction).evaluate? context = f.evaluate? context := by
  have hcomposite' : ({ f with stops := others } : StopFunction).isComposite = true := by
    rw [isComposite_perm hothers.perm]
    exact hcomposite
  rw [evaluate?, evaluate?, if_pos hcomposite, if_pos hcomposite', evaluateComposite?,
    evaluateComposite?, resolvedKind_perm hothers.perm]
  simp only [zoomStops?_rearranged h hothers]

/-- A stop with a zoom and a value is looked at for one level. -/
theorem exists_stopsAt (h : Spaced f.zooms) {s : Stop} (hs : s ∈ f.stops) {z : Float} {v : Json}
    (hz : stopZoom? s = some z) (hv : s.1.member? "value" = some v) :
    ∃ y ∈ f.levels, isAt y s = true ∧ (v, s.2) ∈ f.stopsAt y ∧
      ∀ x ∈ f.levels, isAt x s = true → x = y := by
  obtain ⟨y, ⟨hy, hat⟩, hunique⟩ := existsUnique_isAt h hs (Option.isSome_of_mem hz)
  refine ⟨y, hy, hat, ?_, fun x hx hatx => hunique x ⟨hx, hatx⟩⟩
  rw [stopsAt_eq]
  refine List.mem_filterMap.mpr ⟨s, List.mem_filter.mpr ⟨hs, hat⟩, ?_⟩
  rw [inner?, hv]
  rfl

/-- **The order of stops at different zooms says nothing.**  In every order that keeps the stops
of each zoom in theirs the function has the same values.  What it maps across the zooms are its
results at the levels; each stop with a zoom and a value is looked at for one level, and what is
looked at for all levels are these stops, each as often as it is there. -/
theorem evaluate?_rearranged (hcomposite : f.isComposite = true) (h : Spaced f.zooms) :
    (∀ others, Rearranged f.stops others → ∀ context,
      ({ f with stops := others } : StopFunction).evaluate? context = f.evaluate? context) ∧
    (∀ input, f.zoomStops? input =
      if f.stops.all fun s => (stopZoom? s).isSome then
        some (f.levels.filterMap fun y =>
          (f.evaluateStops? (f.stopsAt y) input).map fun v => (.ofFloat y, v))
      else none) ∧
    (∀ s ∈ f.stops, ∀ z v, stopZoom? s = some z → s.1.member? "value" = some v →
      ∃ y ∈ f.levels, isAt y s = true ∧ (v, s.2) ∈ f.stopsAt y ∧
        ∀ x ∈ f.levels, isAt x s = true → x = y) ∧
    (f.levels.flatMap f.stopsAt).Perm
      ((f.stops.filter fun s => (stopZoom? s).isSome).filterMap inner?) := by
  refine ⟨?_, f.zoomStops?_eq, ?_, flatMap_stopsAt_perm h⟩
  · intro others hothers context
    exact evaluate?_of_rearranged hcomposite h hothers context
  · intro s hs z v hz hv
    exact exists_stopsAt h hs hz hv

/-- Ranks at two zooms, first those of one zoom. -/
def rankStops : List Stop := [
  (.object [("value", .number (.int 1)), ("zoom", .number (.int 0))], .number (.int 10)),
  (.object [("value", .number (.int 5)), ("zoom", .number (.int 0))], .number (.int 20)),
  (.object [("value", .number (.int 1)), ("zoom", .number (.int 10))], .number (.int 30)),
  (.object [("value", .number (.int 5)), ("zoom", .number (.int 10))], .number (.int 40))]

/-- The same stops, first those of one rank. -/
def rankStopsByRank : List Stop := [
  (.object [("value", .number (.int 1)), ("zoom", .number (.int 0))], .number (.int 10)),
  (.object [("value", .number (.int 1)), ("zoom", .number (.int 10))], .number (.int 30)),
  (.object [("value", .number (.int 5)), ("zoom", .number (.int 0))], .number (.int 20)),
  (.object [("value", .number (.int 5)), ("zoom", .number (.int 10))], .number (.int 40))]

theorem rearranged_rankStops : Rearranged rankStops rankStopsByRank := by
  constructor
  · exact (List.Perm.swap _ _ _).cons _
  · show ∀ z ∈ [Float.ofInt 0, Float.ofInt 0, Float.ofInt 10, Float.ofInt 10], _
    intro z hz
    simp only [List.mem_cons, List.not_mem_nil, or_false] at hz
    rcases hz with rfl | rfl | rfl | rfl <;> rfl

/-- The width of a road by its rank and the zoom. -/
theorem evaluate?_rearranged_ranks :
    let width : StopFunction := ⟨none, 1.0, some "rank", rankStops, none⟩
    width.isComposite = true ∧ Spaced width.zooms ∧
      ∀ context, { width with stops := rankStopsByRank }.evaluate? context =
        width.evaluate? context := by
  have hspaced : Spaced (rankStops.filterMap stopZoom?) := ⟨by decide +kernel, by decide +kernel⟩
  refine ⟨rfl, hspaced, ?_⟩
  exact (evaluate?_rearranged (f := ⟨none, 1.0, some "rank", rankStops, none⟩) rfl hspaced).1
    rankStopsByRank rearranged_rankStops

end StopFunction

end MapStyle
