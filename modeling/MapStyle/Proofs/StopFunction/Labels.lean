/-
Labels of categorical functions.

A categorical function has the output of the first stop whose label equals the input, so that a
label may be replaced by an equal one without a change of any value.  The label is the input of the
stop, or the value that stands in it beside a zoom; in neither place does the replacement show
in the kind of the function, or in the zooms that its stops name.

* `Stop.Relabels`, `StopFunction.Relabels` — one label of a function is replaced;
* `Stop.Relabels.inner?_cases` — beside a zoom stands a stop without one, whose label is replaced;
* `Stop.Relabels.find?_eq`, `Stop.Relabels.find?_inner_eq` — the output for an input does not
  change, among all stops and among those at a zoom;
* `StopFunction.evaluate?_relabels` — and neither does the value, for any feature and zoom.
-/
import MapStyle.Proofs.Expression.Labels
import MapStyle.Proofs.StopFunction.Default

namespace MapStyle

theorem Json.member?_eq_none {v : Json} (h : v.isObject = false) (name : String) :
    v.member? name = none := by
  cases v with
  | object members => cases h
  | _ => rfl

/-- A stop in place of another one, with the same output: its label is replaced, which is its input
or the value that its input names beside a zoom. -/
inductive Stop.Relabels : Stop → Stop → Prop
  | plain {a b : Json} (output : Json) : a.Relabels b → Relabels (a, output) (b, output)
  | zoomed {members members' : Dictionary Json} {a b : Json} (output : Json) :
      members.find? "zoom" = members'.find? "zoom" → members.find? "value" = some a →
      members'.find? "value" = some b → a.Relabels b →
      Relabels (.object members, output) (.object members', output)

/-- A function in place of another one: one of its stops is replaced. -/
inductive StopFunction.Relabels : StopFunction → StopFunction → Prop
  | stop (f : StopFunction) (before after : List Stop) {s t : Stop} : s.Relabels t →
      Relabels { f with stops := before ++ s :: after } { f with stops := before ++ t :: after }

/-! ### One stop -/

namespace Stop.Relabels

variable {s t : Stop}

theorem output_eq (h : s.Relabels t) : s.2 = t.2 := by
  cases h <;> rfl

theorem isObject_eq (h : s.Relabels t) : s.1.isObject = t.1.isObject := by
  cases h with
  | plain output h => exact h.sameShape.left.trans h.sameShape.right.symm
  | zoomed output hzoom hvalue hvalue' h => rfl

/-- Whether a stop makes its function categorical does not change. -/
theorem isString_or_isBool_eq (h : s.Relabels t) :
    (s.1.isString || s.1.isBool) = (t.1.isString || t.1.isBool) := by
  cases h with
  | plain output h => rw [h.sameShape.isString, h.sameShape.isBool]
  | zoomed output hzoom hvalue hvalue' h => rfl

/-- The input is equal to the same values; a zoom with a value is equal to none. -/
theorem same_eq (h : s.Relabels t) (v : Json) : s.1.same v = t.1.same v := by
  cases h with
  | plain output h => exact h.same_left v
  | zoomed output hzoom hvalue hvalue' h => rfl

theorem stopZoom?_eq (h : s.Relabels t) : stopZoom? s = stopZoom? t := by
  cases h with
  | plain output h =>
    rw [stopZoom?, stopZoom?, Json.member?_eq_none h.sameShape.left,
      Json.member?_eq_none h.sameShape.right]
  | zoomed output hzoom hvalue hvalue' h => exact congrArg (Option.bind · Json.float?) hzoom

/-- Beside a zoom stands a stop whose label is replaced, and without one nothing. -/
theorem inner?_cases (h : s.Relabels t) :
    inner? s = none ∧ inner? t = none ∨
      ∃ s' t', inner? s = some s' ∧ inner? t = some t' ∧ s'.Relabels t' := by
  cases h with
  | plain output h =>
    rw [inner?, inner?, Json.member?_eq_none h.sameShape.left,
      Json.member?_eq_none h.sameShape.right]
    exact .inl ⟨rfl, rfl⟩
  | zoomed output hzoom hvalue hvalue' h =>
    exact .inr ⟨_, _, congrArg (Option.map _) hvalue, congrArg (Option.map _) hvalue',
      plain output h⟩

/-! ### The stops -/

/-- **The output for an input does not change** with the label of a stop. -/
theorem find?_eq (h : s.Relabels t) (before after : List Stop) (v : Json) :
    ((before ++ s :: after).find? fun s => s.1.same v).map Prod.snd =
      ((before ++ t :: after).find? fun s => s.1.same v).map Prod.snd := by
  rw [List.find?_append, List.find?_append, List.find?_cons, List.find?_cons, h.same_eq]
  cases before.find? fun s => s.1.same v with
  | some found => rfl
  | none =>
    cases t.1.same v with
    | true => exact congrArg some h.output_eq
    | false => rfl

/-- The same holds of the stops at one zoom. -/
theorem find?_inner_eq (h : s.Relabels t) (before after : List Stop) (zoom : Float) (v : Json) :
    ((((before ++ s :: after).filter (isAt zoom)).filterMap inner?).find?
        fun s => s.1.same v).map Prod.snd =
      ((((before ++ t :: after).filter (isAt zoom)).filterMap inner?).find?
        fun s => s.1.same v).map Prod.snd := by
  have hat : isAt zoom s = isAt zoom t := by rw [isAt, isAt, h.stopZoom?_eq]
  rw [List.filter_append, List.filter_append, List.filter_cons, List.filter_cons, hat]
  split
  case isFalse => rfl
  case isTrue =>
    rw [List.filterMap_append, List.filterMap_append, List.filterMap_cons, List.filterMap_cons]
    obtain ⟨hs, ht⟩ | ⟨s', t', hs, ht, hinner⟩ := h.inner?_cases
    · rw [hs, ht]
    · rw [hs, ht]
      exact hinner.find?_eq _ _ v

end Stop.Relabels

/-! ### The function -/

namespace StopFunction

variable {f g : StopFunction}

theorem Relabels.resolvedKind_eq (h : f.Relabels g) : f.resolvedKind = g.resolvedKind := by
  obtain ⟨f, before, after, h⟩ := h
  simp only [resolvedKind, List.any_append, List.any_cons, List.all_append, List.all_cons,
    h.isString_or_isBool_eq, h.output_eq]

theorem Relabels.isComposite_eq (h : f.Relabels g) : f.isComposite = g.isComposite := by
  obtain ⟨f, before, after, h⟩ := h
  simp only [isComposite, List.any_append, List.any_cons, h.isObject_eq]

theorem evaluateStops?_of_categorical (hkind : f.resolvedKind = .categorical) (stops : List Stop)
    (v : Json) :
    f.evaluateStops? stops v = (stops.find? fun s => s.1.same v).map Prod.snd := by
  rw [evaluateStops?, hkind]

theorem Relabels.zoomStops?_eq (h : f.Relabels g) (hkind : f.resolvedKind = .categorical)
    (v : Json) : f.zoomStops? v = g.zoomStops? v := by
  have hkind' : g.resolvedKind = .categorical := by rwa [← h.resolvedKind_eq]
  rw [StopFunction.zoomStops?_eq, StopFunction.zoomStops?_eq]
  simp only [evaluateStops?_of_categorical hkind, evaluateStops?_of_categorical hkind', stopsAt_eq]
  obtain ⟨f, before, after, h⟩ := h
  simp only [levels, zooms, List.all_append, List.all_cons, List.filterMap_append,
    List.filterMap_cons, h.stopZoom?_eq, h.find?_inner_eq]

/-- **A categorical function has the same values with either label.** -/
theorem evaluate?_relabels (h : f.Relabels g) (hkind : f.resolvedKind = .categorical)
    (context : Context) : f.evaluate? context = g.evaluate? context := by
  have hkind' : g.resolvedKind = .categorical := by rwa [← h.resolvedKind_eq]
  have hzooms := h.zoomStops?_eq hkind
  rw [evaluate?, evaluate?, h.isComposite_eq, evaluateComposite?, evaluateComposite?, hkind, hkind']
  simp only [hzooms, evaluateStops?_of_categorical hkind, evaluateStops?_of_categorical hkind']
  obtain ⟨f, before, after, h⟩ := h
  simp only [h.find?_eq]
  rfl

end StopFunction

end MapStyle
