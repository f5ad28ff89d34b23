/-
Labels of plain filters, and what equality is good for.

A test of a plain filter asks whether the value under its key equals a label, or one of some
labels, so that a label may be replaced by an equal one here too, however many connectives stand
around the test.  The replacement does not make an expression of a plain filter.  A test whose
label is a list is an expression on its own, but in the plain form under a connective that is.

* `Filter.Relabels` — one label of a filter is replaced;
* `Filter.plainVerdict_congr` — a test looks at its labels only for which of them are equal;
* `Filter.Relabels.plainHolds_eq`, `Filter.Relabels.isExpressionFilter_eq` — neither the verdict
  in the plain form changes nor the form;
* `equality_coherent` — equality is an equivalence but for objects, and wherever labels are
  compared with it, equal ones do the same.
-/
import MapStyle.Filter
import MapStyle.Proofs.StopFunction.Labels

namespace MapStyle

namespace Filter

/-- A filter in place of another one: a label of one of its tests is replaced. -/
inductive Relabels : Json → Json → Prop
  | test {symbol : String} {a b : Json} (key : Json) (before after : List Json) :
      symbol ∈ ["==", "!=", "in", "!in"] → a.Relabels b →
      Relabels (.array (.string symbol :: key :: (before ++ a :: after)))
        (.array (.string symbol :: key :: (before ++ b :: after)))
  | part {connective : String} {f g : Json} (before after : List Json) :
      connective ∈ ["all", "any", "none"] → Relabels f g →
      Relabels (.array (.string connective :: (before ++ f :: after)))
        (.array (.string connective :: (before ++ g :: after)))

/-- Whether the value under a key of a feature equals a label. -/
def equals (feature : Feature) (key label : Json) : Bool :=
  ((feature.lookup? (key.string?.getD "")).map fun v => v.same label).getD false

variable {feature : Feature} {key f g : Json} {labels labels' : List Json}

/-! ### Tests -/

theorem any_eq_of_map_eq {α : Type} {p : α → Bool} {xs ys : List α} (h : xs.map p = ys.map p) :
    xs.any p = ys.any p := by
  have hany := congrArg (List.any · id) h
  rwa [List.any_map, List.any_map] at hany

/-- Only with one label does a test for equality compare anything. -/
theorem plainVerdict_equality (labels : List Json) (nested : List Bool) :
    plainVerdict feature "==" (key :: labels) nested =
        (labels.length != 1 || labels.any (equals feature key)) ∧
      plainVerdict feature "!=" (key :: labels) nested =
        (labels.length != 1 || !labels.any (equals feature key)) := by
  rcases labels with _ | ⟨label, _ | ⟨other, rest⟩⟩
  · exact ⟨rfl, rfl⟩
  · rw [List.any_cons, List.any_nil, Bool.or_false]
    exact ⟨rfl, rfl⟩
  · exact ⟨rfl, rfl⟩

/-- A test looks at its labels only for which of them the value under its key equals. -/
theorem plainVerdict_congr {symbol : String} (hsymbol : symbol ∈ ["==", "!=", "in", "!in"])
    (h : labels.map (equals feature key) = labels'.map (equals feature key))
    (nested nested' : List Bool) :
    plainVerdict feature symbol (key :: labels) nested =
      plainVerdict feature symbol (key :: labels') nested' := by
  have hlength : labels.length = labels'.length := by simpa using congrArg List.length h
  have hany := any_eq_of_map_eq h
  simp only [List.mem_cons, List.not_mem_nil, or_false] at hsymbol
  rcases hsymbol with rfl | rfl | rfl | rfl
  · rw [(plainVerdict_equality labels nested).1, (plainVerdict_equality labels' nested').1, hlength,
      hany]
  · rw [(plainVerdict_equality labels nested).2, (plainVerdict_equality labels' nested').2, hlength,
      hany]
  · exact hany
  · exact congrArg not hany

theorem operandsDecide_equality {symbol : String} (hsymbol : symbol ∈ ["==", "!="])
    (labels : List Json) (nested : List Bool) :
    operandsDecide symbol (key :: labels) nested =
      (labels.length != 1 || (key.isArray || labels.any Json.isArray)) := by
  simp only [List.mem_cons, List.not_mem_nil, or_false] at hsymbol
  rcases labels with _ | ⟨label, _ | ⟨other, rest⟩⟩
  · rcases hsymbol with rfl | rfl <;> rfl
  · rw [List.any_cons, List.any_nil, Bool.or_false]
    rcases hsymbol with rfl | rfl <;> rfl
  · rcases hsymbol with rfl | rfl <;> rfl

theorem operandsDecide_in (labels : List Json) (nested : List Bool) :
    operandsDecide "in" (key :: labels) nested =
      (labels.map Json.isArray).head?.any fun isArray => !key.isString || isArray := by
  cases labels <;> rfl

/-- Whether a test is an expression depends on which of its labels are lists. -/
theorem operandsDecide_congr {symbol : String} (hsymbol : symbol ∈ ["==", "!=", "in", "!in"])
    (h : labels.map Json.isArray = labels'.map Json.isArray) (nested nested' : List Bool) :
    operandsDecide symbol (key :: labels) nested =
      operandsDecide symbol (key :: labels') nested' := by
  have hlength : labels.length = labels'.length := by simpa using congrArg List.length h
  have hany := any_eq_of_map_eq h
  simp only [List.mem_cons, List.not_mem_nil, or_false] at hsymbol
  rcases hsymbol with rfl | rfl | rfl | rfl
  · rw [operandsDecide_equality (by simp), operandsDecide_equality (by simp), hlength, hany]
  · rw [operandsDecide_equality (by simp), operandsDecide_equality (by simp), hlength, hany]
  · rw [operandsDecide_in, operandsDecide_in, h]
  · rfl

/-! ### Connectives -/

theorem plainVerdict_connective {connective : String} (h : connective ∈ ["all", "any", "none"])
    (operands operands' : List Json) (nested : List Bool) :
    plainVerdict feature connective operands nested =
      plainVerdict feature connective operands' nested := by
  simp only [List.mem_cons, List.not_mem_nil, or_false] at h
  rcases h with rfl | rfl | rfl <;> rfl

theorem operandsDecide_connective {connective : String} (h : connective ∈ ["all", "any", "none"])
    (operands operands' : List Json) (nested : List Bool) :
    operandsDecide connective operands nested = operandsDecide connective operands' nested := by
  simp only [List.mem_cons, List.not_mem_nil, or_false] at h
  rcases h with rfl | rfl | rfl <;> rfl

/-! ### Filters -/

/-- **A filter has one verdict in the plain form with either label**, however deep it stands. -/
theorem Relabels.plainHolds_eq (h : Relabels f g) (feature : Feature) :
    plainHolds feature f = plainHolds feature g := by
  induction h with
  | test key before after hsymbol h =>
    rw [plainHolds_array, plainHolds_array]
    refine plainVerdict_congr hsymbol ?_ _ _
    rw [List.map_append, List.map_append, List.map_cons, List.map_cons]
    simp only [equals, h.same_right]
  | part before after hconnective h ih =>
    rw [plainHolds_array, plainHolds_array, List.map_append, List.map_append, List.map_cons,
      List.map_cons, ih]
    exact plainVerdict_connective hconnective _ _ _

/-- The form that a filter is evaluated in does not change. -/
theorem Relabels.isExpressionFilter_eq (h : Relabels f g) :
    f.isExpressionFilter = g.isExpressionFilter := by
  induction h with
  | test key before after hsymbol h =>
    rw [Json.isExpressionFilter_array, Json.isExpressionFilter_array]
    refine operandsDecide_congr hsymbol ?_ _ _
    rw [List.map_append, List.map_append, List.map_cons, List.map_cons, h.sameShape.isArray]
  | part before after hconnective h ih =>
    rw [Json.isExpressionFilter_array, Json.isExpressionFilter_array, List.map_append,
      List.map_append, List.map_cons, List.map_cons, ih]
    exact operandsDecide_connective hconnective _ _ _

/-- **A filter in the plain form has one verdict with either label**, at every zoom. -/
theorem Relabels.holds_eq (h : Relabels f g) (hplain : f.isExpressionFilter = false)
    (feature : Feature) (zoom : Float) :
    (ofJson (some f)).holds feature zoom = (ofJson (some g)).holds feature zoom := by
  have hplain' : g.isExpressionFilter = false := by rwa [← h.isExpressionFilter_eq]
  have hform {v : Json} (hv : v ≠ .null) (hplain : v.isExpressionFilter = false) :
      ofJson (some v) = plain v := by
    rw [ofJson, if_neg (ne_true_of_eq_false hplain)]
    exact hv
  have hnull : f ≠ .null ∧ g ≠ .null := by cases h <;> exact ⟨nofun, nofun⟩
  rw [hform hnull.1 hplain, hform hnull.2 hplain', holds, holds]
  exact h.plainHolds_eq feature

end Filter

/-! ### Labels everywhere -/

open Json

/-- **Equality is an equivalence but for objects, and equal labels do the same.**  It goes both ways
and along a chain, for all values, and just those values equal themselves in which no object
stands, so that among them it is an equivalence.  A label may be replaced by an equal one, alone or
inside of lists: in a choice, at each place that is read as written, in a membership, on either
side, in a stop of a categorical function, also beside a zoom, and in a test of a plain filter,
under whatever connectives. -/
theorem equality_coherent :
    (∀ v w : Json, v.same w = w.same v) ∧
    (∀ u v w : Json, u.same v = true → v.same w = true → u.same w = true) ∧
    (∀ v : Json, v.isFinite = true → (v.same v = true ↔ v.hasObject = false)) ∧
    (Equivalence fun v w : { v : Json // v.isFinite = true ∧ v.hasObject = false } =>
      v.val.same w.val = true) ∧
    (∀ a b : Json, a.Relabels b → ∀ context : Context,
      (∀ before after : List Json,
        Operator.match.readsWritten (before.length + 1 + after.length) before.length = true →
        (array (string "match" :: (before ++ a :: after))).evaluate? context =
          (array (string "match" :: (before ++ b :: after))).evaluate? context) ∧
      (∀ (needle needle' holder : Json) (rest : List Json),
        needle.evaluate? context = some a → needle'.evaluate? context = some b →
        (array (string "in" :: needle :: holder :: rest)).evaluate? context =
          (array (string "in" :: needle' :: holder :: rest)).evaluate? context) ∧
      ∀ (needle holder holder' : Json) (rest : List Json),
        holder.evaluate? context = some a → holder'.evaluate? context = some b →
        (array (string "in" :: needle :: holder :: rest)).evaluate? context =
          (array (string "in" :: needle :: holder' :: rest)).evaluate? context) ∧
    (∀ f g : StopFunction, f.Relabels g → f.resolvedKind = .categorical →
      ∀ context, f.evaluate? context = g.evaluate? context) ∧
    ∀ f g : Json, Filter.Relabels f g →
      (∀ feature, plainHolds feature f = plainHolds feature g) ∧
      (f.isExpressionFilter = false → ∀ feature zoom,
        (Filter.ofJson (some f)).holds feature zoom =
          (Filter.ofJson (some g)).holds feature zoom) := by
  have hself (v : Json) (hfinite : v.isFinite = true) : v.same v = true ↔ v.hasObject = false := by
    rw [same_self hfinite, Bool.not_eq_true']
  refine ⟨same_comm, fun u v w => same_trans, hself, ?_, ?_, ?_, ?_⟩
  · refine ⟨fun v => (hself v.val v.property.1).mpr v.property.2, fun {v w} h => ?_, same_trans⟩
    rwa [same_comm]
  · intro a b h context
    exact ⟨fun before after hplace => evaluate?_match_relabels h hplace,
      fun needle needle' holder rest => evaluate?_in_needle h rest,
      fun needle holder holder' rest => evaluate?_in_holder h rest⟩
  · intro f g h hkind context
    exact StopFunction.evaluate?_relabels h hkind context
  · intro f g h
    exact ⟨h.plainHolds_eq, h.holds_eq⟩

/-- A list of ranks that has a name at zoom 5. -/
def rankName (label : Json) : StopFunction :=
  ⟨some .categorical, 1.0, some "ranks",
    [(object [("value", label), ("zoom", number (.int 5))], string "eighth")], none⟩

/-- A filter that a list of ranks does not pass, which stands behind an object. -/
def otherRanks (label : Json) : Json :=
  array [string "none", array [string "in", string "ranks", object [], label]]

theorem equality_coherent_eight :
    let context : Context := .ofProperties [("ranks", array [number (.int 8)])] 5.0
    let feature : Feature := ⟨none, .point, none, [("ranks", array [number (.int 8)])]⟩
    let ranks : Json := array [string "get", string "ranks"]
    let a : Json := array [number (.int 8)]
    let b : Json := array [number (.float 8.0)]
    a.same b = true ∧ b.same a = true ∧ a.same a = true ∧
      a.isFinite = true ∧ (a.same a = true ↔ a.hasObject = false) ∧
      a.Relabels b ∧ (array [object [], a]).Relabels (array [object [], b]) ∧
      Operator.match.readsWritten 4 1 = true ∧
      (array [string "match", ranks, array [object [], a], string "eighth", ranks]).evaluate?
          context =
        (array [string "match", ranks, array [object [], b], string "eighth", ranks]).evaluate?
          context ∧
      (array [string "literal", a]).evaluate? context = some a ∧
      (array [string "literal", b]).evaluate? context = some b ∧
      (array [string "in", number (.int 8), array [string "literal", a]]).evaluate? context =
        (array [string "in", number (.int 8), array [string "literal", b]]).evaluate? context ∧
      (array [string "in", array [string "literal", a], ranks]).evaluate? context =
        (array [string "in", array [string "literal", b], ranks]).evaluate? context ∧
      (rankName a).Relabels (rankName b) ∧ (rankName a).resolvedKind = .categorical ∧
      (rankName a).evaluate? context = (rankName b).evaluate? context ∧
      Filter.Relabels (otherRanks a) (otherRanks b) ∧
      (otherRanks a).isExpressionFilter = false ∧
      plainHolds feature (otherRanks a) = plainHolds feature (otherRanks b) ∧
      (Filter.ofJson (some (otherRanks a))).holds feature 5.0 =
        (Filter.ofJson (some (otherRanks b))).holds feature 5.0 := by
  intro context feature ranks a b
  obtain ⟨hcomm, htrans, hself, -, hlabels, hstops, hfilters⟩ := equality_coherent
  have hab : a.same b = true := rfl
  have hba : b.same a = true := (hcomm b a).trans hab
  have hfinite : a.isFinite = true := rfl
  have h : a.Relabels b := .equal hab
  have hlist : (array [object [], a]).Relabels (array [object [], b]) := .inside [object []] [] h
  have hplace : Operator.match.readsWritten 4 1 = true := rfl
  have ha : (array [string "literal", a]).evaluate? context = some a := rfl
  have hb : (array [string "literal", b]).evaluate? context = some b := rfl
  have hname : (rankName a).Relabels (rankName b) :=
    .stop (rankName a) [] [] (.zoomed (string "eighth") rfl rfl rfl h)
  have hother : Filter.Relabels (otherRanks a) (otherRanks b) :=
    .part [] [] (by simp) (.test (string "ranks") [object []] [] (by simp) h)
  obtain ⟨-, hneedle, hholder⟩ := hlabels a b h context
  exact ⟨hab, hba, htrans a b a hab hba, hfinite, hself a hfinite, h, hlist, hplace,
    (hlabels _ _ hlist context).1 [ranks] [string "eighth", ranks] hplace, ha, hb,
    hholder _ _ _ [] ha hb, hneedle _ _ ranks [] ha hb, hname, rfl, hstops _ _ hname rfl context,
    hother, rfl, (hfilters _ _ hother).1 feature, (hfilters _ _ hother).2 rfl feature 5.0⟩

end MapStyle
