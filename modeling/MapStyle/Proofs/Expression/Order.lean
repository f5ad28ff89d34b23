/-
The order of values in the style language.

Two numbers have an order, and so have two texts; nothing else has one.  Equality and order are
looked up apart from one another, but they fit together: of two values that can be compared either
one is less or they are equal.  Expressions that compare are built on that, and filters and chains
of cases on these: what is less, equal and greater never overlaps and leaves no gap.

* `floatOrder?_eq_compare`, `order?_eq_some_iff` — which values have an order, and which one;
* `order?_swap`, `order?_trans` — it is turned round with the values, and goes along a chain;
* `same_of_order?` — equality is the order in which none is less;
* `Json.Comparable` — values that can be compared;
* `Json.comparison`, `evaluate?_ordered` — comparisons as expressions, and what they give;
* `comparisons_coherent` — hence they form one order.
-/
import MapStyle.Proofs.Decimal.ExtendedRank
import MapStyle.Proofs.Expression.Variadic

namespace MapStyle

/-- Two numbers or two texts.  No number of a document is NaN or infinite. -/
inductive Json.Comparable : Json → Json → Prop
  | numbers {a b : Number} :
      a.toFloat.isFinite = true → b.toFloat.isFinite = true → Comparable (.number a) (.number b)
  | texts {s t : String} : Comparable (.string s) (.string t)

theorem Json.Comparable.exists_order? {v w : Json} (h : v.Comparable w) :
    ∃ o, v.order? w = some o := by
  cases h with
  | numbers ha hb =>
    obtain ⟨o, ho, -⟩ := exists_floatOrder? ha hb
    exact ⟨o, ho⟩
  | texts => exact ⟨_, rfl⟩

namespace Json

/-! ### The order -/

/-- Floats have the order in which they compare. -/
theorem floatOrder?_eq_compare (x y : Float) :
    floatOrder? x y = x.toModel.unpack.compare y.toModel.unpack := by
  rw [floatOrder?]
  simp only [Decimal.lt_iff_compare, Decimal.beq_iff_compare,
    Decimal.compare_swap x.toModel.unpack]
  cases x.toModel.unpack.compare y.toModel.unpack with
  | none => rfl
  | some o => cases o <;> rfl

variable {u v w : Json} {o : Ordering}

/-- **Only two numbers and two texts have an order.** -/
theorem order?_eq_some_iff :
    v.order? w = some o ↔
      (∃ a b, v = number a ∧ w = number b ∧ floatOrder? a.toFloat b.toFloat = some o) ∨
        ∃ s t, v = string s ∧ w = string t ∧ compare s t = o := by
  cases v <;> cases w <;> simp [order?]

/-- The order is turned round with the values. -/
theorem order?_swap (v w : Json) : w.order? v = (v.order? w).map Ordering.swap := by
  cases v with
  | number a =>
    cases w with
    | number b =>
      rw [order?, order?, floatOrder?_eq_compare, floatOrder?_eq_compare,
        Decimal.compare_swap a.toFloat.toModel.unpack]
    | _ => rfl
  | string s =>
    cases w with
    | string t => exact congrArg some Std.OrientedCmp.eq_swap
    | _ => rfl
  | _ => cases w <;> rfl

/-- What is less than something less is less, of whatever kind it is. -/
theorem order?_trans (huv : u.order? v = some .lt) (hvw : v.order? w = some .lt) :
    u.order? w = some .lt := by
  obtain ⟨a, b, rfl, rfl, hab⟩ | ⟨s, t, rfl, rfl, hst⟩ := order?_eq_some_iff.mp huv
  · obtain ⟨b', c, hb, rfl, hbc⟩ | ⟨s, t, hs, -⟩ := order?_eq_some_iff.mp hvw
    · obtain rfl := number.inj hb
      rw [floatOrder?_eq_compare, ← Decimal.lt_iff_compare] at hab hbc
      rw [order?, floatOrder?_eq_compare, ← Decimal.lt_iff_compare]
      exact Decimal.lt_trans hab hbc
    · cases hs
  · obtain ⟨b, c, hb, -⟩ | ⟨t', r, ht, rfl, htr⟩ := order?_eq_some_iff.mp hvw
    · cases hb
    · obtain rfl := string.inj ht
      exact congrArg some (Std.TransCmp.lt_trans hst htr)

/-- **Values with an order are equal if it is the one of equals.** -/
theorem same_of_order? (h : v.order? w = some o) : v.same w = (o == .eq) := by
  obtain ⟨a, b, rfl, rfl, hab⟩ | ⟨s, t, rfl, rfl, rfl⟩ := order?_eq_some_iff.mp h
  · rw [floatOrder?_eq_compare] at hab
    rw [same, Bool.eq_iff_iff, Decimal.beq_iff_compare, hab, Option.some_inj, beq_iff_eq]
  · rw [same, Bool.eq_iff_iff, beq_iff_eq, beq_iff_eq, Std.LawfulEqCmp.compare_eq_iff_eq]

/-- Whether two values are both numbers or both texts. -/
def isLike (v w : Json) : Bool := v.isNumber && w.isNumber || v.isString && w.isString

theorem order?_eq_none (h : v.isLike w = false) : v.order? w = none := by
  rw [Option.eq_none_iff_forall_ne_some]
  intro o ho
  obtain ⟨a, b, rfl, rfl, -⟩ | ⟨s, t, rfl, rfl, -⟩ := order?_eq_some_iff.mp ho
  · cases h
  · cases h

/-! ### Comparisons -/

/-- A comparison of two expressions. -/
def comparison (symbol : String) (a b : Json) : Json := array [string symbol, a, b]

variable {context : Context} {a b : Json}

/-- What the ordered comparisons give, with the values in their order. -/
theorem evaluate?_ordered (a b : Json) {symbol : String} {c : Comparison}
    (h : Operator.ofName? symbol = some (.compare c)) :
    (comparison symbol a b).evaluate? context =
      (a.evaluate? context).bind fun v => (b.evaluate? context).bind fun w =>
        (v.order? w).map fun o => bool (c.holds o) := by
  rw [comparison, evaluate?_array, h]
  show (a.evaluate? context).bind (fun v => (b.evaluate? context).bind fun w =>
    (v.order? w).bind fun o => some (bool (c.holds o))) = _
  cases a.evaluate? context <;> cases b.evaluate? context <;> simp [Option.map_eq_bind]

/-- A comparison the other way round gives the same with its operands in the other order. -/
theorem evaluate?_ordered_swap (a b : Json) {symbol symbol' : String} {c c' : Comparison}
    (h : Operator.ofName? symbol = some (.compare c))
    (h' : Operator.ofName? symbol' = some (.compare c'))
    (hswap : ∀ o, c'.holds o.swap = c.holds o) :
    (comparison symbol a b).evaluate? context = (comparison symbol' b a).evaluate? context := by
  rw [evaluate?_ordered a b h, evaluate?_ordered b a h']
  cases a.evaluate? context with
  | none => cases b.evaluate? context <;> rfl
  | some v =>
    cases b.evaluate? context with
    | none => rfl
    | some w =>
      simp only [Option.bind_some, order?_swap v w, Option.map_map, Function.comp_def, hswap]

theorem evaluate?_equal (a b : Json) :
    (comparison "==" a b).evaluate? context =
      ((a.evaluate? context).bind fun v => (b.evaluate? context).map fun w => v.same w).map
        bool := by
  rw [comparison, evaluate?_array]
  show (a.evaluate? context).bind (fun v => (b.evaluate? context).bind fun w =>
    some (bool (v.same w))) = _
  cases a.evaluate? context <;> cases b.evaluate? context <;> rfl

/-- What is not equal is the negation of what is, failures included. -/
theorem evaluate?_notEqual (a b : Json) :
    (comparison "!=" a b).evaluate? context =
      (negation (comparison "==" a b)).evaluate? context := by
  rw [evaluate?_negation, Operand.truth?_of_value (evaluate?_equal a b), comparison,
    evaluate?_array]
  show (a.evaluate? context).bind (fun v => (b.evaluate? context).bind fun w =>
    some (bool !(v.same w))) = _
  cases a.evaluate? context <;> cases b.evaluate? context <;> rfl

section Comparable

variable (ha : a.evaluate? context = some v) (hb : b.evaluate? context = some w)

include ha hb

theorem evaluate?_ordered_of_order? (ho : v.order? w = some o) {symbol : String} {c : Comparison}
    (h : Operator.ofName? symbol = some (.compare c)) :
    (comparison symbol a b).evaluate? context = some (bool (c.holds o)) := by
  rw [evaluate?_ordered a b h, ha, hb, Option.bind_some, Option.bind_some, ho, Option.map_some]

theorem evaluate?_equal_of_order? (ho : v.order? w = some o) :
    (comparison "==" a b).evaluate? context = some (bool (o == .eq)) := by
  rw [evaluate?_equal, ha, hb, Option.bind_some, Option.map_some, Option.map_some,
    same_of_order? ho]

/-- **Of two values that can be compared just one is true**: that one is less, that they are equal,
or that it is greater. -/
theorem exists_comparison (h : v.Comparable w) :
    ∃ symbol ∈ ["<", "==", ">"],
      (comparison symbol a b).evaluate? context = some (bool true) ∧
      ∀ other ∈ ["<", "==", ">"], other ≠ symbol →
        (comparison other a b).evaluate? context = some (bool false) := by
  obtain ⟨o, ho⟩ := h.exists_order?
  have hless : (comparison "<" a b).evaluate? context = some (bool o.isLT) :=
    evaluate?_ordered_of_order? (c := .less) ha hb ho rfl
  have hequal := evaluate?_equal_of_order? ha hb ho
  have hgreater : (comparison ">" a b).evaluate? context = some (bool o.isGT) :=
    evaluate?_ordered_of_order? (c := .greater) ha hb ho rfl
  cases o with
  | lt => exact ⟨"<", by simp, hless, by simp [hequal, hgreater]⟩
  | eq => exact ⟨"==", by simp, hequal, by simp [hless, hgreater]⟩
  | gt => exact ⟨">", by simp, hgreater, by simp [hless, hequal]⟩

/-- What is less or equal is one of the two. -/
theorem evaluate?_lessEqual (h : v.Comparable w) :
    (comparison "<=" a b).evaluate? context =
      (array [string "any", comparison "<" a b, comparison "==" a b]).evaluate? context := by
  obtain ⟨o, ho⟩ := h.exists_order?
  have hless : (comparison "<" a b).evaluate? context = some (bool o.isLT) :=
    evaluate?_ordered_of_order? (c := .less) ha hb ho rfl
  have hequal := evaluate?_equal_of_order? ha hb ho
  have hlessEqual : (comparison "<=" a b).evaluate? context = some (bool o.isLE) :=
    evaluate?_ordered_of_order? (c := .lessEqual) ha hb ho rfl
  rw [hlessEqual, evaluate?_array, List.map_cons, List.map_cons, List.map_nil, hless, hequal]
  cases o <;> rfl

end Comparable

theorem evaluate?_ordered_eq_none {symbol : String} {c : Comparison}
    (h : Operator.ofName? symbol = some (.compare c))
    (hlike : ∀ v w, a.evaluate? context = some v → b.evaluate? context = some w →
      v.isLike w = false) :
    (comparison symbol a b).evaluate? context = none := by
  rw [evaluate?_ordered a b h]
  cases ha : a.evaluate? context with
  | none => rfl
  | some v =>
    cases hb : b.evaluate? context with
    | none => rfl
    | some w => rw [Option.bind_some, Option.bind_some, order?_eq_none (hlike v w ha hb)]; rfl

/-! ### Chains -/

/-- Whether one expression is less than another. -/
def IsLess (context : Context) (a b : Json) : Prop :=
  (comparison "<" a b).evaluate? context = some (bool true)

theorem isLess_iff :
    IsLess context a b ↔
      ∃ v w, a.evaluate? context = some v ∧ b.evaluate? context = some w ∧
        v.order? w = some .lt := by
  rw [IsLess, evaluate?_ordered a b rfl]
  simp [Option.bind_eq_some_iff, Comparison.holds]

theorem IsLess.trans {c : Json} (hab : IsLess context a b) (hbc : IsLess context b c) :
    IsLess context a c := by
  obtain ⟨u, v, ha, hb, huv⟩ := isLess_iff.mp hab
  obtain ⟨v', w, hb', hc, hvw⟩ := isLess_iff.mp hbc
  obtain rfl := Option.some.inj (hb.symm.trans hb')
  exact isLess_iff.mpr ⟨u, w, ha, hc, order?_trans huv hvw⟩

end Json

open Json

/-- **The comparisons form one order.**  Each is another one with its operands in the other order
or its negation, in every context and with every failure.  Of two numbers and of two texts just
one is true, less, equal or greater, and less or equal is one of these two; what is less along a
chain is less from any of its members to any later one.  Of anything else no comparison has a
value. -/
theorem comparisons_coherent (context : Context) :
    (∀ a b, (comparison "!=" a b).evaluate? context =
        (negation (comparison "==" a b)).evaluate? context ∧
      (comparison "<" a b).evaluate? context = (comparison ">" b a).evaluate? context ∧
      (comparison "<=" a b).evaluate? context = (comparison ">=" b a).evaluate? context) ∧
    (∀ a b v w, a.evaluate? context = some v → b.evaluate? context = some w → v.Comparable w →
      (∃ symbol ∈ ["<", "==", ">"],
        (comparison symbol a b).evaluate? context = some (bool true) ∧
        ∀ other ∈ ["<", "==", ">"], other ≠ symbol →
          (comparison other a b).evaluate? context = some (bool false)) ∧
      (comparison "<=" a b).evaluate? context =
        (array [string "any", comparison "<" a b, comparison "==" a b]).evaluate? context) ∧
    (∀ es : List Json, es.IsChain (IsLess context) → es.Pairwise (IsLess context)) ∧
    ∀ a b, (∀ v w, a.evaluate? context = some v → b.evaluate? context = some w →
        v.isLike w = false) →
      ∀ symbol ∈ ["<", "<=", ">", ">="], (comparison symbol a b).evaluate? context = none := by
  refine ⟨fun a b => ⟨evaluate?_notEqual a b, ?_, ?_⟩, ?_, ?_, ?_⟩
  · exact evaluate?_ordered_swap a b rfl rfl fun o => by cases o <;> rfl
  · exact evaluate?_ordered_swap a b rfl rfl fun o => by cases o <;> rfl
  · intro a b v w ha hb h
    exact ⟨exists_comparison ha hb h, evaluate?_lessEqual ha hb h⟩
  · intro es hchain
    have : Trans (IsLess context) (IsLess context) (IsLess context) := ⟨IsLess.trans⟩
    exact hchain.pairwise
  · intro a b hlike
    simp only [List.forall_mem_cons]
    exact ⟨evaluate?_ordered_eq_none rfl hlike, evaluate?_ordered_eq_none rfl hlike,
      evaluate?_ordered_eq_none rfl hlike, evaluate?_ordered_eq_none rfl hlike, nofun⟩

/-- A rank among numbers of both kinds, and beside a text. -/
theorem comparisons_coherent_rank :
    let context : Context := .ofProperties [("rank", number (.int 8))] 5.0
    let rank : Json := array [string "get", string "rank"]
    let above : Json := number (.float 8.5)
    rank.evaluate? context = some (number (.int 8)) ∧ above.evaluate? context = some above ∧
      (number (.int 8)).Comparable above ∧
      (comparison "<=" rank above).evaluate? context =
        (array [string "any", comparison "<" rank above,
          comparison "==" rank above]).evaluate? context ∧
      [number (.int 2), rank, above].IsChain (IsLess context) ∧
      IsLess context (number (.int 2)) above ∧
      (∀ v w, rank.evaluate? context = some v → (string "8").evaluate? context = some w →
        v.isLike w = false) ∧
      (comparison ">=" rank (string "8")).evaluate? context = none := by
  intro context rank above
  have hrank : rank.evaluate? context = some (number (.int 8)) := rfl
  have habove : above.evaluate? context = some above := rfl
  have hcomparable : (number (.int 8)).Comparable above := .numbers rfl rfl
  have hchain : [number (.int 2), rank, above].IsChain (IsLess context) := by
    rw [List.isChain_cons_cons, List.isChain_cons_cons]
    exact ⟨rfl, rfl, List.isChain_singleton above⟩
  have hlike : ∀ v w, rank.evaluate? context = some v →
      (string "8").evaluate? context = some w → v.isLike w = false := by
    intro v w hv hw
    obtain rfl := Option.some.inj (hrank.symm.trans hv)
    obtain rfl := Option.some.inj hw
    rfl
  obtain ⟨-, hpairs, hchains, hnone⟩ := comparisons_coherent context
  have hordered := List.pairwise_cons.mp (hchains _ hchain)
  exact ⟨hrank, habove, hcomparable, (hpairs rank above _ _ hrank habove hcomparable).2, hchain,
    hordered.1 above (by simp), hlike, hnone rank (string "8") hlike ">=" (by simp)⟩

end MapStyle
