/-
The neighbours of an input among stops.

A blend looks for the first stop above its input and takes it together with the stop before it.
The stops may stand in any order, and those of an object may have no numbers.  Still there is a
stop before the one that is found, since otherwise the first stop would have answered, and the
input lies between the two, below the upper one, so that the way from one to the other is never
empty or reversed.

* `isAbove`, `upperPlace?` — the search, as a place among the stops;
* `IsInside` — neither end answers;
* `IsPlace` — a place between two neighbours, and `IsAscending.eq_of_isPlace`, by which there is
  no more than one in ascending stops;
* `exists_bracket`, `bracket_eq_none` — the search for neighbours is that for a place;
* `IsBracketed` — what a search finds, and `isBracketed_of_isInside`, by which both kinds of blend
  find it.
-/
import MapStyle.Proofs.Decimal.ExtendedRank
import MapStyle.Proofs.StopFunction.ZoomForms

namespace MapStyle

open Decimal (le_of_lt le_of_not_lt le_trans lt_of_le_of_lt lt_of_not_le lt_trans not_le_of_lt
  not_lt_of_le)

/-! ### The search for a place -/

section Search

variable {α : Type} (key : α → Option Float) (input : Float) (items : List α)

/-- Whether an item has a number that lies above the input. -/
def isAbove (item : α) : Bool := ((key item).map fun x => decide (input < x)).getD false

/-- The place of the first item above the input. -/
def upperPlace? : Option Nat := items.findIdx? (isAbove key input)

/-- No number of an item is NaN, as none of a document is. -/
def HasNumbers : Prop := ∀ item ∈ items, ∀ x, key item = some x → x.isNaN = false

/-- Both ends have a number, and neither answers: the input is not at or below the first one, and
not at or above the last one.  That is also the case of NaN. -/
structure IsInside : Prop where
  first : ∃ item x, items.head? = some item ∧ key item = some x ∧ ¬ input ≤ x
  last : ∃ item x, items.getLast? = some item ∧ key item = some x ∧ ¬ x ≤ input

/-- Whether the input lies between the item at a place and the one before it, or at the latter. -/
def IsPlace (u : Nat) : Prop :=
  0 < u ∧ ∃ lower upper x y, items[u - 1]? = some lower ∧ items[u]? = some upper ∧
    key lower = some x ∧ key upper = some y ∧ x ≤ input ∧ input < y

/-- All items have numbers, each less than the next one. -/
def IsAscending : Prop :=
  items.IsChain fun a b => ∃ x y, key a = some x ∧ key b = some y ∧ x < y

variable {key input items} {item first lower upper : α} {x y : Float} {rest : List α} {u v : Nat}

theorem hasNumbers_iff :
    HasNumbers key items ↔ ∀ item ∈ items, ((key item).all fun x => !x.isNaN) = true := by
  simp [HasNumbers, Option.all_eq_true]

instance : Decidable (HasNumbers key items) := decidable_of_iff' _ hasNumbers_iff

theorem isAbove_of_key (h : key item = some x) : isAbove key input item = decide (input < x) := by
  rw [isAbove, h]
  rfl

/-- The item that is found lies above the input, and the one before it does not. -/
theorem of_upperPlace? (h : upperPlace? key input items = some u) :
    (∃ upper, items[u]? = some upper ∧ isAbove key input upper = true) ∧
      ∀ v < u, ∀ lower, items[v]? = some lower → isAbove key input lower = false := by
  obtain ⟨hu, habove, hbefore⟩ := List.findIdx?_eq_some_iff_getElem.mp h
  refine ⟨⟨items[u], List.getElem?_eq_getElem hu, habove⟩, fun v hv lower hlower => ?_⟩
  obtain ⟨_, rfl⟩ := List.getElem?_eq_some_iff.mp hlower
  exact Bool.eq_false_of_not_eq_true (hbefore v hv)

/-- **There is an item before the one that is found**, as the first one is not above the input. -/
theorem IsInside.pos_of_upperPlace? (hinside : IsInside key input items)
    (h : upperPlace? key input items = some u) : 0 < u := by
  obtain ⟨first, x, hfirst, hkey, hx⟩ := hinside.first
  obtain ⟨⟨upper, hupper, habove⟩, -⟩ := of_upperPlace? h
  refine Nat.pos_of_ne_zero fun hzero => ?_
  rw [hzero, ← List.head?_eq_getElem?, hfirst] at hupper
  rw [← Option.some.inj hupper, isAbove_of_key hkey] at habove
  exact hx (le_of_lt (of_decide_eq_true habove))

/-- **The input lies between the neighbours**, if the lower one has a number, too. -/
theorem between_of_upperPlace? (hnumbers : HasNumbers key items)
    (h : upperPlace? key input items = some u) (hu : 0 < u) (hlower : items[u - 1]? = some lower)
    (hx : key lower = some x) (hupper : items[u]? = some upper) (hy : key upper = some y) :
    x ≤ input ∧ input < y := by
  obtain ⟨⟨upper', hupper', habove⟩, hbefore⟩ := of_upperPlace? h
  obtain rfl : upper = upper' := Option.some.inj (hupper.symm.trans hupper')
  have hlt : input < y := by
    rw [isAbove_of_key hy] at habove
    exact of_decide_eq_true habove
  have hnotAbove : ¬ input < x := by
    have hbelow := hbefore (u - 1) (Nat.sub_lt hu Nat.one_pos) lower hlower
    rw [isAbove_of_key hx] at hbelow
    exact of_decide_eq_false hbelow
  have hnumber : x.isNaN = false := hnumbers lower (List.mem_of_getElem? hlower) x hx
  exact ⟨le_of_not_lt (Decimal.isNaN_eq_false_of_lt hlt) hnumber hnotAbove, hlt⟩

/-! ### Places among ascending items -/

/-- Behind a place all items lie above the input. -/
theorem IsAscending.not_isPlace_of_lt (hascending : IsAscending key items)
    (hu : IsPlace key input items u) (huv : u < v) : ¬ IsPlace key input items v := by
  have htrans : IsTrans α fun a b => ∃ x y, key a = some x ∧ key b = some y ∧ x < y := by
    refine ⟨fun a b c hab hbc => ?_⟩
    obtain ⟨x, y, hx, hy, hxy⟩ := hab
    obtain ⟨y', z, hy', hz, hyz⟩ := hbc
    obtain rfl := Option.some.inj (hy.symm.trans hy')
    exact ⟨x, z, hx, hz, lt_trans hxy hyz⟩
  obtain ⟨-, -, upper, -, y, -, hupper, -, hy, -, hlt⟩ := hu
  rintro ⟨-, lower, -, x, -, hlower, -, hx, -, hle, -⟩
  refine not_lt_of_le hle ?_
  rcases Nat.eq_or_lt_of_le (Nat.le_sub_one_of_lt huv) with rfl | hbefore
  · obtain rfl := Option.some.inj (hupper.symm.trans hlower)
    obtain rfl := Option.some.inj (hy.symm.trans hx)
    exact hlt
  · obtain ⟨hi, rfl⟩ := List.getElem?_eq_some_iff.mp hupper
    obtain ⟨hj, rfl⟩ := List.getElem?_eq_some_iff.mp hlower
    obtain ⟨y', x', hy', hx', hless⟩ :=
      List.pairwise_iff_getElem.mp hascending.pairwise _ _ hi hj hbefore
    obtain rfl := Option.some.inj (hy.symm.trans hy')
    obtain rfl := Option.some.inj (hx.symm.trans hx')
    exact lt_trans hlt hless

/-- **In ascending items there is no more than one place for an input.** -/
theorem IsAscending.eq_of_isPlace (hascending : IsAscending key items)
    (hu : IsPlace key input items u) (hv : IsPlace key input items v) : u = v := by
  rcases Nat.lt_trichotomy u v with hlt | heq | hgt
  · exact absurd hv (hascending.not_isPlace_of_lt hu hlt)
  · exact heq
  · exact absurd hu (hascending.not_isPlace_of_lt hv hgt)

/-- Among ascending items the search finds a place, if it does not find the first item. -/
theorem IsAscending.isPlace_of_upperPlace? (hascending : IsAscending key items)
    (hnumbers : HasNumbers key items) (h : upperPlace? key input items = some u) (hu : 0 < u) :
    IsPlace key input items u := by
  obtain ⟨⟨upper, hupper, -⟩, -⟩ := of_upperPlace? h
  obtain ⟨v, rfl⟩ : ∃ v, u = v + 1 := ⟨u - 1, by omega⟩
  obtain ⟨hv, rfl⟩ := List.getElem?_eq_some_iff.mp hupper
  obtain ⟨x, y, hx, hy, -⟩ := List.isChain_iff_getElem.mp hascending v hv
  have hlower : items[v + 1 - 1]? = some items[v] := List.getElem?_eq_getElem (Nat.lt_of_succ_lt hv)
  exact ⟨hu, _, _, x, y, hlower, hupper, hx, hy,
    between_of_upperPlace? hnumbers h hu hlower hx hupper hy⟩

/-- A number inside of items is found somewhere, if only before the last one. -/
theorem IsInside.exists_upperPlace? (hinside : IsInside key input items)
    (hnumbers : HasNumbers key items) (hinput : input.isNaN = false) :
    ∃ u, upperPlace? key input items = some u := by
  obtain ⟨last, x, hlast, hkey, hx⟩ := hinside.last
  have hmem : last ∈ items := List.mem_of_getLast? hlast
  have hlt : input < x := lt_of_not_le (hnumbers last hmem x hkey) hinput hx
  have habove : isAbove key input last = true := by
    rw [isAbove_of_key hkey]
    exact decide_eq_true hlt
  refine Option.ne_none_iff_exists'.mp fun hnone => ?_
  rw [List.findIdx?_eq_none_iff.mp hnone last hmem] at habove
  cases habove

/-! ### The search for neighbours -/

theorem exists_bracket {above : α → Bool} (before : α) (h : rest.findIdx? above = some u) :
    ∃ lower upper, (before :: rest)[u]? = some lower ∧ rest[u]? = some upper ∧
      bracket above before rest = some (lower, upper) := by
  induction rest generalizing before u with
  | nil => cases h
  | cons item rest ih =>
    rw [List.findIdx?_cons] at h
    rw [bracket]
    cases habove : above item with
    | true =>
      rw [habove] at h
      obtain rfl : 0 = u := Option.some.inj h
      exact ⟨before, item, rfl, rfl, rfl⟩
    | false =>
      rw [habove] at h
      obtain ⟨v, hv, rfl⟩ := Option.map_eq_some_iff.mp h
      exact ih item hv

theorem bracket_eq_none {above : α → Bool} (before : α) (h : rest.findIdx? above = none) :
    bracket above before rest = none := by
  induction rest generalizing before with
  | nil => rfl
  | cons item rest ih =>
    rw [List.findIdx?_eq_none_iff, List.forall_mem_cons] at h
    rw [bracket, h.1, if_neg Bool.false_ne_true, ih item (List.findIdx?_eq_none_iff.mpr h.2)]

/-- What is made of the neighbours of an input by a search that neither end has answered. -/
structure IsBracketed (key : α → Option Float) (input : Float) (items : List α)
    (between? : α → α → Option Json) (value? : Option Json) : Prop where
  /-- There is an item before the one that is found, and where both have numbers the input lies
  between them, so that the upper one is greater. -/
  found : ∀ u, upperPlace? key input items = some u → 0 < u ∧
    ∃ lower upper, items[u - 1]? = some lower ∧ items[u]? = some upper ∧
      value? = between? lower upper ∧
      ∀ x y, key lower = some x → key upper = some y → x ≤ input ∧ input < y ∧ x < y
  /-- Where no item is found, there is no value. -/
  missing : upperPlace? key input items = none → value? = none
  /-- Among ascending items a number has just one place, and that is found. -/
  unique : IsAscending key items → input.isNaN = false →
    ∃ u, upperPlace? key input items = some u ∧ ∀ v, IsPlace key input items v ↔ v = u

/-- The first item is passed over by the search. -/
theorem IsInside.upperPlace?_cons (hinside : IsInside key input (first :: rest)) :
    upperPlace? key input (first :: rest) =
      (rest.findIdx? (isAbove key input)).map (· + 1) := by
  obtain ⟨item, x, hfirst, hkey, hx⟩ := hinside.first
  obtain rfl : first = item := Option.some.inj hfirst
  have hnotAbove : isAbove key input first = false := by
    rw [isAbove_of_key hkey]
    exact decide_eq_false fun hlt => hx (le_of_lt hlt)
  rw [upperPlace?, List.findIdx?_cons, hnotAbove]
  rfl

theorem IsInside.isBracketed {between? : α → α → Option Json} {value? : Option Json}
    (hinside : IsInside key input items) (hnumbers : HasNumbers key items)
    (hvalue : ∀ first, items.head? = some first → value? =
      (bracket (isAbove key input) first items.tail).bind fun p => between? p.1 p.2) :
    IsBracketed key input items between? value? := by
  obtain ⟨first, -, hfirst, -⟩ := hinside.first
  obtain ⟨rest, rfl⟩ : ∃ rest, items = first :: rest := List.head?_eq_some_iff.mp hfirst
  replace hvalue := hvalue first rfl
  rw [List.tail_cons] at hvalue
  refine ⟨fun u hu => ?_, fun hnone => ?_, fun hascending hinput => ?_⟩
  · have hpos := hinside.pos_of_upperPlace? hu
    obtain ⟨v, hv, rfl⟩ : ∃ v, rest.findIdx? (isAbove key input) = some v ∧ v + 1 = u := by
      rwa [hinside.upperPlace?_cons, Option.map_eq_some_iff] at hu
    obtain ⟨lower, upper, hlower, hupper, hbracket⟩ := exists_bracket first hv
    refine ⟨hpos, lower, upper, hlower, hupper, ?_, fun x y hx hy => ?_⟩
    · rw [hvalue, hbracket]
      rfl
    · have ⟨hle, hlt⟩ := between_of_upperPlace? hnumbers hu hpos hlower hx hupper hy
      exact ⟨hle, hlt, lt_of_le_of_lt hle hlt⟩
  · rw [hinside.upperPlace?_cons, Option.map_eq_none_iff] at hnone
    rw [hvalue, bracket_eq_none first hnone]
    rfl
  · obtain ⟨u, hu⟩ := hinside.exists_upperPlace? hnumbers hinput
    have hplace := hascending.isPlace_of_upperPlace? hnumbers hu (hinside.pos_of_upperPlace? hu)
    refine ⟨u, hu, fun v => ⟨fun hv => hascending.eq_of_isPlace hv hplace, ?_⟩⟩
    rintro rfl
    exact hplace

end Search

/-! ### Blends -/

/-- The number of a stop. -/
def Stop.input? (s : Stop) : Option Float := s.1.float?

/-- The blend of two neighbours; where an output cannot be blended the lower stop holds. -/
def Stop.between? (base input : Float) (lower upper : Stop) : Option Json :=
  if lower.2.canBlend && upper.2.canBlend then
    lower.input?.bind fun x => upper.input?.bind fun y =>
      Json.blend? (progress input base x y) lower.2 upper.2
  else some lower.2

/-- The blend of the values of two neighbours in an expression. -/
def Operand.between? (base input : Float) (lower upper : Float × Operand) : Option Json :=
  lower.2.value.bind fun v => upper.2.value.bind fun w =>
    Json.blend? (progress input base lower.1 upper.1) v w

/-- The number that far on the way from one to another. -/
def blendNumbers? (t : Float) (a b : Number) : Option Number :=
  Number.ofResult? (a.toFloat + (b.toFloat - a.toFloat) * t)

theorem Stop.between?_numbers (base input : Float) (x y a b : Number) :
    Stop.between? base input (.number x, .number a) (.number y, .number b) =
      (blendNumbers? (progress input base x.toFloat y.toFloat) a b).map .number := rfl

theorem Operand.between?_numbers (base input x y : Float) (a b : Number) :
    Operand.between? base input (x, .itself (.number a)) (y, .itself (.number b)) =
      (blendNumbers? (progress input base x y) a b).map .number := rfl

theorem exponential?_isBracketed {stops : List Stop} {input : Float} (base : Float)
    (hnumbers : HasNumbers Stop.input? stops) (hinside : IsInside Stop.input? input stops) :
    IsBracketed Stop.input? input stops (Stop.between? base input)
      (exponential? stops input base) := by
  refine hinside.isBracketed hnumbers fun first hfirst => ?_
  obtain ⟨item, x, hitem, hx, hnotBelow⟩ := hinside.first
  obtain ⟨last, y, hlast, hy, hnotAbove⟩ := hinside.last
  obtain rfl : first = item := Option.some.inj (hfirst.symm.trans hitem)
  rw [Stop.input?] at hx hy
  rw [exponential?, hfirst, hlast]
  simp only [Option.bind_eq_bind, Option.bind_some, hx, hy, if_neg hnotBelow, if_neg hnotAbove]
  rfl

theorem interpolate?_isBracketed {stops : List (Float × Operand)} {input : Float} (base : Float)
    (hnumbers : HasNumbers (fun s => some s.1) stops)
    (hinside : IsInside (fun s => some s.1) input stops) :
    IsBracketed (fun s => some s.1) input stops (Operand.between? base input)
      (interpolate? base input stops) := by
  refine hinside.isBracketed hnumbers fun first hfirst => ?_
  obtain ⟨item, x, hitem, hx, hnotBelow⟩ := hinside.first
  obtain ⟨last, y, hlast, hy, hnotAbove⟩ := hinside.last
  obtain rfl : first = item := Option.some.inj (hfirst.symm.trans hitem)
  obtain rfl := Option.some.inj hx
  obtain rfl := Option.some.inj hy
  rw [interpolate?, hfirst, hlast]
  simp only [Option.bind_eq_bind, Option.bind_some, if_neg hnotBelow, if_neg hnotAbove]
  rfl

/-- A blend as an expression, whose input has a number. -/
theorem evaluate?_interpolate {context : Context} {kind input : Json} {base x : Float}
    (hx : (input.evaluate? context).bind Json.float? = some x) (hbase : base? kind = some base)
    (operands : List Json) :
    (Json.array (.string "interpolate" :: kind :: input :: operands)).evaluate? context =
      interpolate? base x (numericStops (operands.map fun v => ⟨v, v.evaluate? context⟩)) := by
  have hinput : Operand.float? ⟨input, input.evaluate? context⟩ = some x := hx
  rw [Json.evaluate?_array]
  show Operator.interpolate.apply context (_ :: _ :: operands.map _) = _
  rw [Operator.apply_interpolate_cons, hinput, Option.bind_some, hbase, Option.bind_some]

/-- **A blend is always between two neighbours.**  Whatever the order of the stops is, and whether
or not those of an object have numbers, an input that neither end answers has a stop before the one
that is found, lies between the two if both have numbers, and has one place only if the stops
ascend; NaN has none.  The value is the blend of the two. -/
theorem isBracketed_of_isInside :
    (∀ (stops : List Stop) (input base : Float), HasNumbers Stop.input? stops →
      IsInside Stop.input? input stops →
      IsBracketed Stop.input? input stops (Stop.between? base input)
        (exponential? stops input base)) ∧
    ∀ (context : Context) (kind input : Json) (operands : List Json) (base x : Float)
      (stops : List (Float × Operand)), (input.evaluate? context).bind Json.float? = some x →
      base? kind = some base →
      numericStops (operands.map fun v => ⟨v, v.evaluate? context⟩) = stops →
      HasNumbers (fun s => some s.1) stops → IsInside (fun s => some s.1) x stops →
      IsBracketed (fun s => some s.1) x stops (Operand.between? base x)
        ((Json.array (.string "interpolate" :: kind :: input :: operands)).evaluate? context) := by
  refine ⟨fun stops input base => exponential?_isBracketed base, ?_⟩
  rintro context kind input operands base x stops hx hbase rfl hnumbers hinside
  rw [evaluate?_interpolate hx hbase]
  exact interpolate?_isBracketed base hnumbers hinside

/-- Stops in no order, one of them without a number. -/
def jumbled : List Stop :=
  [(.number (.int 0), .number (.int 10)), (.string "x", .number (.int 20)),
    (.number (.int 4), .number (.int 30)), (.number (.int 8), .number (.int 40)),
    (.number (.int 6), .number (.int 50)), (.number (.int 10), .number (.int 60))]

/-- The operands of a blend along three stops that ascend. -/
def ascending : List Json :=
  [.number (.int 0), .number (.int 1), .number (.int 4), .number (.int 9), .number (.int 8),
    .number (.int 3)]

/-- The three stops. -/
def ascendingStops : List (Float × Operand) :=
  [((Number.int 0).toFloat, .itself (.number (.int 1))),
    ((Number.int 4).toFloat, .itself (.number (.int 9))),
    ((Number.int 8).toFloat, .itself (.number (.int 3)))]

theorem isAscending_ascendingStops : IsAscending (fun s => some s.1) ascendingStops :=
  .cons_cons ⟨_, _, rfl, rfl, by decide⟩ (.cons_cons ⟨_, _, rfl, rfl, by decide⟩ (.singleton _))

theorem isBracketed_of_isInside_jumbled :
    HasNumbers Stop.input? jumbled ∧ IsInside Stop.input? 5.0 jumbled ∧
      exponential? jumbled 5.0 1.0 = some (.number (.float 32.5)) ∧
      IsInside Stop.input? (0.0 / 0.0) jumbled ∧ exponential? jumbled (0.0 / 0.0) 1.0 = none ∧
      HasNumbers (fun s => some s.1) ascendingStops ∧
      IsInside (fun s => some s.1) 2.0 ascendingStops ∧
      (∀ v, IsPlace (fun s => some s.1) 2.0 ascendingStops v ↔ v = 1) ∧
      (Json.array (.string "interpolate" :: .array [.string "linear"] ::
        .array [.string "zoom"] :: ascending)).evaluate? (.ofProperties [] 2.0) =
          some (.number (.int 5)) := by
  have hnumbers : HasNumbers Stop.input? jumbled := by decide +kernel
  have hinside : IsInside Stop.input? 5.0 jumbled :=
    ⟨⟨_, _, rfl, rfl, by decide⟩, ⟨_, _, rfl, rfl, by decide⟩⟩
  have hnan : IsInside Stop.input? (0.0 / 0.0) jumbled :=
    ⟨⟨_, _, rfl, rfl, by decide⟩, ⟨_, _, rfl, rfl, by decide⟩⟩
  have hnumbers' : HasNumbers (fun s => some s.1) ascendingStops := by decide +kernel
  have hinside' : IsInside (fun s => some s.1) 2.0 ascendingStops :=
    ⟨⟨_, _, rfl, rfl, by decide⟩, ⟨_, _, rfl, rfl, by decide⟩⟩
  have hzoom : ((Json.array [.string "zoom"]).evaluate? (.ofProperties [] 2.0)).bind Json.float? =
      some 2.0 := by
    decide +kernel
  obtain ⟨hobject, hexpression⟩ := isBracketed_of_isInside
  have hjumbled := hobject jumbled 5.0 1.0 hnumbers hinside
  have hblend := hexpression (.ofProperties [] 2.0) (.array [.string "linear"])
    (.array [.string "zoom"]) ascending 1.0 2.0 ascendingStops hzoom rfl rfl hnumbers' hinside'
  refine ⟨hnumbers, hinside, ?_, hnan,
    (hobject jumbled (0.0 / 0.0) 1.0 hnumbers hnan).missing (by decide +kernel),
    hnumbers', hinside', ?_, ?_⟩
  · have hway : blendNumbers? (progress 5.0 1.0 (Number.int 4).toFloat (Number.int 8).toFloat)
        (.int 30) (.int 40) = some (.float 32.5) := by
      decide +kernel
    obtain ⟨-, lower, upper, hlower, hupper, hvalue, -⟩ := hjumbled.found 3 (by decide +kernel)
    obtain rfl := Option.some.inj hlower
    obtain rfl := Option.some.inj hupper
    rw [hvalue, Stop.between?_numbers, hway]
    rfl
  · obtain ⟨u, hu, hplace⟩ := hblend.unique isAscending_ascendingStops (by decide)
    obtain rfl : 1 = u := Option.some.inj (hu.symm.trans (by decide +kernel)).symm
    exact hplace
  · have hway : blendNumbers? (progress 2.0 1.0 (Number.int 0).toFloat (Number.int 4).toFloat)
        (.int 1) (.int 9) = some (.int 5) := by
      decide +kernel
    obtain ⟨-, lower, upper, hlower, hupper, hvalue, -⟩ := hblend.found 1 (by decide +kernel)
    obtain rfl := Option.some.inj hlower
    obtain rfl := Option.some.inj hupper
    rw [hvalue, Operand.between?_numbers, hway]
    rfl

end MapStyle
