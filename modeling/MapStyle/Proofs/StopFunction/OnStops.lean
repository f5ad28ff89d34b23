/-
Values on the stops.

Before its first stop a blend has the output of that stop, and behind its last one the output of
the last.  An even blend of numbers has the output of every other stop, too, at the input of that
stop: the stop is the lower neighbour there, no part of the way to the upper one has been gone, and
what is added to the output is zero.

* `NumberStop`, `IsRamp` — stops of numbers, and those whose inputs ascend;
* `unpack_progress_of_beq`, `exists_blendNumbers?` — at the lower neighbour a blend has not begun;
* `IsExact` — the values before, behind and on the stops, and `exponential?_isExact`, by which a
  blend along a ramp has them;
* `ramp_isExact` — hence the functions of a zoom and of a property have them, and so do
  expressions.
-/
import MapStyle.Proofs.Decimal.Zeros
import MapStyle.Proofs.StopFunction.Neighbours
import MapStyle.Proofs.StopFunction.OneZoom

namespace MapStyle

open Decimal (beq_self_of_isFinite isFinite_of_beq le_of_beq lt_of_le_of_lt lt_of_lt_of_le lt_trans
  not_le_of_lt not_lt_of_le)

/-! ### A blend that has not begun -/

/-- At the lower neighbour no part of the way has been gone. -/
theorem unpack_progress_of_beq {input lower upper : Float} (hlower : lower.isFinite = true)
    (hupper : upper.isFinite = true) (h : (input == lower) = true) :
    ∃ s, (progress input 1.0 lower upper).toModel.unpack = .zero s := by
  have heven : ((1.0 : Float) - 1.0).abs < epsilon := by decide +kernel
  rw [progress]
  simp only [if_pos heven]
  split
  · exact ⟨.positive, rfl⟩
  · next hway =>
    obtain ⟨s, hdone⟩ := Decimal.unpack_sub_of_beq (isFinite_of_beq hlower h) h
    exact Decimal.unpack_div_of_zero hdone (Decimal.lt_or_lt_of_not_beq
      (Decimal.isNaN_sub hupper hlower) rfl (Bool.eq_false_of_not_eq_true hway))

/-- A blend that has not begun is at the lower output. -/
theorem exists_blendNumbers? {t : Float} {s : Float.Model.UnpackedFloat.Sign} {a b : Number}
    (ht : t.toModel.unpack = .zero s) (ha : a.toFloat.isFinite = true)
    (hdifference : (b.toFloat - a.toFloat).isFinite = true) :
    ∃ n, blendNumbers? t a b = some n ∧ (n.toFloat == a.toFloat) = true := by
  obtain ⟨s', hadded⟩ := Decimal.unpack_mul_of_zero hdifference ht
  have hsum := Decimal.add_beq_of_zero ha hadded
  obtain ⟨n, hn, hresult⟩ := Number.exists_ofResult? (isFinite_of_beq ha hsum)
  exact ⟨n, hn, BEq.trans hresult hsum⟩

/-! ### Ramps -/

/-- A stop of two numbers.  No number of a document is NaN or infinite. -/
structure NumberStop where
  input : Number
  output : Number
  input_finite : input.toFloat.isFinite = true
  output_finite : output.toFloat.isFinite = true

namespace NumberStop

/-- The stop among those of a function. -/
def stop (s : NumberStop) : Stop := (.number s.input, .number s.output)

/-- The input and the output one behind the other. -/
def written (s : NumberStop) : List Json := [.number s.input, .number s.output]

/-- The stop as one at a zoom. -/
def zoomStop (s : NumberStop) : ZoomStop := ⟨s.input, s.input_finite, .number s.output⟩

/-- Stops whose inputs ascend, with no infinite way between the outputs of neighbours. -/
structure IsRamp (stops : List NumberStop) : Prop where
  ascending : stops.IsChain fun a b => a.input.toFloat < b.input.toFloat
  differences : stops.IsChain fun a b => (b.output.toFloat - a.output.toFloat).isFinite = true

/-- The values of stops: up to the first one its output, from the last one on the output of that,
and on each stop a number equal to its output. -/
structure IsExact (stops : List NumberStop) (x : Float) (value? : Option Json) : Prop where
  below : ∀ first, stops.head? = some first → x ≤ first.input.toFloat →
    value? = some (.number first.output)
  above : ∀ last, stops.getLast? = some last → last.input.toFloat ≤ x →
    value? = some (.number last.output)
  onStop : ∀ s ∈ stops, (x == s.input.toFloat) = true →
    ∃ n, value? = some (.number n) ∧ (n.toFloat == s.output.toFloat) = true

variable {stops : List NumberStop} {first last s : NumberStop} {x base : Float} {i j : Nat}

theorem blends (stops : List NumberStop) : ∀ s ∈ stops.map zoomStop, s.Blends :=
  List.forall_mem_map.mpr fun s _ => .inl ⟨s.output, rfl⟩

theorem map_stop_zoomStop (stops : List NumberStop) :
    (stops.map zoomStop).map ZoomStop.stop = stops.map stop := List.map_map

theorem hasNumbers (stops : List NumberStop) : HasNumbers Stop.input? (stops.map stop) := by
  refine List.forall_mem_map.mpr fun s _ x hx => ?_
  obtain rfl := Option.some.inj hx
  exact Decimal.isNaN_of_isFinite s.input_finite

theorem IsRamp.isAscending (hramp : IsRamp stops) :
    IsAscending Stop.input? (stops.map stop) := by
  refine (List.isChain_map stop).mpr (hramp.ascending.imp fun a b hlt => ?_)
  exact ⟨_, _, rfl, rfl, hlt⟩

theorem IsRamp.getElem_lt_getElem (hramp : IsRamp stops) (hij : i < j) (hi : i < stops.length)
    (hj : j < stops.length) : stops[i].input.toFloat < stops[j].input.toFloat := by
  have htrans : IsTrans NumberStop fun a b => a.input.toFloat < b.input.toFloat :=
    ⟨fun _ _ _ => lt_trans⟩
  exact List.pairwise_iff_getElem.mp hramp.ascending.pairwise i j hi hj hij

/-! ### The ends -/

theorem exponential?_of_le (hfirst : stops.head? = some first) (h : x ≤ first.input.toFloat) :
    exponential? (stops.map stop) x base = some (.number first.output) := by
  obtain ⟨rest, rfl⟩ := List.head?_eq_some_iff.mp hfirst
  rw [exponential?, List.getLast?_map, List.getLast?_cons]
  exact if_pos h

theorem exponential?_of_not_le (hfirst : stops.head? = some first)
    (hlast : stops.getLast? = some last) (hnot : ¬ x ≤ first.input.toFloat)
    (h : last.input.toFloat ≤ x) :
    exponential? (stops.map stop) x base = some (.number last.output) := by
  obtain ⟨rest, rfl⟩ := List.head?_eq_some_iff.mp hfirst
  rw [exponential?, List.getLast?_map, hlast]
  exact (if_neg hnot).trans (if_pos h)

/-- From the last stop on its output holds; only a single stop can be the first one there, too. -/
theorem IsRamp.exponential?_of_ge (hramp : IsRamp stops) (hlast : stops.getLast? = some last)
    (h : last.input.toFloat ≤ x) :
    exponential? (stops.map stop) x base = some (.number last.output) := by
  obtain ⟨hend, rfl⟩ := List.getElem?_eq_some_iff.mp (List.getLast?_eq_getElem?.symm.trans hlast)
  have hstart : 0 < stops.length := Nat.zero_lt_of_lt hend
  have hfirst : stops.head? = some stops[0] :=
    List.head?_eq_getElem?.trans (List.getElem?_eq_getElem hstart)
  by_cases hle : x ≤ stops[0].input.toFloat
  · rcases Nat.eq_zero_or_pos (stops.length - 1) with hone | hmany
    · rw [exponential?_of_le hfirst hle]
      simp only [hone]
    · have hlt := hramp.getElem_lt_getElem hmany hstart hend
      exact absurd (Decimal.le_trans h hle) (not_le_of_lt hlt)
  · exact exponential?_of_not_le hfirst hlast hle h

/-! ### The stops between the ends -/

/-- The input of a stop between the ends is inside of the stops. -/
theorem IsRamp.isInside (hramp : IsRamp stops) (hi : 0 < i) (hnext : i + 1 < stops.length)
    (hstop : i < stops.length) (h : (x == stops[i].input.toFloat) = true) :
    IsInside Stop.input? x (stops.map stop) := by
  have hstart : 0 < stops.length := Nat.zero_lt_of_lt hnext
  have hend : stops.length - 1 < stops.length := Nat.pred_lt_of_lt hstart
  have hless : stops[0].input.toFloat < x :=
    lt_of_lt_of_le (hramp.getElem_lt_getElem hi hstart hstop) (le_of_beq (BEq.symm h))
  have hgreater : x < stops[stops.length - 1].input.toFloat :=
    lt_of_le_of_lt (le_of_beq h) (hramp.getElem_lt_getElem (by omega) hstop hend)
  refine ⟨⟨stops[0].stop, _, ?_, rfl, not_le_of_lt hless⟩,
    ⟨stops[stops.length - 1].stop, _, ?_, rfl, not_le_of_lt hgreater⟩⟩
  · rw [List.head?_map, List.head?_eq_getElem?, List.getElem?_eq_getElem hstart]
    rfl
  · rw [List.getLast?_map, List.getLast?_eq_getElem?, List.getElem?_eq_getElem hend]
    rfl

/-- The place of its input is behind the stop. -/
theorem IsRamp.isPlace (hramp : IsRamp stops) (hnext : i + 1 < stops.length)
    (hstop : i < stops.length) (h : (x == stops[i].input.toFloat) = true) :
    IsPlace Stop.input? x (stops.map stop) (i + 1) := by
  have hlt : x < stops[i + 1].input.toFloat :=
    lt_of_le_of_lt (le_of_beq h) (hramp.getElem_lt_getElem (Nat.lt_succ_self i) hstop hnext)
  refine ⟨Nat.succ_pos i, stops[i].stop, stops[i + 1].stop, _, _, ?_, ?_, rfl, rfl,
    le_of_beq (BEq.symm h), hlt⟩
  · rw [Nat.add_sub_cancel, List.getElem?_map, List.getElem?_eq_getElem hstop]
    rfl
  · rw [List.getElem?_map, List.getElem?_eq_getElem hnext]
    rfl

theorem IsRamp.exists_exponential? (hramp : IsRamp stops) (hi : 0 < i)
    (hnext : i + 1 < stops.length) (hstop : i < stops.length)
    (h : (x == stops[i].input.toFloat) = true) :
    ∃ n, exponential? (stops.map stop) x 1.0 = some (.number n) ∧
      (n.toFloat == stops[i].output.toFloat) = true := by
  have hplace := hramp.isPlace hnext hstop h
  have hbracketed :=
    exponential?_isBracketed 1.0 (hasNumbers stops) (hramp.isInside hi hnext hstop h)
  obtain ⟨u, hu, honly⟩ := hbracketed.unique hramp.isAscending
    (Decimal.isNaN_of_isFinite (isFinite_of_beq stops[i].input_finite h))
  obtain rfl : i + 1 = u := (honly (i + 1)).mp hplace
  obtain ⟨-, lower, upper, hlower, hupper, hvalue, -⟩ := hbracketed.found (i + 1) hu
  rw [Nat.add_sub_cancel, List.getElem?_map, List.getElem?_eq_getElem hstop] at hlower
  rw [List.getElem?_map, List.getElem?_eq_getElem hnext] at hupper
  obtain rfl : stops[i].stop = lower := Option.some.inj hlower
  obtain rfl : stops[i + 1].stop = upper := Option.some.inj hupper
  obtain ⟨s, hbegun⟩ :=
    unpack_progress_of_beq stops[i].input_finite stops[i + 1].input_finite h
  obtain ⟨n, hn, hequal⟩ := exists_blendNumbers? hbegun stops[i].output_finite
    (List.isChain_iff_getElem.mp hramp.differences i hnext)
  refine ⟨n, ?_, hequal⟩
  rw [hvalue, stop, stop, Stop.between?_numbers, hn]
  rfl

/-- **A blend along a ramp is exact on its stops.** -/
theorem IsRamp.exponential?_isExact (hramp : IsRamp stops) (x : Float) :
    IsExact stops x (exponential? (stops.map stop) x 1.0) where
  below first := exponential?_of_le
  above last := hramp.exponential?_of_ge
  onStop s hs h := by
    obtain ⟨i, hi, rfl⟩ := List.getElem_of_mem hs
    have hself := beq_self_of_isFinite stops[i].output_finite
    -- The stops at the ends are answered before the search, the others by their own place.
    rcases Nat.eq_zero_or_pos i with rfl | hpos
    · have hfirst : stops.head? = some stops[0] :=
        List.head?_eq_getElem?.trans (List.getElem?_eq_getElem hi)
      exact ⟨_, exponential?_of_le hfirst (le_of_beq h), hself⟩
    rcases Nat.eq_or_lt_of_le (Nat.succ_le_of_lt hi) with hend | hnext
    · have hlast : stops.getLast? = some stops[i] := by
        rw [List.getLast?_eq_getElem?, ← hend, Nat.succ_sub_one, List.getElem?_eq_getElem hi]
      exact ⟨_, hramp.exponential?_of_ge hlast (le_of_beq (BEq.symm h)), hself⟩
    · exact hramp.exists_exponential? hpos hnext hi h

/-! ### What drives a ramp -/

/-- The function of base 1 with such stops and without a default. -/
def ramp (kind : Option StopKind) (property : Option String) (stops : List NumberStop) :
    StopFunction :=
  ⟨kind, 1.0, property, stops.map stop, none⟩

/-- The blend along such stops as an expression. -/
def interpolation (kind input : Json) (stops : List NumberStop) : Json :=
  .array (.string "interpolate" :: kind :: input :: stops.flatMap written)

variable {context : Context}

theorem resolvedKind_ramp {kind : Option StopKind} (hkind : kind = none ∨ kind = some .exponential)
    (property : Option String) : (ramp kind property stops).resolvedKind = .exponential := by
  have hparsed := ZoomStop.resolvedKind_parsed none hkind (blends stops)
  rwa [ZoomStop.parsed, map_stop_zoomStop] at hparsed

theorem evaluate?_ramp {kind : Option StopKind} (hkind : kind = none ∨ kind = some .exponential)
    {property : Option String} {n : Number}
    (hinput : (ramp kind property stops).input? context = some (.number n)) :
    (ramp kind property stops).evaluate? context =
      exponential? (stops.map stop) n.toFloat 1.0 := by
  have hplain : ∀ s ∈ (ramp kind property stops).stops, s.1.isObject = false :=
    List.forall_mem_map.mpr fun s _ => rfl
  rw [StopFunction.evaluate?, StopFunction.isComposite_of_plain hplain, hinput]
  show ((ramp kind property stops).evaluateStops? _ (.number n) <|> none) = _
  rw [StopFunction.evaluateStops?, resolvedKind_ramp hkind, Option.orElse_eq_orElse,
    Option.orElse_eq_or, Option.or_none]
  rfl

theorem evaluate?_interpolation {kind input : Json} {x : Float} (hbase : base? kind = some base)
    (hx : (input.evaluate? context).bind Json.float? = some x) :
    (interpolation kind input stops).evaluate? context =
      exponential? (stops.map stop) x base := by
  have hwritten : stops.flatMap written = (stops.map zoomStop).flatMap ZoomStop.written := by
    rw [List.flatMap_map]
    rfl
  have hblends := blends stops
  rw [interpolation, evaluate?_interpolate hx hbase, hwritten,
    ZoomStop.operands_eq_itself fun s hs => (hblends s hs).isArray_eq_false,
    ZoomStop.numericStops_operands, ← ZoomStop.exponential?_map_stop x base hblends,
    map_stop_zoomStop]

/-- **A blend along a ramp has the outputs of its stops**: up to the first stop the output of that,
from the last one on the output of the last, and on every stop a number equal to the output of that
stop.  It is the same for a function of the zoom, one of a property and an expression. -/
theorem ramp_isExact (hramp : IsRamp stops) (context : Context) :
    (∀ kind, kind = none ∨ kind = some StopKind.exponential →
      (context.zoom.isFinite = true →
        IsExact stops context.zoom ((ramp kind none stops).evaluate? context)) ∧
      ∀ name n, context.properties.find? name = some (.number n) →
        IsExact stops n.toFloat ((ramp kind (some name) stops).evaluate? context)) ∧
    ∀ kind input x, base? kind = some 1.0 →
      (input.evaluate? context).bind Json.float? = some x →
      IsExact stops x ((interpolation kind input stops).evaluate? context) := by
  refine ⟨fun kind hkind => ⟨fun hzoom => ?_, fun name n hn => ?_⟩,
    fun kind input x hbase hx => ?_⟩
  · have hinput : (ramp kind none stops).input? context =
        some (.number (.float context.zoom)) := by
      show Option.filter _ ((Number.ofFinite? context.zoom).map Json.number) = _
      rw [Number.ofFinite?, if_pos hzoom]
      rfl
    rw [evaluate?_ramp hkind hinput]
    exact hramp.exponential?_isExact context.zoom
  · have hinput : (ramp kind (some name) stops).input? context = some (.number n) := by
      show Option.filter _ (context.properties.find? name) = _
      rw [hn]
      rfl
    rw [evaluate?_ramp hkind hinput]
    exact hramp.exponential?_isExact n.toFloat
  · rw [evaluate?_interpolation hbase hx]
    exact hramp.exponential?_isExact x

/-- Widths that fall and rise again. -/
def valley : List NumberStop :=
  [⟨.int 0, .int 3, rfl, rfl⟩, ⟨.float 4.5, .float 0.1, rfl, rfl⟩,
    ⟨.int 8, .float (-2.5), rfl, rfl⟩, ⟨.int 10, .int 7, rfl, rfl⟩]

theorem isRamp_valley : IsRamp valley where
  ascending := by decide +kernel
  differences := by decide +kernel

theorem ramp_isExact_valley :
    let context : Context := .ofProperties [("depth", .number (.int 8))] 4.5
    let linear : Json := .array [.string "linear"]
    let input : Json := .array [.string "*", .array [.string "zoom"], .number (.int 5)]
    IsRamp valley ∧ context.zoom.isFinite = true ∧
      (∃ n, (ramp none none valley).evaluate? context = some (.number n) ∧
        (n.toFloat == 0.1) = true) ∧
      context.properties.find? "depth" = some (.number (.int 8)) ∧
      (∃ n, (ramp (some .exponential) (some "depth") valley).evaluate? context =
        some (.number n) ∧ (n.toFloat == -2.5) = true) ∧
      base? linear = some 1.0 ∧ (input.evaluate? context).bind Json.float? = some 22.5 ∧
      (interpolation linear input valley).evaluate? context = some (.number (.int 7)) := by
  intro context linear input
  have hzoom : context.zoom.isFinite = true := by decide +kernel
  have hinput : (input.evaluate? context).bind Json.float? = some 22.5 := by decide +kernel
  obtain ⟨hfunction, hexpression⟩ := ramp_isExact isRamp_valley context
  refine ⟨isRamp_valley, hzoom, ?_, rfl, ?_, rfl, hinput, ?_⟩
  · exact ((hfunction none (.inl rfl)).1 hzoom).onStop ⟨.float 4.5, .float 0.1, rfl, rfl⟩
      (.tail _ (.head _)) (by decide +kernel)
  · exact ((hfunction (some .exponential) (.inr rfl)).2 "depth" (.int 8) rfl).onStop
      ⟨.int 8, .float (-2.5), rfl, rfl⟩ (.tail _ (.tail _ (.head _))) (by decide +kernel)
  · exact (hexpression linear input 22.5 rfl hinput).above ⟨.int 10, .int 7, rfl, rfl⟩ rfl
      (by decide +kernel)

end NumberStop

end MapStyle
