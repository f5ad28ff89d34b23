/-
Zooms in a table of resolutions.

A table descends strictly, so that a resolution between its ends lies between two neighbours and
in no other place: not behind the lower neighbour, and behind the upper one or at it.  The entries
themselves have whole zooms.  That is what the bounds of a layer's zooms rest on, which are sharp
there: a zoom that is off by the least amount makes a layer come or go too early.

* `IsTable`, `IsLogarithm` — tables of resolutions, and what is asked of a logarithm;
* `IsBetween` — a place between two neighbours;
* `between?_eq_some`, `between?_eq_none_iff` — the search finds the first such place;
* `IsTable.existsUnique_isBetween` — between the ends of a table there is just one;
* `ofResolutionBy_getElem`, `ofResolutionBy_of_isBetween` — the zoom of an entry, which is whole,
  and of a resolution between two of them;
* `ofResolutionBy_table` — hence a style paints at an entry what it paints at that zoom, and only
  NaN is found in no place.
-/
import MapStyle.BoundStyle
import MapStyle.Proofs.Decimal.Quotient
import MapStyle.Proofs.Decimal.Zeros

namespace MapStyle.Zoom

open Decimal

/-- Resolutions of whole zooms, the greatest first. -/
structure IsTable (table : List Float) : Prop where
  finite : ∀ r ∈ table, r.isFinite = true
  positive : ∀ r ∈ table, 0 < r
  descending : table.IsChain fun greater smaller => smaller < greater

/-- What is asked of a logarithm: it is zero at 1, and neither zero nor NaN above 1. -/
structure IsLogarithm (ln : Float → Float) : Prop where
  one : ln 1 = 0
  nonzero : ∀ x, 1 < x → ln x < 0 ∨ 0 < ln x

/-- Whether a resolution lies between two neighbours of a table, or at the first of them. -/
def IsBetween (table : List Float) (resolution : Float) (place : Nat) : Prop :=
  ∃ h : place + 1 < table.length, resolution ≤ table[place] ∧ table[place + 1] < resolution

variable {ln : Float → Float} {table rest : List Float} {r first last greater smaller : Float}
  {zoom i j : Nat}

/-! ### The search -/

theorem isBetween_zero :
    IsBetween (greater :: smaller :: rest) r 0 ↔ r ≤ greater ∧ smaller < r :=
  ⟨fun ⟨_, h⟩ => h, fun h => ⟨Nat.succ_lt_succ (Nat.succ_pos _), h⟩⟩

theorem isBetween_succ : IsBetween (greater :: table) r (i + 1) ↔ IsBetween table r i :=
  ⟨fun ⟨hi, h⟩ => ⟨Nat.lt_of_succ_lt_succ hi, h⟩, fun ⟨hi, h⟩ => ⟨Nat.succ_lt_succ hi, h⟩⟩

/-- A table of one resolution has no neighbours. -/
theorem not_isBetween_of_short
    (hshort : ∀ greater smaller rest, table = greater :: smaller :: rest → False) :
    ¬ IsBetween table r i := by
  rintro ⟨hi, -⟩
  rcases table with _ | ⟨greater, _ | ⟨smaller, rest⟩⟩
  · cases hi
  · cases Nat.lt_of_succ_lt_succ hi
  · exact hshort greater smaller rest rfl

/-- Where no neighbours stand around the resolution, the search finds nothing. -/
theorem between?_eq_none_iff :
    between? ln r zoom table = none ↔ ∀ i, ¬ IsBetween table r i := by
  fun_induction between? ln r zoom table with
  | case1 zoom greater smaller rest h =>
    exact ⟨nofun, fun hnone => absurd (isBetween_zero.mpr h) (hnone 0)⟩
  | case2 zoom greater smaller rest h ih =>
    rw [ih]
    constructor
    · intro hnone i
      cases i with
      | zero => rwa [isBetween_zero]
      | succ i => rw [isBetween_succ]; exact hnone i
    · intro hnone i hi
      exact hnone (i + 1) (isBetween_succ.mpr hi)
  | case3 table zoom hshort =>
    exact ⟨fun _ i => not_isBetween_of_short hshort, fun _ => rfl⟩

/-- The search finds the first place. -/
theorem between?_eq_some (hi : i + 1 < table.length) (hgreater : r ≤ table[i])
    (hsmaller : table[i + 1] < r) (hfirst : ∀ j < i, ¬ IsBetween table r j) :
    between? ln r zoom table =
      some (Float.ofNat (zoom + i) + part ln r table[i] table[i + 1]) := by
  fun_induction between? ln r zoom table generalizing i with
  | case1 zoom greater smaller rest h =>
    obtain rfl : i = 0 := Nat.eq_zero_of_not_pos fun hi => hfirst 0 hi (isBetween_zero.mpr h)
    rfl
  | case2 zoom greater smaller rest h ih =>
    cases i with
    | zero => exact absurd ⟨hgreater, hsmaller⟩ h
    | succ i =>
      rw [show zoom + (i + 1) = zoom + 1 + i by omega]
      exact ih (Nat.lt_of_succ_lt_succ hi) hgreater hsmaller fun j hj hj' =>
        hfirst (j + 1) (Nat.succ_lt_succ hj) (isBetween_succ.mpr hj')
  | case3 table zoom hshort =>
    exact absurd ⟨hi, hgreater, hsmaller⟩ (not_isBetween_of_short hshort)

/-! ### Places in a table -/

namespace IsTable

variable (htable : IsTable table)

include htable

theorem isFinite_getElem (hi : i < table.length) : table[i].isFinite = true :=
  htable.finite _ (List.getElem_mem hi)

theorem getElem_lt_getElem (hij : i < j) (hj : j < table.length) : table[j] < table[i] := by
  have hi : i < table.length := Nat.lt_trans hij hj
  induction j with
  | zero => omega
  | succ j ih =>
    have hstep : table[j + 1] < table[j] := List.isChain_iff_getElem.mp htable.descending j hj
    rcases Nat.eq_or_lt_of_le (Nat.le_of_lt_succ hij) with rfl | hlt
    · exact hstep
    · exact lt_trans hstep (ih hlt (by omega))

/-- Between two entries of a table there are neighbours around a resolution. -/
theorem exists_isBetween (hr : r.isFinite = true) (h : 0 < table.length) (hfirst : r ≤ table[0])
    (hi : i < table.length) (hlast : table[i] < r) : ∃ j, IsBetween table r j := by
  induction i with
  | zero => exact absurd hlast (not_lt_of_le hfirst)
  | succ i ih =>
    by_cases hless : table[i] < r
    · exact ih _ hless
    · have hnumber := isNaN_of_isFinite (htable.isFinite_getElem (Nat.lt_of_succ_lt hi))
      exact ⟨i, hi, le_of_not_lt hnumber (isNaN_of_isFinite hr) hless, hlast⟩

/-- A resolution is not between neighbours any more where it was between them before. -/
theorem not_isBetween_of_lt (hbetween : IsBetween table r i) (hij : i < j) :
    ¬ IsBetween table r j := by
  obtain ⟨hi, -, hsmaller⟩ := hbetween
  rintro ⟨hj, hgreater, -⟩
  refine not_lt_of_le hgreater ?_
  rcases Nat.eq_or_lt_of_le (Nat.succ_le_of_lt hij) with rfl | hlt
  · exact hsmaller
  · exact lt_trans (htable.getElem_lt_getElem hlt (Nat.lt_of_succ_lt hj)) hsmaller

theorem eq_of_isBetween (hi : IsBetween table r i) (hj : IsBetween table r j) : j = i := by
  rcases Nat.lt_trichotomy i j with hlt | rfl | hgt
  · exact absurd hj (htable.not_isBetween_of_lt hi hlt)
  · rfl
  · exact absurd hi (htable.not_isBetween_of_lt hj hgt)

/-- **Between the ends of a table there is one place for a resolution.** -/
theorem existsUnique_isBetween (hfirst : table.head? = some first)
    (hlast : table.getLast? = some last) (hless : last < r) (hgreater : r < first) :
    ∃! i, IsBetween table r i := by
  obtain ⟨h, rfl⟩ := List.getElem?_eq_some_iff.mp (List.head?_eq_getElem?.symm.trans hfirst)
  obtain ⟨hi, rfl⟩ := List.getElem?_eq_some_iff.mp (List.getLast?_eq_getElem?.symm.trans hlast)
  have hr : r.isFinite = true :=
    isFinite_of_lt_of_le (htable.isFinite_getElem hi) (htable.isFinite_getElem h) hless
      (le_of_lt hgreater)
  obtain ⟨i, hbetween⟩ := htable.exists_isBetween hr h (le_of_lt hgreater) hi hless
  exact ⟨i, hbetween, fun j hj => htable.eq_of_isBetween hbetween hj⟩

/-- **Only NaN is found in no place** by a search that the ends have not answered. -/
theorem between?_eq_none_iff_isNaN (hfirst : table.head? = some first)
    (hlast : table.getLast? = some last) (hgreater : ¬ first ≤ r) (hless : ¬ r ≤ last) :
    between? ln r 0 table = none ↔ r.isNaN = true := by
  rw [between?_eq_none_iff]
  constructor
  · intro hnone
    by_contra hnumber
    replace hnumber : r.isNaN = false := Bool.eq_false_of_not_eq_true hnumber
    have hfirstNumber := isNaN_of_isFinite (htable.finite first (List.mem_of_head? hfirst))
    have hlastNumber := isNaN_of_isFinite (htable.finite last (List.mem_of_getLast? hlast))
    obtain ⟨i, hi, -⟩ := htable.existsUnique_isBetween hfirst hlast
      (lt_of_not_le hnumber hlastNumber hless) (lt_of_not_le hfirstNumber hnumber hgreater)
    exact hnone i hi
  · rintro hnan i ⟨hi, hgreater, -⟩
    exact not_le_of_isNaN hnan hgreater

end IsTable

/-! ### Entries -/

theorem ofResolutionBy_eq (hfirst : table.head? = some first)
    (hlast : table.getLast? = some last) :
    ofResolutionBy ln r table =
      if first ≤ r then 0
      else if r ≤ last then Float.ofNat (table.length - 1)
      else (between? ln r 0 table).getD (Float.ofNat (table.length - 1)) := by
  rw [ofResolutionBy, hfirst, hlast]

/-- Between the ends of a table the zoom is that of the place. -/
theorem ofResolutionBy_of_isBetween (htable : IsTable table) (hfirst : table.head? = some first)
    (hlast : table.getLast? = some last) (hless : last < r) (hgreater : r < first)
    (hi : i + 1 < table.length) (hbetween : IsBetween table r i) :
    ofResolutionBy ln r table = Float.ofNat i + part ln r table[i] table[i + 1] := by
  have hplace : between? ln r 0 table =
      some (Float.ofNat (0 + i) + part ln r table[i] table[i + 1]) := by
    have ⟨_, hupper, hlower⟩ := hbetween
    exact between?_eq_some hi hupper hlower fun j hj hj' =>
      Nat.ne_of_lt hj (htable.eq_of_isBetween hbetween hj')
  rw [ofResolutionBy_eq hfirst hlast, if_neg (not_le_of_lt hgreater),
    if_neg (not_le_of_lt hless), hplace, Option.getD_some, Nat.zero_add]

/-- At the greater of two neighbours no part of the way has been gone. -/
theorem unpack_part_self (hln : IsLogarithm ln) (hr : r.isFinite = true)
    (hsmaller : smaller.isFinite = true) (hpos : 0 < smaller) (hless : smaller < r) :
    ∃ s, (part ln r r smaller).toModel.unpack = .zero s := by
  have hrpos : 0 < r := lt_trans hpos hless
  rw [part, div_self_of_pos hr hrpos, hln.one]
  exact unpack_div_of_zero rfl (hln.nonzero _ (one_lt_div hr hsmaller hpos hless))

/-- **An entry of a table has a whole zoom**, the number of entries before it. -/
theorem ofResolutionBy_getElem (hln : IsLogarithm ln) (htable : IsTable table)
    (hi : i < table.length) : ofResolutionBy ln table[i] table = Float.ofNat i := by
  have hstart : 0 < table.length := Nat.zero_lt_of_lt hi
  have hend : table.length - 1 < table.length := Nat.pred_lt_of_lt hi
  have hfirst : table.head? = some table[0] :=
    List.head?_eq_getElem?.trans (List.getElem?_eq_getElem hstart)
  have hlast : table.getLast? = some table[table.length - 1] :=
    List.getLast?_eq_getElem?.trans (List.getElem?_eq_getElem hend)
  have hself := le_refl_of_isFinite (htable.isFinite_getElem hi)
  -- The first entry and the last one are answered by the ends of the table, the others by the
  -- search.
  rcases Nat.eq_zero_or_pos i with rfl | hpos
  · rw [ofResolutionBy_eq hfirst hlast, if_pos hself]
    rfl
  have hgreater : table[i] < table[0] := htable.getElem_lt_getElem hpos hi
  rcases Nat.eq_or_lt_of_le (show i ≤ table.length - 1 by omega) with rfl | hbefore
  · rw [ofResolutionBy_eq hfirst hlast, if_neg (not_le_of_lt hgreater), if_pos hself]
  have hnext : i + 1 < table.length := by omega
  have hless : table[i + 1] < table[i] := htable.getElem_lt_getElem (Nat.lt_succ_self i) hnext
  obtain ⟨s, hzero⟩ := unpack_part_self hln (htable.isFinite_getElem hi)
    (htable.isFinite_getElem hnext) (htable.positive _ (List.getElem_mem hnext)) hless
  rw [ofResolutionBy_of_isBetween htable hfirst hlast (htable.getElem_lt_getElem hbefore hend)
    hgreater hnext ⟨hnext, hself, hless⟩]
  exact add_of_unpack_zero hzero (unpack_ofNat_ne_zero hpos .negative)

/-- **Tables of resolutions give whole zooms.**  The zoom of an entry is the number of entries
before it, so that a style paints there what it paints at that zoom.  A resolution between the
ends lies between two neighbours in just one place, which its zoom is taken from, so that only NaN
passes both ends and all places. -/
theorem ofResolutionBy_table (hln : IsLogarithm ln) (htable : IsTable table) :
    (∀ i (hi : i < table.length), ofResolutionBy ln table[i] table = Float.ofNat i ∧
      ∀ (b : BoundStyle) (feature : Feature), b.resolutions = table →
        b.paintBy ln feature table[i] = b.paintAt feature (Float.ofNat i)) ∧
    (∀ r first last, table.head? = some first → table.getLast? = some last → last < r →
      r < first → (∃! i, IsBetween table r i) ∧
        ∀ i (hi : i + 1 < table.length), IsBetween table r i →
          ofResolutionBy ln r table = Float.ofNat i + part ln r table[i] table[i + 1]) ∧
    ∀ r first last, table.head? = some first → table.getLast? = some last → ¬ first ≤ r →
      ¬ r ≤ last → (between? ln r 0 table = none ↔ r.isNaN = true) := by
  refine ⟨fun i hi => ?_, fun r first last hfirst hlast hless hgreater => ?_,
    fun r first last => htable.between?_eq_none_iff_isNaN⟩
  · have hzoom := ofResolutionBy_getElem hln htable hi
    refine ⟨hzoom, ?_⟩
    rintro b feature rfl
    rw [BoundStyle.paintBy, hzoom]
  · exact ⟨htable.existsUnique_isBetween hfirst hlast hless hgreater, fun i hi =>
      ofResolutionBy_of_isBetween htable hfirst hlast hless hgreater hi⟩

theorem isTable_defaultTable : IsTable defaultTable where
  finite := by decide +kernel
  positive := by decide +kernel
  descending := by decide +kernel

/-- The logarithm at 1 and at 2, the ratio of neighbours in the default table. -/
def binaryLogarithm (x : Float) : Float := if x ≤ 1 then 0 else 0.6931471805599453

theorem isLogarithm_binaryLogarithm : IsLogarithm binaryLogarithm where
  one := by decide +kernel
  nonzero x hx := by
    rw [binaryLogarithm, if_neg (not_le_of_lt hx)]
    decide +kernel

/-- Zoom 10 of the default table, and a resolution beside it. -/
theorem ofResolutionBy_table_default :
    ofResolutionBy binaryLogarithm 76.43702828517625 defaultTable = 10 ∧
      (∀ layers atlas feature, BoundStyle.paintBy binaryLogarithm ⟨layers, atlas, defaultTable⟩
        feature 76.43702828517625 = BoundStyle.paintAt ⟨layers, atlas, defaultTable⟩ feature 10) ∧
      (∃! i, IsBetween defaultTable 100 i) ∧
      between? binaryLogarithm (0 / 0) 0 defaultTable = none := by
  have hend : 10 < defaultTable.length := by decide
  have hentry : defaultTable[10] = 76.43702828517625 :=
    Option.some.inj ((List.getElem?_eq_getElem hend).symm.trans (by decide +kernel))
  have hfirst : defaultTable.head? = some greatestResolution := by decide +kernel
  have hlast : defaultTable.getLast? = some (greatestResolution / Float.ofNat (Nat.pow 2 24)) := by
    decide +kernel
  obtain ⟨hentries, hplaces, hnone⟩ :=
    ofResolutionBy_table isLogarithm_binaryLogarithm isTable_defaultTable
  obtain ⟨hzoom, hpaint⟩ := hentries 10 hend
  rw [hentry] at hzoom hpaint
  exact ⟨hzoom, fun layers atlas feature => hpaint _ feature rfl,
    (hplaces 100 _ _ hfirst hlast (by decide +kernel) (by decide +kernel)).1,
    (hnone (0 / 0) _ _ hfirst hlast (by decide +kernel) (by decide +kernel)).mpr
      (by decide +kernel)⟩

end MapStyle.Zoom
