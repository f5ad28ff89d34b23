/-
The zooms of the stops of a function of zoom and property.

Such a function looks for its value at each of the different zooms that its stops name.  Which
zooms count as different is decided by their distance, and which stops belong to a zoom by
equality.  Where each two zooms are equal or lie at least `epsilon` apart the two agree: of equal
zooms the first is looked at, and every stop belongs to the one zoom that stands for its own.

* `Spaced` — zooms that are equal or apart;
* `distinctZooms_spec`, `mem_zoomLevels` — of equal zooms the first is a level, and no other;
* `existsUnique_level` — every zoom is equal to one level;
* `zoomLevels_congr` — the levels depend on nothing but the first zoom of each kind;
* `zoomStops?_eq` — what a function looks at for each level.
-/
import MapStyle.Proofs.Decimal.Rank
import MapStyle.StopFunction

namespace MapStyle

open Decimal

/-- Finite zooms of which each two are equal or at least `epsilon` apart. -/
structure Spaced (zooms : List Float) : Prop where
  finite : ∀ z ∈ zooms, z.isFinite = true
  apart : ∀ y ∈ zooms, ∀ z ∈ zooms, (y == z) = true ∨ epsilon ≤ (y - z).abs

/-- The different zooms, the least first. -/
def zoomLevels (zooms : List Float) : List Float :=
  (distinctZooms [] zooms).mergeSort fun y z => decide (y ≤ z)

/-! ### Equal zooms -/

namespace Spaced

variable {zooms : List Float} {x y z : Float}

theorem mono {others : List Float} (h : Spaced zooms) (hsub : others ⊆ zooms) : Spaced others :=
  ⟨fun z hz => h.finite z (hsub hz), fun y hy z hz => h.apart y (hsub hy) z (hsub hz)⟩

theorem beq_iff (h : Spaced zooms) (hy : y ∈ zooms) (hz : z ∈ zooms) :
    (y == z) = true ↔ rank y.toModel.unpack = rank z.toModel.unpack :=
  beq_iff_rank (h.finite y hy) (h.finite z hz)

theorem beq_self (h : Spaced zooms) (hz : z ∈ zooms) : (z == z) = true :=
  (h.beq_iff hz hz).mpr rfl

/-- Equal zooms are equal to the same zooms. -/
theorem beq_congr (h : Spaced zooms) (hx : x ∈ zooms) (hy : y ∈ zooms) (hz : z ∈ zooms)
    (heq : (y == z) = true) : (x == y) = (x == z) := by
  rw [Bool.eq_iff_iff, h.beq_iff hx hy, h.beq_iff hx hz, (h.beq_iff hy hz).mp heq]

/-- Zooms that are close to one another are equal. -/
theorem abs_sub_lt_iff (h : Spaced zooms) (hy : y ∈ zooms) (hz : z ∈ zooms) :
    (y - z).abs < epsilon ↔ (y == z) = true := by
  constructor
  · intro hlt
    rcases h.apart y hy z hz with heq | hle
    · exact heq
    · exact absurd hlt (not_lt_of_le hle)
  · exact abs_sub_lt_epsilon (h.finite y hy)

/-- Of equal zooms there is a first, which is found for each of them. -/
theorem exists_first (h : Spaced zooms) (hz : z ∈ zooms) :
    ∃ y, zooms.find? (· == y) = some y ∧ (y == z) = true := by
  have hsome : (zooms.find? (· == z)).isSome := List.find?_isSome.mpr ⟨z, hz, h.beq_self hz⟩
  obtain ⟨y, hy⟩ := Option.isSome_iff_exists.mp hsome
  have hmem : y ∈ zooms := List.mem_of_find?_eq_some hy
  have heq : (y == z) = true := List.find?_some (p := (· == z)) hy
  refine ⟨y, ?_, heq⟩
  rw [← hy]
  exact List.find?_congr fun x hx => h.beq_congr hx hmem hz heq

/-- Firsts that are equal are the same. -/
theorem first_unique (h : Spaced zooms) (hy : zooms.find? (· == y) = some y)
    (hz : zooms.find? (· == z) = some z) (heq : (y == z) = true) : y = z := by
  have hsame : zooms.find? (· == y) = zooms.find? (· == z) :=
    List.find?_congr fun x hx => h.beq_congr hx (List.mem_of_find?_eq_some hy)
      (List.mem_of_find?_eq_some hz) heq
  rw [hy, hz] at hsame
  exact Option.some.inj hsame

end Spaced

/-! ### Different zooms -/

/-- No two of the zooms are equal. -/
abbrev Unequal (zooms : List Float) : Prop := zooms.Pairwise fun y z => ¬ (y == z) = true

section Levels

variable {seen zooms others : List Float} {y z : Float}

/-- Of different zooms each is the first of its kind. -/
theorem Unequal.mem_iff_find? (hunequal : Unequal zooms) (h : Spaced zooms) :
    y ∈ zooms ↔ zooms.find? (· == y) = some y := by
  refine ⟨fun hy => ?_, List.mem_of_find?_eq_some⟩
  obtain ⟨x, hx, heq⟩ := h.exists_first hy
  have hmem : x ∈ zooms := List.mem_of_find?_eq_some hx
  have : Std.Symm fun y z : Float => ¬ (y == z) = true := ⟨fun y z hne => by rwa [beq_swap]⟩
  by_cases hsame : x = y
  · rw [← hsame]
    exact hx
  · exact absurd heq (hunequal.forall hmem hy hsame)

theorem Unequal.nodup (hunequal : Unequal zooms) (h : Spaced zooms) : zooms.Nodup := by
  refine hunequal.imp_of_mem fun {y z} hy _ hne => ?_
  rintro rfl
  exact hne (h.beq_self hy)

/-- A zoom is different from those before it if it is equal to none of them. -/
theorem distinctZooms_cons (h : Spaced (seen.reverse ++ z :: zooms)) :
    distinctZooms seen (z :: zooms) =
      if seen.any (· == z) then distinctZooms seen zooms else distinctZooms (z :: seen) zooms := by
  have hany : seen.any (fun s => decide ((s - z).abs < epsilon)) = seen.any (· == z) := by
    rw [Bool.eq_iff_iff, List.any_eq_true, List.any_eq_true]
    refine exists_congr fun s => and_congr_right fun hs => ?_
    rw [decide_eq_true_iff]
    exact h.abs_sub_lt_iff (List.mem_append_left _ (List.mem_reverse.mpr hs))
      (List.mem_append_right _ List.mem_cons_self)
  rw [distinctZooms, hany]

/-- A zoom that is equal to one before it is the first for none. -/
theorem find?_append_cons (h : Spaced (seen.reverse ++ z :: zooms))
    (hany : seen.any (· == z) = true) (hy : y ∈ seen.reverse ++ z :: zooms) :
    (seen.reverse ++ zooms).find? (· == y) = (seen.reverse ++ z :: zooms).find? (· == y) := by
  obtain ⟨s, hs, heq⟩ := List.any_eq_true.mp hany
  replace hs : s ∈ seen.reverse := List.mem_reverse.mpr hs
  have hz : z ∈ seen.reverse ++ z :: zooms := List.mem_append_right _ List.mem_cons_self
  rw [List.find?_append, List.find?_append, List.find?_cons]
  by_cases hzy : (z == y) = true
  · have hsy : (s == y) = true := by
      rw [← h.beq_congr (List.mem_append_left _ hs) hz hy hzy]
      exact heq
    obtain ⟨x, hx⟩ := Option.isSome_iff_exists.mp
      (List.find?_isSome (p := (· == y)).mpr ⟨s, hs, hsy⟩)
    rw [hx]
    rfl
  · rw [Bool.not_eq_true] at hzy
    rw [hzy]

/-- The different zooms are the first of each kind.  What has been seen so far is different
and comes before the rest. -/
theorem distinctZooms_spec (h : Spaced (seen.reverse ++ zooms)) (hseen : Unequal seen.reverse) :
    Unequal (distinctZooms seen zooms) ∧
      ∀ y, y ∈ distinctZooms seen zooms ↔ (seen.reverse ++ zooms).find? (· == y) = some y := by
  induction zooms generalizing seen with
  | nil =>
    rw [List.append_nil] at h ⊢
    exact ⟨hseen, fun y => hseen.mem_iff_find? h⟩
  | cons z zooms ih =>
    rw [distinctZooms_cons h]
    by_cases hany : seen.any (· == z) = true
    · rw [if_pos hany]
      have hsub : seen.reverse ++ zooms ⊆ seen.reverse ++ z :: zooms := by simp
      obtain ⟨hunequal, hmem⟩ := ih (h.mono hsub) hseen
      refine ⟨hunequal, fun y => (hmem y).trans ?_⟩
      constructor
      · intro hy
        rw [← hy]
        exact (find?_append_cons h hany (hsub (List.mem_of_find?_eq_some hy))).symm
      · intro hy
        rw [← hy]
        exact find?_append_cons h hany (List.mem_of_find?_eq_some hy)
    · rw [if_neg hany]
      have hcons : (z :: seen).reverse ++ zooms = seen.reverse ++ z :: zooms := by simp
      rw [← hcons] at h ⊢
      refine ih h ?_
      rw [List.reverse_cons]
      refine List.pairwise_append.mpr ⟨hseen, List.pairwise_singleton _ _, ?_⟩
      intro s hs x hx heq
      rw [List.mem_singleton.mp hx] at heq
      exact hany (List.any_eq_true.mpr ⟨s, List.mem_reverse.mp hs, heq⟩)

/-- A zoom is a level if it is the first of its kind. -/
theorem mem_zoomLevels (h : Spaced zooms) :
    y ∈ zoomLevels zooms ↔ zooms.find? (· == y) = some y :=
  List.mem_mergeSort.trans ((@distinctZooms_spec [] zooms h List.Pairwise.nil).2 y)

theorem zoomLevels_subset (h : Spaced zooms) : zoomLevels zooms ⊆ zooms :=
  fun _ hy => List.mem_of_find?_eq_some ((mem_zoomLevels h).mp hy)

theorem unequal_zoomLevels (h : Spaced zooms) : Unequal (zoomLevels zooms) := by
  refine ((List.mergeSort_perm _ _).pairwise_iff ?_).mpr
    (@distinctZooms_spec [] zooms h List.Pairwise.nil).1
  intro y z hne
  rwa [beq_swap]

theorem nodup_zoomLevels (h : Spaced zooms) : (zoomLevels zooms).Nodup :=
  (unequal_zoomLevels h).nodup (h.mono (zoomLevels_subset h))

/-- Every zoom is equal to one level. -/
theorem existsUnique_level (h : Spaced zooms) (hz : z ∈ zooms) :
    ∃! y, y ∈ zoomLevels zooms ∧ (z == y) = true := by
  obtain ⟨y, hy, hyz⟩ := h.exists_first hz
  have hzy : (z == y) = true := by rwa [beq_swap]
  refine ⟨y, ⟨(mem_zoomLevels h).mpr hy, hzy⟩, ?_⟩
  rintro x ⟨hx, hzx⟩
  refine h.first_unique ((mem_zoomLevels h).mp hx) hy ?_
  rw [← h.beq_congr (zoomLevels_subset h hx) hz (List.mem_of_find?_eq_some hy) hzy, beq_swap]
  exact hzx

/-- The levels are in the order of their ranks. -/
theorem sorted_zoomLevels (h : Spaced zooms) :
    (zoomLevels zooms).Pairwise fun y z => rank y.toModel.unpack ≤ rank z.toModel.unpack := by
  have hmem : ∀ y ∈ distinctZooms [] zooms, y.isFinite = true := fun y hy =>
    h.finite y (zoomLevels_subset h (List.mem_mergeSort.mpr hy))
  -- The order of floats is no order at NaN, so that it is changed for one that is.
  have hsort := List.map_mergeSort (f := id) (l := distinctZooms [] zooms)
    (r := fun y z => decide (y ≤ z))
    (s := fun y z => decide (rank y.toModel.unpack ≤ rank z.toModel.unpack))
    fun y hy z hz => decide_eq_decide.mpr (le_iff_rank (hmem y hy) (hmem z hz))
  rw [List.map_id, List.map_id] at hsort
  rw [zoomLevels, hsort]
  refine (List.pairwise_mergeSort ?_ ?_ _).imp of_decide_eq_true
  · intro x y z hxy hyz
    exact decide_eq_true (Int.le_trans (of_decide_eq_true hxy) (of_decide_eq_true hyz))
  · intro y z
    rw [Bool.or_eq_true, decide_eq_true_iff, decide_eq_true_iff]
    exact Int.le_total _ _

/-- **The levels depend on nothing but the first zoom of each kind.** -/
theorem zoomLevels_congr (h : Spaced zooms) (hperm : zooms.Perm others)
    (hfind : ∀ y ∈ zooms, others.find? (· == y) = zooms.find? (· == y)) :
    zoomLevels others = zoomLevels zooms := by
  have hothers : Spaced others := h.mono hperm.symm.subset
  have hmem : ∀ y, y ∈ zoomLevels others ↔ y ∈ zoomLevels zooms := by
    intro y
    rw [mem_zoomLevels hothers, mem_zoomLevels h]
    constructor
    · intro hy
      rw [← hfind y (hperm.symm.subset (List.mem_of_find?_eq_some hy))]
      exact hy
    · intro hy
      rw [hfind y (List.mem_of_find?_eq_some hy)]
      exact hy
  -- The same levels in order are the same list, as two levels of one rank would be equal zooms.
  refine List.Perm.eq_of_pairwise ?_ (sorted_zoomLevels hothers) (sorted_zoomLevels h)
    ((List.perm_ext_iff_of_nodup (nodup_zoomLevels hothers) (nodup_zoomLevels h)).mpr hmem)
  intro y z hy hz hyz hzy
  replace hy := (mem_zoomLevels h).mp ((hmem y).mp hy)
  replace hz := (mem_zoomLevels h).mp hz
  refine h.first_unique hy hz ?_
  rw [h.beq_iff (List.mem_of_find?_eq_some hy) (List.mem_of_find?_eq_some hz)]
  exact Int.le_antisymm hyz hzy

/-- Where all zooms are one, it is the only level. -/
theorem zoomLevels_replicate (hz : z.isFinite = true) {n : Nat} (hn : n ≠ 0) :
    zoomLevels (List.replicate n z) = [z] := by
  have hself : (z == z) = true := (beq_iff_rank hz hz).mpr rfl
  have h : Spaced (List.replicate n z) := by
    constructor
    · intro x hx
      rw [List.eq_of_mem_replicate hx]
      exact hz
    · intro x hx y hy
      rw [List.eq_of_mem_replicate hx, List.eq_of_mem_replicate hy]
      exact Or.inl hself
  rw [← List.perm_singleton,
    List.perm_ext_iff_of_nodup (nodup_zoomLevels h) (List.nodup_singleton z)]
  intro y
  rw [List.mem_singleton]
  constructor
  · intro hy
    exact List.eq_of_mem_replicate (zoomLevels_subset h hy)
  · rintro rfl
    refine (mem_zoomLevels h).mpr ?_
    obtain ⟨m, rfl⟩ := Nat.exists_eq_succ_of_ne_zero hn
    rw [List.replicate_succ, List.find?_cons, hself]

end Levels

/-! ### The stops at each level -/

/-- Whether a stop names a zoom. -/
def isAt (zoom : Float) (s : Stop) : Bool := ((stopZoom? s).map fun z => z == zoom).getD false

/-- The value that a stop names, with the output. -/
def inner? (s : Stop) : Option Stop := (s.1.member? "value").map fun v => (v, s.2)

theorem isAt_of_stopZoom? {s : Stop} {y z : Float} (h : stopZoom? s = some z) :
    isAt y s = (z == y) := by
  rw [isAt, h]
  rfl

theorem isAt_of_stopZoom?_eq_none {s : Stop} {y : Float} (h : stopZoom? s = none) :
    isAt y s = false := by
  rw [isAt, h]
  rfl

namespace StopFunction

/-- The zooms that the stops name. -/
def zooms (f : StopFunction) : List Float := f.stops.filterMap stopZoom?

/-- The different zooms of the stops, the least first. -/
def levels (f : StopFunction) : List Float := zoomLevels f.zooms

theorem stopsAt_eq (f : StopFunction) (zoom : Float) :
    f.stopsAt zoom = (f.stops.filter (isAt zoom)).filterMap inner? :=
  rfl

theorem mapM_stopZoom? (stops : List Stop) :
    stops.mapM stopZoom? =
      if stops.all fun s => (stopZoom? s).isSome then some (stops.filterMap stopZoom?)
      else none := by
  induction stops with
  | nil => rfl
  | cons s stops ih =>
    rw [List.mapM_cons, ih, List.all_cons, List.filterMap_cons]
    cases hs : stopZoom? s with
    | none => rfl
    | some z =>
      by_cases hall : stops.all (fun s => (stopZoom? s).isSome) = true
      · simp [hall]
      · simp [hall]

/-- **The results that are mapped across the zooms are those at the levels.** -/
theorem zoomStops?_eq (f : StopFunction) (input : Json) :
    f.zoomStops? input =
      if f.stops.all fun s => (stopZoom? s).isSome then
        some (f.levels.filterMap fun z =>
          (f.evaluateStops? (f.stopsAt z) input).map fun v => (.ofFloat z, v))
      else none := by
  rw [zoomStops?, mapM_stopZoom?]
  by_cases hall : f.stops.all (fun s => (stopZoom? s).isSome) = true
  · rw [if_pos hall, if_pos hall]
    rfl
  · rw [if_neg hall, if_neg hall]
    rfl

end StopFunction

end MapStyle
