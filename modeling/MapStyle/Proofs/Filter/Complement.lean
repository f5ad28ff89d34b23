/-
The complement of a plain filter.

Every plain filter has another that passes just the features which it does not pass.  A test is
turned into the one that denies it, so that what a feature lacks passes exactly one of the two,
and the connectives are exchanged.  A filter and its complement are often not evaluated in the
same form, as a test for a property is an expression and its denial is not.

* `PlainFilter.complement` — the complement;
* `holds_complement_iff` — it means the contrary;
* `verdict_complement` — hence every feature passes exactly one of the two.
-/
import MapStyle.Proofs.Filter.Agreement

namespace MapStyle

namespace PlainFilter

mutual

/-- The complement of a filter.  An ordered comparison has none among the tests, since it does
not hold of a missing value whichever way it is turned; so it is denied by a connective. -/
def complement : PlainFilter → PlainFilter
  | const b => const !b
  | equal key v => notEqual key v
  | notEqual key v => equal key v
  | compare c key v => none [compare c key v]
  | oneOf key vs => noneOf key vs
  | noneOf key vs => oneOf key vs
  | has key => hasNot key
  | hasNot key => has key
  | all fs => any (complementEach fs)
  | any fs => none fs
  | none fs => any fs

/-- The complements of some filters. -/
def complementEach : List PlainFilter → List PlainFilter
  | [] => []
  | f :: rest => f.complement :: complementEach rest

end

theorem complementEach_eq_map (fs : List PlainFilter) : complementEach fs = fs.map complement := by
  induction fs with
  | nil => rw [complementEach, List.map_nil]
  | cons f rest ih => rw [complementEach, ih, List.map_cons]

/-- The complement means the contrary. -/
theorem holds_complement_iff (feature : Feature) (f : PlainFilter) :
    f.complement.Holds feature ↔ ¬ f.Holds feature := by
  -- Tests come in pairs that deny one another, and so do `any` and `none`.  Only the complement
  -- of `all` looks into its parts, and needs what is known of them.
  induction f with
  | const b =>
    rw [complement, Holds, Holds, Bool.not_eq_true', Bool.not_eq_true]
  | equal key v | oneOf key vs | has key =>
    rw [complement, Holds, Holds]
  | notEqual key v | noneOf key vs | hasNot key =>
    rw [complement, Holds, Holds, Classical.not_not]
  | compare c key v =>
    simp only [complement, Holds, List.forall_mem_singleton]
  | all fs ih =>
    rw [complement, complementEach_eq_map, Holds, Holds]
    constructor
    · rintro ⟨g, hg, hholds⟩ hall
      obtain ⟨f, hf, rfl⟩ := List.mem_map.mp hg
      exact (ih f hf).mp hholds (hall f hf)
    · intro hall
      -- Some part fails, and its complement holds.
      obtain ⟨f, hf⟩ := Classical.not_forall.mp hall
      obtain ⟨hf, hfails⟩ := Classical.not_forall.mp hf
      exact ⟨f.complement, List.mem_map_of_mem hf, (ih f hf).mpr hfails⟩
  | any fs ih =>
    simp only [complement, Holds, not_exists]
  | none fs ih =>
    simp only [complement, Holds, Classical.not_forall, Classical.not_not]

/-- **Every feature passes exactly one of a filter and its complement**, at every zoom, whichever
form the two are evaluated in. -/
theorem verdict_complement (f : PlainFilter) (feature : Feature) (zoom : Float) :
    (Filter.ofJson (some f.complement.toJson)).holds feature zoom =
      !(Filter.ofJson (some f.toJson)).holds feature zoom := by
  rw [holds_toJson, holds_toJson, Bool.eq_iff_iff, not_eq_true_iff (plainHolds_iff feature f),
    plainHolds_iff]
  exact holds_complement_iff feature f

/-- A test for a property is an expression, and its complement is not. -/
example : (has "name").toJson.isExpressionFilter = true ∧
    (has "name").complement.toJson.isExpressionFilter = false := by
  decide

end PlainFilter

end MapStyle
