/-
The URLs of the variants of a sprite are all different.

The variants of one sprite share the path and the query of its URL.  What is put between
the two tells them apart, and already its length does:

* `SpriteVariant.Distinct` — no URL of some variants stands for two things;
* `distinct_variants` — the variants that are tried for a density are such.
-/
import MapStyle.Sprite.Reference

namespace MapStyle

namespace SpriteVariant

/-- No two variants share a URL, and no image has the URL of an index. -/
structure Distinct (vs : List SpriteVariant) : Prop where
  nodup : vs.Nodup
  index_inj : ∀ v ∈ vs, ∀ w ∈ vs, v.indexUrl = w.indexUrl → v = w
  image_inj : ∀ v ∈ vs, ∀ w ∈ vs, v.imageUrl = w.imageUrl → v = w
  image_ne_index : ∀ v ∈ vs, ∀ w ∈ vs, v.imageUrl ≠ w.indexUrl

theorem length_indexUrl (v : SpriteVariant) :
    v.indexUrl.length = v.path.length + v.mark.length + 5 + v.query.length := by
  rw [indexUrl, String.length_append, String.length_append, String.length_append]
  rfl

theorem length_imageUrl (v : SpriteVariant) :
    v.imageUrl.length = v.path.length + v.mark.length + 4 + v.query.length := by
  rw [imageUrl, String.length_append, String.length_append, String.length_append]
  rfl

/-- The plain variant has no mark. -/
theorem mark_one (url : String) : (ofUrl url 1).mark = "" := rfl

/-- The mark of the finer variant. -/
theorem mark_two (url : String) : (ofUrl url 2).mark = "@2x" := by
  have hmark : "@" ++ toString 2 ++ "x" = "@2x" := by decide
  rw [mark]
  exact hmark

end SpriteVariant

namespace Sprite

open SpriteVariant

variable {url : String} {density : Float} {v w : SpriteVariant}

/-- No more than two variants are ever tried. -/
theorem eq_ofUrl_of_mem_variants (h : v ∈ variants url density) :
    v = .ofUrl url 1 ∨ v = .ofUrl url 2 := by
  rw [variants, bestVariant, otherVariants] at h
  by_cases hfine : fineDensity ≤ density
  · rw [if_pos hfine, if_pos hfine] at h
    simpa [or_comm] using h
  · rw [if_neg hfine, if_neg hfine] at h
    exact .inl (by simpa using h)

theorem path_of_mem_variants (h : v ∈ variants url density) : v.path = (ofUrl url 1).path := by
  rcases eq_ofUrl_of_mem_variants h with rfl | rfl <;> rfl

theorem query_of_mem_variants (h : v ∈ variants url density) : v.query = (ofUrl url 1).query := by
  rcases eq_ofUrl_of_mem_variants h with rfl | rfl <;> rfl

theorem mark_of_mem_variants (h : v ∈ variants url density) : v.mark = "" ∨ v.mark = "@2x" := by
  rcases eq_ofUrl_of_mem_variants h with rfl | rfl
  · exact .inl (mark_one url)
  · exact .inr (mark_two url)

/-- The length of a mark is 0 or 3. -/
theorem length_mark_of_mem_variants (h : v ∈ variants url density) :
    v.mark.length = 0 ∨ v.mark.length = 3 := by
  rcases mark_of_mem_variants h with hmark | hmark
  · exact .inl (by rw [hmark]; rfl)
  · exact .inr (by rw [hmark]; rfl)

theorem eq_of_length_mark_eq (hv : v ∈ variants url density) (hw : w ∈ variants url density)
    (h : v.mark.length = w.mark.length) : v = w := by
  rcases eq_ofUrl_of_mem_variants hv with rfl | rfl <;>
    rcases eq_ofUrl_of_mem_variants hw with rfl | rfl
  · rfl
  · rw [mark_one, mark_two] at h
    exact absurd h (by decide)
  · rw [mark_one, mark_two] at h
    exact absurd h (by decide)
  · rfl

/-- **The URLs of the variants that are tried are all different.** -/
theorem distinct_variants (url : String) (density : Float) : Distinct (variants url density) := by
  refine ⟨?_, fun v hv w hw heq => ?_, fun v hv w hw heq => ?_, fun v hv w hw heq => ?_⟩
  · rw [variants, bestVariant, otherVariants]
    split <;> simp [ofUrl]
  -- The lengths of path and query cancel, and those of the marks are left.
  · have hlen := congrArg String.length heq
    rw [length_indexUrl, length_indexUrl, path_of_mem_variants hv, path_of_mem_variants hw,
      query_of_mem_variants hv, query_of_mem_variants hw] at hlen
    exact eq_of_length_mark_eq hv hw (by omega)
  · have hlen := congrArg String.length heq
    rw [length_imageUrl, length_imageUrl, path_of_mem_variants hv, path_of_mem_variants hw,
      query_of_mem_variants hv, query_of_mem_variants hw] at hlen
    exact eq_of_length_mark_eq hv hw (by omega)
  · have hlen := congrArg String.length heq
    rw [length_imageUrl, length_indexUrl, path_of_mem_variants hv, path_of_mem_variants hw,
      query_of_mem_variants hv, query_of_mem_variants hw] at hlen
    have hv := length_mark_of_mem_variants hv
    have hw := length_mark_of_mem_variants hw
    omega

end Sprite

end MapStyle
