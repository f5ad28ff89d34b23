/-
The query of a sprite's URL.

The URLs of a variant are the URL of the sprite with something put in front of its query, and the
query stays what it was, whatever it holds.  A service that keeps sprites wants its token in the
query, so that a reference to such a sprite is first written out with the token behind it, and the
variants are told apart in front of the token.

* `Sprite.marks`, `Sprite.writtenUrls` — what tells the variants apart, and their URLs written out;
* `Distinct.nodup_urls` — URLs that stand for one thing each are all different;
* `urls_append` — the URLs of the variants of a path with a query;
* `exists_trimEnd_eq` — a text without the slashes at its end;
* `urls_written` — the URLs of every sprite, and those of a sprite that the service keeps.
-/
import Mathlib.Data.List.DropRight
import Mathlib.Data.List.Nodup
import MapStyle.Proofs.Sprite.Addresses

namespace MapStyle

namespace Sprite

/-- What tells the variants for a density apart, in the order in which they are tried. -/
def marks (density : Float) : List String := if 1.5 ≤ density then ["@2x", ""] else [""]

/-- The URLs of the index and the image of each variant that is tried for a density. -/
def urls (url : String) (density : Float) : List (String × String) :=
  (variants url density).map fun v => (v.indexUrl, v.imageUrl)

/-- The same written out, for a URL with some path and query. -/
def writtenUrls (path query : String) (density : Float) : List (String × String) :=
  (marks density).map fun mark =>
    (path ++ mark ++ ".json" ++ query, path ++ mark ++ ".png" ++ query)

end Sprite

/-! ### Different URLs -/

theorem SpriteVariant.Distinct.nodup_urls {vs : List SpriteVariant} (h : Distinct vs) :
    (vs.flatMap fun v => [v.indexUrl, v.imageUrl]).Nodup := by
  rw [List.nodup_flatMap]
  constructor
  · intro v hv
    have hne : v.indexUrl ≠ v.imageUrl := (h.image_ne_index v hv v hv).symm
    simpa using hne
  · refine h.nodup.imp_of_mem fun {v w} hv hw hne => ?_
    have hindex : w.indexUrl ≠ v.indexUrl := fun heq => hne (h.index_inj w hw v hv heq).symm
    have himage : w.imageUrl ≠ v.imageUrl := fun heq => hne (h.image_inj w hw v hv heq).symm
    have hvw : w.indexUrl ≠ v.imageUrl := (h.image_ne_index v hv w hw).symm
    have hwv : w.imageUrl ≠ v.indexUrl := h.image_ne_index w hw v hv
    simp [Function.onFun, hindex, himage, hvw, hwv]

/-! ### A path with a query -/

namespace Sprite

variable {path query : String}

/-- A URL is cut where its query begins. -/
theorem ofUrl_append (hpath : '?' ∉ path.toList) (hquery : query = "" ∨ ∃ rest, query = "?" ++ rest)
    (scale : Nat) : SpriteVariant.ofUrl (path ++ query) scale = ⟨path, query, scale⟩ := by
  have hall : ∀ c ∈ path.toList, (c != '?') = true := by
    intro c hc
    rw [bne_iff_ne]
    rintro rfl
    exact hpath hc
  have hcut : query.toList.takeWhile (· != '?') = [] ∧
      query.toList.dropWhile (· != '?') = query.toList := by
    obtain rfl | ⟨rest, rfl⟩ := hquery
    · exact ⟨rfl, rfl⟩
    · rw [String.toList_append]
      exact ⟨rfl, rfl⟩
  rw [SpriteVariant.ofUrl, String.toList_append, List.takeWhile_append_of_pos hall,
    List.dropWhile_append_of_pos hall, hcut.1, hcut.2, List.append_nil, String.ofList_toList,
    String.ofList_toList]

/-- **The variants of a path with a query have their marks in front of the query.** -/
theorem urls_append (hpath : '?' ∉ path.toList)
    (hquery : query = "" ∨ ∃ rest, query = "?" ++ rest) (density : Float) :
    urls (path ++ query) density = writtenUrls path query density := by
  have htwo : (SpriteVariant.mk path query 2).mark = "@2x" := SpriteVariant.mark_two path
  have hone : (SpriteVariant.mk path query 1).mark = "" := rfl
  rw [urls, variants, bestVariant, otherVariants, writtenUrls, marks, fineDensity]
  simp only [ofUrl_append hpath hquery]
  split <;> simp only [List.map_cons, List.map_nil, SpriteVariant.indexUrl,
    SpriteVariant.imageUrl, htwo, hone]

/-! ### Sprites of the service -/

/-- What is trimmed at the end of a text is one character many times, and no more of them stand
in front. -/
theorem exists_trimEnd_eq (c : Char) (text : String) :
    (∃ n, text = Text.trimEnd c text ++ String.ofList (List.replicate n c)) ∧
      (Text.trimEnd c text).toList.getLast? ≠ some c := by
  have htrim : (Text.trimEnd c text).toList = List.rdropWhile (· == c) text.toList :=
    String.toList_ofList
  constructor
  · have hend : List.rtakeWhile (· == c) text.toList =
        List.replicate (List.rtakeWhile (· == c) text.toList).length c := by
      refine List.eq_replicate_of_mem fun d hd => ?_
      have hdc : (d == c) = true := List.mem_rtakeWhile_imp (p := (· == c)) hd
      exact beq_iff_eq.mp hdc
    refine ⟨(List.rtakeWhile (· == c) text.toList).length, ?_⟩
    rw [← String.toList_inj, String.toList_append, htrim, String.toList_ofList, ← hend]
    exact List.rdropWhile_append_rtakeWhile.symm
  · rw [htrim]
    intro hlast
    have hne : List.rdropWhile (· == c) text.toList ≠ [] := by
      intro hnil
      rw [hnil] at hlast
      cases hlast
    rw [List.getLast?_eq_some_getLast hne, Option.some_inj] at hlast
    exact List.rdropWhile_last_not _ _ hne (beq_iff_eq.mpr hlast)

/-- A reference to a sprite that the service keeps, with the token in the query. -/
theorem locate_hosted (path : String) (directory : Option String) (token : String) :
    locate ("mapbox://sprites/" ++ path) directory (some token) =
      "https://api.mapbox.com/styles/v1/" ++ Text.trimEnd '/' path ++ "/sprite" ++
        ("?access_token=" ++ token) := by
  have hlead : Text.dropLead? hostedLead.toList ("mapbox://sprites/" ++ path).toList =
      some path.toList := by
    rw [Text.dropLead?_eq_some_iff, String.toList_append]
    rfl
  rw [locate, hlead]
  show hostedUrl (String.ofList path.toList) (some token) = _
  rw [String.ofList_toList, hostedUrl]
  rfl

/-- **A URL keeps its query behind the marks of its variants**, and no two of the URLs that are
made of it are the same.  A sprite that the service keeps is at the path that its reference names,
without slashes at the end, and has the token behind everything else, whatever the token holds. -/
theorem urls_written :
    (∀ path query : String, '?' ∉ path.toList → (query = "" ∨ ∃ rest, query = "?" ++ rest) →
      ∀ density, urls (path ++ query) density = writtenUrls path query density) ∧
    (∀ url density, ((urls url density).flatMap fun u => [u.1, u.2]).Nodup) ∧
    ∀ path : String, '?' ∉ path.toList → ∃ stem n,
      path = stem ++ String.ofList (List.replicate n '/') ∧ stem.toList.getLast? ≠ some '/' ∧
      ∀ directory token density,
        urls (locate ("mapbox://sprites/" ++ path) directory (some token)) density =
          writtenUrls ("https://api.mapbox.com/styles/v1/" ++ stem ++ "/sprite")
            ("?access_token=" ++ token) density := by
  refine ⟨fun path query hpath hquery => urls_append hpath hquery, fun url density => ?_,
    fun path hpath => ?_⟩
  · rw [urls, List.flatMap_map]
    exact (distinct_variants url density).nodup_urls
  · obtain ⟨⟨n, hn⟩, hlast⟩ := exists_trimEnd_eq '/' path
    refine ⟨Text.trimEnd '/' path, n, hn, hlast, fun directory token density => ?_⟩
    have hstem : '?' ∉ (Text.trimEnd '/' path).toList := by
      intro hmem
      rw [hn, String.toList_append] at hpath
      exact hpath (List.mem_append_left _ hmem)
    have hhosted : '?' ∉ ("https://api.mapbox.com/styles/v1/" ++ Text.trimEnd '/' path ++
        "/sprite").toList := by
      rw [String.toList_append, String.toList_append, List.mem_append, List.mem_append]
      rintro ((hroot | hmem) | hend)
      · exact absurd hroot (by decide)
      · exact hstem hmem
      · exact absurd hend (by decide)
    rw [locate_hosted]
    refine urls_append hhosted (.inr ⟨"access_token=" ++ token, ?_⟩) density
    rw [← String.append_assoc]
    rfl

/-- A sprite with a key in its query for a fine display, and one that the service keeps. -/
theorem urls_written_streets :
    '?' ∉ "https://tiles.example/streets".toList ∧ (∃ rest, "?key=a/b" = "?" ++ rest) ∧
    urls ("https://tiles.example/streets" ++ "?key=a/b") 2.0 =
      writtenUrls "https://tiles.example/streets" "?key=a/b" 2.0 ∧
    '?' ∉ "mapbox/streets-v8//".toList ∧
    ∃ stem n, "mapbox/streets-v8//" = stem ++ String.ofList (List.replicate n '/') ∧
      stem.toList.getLast? ≠ some '/' ∧
      ∀ directory token density,
        urls (locate ("mapbox://sprites/" ++ "mapbox/streets-v8//") directory (some token))
            density =
          writtenUrls ("https://api.mapbox.com/styles/v1/" ++ stem ++ "/sprite")
            ("?access_token=" ++ token) density := by
  have hpath : '?' ∉ "https://tiles.example/streets".toList := by decide
  have hquery : ∃ rest, "?key=a/b" = "?" ++ rest := ⟨"key=a/b", by decide⟩
  have hhosted : '?' ∉ "mapbox/streets-v8//".toList := by decide
  exact ⟨hpath, hquery, urls_written.1 _ _ hpath (.inr hquery) 2.0, hhosted,
    urls_written.2.2 _ hhosted⟩

/-- A token that looks like a query and a mark stays behind the extension. -/
example :
    urls (locate "mapbox://sprites/mapbox/v8//" (some "/maps") (some "a?b@2x/c")) 1.0 =
      [("https://api.mapbox.com/styles/v1/mapbox/v8/sprite.json?access_token=a?b@2x/c",
        "https://api.mapbox.com/styles/v1/mapbox/v8/sprite.png?access_token=a?b@2x/c")] := by
  decide +kernel

end Sprite

end MapStyle
