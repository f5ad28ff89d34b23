/-
The requests of a search for a sprite, and what the search reports of them.

A transport may answer every request as it likes, and differently each time, and what reads
images is given, so the rules are about the requests that were made and what was read from
the answers that they got.

* `Course` — the two courses that a search can take: the first variant with an index is
  found, or no variant has one;
* `readVariants_course` — every search takes one of them;
* `Orderly` — what may be asked for, and when;
* `Reported` — what the result of the search says about its requests;
* `find_requests` — every search for a sprite is orderly and reports its requests.
-/
import MapStyle.Proofs.Sprite.Addresses
import MapStyle.Sprite.Search

namespace MapStyle.Sprite

/-- The URLs of the indices of some variants. -/
def indexUrls (vs : List SpriteVariant) : List String := vs.map SpriteVariant.indexUrl

/-- The search comes to variant `i`, which is `v`, because no variant before it has an index. -/
structure Reaches (transport : Transport) (before : List String) (vs : List SpriteVariant)
    (i : Nat) (v : SpriteVariant) : Prop where
  here : vs[i]? = some v
  failed : ∀ j w, j < i → vs[j]? = some w →
    ∃ f, indexOf (transport (before ++ indexUrls (vs.take j)) w.indexUrl) = .error f

/-- The courses of a search among `vs`, where `before` has been asked for before. -/
inductive Course (decode : Image.Decoder) (transport : Transport) (before : List String)
    (vs : List SpriteVariant) : SpriteSearch → Prop
  | found {i : Nat} {v : SpriteVariant} {entries : Dictionary SpriteEntry} :
      Reaches transport before vs i v →
      indexOf (transport (before ++ indexUrls (vs.take i)) v.indexUrl) = .ok entries →
      Course decode transport before vs
        ⟨atlasOf decode v entries (transport (before ++ indexUrls (vs.take (i + 1))) v.imageUrl),
          before ++ indexUrls (vs.take (i + 1)) ++ [v.imageUrl]⟩
  | exhausted {i : Nat} {v : SpriteVariant} {f : IndexFailure} :
      Reaches transport before vs i v → vs.length = i + 1 →
      indexOf (transport (before ++ indexUrls (vs.take i)) v.indexUrl) = .error f →
      Course decode transport before vs
        ⟨.error (.spriteNotFound v.indexUrl f), before ++ indexUrls (vs.take (i + 1))⟩

variable {decode : Image.Decoder} {transport : Transport} {before : List String}
  {vs : List SpriteVariant} {v w : SpriteVariant} {s : SpriteSearch} {i j : Nat}

theorem append_indexUrls_take (n : Nat) :
    before ++ [v.indexUrl] ++ indexUrls (vs.take n) =
      before ++ indexUrls ((v :: vs).take (n + 1)) := by
  rw [List.take_succ_cons, indexUrls, indexUrls, List.map_cons, List.append_assoc]
  rfl

theorem reaches_zero : Reaches transport before (v :: vs) 0 v :=
  ⟨rfl, fun j _ hj => absurd hj (Nat.not_lt_zero j)⟩

/-- Behind a variant without an index the search goes on as it would have begun there. -/
theorem Reaches.later {f : IndexFailure} (hv : indexOf (transport before v.indexUrl) = .error f)
    (h : Reaches transport (before ++ [v.indexUrl]) vs i w) :
    Reaches transport before (v :: vs) (i + 1) w := by
  refine ⟨h.here, fun j x hj hx => ?_⟩
  cases j with
  | zero =>
    obtain rfl : v = x := by simpa using hx
    exact ⟨f, by simpa [indexUrls] using hv⟩
  | succ j =>
    rw [← append_indexUrls_take]
    exact h.failed j x (by omega) hx

theorem Course.later {f : IndexFailure} (hv : indexOf (transport before v.indexUrl) = .error f)
    (h : Course decode transport (before ++ [v.indexUrl]) vs s) :
    Course decode transport before (v :: vs) s := by
  cases h with
  | found hreach hindex =>
    rw [append_indexUrls_take] at hindex ⊢
    exact .found (hreach.later hv) hindex
  | exhausted hreach hlength hindex =>
    rw [append_indexUrls_take] at hindex ⊢
    exact .exhausted (hreach.later hv) (by rw [List.length_cons, hlength]) hindex

/-- A search takes one of the two courses. -/
theorem readVariants_course (decode : Image.Decoder) (transport : Transport)
    (before : List String) (v : SpriteVariant) (others : List SpriteVariant) :
    Course decode transport before (v :: others)
      (readVariants decode transport before v others) := by
  -- Every variant that is passed over adds one request to `before`.
  induction others generalizing before v with
  | nil =>
    rw [readVariants]
    cases hindex : indexOf (transport before v.indexUrl) with
    | ok entries => exact .found reaches_zero (by simpa [indexUrls] using hindex)
    | error f => exact .exhausted reaches_zero rfl (by simpa [indexUrls] using hindex)
  | cons next more ih =>
    rw [readVariants]
    cases hindex : indexOf (transport before v.indexUrl) with
    | ok entries => exact .found reaches_zero (by simpa [indexUrls] using hindex)
    | error f => exact (ih (before ++ [v.indexUrl]) next).later hindex

/-! ### Single requests -/

/-- Request `k` is for the index of `v`, and `r` is what the answer to it holds. -/
def IndexAt (transport : Transport) (asked : List String) (k : Nat) (v : SpriteVariant)
    (r : Except IndexFailure (Dictionary SpriteEntry)) : Prop :=
  asked[k]? = some v.indexUrl ∧ indexOf (transport (asked.take k) v.indexUrl) = r

/-- Request `k` is for the image of `v`, and `r` is what the answer to it holds. -/
def ImageAt (decode : Image.Decoder) (transport : Transport) (asked : List String) (k : Nat)
    (v : SpriteVariant) (r : Except ImageFailure Image) : Prop :=
  asked[k]? = some v.imageUrl ∧ imageOf decode (transport (asked.take k) v.imageUrl) = r

variable {images : List String}

theorem length_indexUrls_take (h : vs[i]? = some v) :
    (indexUrls (vs.take (i + 1))).length = i + 1 := by
  have hi := (List.getElem?_eq_some_iff.mp h).1
  rw [indexUrls, List.length_map, List.length_take]
  omega

theorem getElem?_indexUrls_take (h : vs[i]? = some v) (hj : j ≤ i) :
    (indexUrls (vs.take (i + 1)) ++ images)[j]? = vs[j]?.map SpriteVariant.indexUrl := by
  rw [List.getElem?_append_left (by rw [length_indexUrls_take h]; omega), indexUrls,
    List.getElem?_map, List.getElem?_take_of_lt (by omega)]

theorem take_indexUrls_take (h : vs[i]? = some v) (hj : j ≤ i + 1) :
    (indexUrls (vs.take (i + 1)) ++ images).take j = indexUrls (vs.take j) := by
  rw [List.take_append_of_le_length (by rw [length_indexUrls_take h]; exact hj), indexUrls,
    indexUrls, ← List.map_take, List.take_take, Nat.min_eq_left hj]

/-- Up to the variant that the search came to, request `j` is for the index of variant `j`. -/
theorem indexAt_iff (h : vs[i]? = some v) (hj : j ≤ i) (hw : vs[j]? = some w)
    {r : Except IndexFailure (Dictionary SpriteEntry)} :
    IndexAt transport (indexUrls (vs.take (i + 1)) ++ images) j w r ↔
      indexOf (transport (indexUrls (vs.take j)) w.indexUrl) = r := by
  rw [IndexAt, getElem?_indexUrls_take h hj, hw, take_indexUrls_take h (by omega)]
  exact ⟨And.right, fun hr => ⟨rfl, hr⟩⟩

theorem getElem?_image (h : vs[i]? = some v) (url : String) :
    (indexUrls (vs.take (i + 1)) ++ [url])[i + 1]? = some url := by
  rw [List.getElem?_append_right (Nat.le_of_eq (length_indexUrls_take h)),
    length_indexUrls_take h, Nat.sub_self]
  rfl

theorem Reaches.indexAt (h : Reaches transport [] vs i v) (images : List String) (hj : j < i)
    (hw : vs[j]? = some w) :
    ∃ f, IndexAt transport (indexUrls (vs.take (i + 1)) ++ images) j w (.error f) := by
  obtain ⟨f, hf⟩ := h.failed j w hj hw
  exact ⟨f, (indexAt_iff h.here (by omega) hw).mpr hf⟩

/-! ### The rules -/

/-- The rules for the requests of a search among `vs`. -/
structure Orderly (transport : Transport) (vs : List SpriteVariant) (asked : List String) :
    Prop where
  /-- Nothing but indices and images of the variants is asked for. -/
  known : ∀ url ∈ asked, ∃ v ∈ vs, url = v.indexUrl ∨ url = v.imageUrl
  /-- The indices are asked for in order, each after all before it failed. -/
  index : ∀ k, ∀ v ∈ vs, asked[k]? = some v.indexUrl →
    vs[k]? = some v ∧
      ∀ j < k, ∃ w f, vs[j]? = some w ∧ IndexAt transport asked j w (.error f)
  /-- An image is asked for right after its own index was read, and nothing follows it. -/
  image : ∀ k, ∀ v ∈ vs, asked[k]? = some v.imageUrl →
    ∃ i entries, k = i + 1 ∧ vs[i]? = some v ∧ IndexAt transport asked i v (.ok entries) ∧
      asked.length = k + 1
  once : asked.Nodup

/-- What the result of a search says about its requests. -/
structure Reported (decode : Image.Decoder) (transport : Transport) (vs : List SpriteVariant)
    (s : SpriteSearch) : Prop where
  /-- There is an atlas just if the last request was for an image and the answer held it. -/
  ok_iff : ∀ atlas, s.result = .ok atlas ↔
    ∃ i v entries image, vs[i]? = some v ∧ s.asked.length = i + 2 ∧
      IndexAt transport s.asked i v (.ok entries) ∧
      ImageAt decode transport s.asked (i + 1) v (.ok image) ∧
      atlas = ⟨entries, some image, Float32.ofNat v.scale, some v.baseUrl⟩
  /-- An image that cannot be had is named. -/
  image_iff : ∀ url f, s.result = .error (.spriteImage url f) ↔
    ∃ k, ∃ v ∈ vs, ImageAt decode transport s.asked k v (.error f) ∧ url = v.imageUrl
  /-- If there is no index at all, the last one is named. -/
  notFound_iff : ∀ url f, s.result = .error (.spriteNotFound url f) ↔
    (∀ j w, vs[j]? = some w → ∃ g, IndexAt transport s.asked j w (.error g)) ∧
      ∃ i v, vs[i]? = some v ∧ vs.length = i + 1 ∧ IndexAt transport s.asked i v (.error f) ∧
        url = v.indexUrl
  /-- Nothing else can go wrong. -/
  error : ∀ e, s.result = .error e →
    (∃ url f, e = .spriteImage url f) ∨ ∃ url f, e = .spriteNotFound url f

/-! ### The rules are kept -/

/-- Each request is for the index of the variant in its place, or for the image at the end. -/
theorem getElem?_eq_some (h : vs[i]? = some v) (himages : images = [] ∨ images = [v.imageUrl])
    {k : Nat} {url : String}
    (hk : (indexUrls (vs.take (i + 1)) ++ images)[k]? = some url) :
    (k ≤ i ∧ ∃ w, vs[k]? = some w ∧ url = w.indexUrl) ∨
      (k = i + 1 ∧ url = v.imageUrl ∧ images = [v.imageUrl]) := by
  by_cases hki : k ≤ i
  · rw [getElem?_indexUrls_take h hki] at hk
    obtain ⟨w, hw, rfl⟩ := Option.map_eq_some_iff.mp hk
    exact .inl ⟨hki, w, hw, rfl⟩
  · have hlength := (List.getElem?_eq_some_iff.mp hk).1
    rw [List.length_append, length_indexUrls_take h] at hlength
    rcases himages with rfl | rfl
    · exact absurd hlength (by simp only [List.length_nil]; omega)
    · obtain rfl : k = i + 1 := by simp only [List.length_singleton] at hlength; omega
      rw [getElem?_image h] at hk
      exact .inr ⟨rfl, (Option.some.inj hk).symm, rfl⟩

/-- A request that is for an image is the last, and for the image of the variant that the
search came to. -/
theorem eq_of_getElem?_eq_imageUrl (hd : SpriteVariant.Distinct vs) (h : vs[i]? = some v)
    (himages : images = [] ∨ images = [v.imageUrl]) {k : Nat} (hw : w ∈ vs)
    (hk : (indexUrls (vs.take (i + 1)) ++ images)[k]? = some w.imageUrl) :
    k = i + 1 ∧ w = v ∧ images = [v.imageUrl] := by
  rcases getElem?_eq_some h himages hk with ⟨-, x, hx, hurl⟩ | ⟨rfl, hurl, hlast⟩
  · exact absurd hurl (hd.image_ne_index w hw x (List.mem_of_getElem? hx))
  · exact ⟨rfl, hd.image_inj w hw v (List.mem_of_getElem? h) hurl, hlast⟩

theorem nodup_indexUrls_take (hd : SpriteVariant.Distinct vs) (n : Nat) :
    (indexUrls (vs.take n)).Nodup := by
  rw [indexUrls, List.Nodup, List.pairwise_map]
  have htake : (vs.take n).Nodup := hd.nodup.sublist (List.take_sublist n vs)
  refine htake.imp_of_mem fun {a b} ha hb hne heq => hne ?_
  exact hd.index_inj a (List.mem_of_mem_take ha) b (List.mem_of_mem_take hb) heq

theorem orderly_of_reaches (hd : SpriteVariant.Distinct vs) (h : Reaches transport [] vs i v)
    (himages : images = [] ∨ images = [v.imageUrl] ∧
      ∃ entries, indexOf (transport (indexUrls (vs.take i)) v.indexUrl) = .ok entries) :
    Orderly transport vs (indexUrls (vs.take (i + 1)) ++ images) := by
  have hlast : images = [] ∨ images = [v.imageUrl] := himages.imp_right And.left
  have hv : v ∈ vs := List.mem_of_getElem? h.here
  -- Each rule asks which request `k` is; the URLs being different, it can be only one thing.
  refine ⟨fun url hurl => ?_, fun k w hw hk => ?_, fun k w hw hk => ?_, ?_⟩
  · obtain ⟨k, hk⟩ := List.mem_iff_getElem?.mp hurl
    rcases getElem?_eq_some h.here hlast hk with ⟨-, w, hw, rfl⟩ | ⟨-, rfl, -⟩
    · exact ⟨w, List.mem_of_getElem? hw, .inl rfl⟩
    · exact ⟨v, hv, .inr rfl⟩
  · rcases getElem?_eq_some h.here hlast hk with ⟨hki, x, hx, hurl⟩ | ⟨-, hurl, -⟩
    · obtain rfl := hd.index_inj w hw x (List.mem_of_getElem? hx) hurl
      refine ⟨hx, fun j hj => ?_⟩
      have hlength := (List.getElem?_eq_some_iff.mp hx).1
      have hjx : vs[j]? = some vs[j] := List.getElem?_eq_getElem (by omega)
      obtain ⟨f, hf⟩ := h.indexAt images (show j < i by omega) hjx
      exact ⟨_, f, hjx, hf⟩
    · exact absurd hurl.symm (hd.image_ne_index v hv w hw)
  · obtain ⟨rfl, rfl, hone⟩ := eq_of_getElem?_eq_imageUrl hd h.here hlast hw hk
    rcases himages with hnone | ⟨-, entries, hentries⟩
    · exact absurd (hnone.symm.trans hone) (by simp)
    · refine ⟨i, entries, rfl, h.here, (indexAt_iff h.here (Nat.le_refl i) h.here).mpr hentries, ?_⟩
      rw [hone, List.length_append, length_indexUrls_take h.here]
      rfl
  -- The indices differ among themselves, and the image from all of them.
  · have hindices := nodup_indexUrls_take hd (i + 1)
    rcases hlast with rfl | rfl
    · rwa [List.append_nil]
    · refine List.nodup_append.mpr ⟨hindices, by simp, fun a ha b hb heq => ?_⟩
      rw [List.mem_singleton] at hb
      obtain ⟨w, hw, hurl⟩ := List.mem_map.mp ha
      exact hd.image_ne_index v hv w (List.mem_of_mem_take hw) (by rw [← hb, ← heq, hurl])

theorem orderly_of_course (hd : SpriteVariant.Distinct vs) (h : Course decode transport [] vs s) :
    Orderly transport vs s.asked := by
  cases h with
  | found hreach hindex => exact orderly_of_reaches hd hreach (.inr ⟨rfl, _, hindex⟩)
  | @exhausted i v f hreach hlength hindex =>
    have horderly : Orderly transport vs (indexUrls (vs.take (i + 1)) ++ []) :=
      orderly_of_reaches hd hreach (.inl rfl)
    rwa [List.append_nil] at horderly

/-! ### The result reports the requests -/

theorem IndexAt.unique {k : Nat} {r r' : Except IndexFailure (Dictionary SpriteEntry)}
    (h : IndexAt transport images k v r) (h' : IndexAt transport images k v r') : r = r' :=
  h.2.symm.trans h'.2

/-- Once an index has been read, the request behind it is the only one for an image. -/
theorem imageAt_iff (hd : SpriteVariant.Distinct vs) (h : vs[i]? = some v) (hw : w ∈ vs) {k : Nat}
    {r : Except ImageFailure Image} :
    ImageAt decode transport (indexUrls (vs.take (i + 1)) ++ [v.imageUrl]) k w r ↔
      k = i + 1 ∧ w = v ∧
        imageOf decode (transport (indexUrls (vs.take (i + 1))) v.imageUrl) = r := by
  constructor
  · rintro ⟨hk, hr⟩
    obtain ⟨rfl, rfl, -⟩ := eq_of_getElem?_eq_imageUrl hd h (.inr rfl) hw hk
    rw [take_indexUrls_take h (Nat.le_refl _)] at hr
    exact ⟨rfl, rfl, hr⟩
  · rintro ⟨rfl, rfl, hr⟩
    refine ⟨getElem?_image h _, ?_⟩
    rw [take_indexUrls_take h (Nat.le_refl _)]
    exact hr

/-- As long as no index has been read, no request is for an image. -/
theorem not_imageAt (hd : SpriteVariant.Distinct vs) (h : vs[i]? = some v) (hw : w ∈ vs) {k : Nat}
    {r : Except ImageFailure Image} :
    ¬ ImageAt decode transport (indexUrls (vs.take (i + 1))) k w r := by
  rintro ⟨hk, -⟩
  rw [← List.append_nil (indexUrls _)] at hk
  obtain ⟨-, -, himages⟩ := eq_of_getElem?_eq_imageUrl hd h (.inl rfl) hw hk
  exact absurd himages (by simp)

/-- Not all variants are without an index if one of them was read. -/
theorem not_all_failed {asked : List String} {entries : Dictionary SpriteEntry}
    (h : vs[i]? = some v) (hread : IndexAt transport asked i v (.ok entries)) :
    ¬ ∀ j w, vs[j]? = some w → ∃ g, IndexAt transport asked j w (.error g) := by
  intro hall
  obtain ⟨g, hg⟩ := hall i v h
  exact absurd (hread.unique hg) (by simp)

section Found

variable {entries : Dictionary SpriteEntry}

/-- The report of a search that found an index and its image. -/
theorem reported_of_image (hd : SpriteVariant.Distinct vs) (h : vs[i]? = some v)
    (hread : IndexAt transport (indexUrls (vs.take (i + 1)) ++ [v.imageUrl]) i v (.ok entries))
    {image : Image}
    (himage : imageOf decode (transport (indexUrls (vs.take (i + 1))) v.imageUrl) = .ok image) :
    Reported decode transport vs ⟨.ok ⟨entries, some image, Float32.ofNat v.scale, some v.baseUrl⟩,
      indexUrls (vs.take (i + 1)) ++ [v.imageUrl]⟩ := by
  have hv : v ∈ vs := List.mem_of_getElem? h
  refine ⟨fun atlas => ⟨fun hok => ?_, ?_⟩, fun url f => ⟨fun hf => ?_, ?_⟩,
    fun url f => ⟨fun hf => ?_, fun hf => absurd hf.1 (not_all_failed h hread)⟩, fun e he => ?_⟩
  · refine ⟨i, v, entries, image, h, ?_, hread, ?_, (Except.ok.inj hok).symm⟩
    · rw [List.length_append, length_indexUrls_take h]
      rfl
    · exact (imageAt_iff hd h hv).mpr ⟨rfl, rfl, himage⟩
  -- There is only one request for an image, so the variant is the one that was found.
  · rintro ⟨j, w, entries', image', hw, -, hread', himage', rfl⟩
    obtain ⟨hj, rfl, hr⟩ := (imageAt_iff hd h (List.mem_of_getElem? hw)).mp himage'
    obtain rfl : j = i := by omega
    obtain rfl := Except.ok.inj (hread.unique hread')
    obtain rfl := Except.ok.inj (himage.symm.trans hr)
    rfl
  · exact absurd hf (by simp)
  · rintro ⟨k, w, hw, hf, -⟩
    obtain ⟨-, -, hr⟩ := (imageAt_iff hd h hw).mp hf
    exact absurd (himage.symm.trans hr) (by simp)
  · exact absurd hf (by simp)
  · exact absurd he (by simp)

/-- The report of a search that found an index whose image cannot be had. -/
theorem reported_of_no_image (hd : SpriteVariant.Distinct vs) (h : vs[i]? = some v)
    (hread : IndexAt transport (indexUrls (vs.take (i + 1)) ++ [v.imageUrl]) i v (.ok entries))
    {f : ImageFailure}
    (himage : imageOf decode (transport (indexUrls (vs.take (i + 1))) v.imageUrl) = .error f) :
    Reported decode transport vs
      ⟨.error (.spriteImage v.imageUrl f), indexUrls (vs.take (i + 1)) ++ [v.imageUrl]⟩ := by
  have hv : v ∈ vs := List.mem_of_getElem? h
  refine ⟨fun atlas => ⟨fun hok => ?_, ?_⟩, fun url g => ⟨fun hg => ?_, ?_⟩,
    fun url g => ⟨fun hg => ?_, fun hg => absurd hg.1 (not_all_failed h hread)⟩, fun e he => ?_⟩
  · exact absurd hok (by simp)
  · rintro ⟨j, w, entries', image, hw, -, -, himage', -⟩
    obtain ⟨-, -, hr⟩ := (imageAt_iff hd h (List.mem_of_getElem? hw)).mp himage'
    exact absurd (himage.symm.trans hr) (by simp)
  · obtain ⟨hurl, hfg⟩ := StyleError.spriteImage.inj (Except.error.inj hg)
    rw [hfg] at himage
    exact ⟨i + 1, v, hv, (imageAt_iff hd h hv).mpr ⟨rfl, rfl, himage⟩, hurl.symm⟩
  · rintro ⟨k, w, hw, hg, rfl⟩
    obtain ⟨-, rfl, hr⟩ := (imageAt_iff hd h hw).mp hg
    obtain rfl := Except.error.inj (himage.symm.trans hr)
    rfl
  · exact absurd hg (by simp)
  · exact .inl ⟨_, _, (Except.error.inj he).symm⟩

theorem reported_of_found (hd : SpriteVariant.Distinct vs) (h : Reaches transport [] vs i v)
    (hindex : indexOf (transport (indexUrls (vs.take i)) v.indexUrl) = .ok entries) :
    Reported decode transport vs
      ⟨atlasOf decode v entries (transport (indexUrls (vs.take (i + 1))) v.imageUrl),
        indexUrls (vs.take (i + 1)) ++ [v.imageUrl]⟩ := by
  have hread : IndexAt transport (indexUrls (vs.take (i + 1)) ++ [v.imageUrl]) i v (.ok entries) :=
    (indexAt_iff h.here (Nat.le_refl i) h.here).mpr hindex
  rw [atlasOf]
  cases himage : imageOf decode (transport (indexUrls (vs.take (i + 1))) v.imageUrl) with
  | ok image => exact reported_of_image hd h.here hread himage
  | error f => exact reported_of_no_image hd h.here hread himage

end Found

/-- The report of a search in which no variant had an index. -/
theorem reported_of_exhausted (hd : SpriteVariant.Distinct vs) (h : Reaches transport [] vs i v)
    (hlength : vs.length = i + 1) {f : IndexFailure}
    (hindex : indexOf (transport (indexUrls (vs.take i)) v.indexUrl) = .error f) :
    Reported decode transport vs
      ⟨.error (.spriteNotFound v.indexUrl f), indexUrls (vs.take (i + 1))⟩ := by
  have hfailed : ∀ j w, vs[j]? = some w → j < i →
      ∃ g, IndexAt transport (indexUrls (vs.take (i + 1))) j w (.error g) := by
    intro j w hw hj
    obtain ⟨g, hg⟩ := h.indexAt [] hj hw
    exact ⟨g, by rwa [List.append_nil] at hg⟩
  have hlast : IndexAt transport (indexUrls (vs.take (i + 1))) i v (.error f) := by
    have hread : IndexAt transport (indexUrls (vs.take (i + 1)) ++ []) i v (.error f) :=
      (indexAt_iff h.here (Nat.le_refl i) h.here).mpr hindex
    rwa [List.append_nil] at hread
  refine ⟨fun atlas => ⟨fun hok => ?_, ?_⟩, fun url f' => ⟨fun hf => ?_, ?_⟩,
    fun url f' => ⟨fun hf => ?_, ?_⟩, fun e he => ?_⟩
  · exact absurd hok (by simp)
  · rintro ⟨j, w, entries, image, hw, -, -, himage, -⟩
    exact absurd himage (not_imageAt hd h.here (List.mem_of_getElem? hw))
  · exact absurd hf (by simp)
  · rintro ⟨k, w, hw, hf, -⟩
    exact absurd hf (not_imageAt hd h.here hw)
  · obtain ⟨hurl, rfl⟩ := StyleError.spriteNotFound.inj (Except.error.inj hf)
    refine ⟨fun j w hw => ?_, i, v, h.here, hlength, hlast, hurl.symm⟩
    have hj : j < vs.length := (List.getElem?_eq_some_iff.mp hw).1
    -- The variants before the last were passed over, and the last has failed as well.
    rcases Nat.lt_or_ge j i with hlt | hge
    · exact hfailed j w hw hlt
    · obtain rfl : j = i := by omega
      obtain rfl := Option.some.inj (h.here.symm.trans hw)
      exact ⟨f, hlast⟩
  · rintro ⟨-, j, w, hw, hj, hread, rfl⟩
    obtain rfl : j = i := by omega
    obtain rfl := Option.some.inj (h.here.symm.trans hw)
    obtain rfl := Except.error.inj (hlast.unique hread)
    rfl
  · exact .inr ⟨_, _, (Except.error.inj he).symm⟩

theorem reported_of_course (hd : SpriteVariant.Distinct vs) (h : Course decode transport [] vs s) :
    Reported decode transport vs s := by
  cases h with
  | found hreach hindex => exact reported_of_found hd hreach hindex
  | exhausted hreach hlength hindex => exact reported_of_exhausted hd hreach hlength hindex

/-! ### The search for the sprite of a style -/

/-- The variants that are tried for a reference. -/
def variantsOf (options : Options) (reference : String) : List SpriteVariant :=
  variants (locate reference options.directory options.token) options.density

theorem findBy_of_blank {options : Options} {sprite : Option String}
    (h : ∀ text, sprite = some text → Text.trim text = "") :
    findBy decode transport options sprite = ⟨.ok .empty, []⟩ := by
  have hnone : reference? sprite = none := by
    rw [reference?, Option.filter_eq_none_iff]
    intro reference hreference
    obtain ⟨text, htext, rfl⟩ := Option.map_eq_some_iff.mp hreference
    rw [decide_eq_true_eq, Classical.not_not]
    exact h text htext
  rw [findBy, hnone]

theorem findBy_course (decode : Image.Decoder) (transport : Transport) (options : Options)
    {text : String} (h : Text.trim text ≠ "") :
    Course decode transport [] (variantsOf options (Text.trim text))
      (findBy decode transport options (some text)) := by
  have hsome : reference? (some text) = some (Text.trim text) := by
    rw [reference?, Option.map_some, Option.filter_some, if_pos (by simpa using h)]
  rw [findBy, hsome]
  exact readVariants_course ..

/-- **A search for a sprite is orderly, and its result reports what was asked for.**  A style
without a sprite has the empty atlas and asks for nothing. -/
theorem find_requests (decode : Image.Decoder) (transport : Transport) (options : Options)
    (sprite : Option String) :
    ((∀ text, sprite = some text → Text.trim text = "") →
      findBy decode transport options sprite = ⟨.ok .empty, []⟩) ∧
    ∀ text, sprite = some text → Text.trim text ≠ "" →
      Orderly transport (variantsOf options (Text.trim text))
        (findBy decode transport options sprite).asked ∧
      Reported decode transport (variantsOf options (Text.trim text))
        (findBy decode transport options sprite) := by
  refine ⟨findBy_of_blank, ?_⟩
  rintro text rfl htext
  have hd : SpriteVariant.Distinct (variantsOf options (Text.trim text)) :=
    distinct_variants _ _
  have hcourse := findBy_course decode transport options htext
  exact ⟨orderly_of_course hd hcourse, reported_of_course hd hcourse⟩

end MapStyle.Sprite
