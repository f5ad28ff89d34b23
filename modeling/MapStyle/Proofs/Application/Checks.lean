/-
What an application requires, and what it reports.

A style has to load, the layer has to be of a kind that can be styled, the style has to have
a source that the layer can take, and the sprite has to be found.  Whatever else may be wrong,
the first of these that fails gives the error.  Nothing is asked for before the first three
hold, and nothing is installed before all of them do.

* `StyleCall.Fits` — the conditions that are checked before anything is asked for;
* `StyleCall.FirstFault` — the first condition that fails, with its error;
* `firstFault_of_validate`, `Sprite.findBy_eq_error` — the errors of the checks and of the search;
* `MapLayer.call_checks` — an application succeeds if every condition holds, and otherwise
  reports the first that fails.
-/
import MapStyle.Proofs.Application.History
import MapStyle.Proofs.Sprite.Requests

namespace MapStyle

/-! ### The conditions -/

namespace StyleCall

/-- What is checked before anything is asked for: `style` is what loads, a layer of this kind can
be styled, and the named source is there and can feed the layer. -/
structure Fits (target : Target) (c : StyleCall) (style : Style) : Prop where
  loads : Style.load c.request.style = .ok style
  hosts : target.kind.hostsStyle = true
  fed : ∃ source, style.sources.find? c.request.source = some source ∧
    target.sourceKind.accepts source.type = true

/-- The first condition that fails, with its error: the style does not load, the layer cannot be
styled, the source is not there or cannot feed the layer, or the sprite is not found. -/
inductive FirstFault (target : Target) (c : StyleCall) : StyleError → Prop
  | malformed {fault : Malformation} :
      Style.load c.request.style = .error (.malformed fault) →
      FirstFault target c (.malformed fault)
  | version {found : Json} :
      Style.load c.request.style = .error (.unsupportedVersion found) →
      FirstFault target c (.unsupportedVersion found)
  | layer {style : Style} :
      Style.load c.request.style = .ok style → target.kind.hostsStyle = false →
      FirstFault target c (.unsupportedLayer target.kind)
  | noSource {style : Style} :
      Style.load c.request.style = .ok style → target.kind.hostsStyle = true →
      style.sources.find? c.request.source = none →
      FirstFault target c (.sourceMismatch c.request.source target.sourceKind none)
  | otherSource {style : Style} {source : Source} :
      Style.load c.request.style = .ok style → target.kind.hostsStyle = true →
      style.sources.find? c.request.source = some source →
      target.sourceKind.accepts source.type = false →
      FirstFault target c (.sourceMismatch c.request.source target.sourceKind (some source.type))
  | noSprite {style : Style} {url : String} {failure : IndexFailure} :
      Fits target c style → (c.search style).result = .error (.spriteNotFound url failure) →
      FirstFault target c (.spriteNotFound url failure)
  | noImage {style : Style} {url : String} {failure : ImageFailure} :
      Fits target c style → (c.search style).result = .error (.spriteImage url failure) →
      FirstFault target c (.spriteImage url failure)

variable {target : Target} {c : StyleCall} {style : Style} {e : StyleError}

theorem Fits.validate (h : c.Fits target style) :
    ∃ source, Style.validate c.request.style target c.request.source =
      .ok ⟨style, c.request.source, source⟩ := by
  obtain ⟨source, hsource⟩ := h.fed
  refine ⟨source, Style.validate_eq_ok_iff.mpr ⟨h.loads, h.hosts, ?_, rfl⟩⟩
  exact Style.sourceFor_eq_ok_iff.mpr hsource

theorem fits_of_validate {valid : ValidStyle}
    (h : Style.validate c.request.style target c.request.source = .ok valid) :
    c.Fits target valid.style := by
  obtain ⟨hload, hhosts, hsource, -⟩ := Style.validate_eq_ok_iff.mp h
  exact ⟨hload, hhosts, valid.source, Style.sourceFor_eq_ok_iff.mp hsource⟩

/-- What the checks report is the first fault. -/
theorem firstFault_of_validate
    (h : Style.validate c.request.style target c.request.source = .error e) :
    c.FirstFault target e := by
  rcases Style.validate_eq_error_iff.mp h with hload | ⟨style, hload, hlayer | ⟨hhosts, hsource⟩⟩
  · rcases Style.load_eq_error hload with ⟨fault, rfl⟩ | ⟨found, rfl⟩
    · exact .malformed hload
    · exact .version hload
  · obtain ⟨hhosts, rfl⟩ := Style.checkLayer_eq_error_iff.mp hlayer
    exact .layer hload hhosts
  · rcases Style.sourceFor_eq_error_iff.mp hsource with
      ⟨hnone, rfl⟩ | ⟨source, hfound, haccepts, rfl⟩
    · exact .noSource hload hhosts hnone
    · exact .otherSource hload hhosts hfound haccepts

end StyleCall

/-- A search that fails has found no index, or no image for its index. -/
theorem Sprite.findBy_eq_error {decode : Image.Decoder} {transport : Transport}
    {options : Sprite.Options} {sprite : Option String} {e : StyleError}
    (h : (findBy decode transport options sprite).result = .error e) :
    (∃ url failure, e = .spriteNotFound url failure) ∨
      ∃ url failure, e = .spriteImage url failure := by
  by_cases hblank : ∀ text, sprite = some text → Text.trim text = ""
  · rw [findBy_of_blank hblank] at h
    cases h
  · obtain ⟨text, hblank⟩ := Classical.not_forall.mp hblank
    obtain ⟨rfl, htext⟩ := Classical.not_imp.mp hblank
    have hreported : Reported decode transport (variantsOf options (Text.trim text))
        (findBy decode transport options (some text)) :=
      reported_of_course (distinct_variants _ _) (findBy_course decode transport options htext)
    exact (hreported.error e h).symm

/-! ### An application -/

namespace MapLayer

variable {layer : MapLayer} {c : StyleCall} {style : Style} {e : StyleError}

/-- Without a style that fits, nothing is asked for and the layer stays as it is. -/
theorem call_of_error
    (h : Style.validate c.request.style layer.target c.request.source = .error e) :
    layer.call c = ⟨layer, .error e, []⟩ := by
  rw [call, applyBy, h]

/-- With a style that fits, the search for its sprite decides. -/
theorem call_of_fits (h : c.Fits layer.target style) :
    ∃ source, layer.call c =
      layer.install ⟨style, c.request.source, source⟩ c.options.resolutions (c.search style) := by
  obtain ⟨source, hvalid⟩ := h.validate
  refine ⟨source, ?_⟩
  rw [call, applyBy, hvalid]
  rfl

/-- What an application of a style that fits reports, asks for and leaves behind. -/
structure Searches (layer : MapLayer) (c : StyleCall) (style : Style) (a : Application) :
    Prop where
  asked : a.asked = (c.search style).asked
  failed : ∀ e, (c.search style).result = .error e → a.result = .error e ∧ a.layer = layer
  found : ∀ atlas, (c.search style).result = .ok atlas →
    a.result = .ok () ∧
    a.layer = ⟨layer.target, some
      { BoundStyle.compile style c.request.source atlas with resolutions := c.options.resolutions }⟩

theorem searches_call (h : c.Fits layer.target style) : Searches layer c style (layer.call c) := by
  obtain ⟨source, hcall⟩ := call_of_fits h
  rw [hcall]
  refine ⟨install_asked .., fun e he => ?_, fun atlas hatlas => ?_⟩
  · rw [install, he]
    exact ⟨rfl, rfl⟩
  · rw [install, hatlas]
    exact ⟨rfl, rfl⟩

theorem call_of_firstFault (h : c.FirstFault layer.target e) :
    (layer.call c).result = .error e := by
  have hchecks (hvalid : Style.validate c.request.style layer.target c.request.source = .error e) :
      (layer.call c).result = .error e := by
    rw [call_of_error hvalid]
  cases h with
  | malformed hload => exact hchecks (Style.validate_eq_error_iff.mpr (.inl hload))
  | version hload => exact hchecks (Style.validate_eq_error_iff.mpr (.inl hload))
  | layer hload hhosts =>
    refine hchecks (Style.validate_eq_error_iff.mpr (.inr ⟨_, hload, .inl ?_⟩))
    exact Style.checkLayer_eq_error_iff.mpr ⟨hhosts, rfl⟩
  | noSource hload hhosts hnone =>
    refine hchecks (Style.validate_eq_error_iff.mpr (.inr ⟨_, hload, .inr ⟨hhosts, ?_⟩⟩))
    exact Style.sourceFor_eq_error_iff.mpr (.inl ⟨hnone, rfl⟩)
  | otherSource hload hhosts hfound haccepts =>
    refine hchecks (Style.validate_eq_error_iff.mpr (.inr ⟨_, hload, .inr ⟨hhosts, ?_⟩⟩))
    exact Style.sourceFor_eq_error_iff.mpr (.inr ⟨_, hfound, haccepts, rfl⟩)
  | noSprite hfits hsearch => exact ((searches_call hfits).failed _ hsearch).1
  | noImage hfits hsearch => exact ((searches_call hfits).failed _ hsearch).1

theorem firstFault_of_call (h : (layer.call c).result = .error e) :
    c.FirstFault layer.target e := by
  cases hvalid : Style.validate c.request.style layer.target c.request.source with
  | error e' =>
    rw [call_of_error hvalid] at h
    obtain rfl := Except.error.inj h
    exact StyleCall.firstFault_of_validate hvalid
  | ok valid =>
    have hfits := StyleCall.fits_of_validate hvalid
    have hsearches := searches_call hfits
    cases hsearch : (c.search valid.style).result with
    | ok atlas =>
      rw [(hsearches.found atlas hsearch).1] at h
      cases h
    | error e' =>
      rw [(hsearches.failed e' hsearch).1] at h
      obtain rfl := Except.error.inj h
      rcases Sprite.findBy_eq_error hsearch with ⟨url, failure, rfl⟩ | ⟨url, failure, rfl⟩
      · exact .noSprite hfits hsearch
      · exact .noImage hfits hsearch

theorem call_ok_iff :
    (layer.call c).result = .ok () ↔
      ∃ style atlas, c.Fits layer.target style ∧ (c.search style).result = .ok atlas := by
  constructor
  · intro hok
    obtain ⟨bound, hbinds⟩ := (keepsSlot_call layer c).succeeds_iff.mp hok
    cases hbinds with
    | intro hload hhosts hsource hsearch =>
      exact ⟨_, _, ⟨hload, hhosts, _, Style.sourceFor_eq_ok_iff.mp hsource⟩, hsearch⟩
  · rintro ⟨style, atlas, hfits, hsearch⟩
    exact ((searches_call hfits).found atlas hsearch).1

theorem fits_of_asked (h : (layer.call c).asked ≠ []) : ∃ style, c.Fits layer.target style := by
  cases hvalid : Style.validate c.request.style layer.target c.request.source with
  | error e =>
    rw [call_of_error hvalid] at h
    exact absurd rfl h
  | ok valid => exact ⟨valid.style, StyleCall.fits_of_validate hvalid⟩

theorem found_of_layer_ne (h : (layer.call c).layer ≠ layer) :
    ∃ style atlas, c.Fits layer.target style ∧ (c.search style).result = .ok atlas := by
  cases hresult : (layer.call c).result with
  | error e => exact absurd ((keepsSlot_call layer c).failed e hresult) h
  | ok => exact call_ok_iff.mp hresult

/-- **An application succeeds if every condition holds, and reports the first that fails.**  It
asks for something only if a style fits, and changes the layer only if its sprite has been found
too.  What it asks for then, reports and installs is decided by the search for the sprite. -/
theorem call_checks (layer : MapLayer) (c : StyleCall) :
    ((layer.call c).result = .ok () ↔
      ∃ style atlas, c.Fits layer.target style ∧ (c.search style).result = .ok atlas) ∧
    (∀ e, (layer.call c).result = .error e ↔ c.FirstFault layer.target e) ∧
    ((layer.call c).asked ≠ [] → ∃ style, c.Fits layer.target style) ∧
    ((layer.call c).layer ≠ layer →
      ∃ style atlas, c.Fits layer.target style ∧ (c.search style).result = .ok atlas) ∧
    ∀ style, c.Fits layer.target style → Searches layer c style (layer.call c) := by
  refine ⟨call_ok_iff, fun e => ?_, fits_of_asked, found_of_layer_ne, fun style => searches_call⟩
  exact ⟨firstFault_of_call, call_of_firstFault⟩

end MapLayer

end MapStyle
