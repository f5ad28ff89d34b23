/-
One layer of a map, and styles applied to it one after another.

The applications may differ in everything: what is applied, with which settings, who
answers the requests and what reads images.  What a layer shows in the end is the work of
one of them.

* `StyleCall` — an application with all that it depends on;
* `StyleCall.Binds` — the style that an application binds for a target;
* `MapLayer.call_cases` — an application installs what it binds, or changes nothing;
* `MapLayer.after`, `MapLayer.applications` — a run of applications, its last layer and
  what came of each;
* `MapLayer.KeepsSlot` — what an application may do to the slot of its layer;
* `MapLayer.installed_after_calls` — the last application to succeed decides.
-/
import MapStyle.Application

namespace MapStyle

/-- Whether the application installed a style. -/
def Application.succeeded (a : Application) : Bool := a.result.isOk

theorem Application.succeeded_eq_false {a : Application} (h : a.succeeded = false) :
    ∃ e, a.result = .error e := by
  cases hresult : a.result with
  | error e => exact ⟨e, rfl⟩
  | ok u =>
    rw [succeeded, hresult] at h
    exact absurd h Bool.true_eq_false.mp

/-- An application of a style, with its settings, whoever answers its requests and what reads the
image among the answers. -/
structure StyleCall where
  decode : Image.Decoder
  transport : Transport
  options : ApplyOptions
  request : StyleRequest

/-- The search for the sprite of a style that is being applied. -/
def StyleCall.search (c : StyleCall) (style : Style) : SpriteSearch :=
  Sprite.findBy c.decode c.transport (c.options.sprite c.request.directory) style.sprite

/-- The style that an application binds for a target: the one that was loaded, with the atlas
that was found for it and the resolutions of the settings. -/
inductive StyleCall.Binds (target : Target) (c : StyleCall) : BoundStyle → Prop
  | intro {style : Style} {source : Source} {atlas : Atlas} :
      Style.load c.request.style = .ok style →
      target.kind.hostsStyle = true →
      style.sourceFor target c.request.source = .ok source →
      (c.search style).result = .ok atlas →
      Binds target c
        { BoundStyle.compile style c.request.source atlas with resolutions := c.options.resolutions }

namespace MapLayer

variable {layer : MapLayer} {c : StyleCall}

/-- One application. -/
def call (layer : MapLayer) (c : StyleCall) : Application :=
  layer.applyBy c.decode c.transport c.options c.request

/-- What an application leaves behind if it succeeds, and if it fails. -/
inductive Outcome (layer : MapLayer) (c : StyleCall) : Application → Prop
  | installed {bound : BoundStyle} {asked : List String} :
      c.Binds layer.target bound → Outcome layer c ⟨⟨layer.target, some bound⟩, .ok (), asked⟩
  | failed {e : StyleError} {asked : List String} :
      (∀ bound, ¬ c.Binds layer.target bound) → Outcome layer c ⟨layer, .error e, asked⟩

/-- An application installs what it binds, or fails and changes nothing. -/
theorem call_cases (layer : MapLayer) (c : StyleCall) : Outcome layer c (layer.call c) := by
  rw [call, applyBy]
  cases hvalid : Style.validate c.request.style layer.target c.request.source with
  | error e =>
    refine .failed ?_
    -- What is bound would have passed the checks.
    rintro _ ⟨hload, hhosts, hsource, -⟩
    have hok : Style.validate c.request.style layer.target c.request.source =
        .ok ⟨_, c.request.source, _⟩ :=
      Style.validate_eq_ok_iff.mpr ⟨hload, hhosts, hsource, rfl⟩
    exact absurd (hvalid.symm.trans hok) (by simp)
  | ok valid =>
    obtain ⟨hload, hhosts, hsource, hname⟩ := Style.validate_eq_ok_iff.mp hvalid
    show Outcome layer c (layer.install valid c.options.resolutions (c.search valid.style))
    rw [install]
    cases hsearch : (c.search valid.style).result with
    | error e =>
      refine .failed ?_
      -- It is loaded only in one way, and then its sprite has been found.
      rintro _ ⟨hload', -, -, hsearch'⟩
      obtain rfl := Except.ok.inj (hload.symm.trans hload')
      exact absurd (hsearch.symm.trans hsearch') (by simp)
    | ok atlas =>
      rw [hname]
      exact .installed (.intro hload hhosts hsource hsearch)

theorem install_result (layer : MapLayer) (valid : ValidStyle) (resolutions : List Float)
    (search : SpriteSearch) :
    (layer.install valid resolutions search).result = search.result.map fun _ => () := by
  rw [install]
  cases search.result <;> rfl

theorem install_asked (layer : MapLayer) (valid : ValidStyle) (resolutions : List Float)
    (search : SpriteSearch) :
    (layer.install valid resolutions search).asked = search.asked := by
  rw [install]
  cases search.result <;> rfl

/-- The result of an application and its requests do not depend on what is installed. -/
theorem call_alone (layer : MapLayer) (c : StyleCall) :
    (layer.call c).result = ((ofTarget layer.target).call c).result ∧
      (layer.call c).asked = ((ofTarget layer.target).call c).asked := by
  rw [call, call, applyBy, applyBy, ofTarget]
  cases Style.validate c.request.style layer.target c.request.source with
  | error e => exact ⟨rfl, rfl⟩
  | ok valid =>
    constructor
    · exact (install_result ..).trans (install_result ..).symm
    · exact (install_asked ..).trans (install_asked ..).symm

/-- What an application may do to the slot of its layer. -/
structure KeepsSlot (layer : MapLayer) (c : StyleCall) (a : Application) : Prop where
  /-- If it fails, the layer is as it was. -/
  failed : ∀ e, a.result = .error e → a.layer = layer
  /-- If it succeeds, the layer shows what it binds. -/
  installed : a.result = .ok () →
    ∃ bound, c.Binds layer.target bound ∧ a.layer = ⟨layer.target, some bound⟩ ∧
      ∀ feature resolution, a.layer.paint? feature resolution = some (bound.paint feature resolution)
  succeeds_iff : a.result = .ok () ↔ ∃ bound, c.Binds layer.target bound
  /-- What the layer had does not matter to it. -/
  alone : a.result = ((ofTarget layer.target).call c).result ∧
    a.asked = ((ofTarget layer.target).call c).asked

theorem keepsSlot_call (layer : MapLayer) (c : StyleCall) : KeepsSlot layer c (layer.call c) := by
  have hcases := call_cases layer c
  have halone := call_alone layer c
  generalize layer.call c = a at hcases halone ⊢
  cases hcases with
  | installed hbinds =>
    refine ⟨fun e he => ?_, fun _ => ?_, ⟨fun _ => ⟨_, hbinds⟩, fun _ => rfl⟩, halone⟩
    · exact absurd he (by simp)
    · exact ⟨_, hbinds, rfl, fun feature resolution => rfl⟩
  | failed hnone =>
    refine ⟨fun e he => rfl, fun hok => ?_, ⟨fun hok => ?_, fun ⟨bound, hbinds⟩ => ?_⟩, halone⟩
    · exact absurd hok (by simp)
    · exact absurd hok (by simp)
    · exact absurd hbinds (hnone bound)

/-! ### Runs -/

/-- The layer after some applications. -/
def after (layer : MapLayer) (calls : List StyleCall) : MapLayer :=
  calls.foldl (fun l c => (l.call c).layer) layer

/-- What came of some applications, each to the layer that the ones before it left. -/
def applications (layer : MapLayer) : List StyleCall → List Application
  | [] => []
  | c :: later => layer.call c :: applications (layer.call c).layer later

theorem after_cons (layer : MapLayer) (c : StyleCall) (later : List StyleCall) :
    layer.after (c :: later) = (layer.call c).layer.after later := rfl

theorem getElem?_applications (layer : MapLayer) (calls : List StyleCall) (i : Nat) :
    (layer.applications calls)[i]? = calls[i]?.map fun c => (layer.after (calls.take i)).call c := by
  induction calls generalizing layer i with
  | nil => rfl
  | cons c later ih =>
    cases i with
    | zero => rfl
    | succ i =>
      rw [applications, List.getElem?_cons_succ, List.getElem?_cons_succ, List.take_succ_cons,
        after_cons]
      exact ih _ i

/-- What is installed after a run is what its last successful application installed. -/
theorem after_eq_last (layer : MapLayer) (calls : List StyleCall) :
    layer.after calls =
      ((layer.applications calls).filter Application.succeeded).getLast?.elim layer (·.layer) := by
  -- The others start from the layer that the first call left, so the layer is general.
  induction calls generalizing layer with
  | nil => rfl
  | cons c later ih =>
    rw [after_cons, ih, applications]
    cases hok : (layer.call c).succeeded with
    | true =>
      -- If none of the others succeeds, the first is the last success.
      rw [List.filter_cons_of_pos hok, List.getLast?_cons]
      generalize ((layer.call c).layer.applications later).filter _ = successes
      cases successes.getLast? <;> rfl
    | false =>
      obtain ⟨e, he⟩ := Application.succeeded_eq_false hok
      rw [List.filter_cons_of_neg (by rw [hok]; exact Bool.false_ne_true),
        (keepsSlot_call layer c).failed e he]

/-- **The last application to succeed decides what a layer shows.**  Every application of a run
keeps the rules of the slot, and without any success the layer stays as it was. -/
theorem installed_after_calls (layer : MapLayer) (calls : List StyleCall) :
    (∀ i, (layer.applications calls)[i]? =
      calls[i]?.map fun c => (layer.after (calls.take i)).call c) ∧
    (∀ i c a, calls[i]? = some c → (layer.applications calls)[i]? = some a →
      KeepsSlot (layer.after (calls.take i)) c a) ∧
    layer.after calls =
      ((layer.applications calls).filter Application.succeeded).getLast?.elim layer (·.layer) ∧
    ((∀ a ∈ layer.applications calls, ∃ e, a.result = .error e) → layer.after calls = layer) := by
  refine ⟨getElem?_applications layer calls, fun i c a hc ha => ?_, after_eq_last layer calls,
    fun hfail => ?_⟩
  · rw [getElem?_applications, hc] at ha
    obtain rfl := Option.some.inj ha
    exact keepsSlot_call _ c
  · have hnone : (layer.applications calls).filter Application.succeeded = [] := by
      refine List.filter_eq_nil_iff.mpr fun a ha => ?_
      obtain ⟨e, he⟩ := hfail a ha
      rw [Application.succeeded, he]
      exact Bool.false_ne_true
    rw [after_eq_last, hnone]
    rfl

end MapLayer

end MapStyle
