/-
Loading a style document and checking that it fits its target.

* `Style.load` — a document from text, from a value or as it is.  The version is
  looked at before the shape, so that a document of another version is told by it;
* `Style.validate` — the checks before anything is fetched: the document, the kind
  of the layer, and the source;
* `Style.validate_eq_ok_iff` — what passes them;
* `Style.validate_eq_error_iff` — what does not, with the first check that it fails at.
-/
import MapStyle.Error
import MapStyle.Json.Reader

namespace MapStyle

/-- The forms in which a style is handed in. -/
inductive StyleInput where
  | text (text : String)
  | value (v : Json)
  | typed (style : Style)

/-- A style that fits its target. -/
structure ValidStyle where
  style : Style
  sourceName : String
  source : Source

namespace Style

/-- Accepts the supported version, as an integer or as a float. -/
def checkVersion (found : Json) : Except StyleError Unit :=
  if (found.float?.map fun x => x == Float.ofNat supportedVersion).getD false then .ok ()
  else .error (.unsupportedVersion found)

/-- The style that a value is. -/
def loadValue (v : Json) : Except StyleError Style := do
  checkVersion (Json.orNull (v.member? "version"))
  match ofJson? v with
  | some style => .ok style
  | none => .error (.malformed .wrongShape)

/-- The style that is handed in. -/
def load : StyleInput → Except StyleError Style
  | .text text =>
    match Json.ofText? text with
    | some v => loadValue v
    | none => .error (.malformed .notJson)
  | .value v => loadValue v
  | .typed style => do
    checkVersion (.ofNat style.version)
    .ok style

/-- Whether a layer can be styled at all. -/
def checkLayer (target : Target) : Except StyleError Unit :=
  if target.kind.hostsStyle then .ok () else .error (.unsupportedLayer target.kind)

/-- The source of a style that is to feed a target. -/
def sourceFor (style : Style) (target : Target) (name : String) : Except StyleError Source :=
  match style.sources.find? name with
  | none => .error (.sourceMismatch name target.sourceKind none)
  | some source =>
    if target.sourceKind.accepts source.type then .ok source
    else .error (.sourceMismatch name target.sourceKind (some source.type))

/-- The style that is handed in, if it can style `target` from the source `name`. -/
def validate (input : StyleInput) (target : Target) (name : String) :
    Except StyleError ValidStyle := do
  let style ← load input
  checkLayer target
  let source ← style.sourceFor target name
  .ok ⟨style, name, source⟩

theorem checkVersion_eq_error {found : Json} {e : StyleError} (h : checkVersion found = .error e) :
    e = .unsupportedVersion found := by
  rw [checkVersion] at h
  split at h
  · cases h
  · exact (Except.error.inj h).symm

theorem loadValue_eq_error {v : Json} {e : StyleError} (h : loadValue v = .error e) :
    (∃ fault, e = .malformed fault) ∨ ∃ found, e = .unsupportedVersion found := by
  rcases StyleError.bind_eq_error_iff.mp h with hversion | ⟨_, -, hshape⟩
  · exact .inr ⟨_, checkVersion_eq_error hversion⟩
  · split at hshape
    · cases hshape
    · exact .inl ⟨_, (Except.error.inj hshape).symm⟩

/-- A style that does not load is malformed or of another version. -/
theorem load_eq_error {input : StyleInput} {e : StyleError} (h : load input = .error e) :
    (∃ fault, e = .malformed fault) ∨ ∃ found, e = .unsupportedVersion found := by
  cases input with
  | text text =>
    rw [load] at h
    split at h
    · exact loadValue_eq_error h
    · exact .inl ⟨_, (Except.error.inj h).symm⟩
  | value v => exact loadValue_eq_error h
  | typed style =>
    rcases StyleError.bind_eq_error_iff.mp h with hversion | ⟨_, -, hok⟩
    · exact .inr ⟨_, checkVersion_eq_error hversion⟩
    · cases hok

theorem checkLayer_eq_ok_iff {target : Target} :
    checkLayer target = .ok () ↔ target.kind.hostsStyle = true := by
  rw [checkLayer]
  split <;> simp_all

theorem checkLayer_eq_error_iff {target : Target} {e : StyleError} :
    checkLayer target = .error e ↔
      target.kind.hostsStyle = false ∧ e = .unsupportedLayer target.kind := by
  rw [checkLayer, eq_comm (a := e)]
  split <;> simp_all

section Source

variable {style : Style} {target : Target} {name : String} {source : Source} {e : StyleError}

theorem sourceFor_eq_ok_iff :
    style.sourceFor target name = .ok source ↔
      style.sources.find? name = some source ∧ target.sourceKind.accepts source.type = true := by
  rw [sourceFor]
  constructor
  · intro h
    split at h
    · cases h
    · next found hfound =>
      split at h
      · next haccepts =>
        obtain rfl := Except.ok.inj h
        exact ⟨hfound, haccepts⟩
      · cases h
  · rintro ⟨hfound, haccepts⟩
    simp only [hfound, haccepts, if_true]

theorem sourceFor_eq_error_iff :
    style.sourceFor target name = .error e ↔
      (style.sources.find? name = none ∧ e = .sourceMismatch name target.sourceKind none) ∨
      ∃ source, style.sources.find? name = some source ∧
        target.sourceKind.accepts source.type = false ∧
        e = .sourceMismatch name target.sourceKind (some source.type) := by
  rw [sourceFor]
  constructor
  · intro h
    split at h
    · next hnone => exact .inl ⟨hnone, (Except.error.inj h).symm⟩
    · next found hfound =>
      split at h
      · cases h
      · next haccepts =>
        exact .inr ⟨found, hfound, Bool.not_eq_true _ ▸ haccepts, (Except.error.inj h).symm⟩
  · rintro (⟨hnone, rfl⟩ | ⟨found, hfound, haccepts, rfl⟩)
    · simp only [hnone]
    · simp only [hfound, haccepts, Bool.false_eq_true, if_false]

end Source

/-- What fits a target has passed every check. -/
theorem validate_eq_ok_iff {input : StyleInput} {target : Target} {name : String}
    {valid : ValidStyle} :
    validate input target name = .ok valid ↔
      load input = .ok valid.style ∧ target.kind.hostsStyle = true ∧
        valid.style.sourceFor target name = .ok valid.source ∧ valid.sourceName = name := by
  rw [validate, StyleError.bind_eq_ok_iff]
  constructor
  · rintro ⟨style, hload, h⟩
    obtain ⟨_, hlayer, h⟩ := StyleError.bind_eq_ok_iff.mp h
    obtain ⟨source, hsource, h⟩ := StyleError.bind_eq_ok_iff.mp h
    obtain rfl := Except.ok.inj h
    exact ⟨hload, checkLayer_eq_ok_iff.mp hlayer, hsource, rfl⟩
  · rintro ⟨hload, hhosts, hsource, rfl⟩
    refine ⟨valid.style, hload, StyleError.bind_eq_ok_iff.mpr ⟨(), ?_, ?_⟩⟩
    · exact checkLayer_eq_ok_iff.mpr hhosts
    · exact StyleError.bind_eq_ok_iff.mpr ⟨valid.source, hsource, rfl⟩

/-- What does not fit a target has failed at the first of the checks that it does not pass. -/
theorem validate_eq_error_iff {input : StyleInput} {target : Target} {name : String}
    {e : StyleError} :
    validate input target name = .error e ↔
      load input = .error e ∨
      ∃ style, load input = .ok style ∧
        (checkLayer target = .error e ∨
          target.kind.hostsStyle = true ∧ style.sourceFor target name = .error e) := by
  rw [validate, StyleError.bind_eq_error_iff]
  refine or_congr_right (exists_congr fun style => and_congr_right fun _ => ?_)
  rw [StyleError.bind_eq_error_iff]
  refine or_congr_right ?_
  constructor
  · rintro ⟨_, hlayer, h⟩
    rcases StyleError.bind_eq_error_iff.mp h with hsource | ⟨_, -, hok⟩
    · exact ⟨checkLayer_eq_ok_iff.mp hlayer, hsource⟩
    · cases hok
  · rintro ⟨hhosts, hsource⟩
    exact ⟨(), checkLayer_eq_ok_iff.mpr hhosts, StyleError.bind_eq_error_iff.mpr (.inl hsource)⟩

end Style

end MapStyle
