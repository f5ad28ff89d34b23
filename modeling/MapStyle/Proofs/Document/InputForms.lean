/-
The forms in which a style is handed in.

A style comes as text, as a value or as it is.  The version of a value is looked at before its
shape and is then read with it, and a style as it is has only the version that was read.  The two
readings agree: a float or an integer that passes the check is read as the supported version, and
nothing else is read as that.  So all forms of a style are accepted together.

* `IsSupported` — the two ways to write the supported version;
* `checkVersion_eq_ok_iff_isSupported`, `version?_eq_iff` — what the check and the reading say;
* `loadValue_eq_ok_iff`, `loadValue_eq_unsupported_iff` — what becomes of a value;
* `load_forms` — the forms of one style are accepted or refused together.
-/
import MapStyle.Proofs.Decimal.Integer
import MapStyle.Proofs.Document.RoundTrip

namespace MapStyle

namespace Style

/-- The supported version, as an integer or as a float. -/
def IsSupported (found : Json) : Prop :=
  found = .number (.int supportedVersion) ∨
    found = .number (.float (Float.ofNat supportedVersion))

variable {found v : Json} {s t : Style} {n : Nat}

/-! ### The version -/

/-- The check accepts no other integer and no other float, however large. -/
theorem checkVersion_eq_ok_iff_isSupported : checkVersion found = .ok () ↔ IsSupported found := by
  rw [checkVersion_eq_ok_iff]
  constructor
  · intro h
    cases found with
    | number x =>
      cases x with
      | int k =>
        have hfloat : Float.ofInt k = Float.ofNat supportedVersion := Option.some.inj h
        have hbeq : (Float.ofInt k == Float.ofNat supportedVersion) = true := by
          rw [hfloat]
          rfl
        obtain rfl := (Decimal.ofInt_beq_ofNat_iff (by decide) (by decide)).mp hbeq
        exact Or.inl rfl
      | float x =>
        obtain rfl : x = Float.ofNat supportedVersion := Option.some.inj h
        exact Or.inr rfl
    | _ => cases h
  · rintro (rfl | rfl) <;> rfl

/-- What is read as the supported version is an integer or a float, too. -/
theorem version?_eq_iff : version? found = some supportedVersion ↔ IsSupported found := by
  constructor
  · intro h
    cases found with
    | number x =>
      cases x with
      | int k =>
        rw [version?] at h
        split at h
        · next hk =>
          have hnat : k.toNat = supportedVersion := Option.some.inj h
          rw [← Int.toNat_of_nonneg hk, hnat]
          exact Or.inl rfl
        · cases h
      | float x =>
        rw [version?] at h
        split at h
        · next k hwhole =>
          split at h
          · next hk =>
            -- The greatest version is read of all larger ones, and it is not the supported one.
            have hmin : min k.toNat maxVersion = supportedVersion := Option.some.inj h
            have hmax : maxVersion = 2 ^ 64 - 1 := rfl
            have hsupported : supportedVersion = 8 := rfl
            obtain rfl : k = 8 := by omega
            have hx : x ≠ -0.0 := by
              rintro rfl
              have hzero : Decimal.whole? (-0.0) = some 0 := by decide +kernel
              cases hzero.symm.trans hwhole
            obtain rfl := Decimal.ofInt_of_whole? hwhole (by decide) hx
            exact Or.inr rfl
          · cases h
        · cases h
    | _ => cases h
  · rintro (rfl | rfl) <;> rfl

/-- The version that is read with the shape of an object is its member. -/
theorem version?_of_ofJson? {members : List (String × Json)}
    (h : ofJson? (.object members) = some s) :
    version? (Json.orNull ((Json.object members).member? "version")) = some s.version := by
  obtain ⟨version, hversion, h⟩ := Option.bind_eq_some_iff.mp h
  obtain ⟨name, -, h⟩ := Option.bind_eq_some_iff.mp h
  obtain ⟨sources, -, h⟩ := Option.bind_eq_some_iff.mp h
  obtain ⟨layers, -, h⟩ := Option.bind_eq_some_iff.mp h
  obtain ⟨sprite, -, h⟩ := Option.bind_eq_some_iff.mp h
  obtain ⟨glyphs, -, h⟩ := Option.bind_eq_some_iff.mp h
  obtain rfl := Option.some.inj h
  obtain ⟨found, hfield, hfound⟩ := Option.bind_eq_some_iff.mp hversion
  have hmember : (Json.object members).member? "version" = some found := hfield
  rw [hmember]
  exact hfound

/-! ### Loading -/

theorem loadValue_eq_ok_iff :
    loadValue v = .ok s ↔ IsSupported (Json.orNull (v.member? "version")) ∧ ofJson? v = some s := by
  rw [loadValue, StyleError.bind_eq_ok_iff]
  constructor
  · rintro ⟨_, hversion, hshape⟩
    refine ⟨checkVersion_eq_ok_iff_isSupported.mp hversion, ?_⟩
    split at hshape
    · next style hstyle => rw [hstyle, Except.ok.inj hshape]
    · cases hshape
  · rintro ⟨hversion, hshape⟩
    exact ⟨(), checkVersion_eq_ok_iff_isSupported.mpr hversion, by rw [hshape]⟩

/-- Another version is told by itself, whatever the shape is. -/
theorem loadValue_eq_unsupported_iff :
    loadValue v = .error (.unsupportedVersion found) ↔
      found = Json.orNull (v.member? "version") ∧ ¬ IsSupported found := by
  rw [loadValue, StyleError.bind_eq_error_iff]
  constructor
  · rintro (hversion | ⟨_, -, hshape⟩)
    · obtain rfl := StyleError.unsupportedVersion.inj (checkVersion_eq_error hversion)
      refine ⟨rfl, fun hsupported => ?_⟩
      rw [checkVersion_eq_ok_iff_isSupported.mpr hsupported] at hversion
      cases hversion
    · split at hshape <;> cases hshape
  · rintro ⟨rfl, hversion⟩
    refine Or.inl ?_
    cases hcheck : checkVersion (Json.orNull (v.member? "version")) with
    | ok => exact absurd (checkVersion_eq_ok_iff_isSupported.mp hcheck) hversion
    | error e => rw [checkVersion_eq_error hcheck]

theorem load_typed_eq_ok_iff : load (.typed s) = .ok t ↔ s.version = supportedVersion ∧ t = s := by
  have hversion : checkVersion (.ofNat s.version) = .ok () ↔ s.version = supportedVersion := by
    rw [checkVersion_eq_ok_iff_isSupported, ← version?_eq_iff, Json.ofNat, version?,
      if_pos (Int.natCast_nonneg _), Int.toNat_natCast, Option.some_inj]
  rw [load, StyleError.bind_eq_ok_iff, ← hversion]
  constructor
  · rintro ⟨_, hcheck, h⟩
    exact ⟨hcheck, (Except.ok.inj h).symm⟩
  · rintro ⟨hcheck, rfl⟩
    exact ⟨(), hcheck, rfl⟩

/-- An object loads just if the style that it is loads, and both are the same. -/
theorem loadValue_object_eq_ok_iff {members : List (String × Json)} :
    loadValue (.object members) = .ok s ↔
      ofJson? (.object members) = some s ∧ load (.typed s) = .ok s := by
  rw [loadValue_eq_ok_iff, load_typed_eq_ok_iff, and_comm]
  refine and_congr_right fun hshape => ?_
  rw [← version?_eq_iff, version?_of_ofJson? hshape, Option.some_inj]
  exact (and_iff_left rfl).symm

/-- **All forms of a style are accepted together.**  An object is accepted just if the style that
it is would be, and that style is what is loaded; a text is what its value is, and malformed if it
has none; a value without the supported version is refused for its version alone. -/
theorem load_forms :
    (∀ members s, loadValue (.object members) = .ok s ↔
      ofJson? (.object members) = some s ∧ load (.typed s) = .ok s) ∧
    (∀ s t, load (.typed s) = .ok t → t = s) ∧
    (∀ text, Json.ofText? text = none → load (.text text) = .error (.malformed .notJson)) ∧
    (∀ text v, Json.ofText? text = some v → load (.text text) = load (.value v)) ∧
    ∀ v, load (.value v) = .error (.unsupportedVersion (Json.orNull (v.member? "version"))) ↔
      ¬ IsSupported (Json.orNull (v.member? "version")) := by
  refine ⟨fun members s => loadValue_object_eq_ok_iff, fun s t h => ?_, fun text h => ?_,
    fun text v h => ?_, fun v => ?_⟩
  · exact (load_typed_eq_ok_iff.mp h).2
  · rw [load, h]
  · rw [load, h]
    rfl
  · exact loadValue_eq_unsupported_iff.trans (and_iff_right rfl)

/-- A text that ends too early, another version in another shape, and a version with a point. -/
theorem load_forms_versions :
    load (.text "\x7b\"version\":7") = .error (.malformed .notJson) ∧
      load (.value (.object [("layers", .null), ("version", .number (.float 8.5))])) =
        .error (.unsupportedVersion (.number (.float 8.5))) ∧
      ∃ s, ofJson? (.object [("version", .number (.float 8.0))]) = some s ∧
        load (.typed s) = .ok s := by
  obtain ⟨hobject, -, hmalformed, -, hunsupported⟩ := load_forms
  refine ⟨hmalformed _ (Option.isNone_iff_eq_none.mp (by decide +kernel)), ?_, ?_⟩
  · refine (hunsupported (.object [("layers", .null), ("version", .number (.float 8.5))])).mpr ?_
    rintro (h | h)
    · cases h
    · have hfloat : (8.5 : Float) ≠ Float.ofNat supportedVersion := by decide +kernel
      exact hfloat (Number.float.inj (Json.number.inj h))
  · exact ⟨_, (hobject _ _).mp rfl⟩

end Style

end MapStyle
