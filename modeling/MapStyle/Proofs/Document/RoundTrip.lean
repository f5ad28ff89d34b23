/-
Style documents written and read again.

What is read of a document knows less than the document did: a type without a meaning is only
unknown, a zoom is a float, and what was left out has its default.  Once it has been written
nothing more is lost.  All that may change is how a property is read, and it is written as
before even then.

* `Source.IsRead`, `Layer.IsRead`, `Style.IsRead` — what holds of everything that was read;
* `Source.ofJson?_toJson` — a source is read as it was written;
* `Layer.reread`, `Style.reread` — the same with every property read again;
* `Layer.ofJson?_toJson`, `Layer.toJson_reread` — a layer is read like that, and written as before;
* `Style.loadValue_toJson` — and so is a style.
-/
import MapStyle.Document.Loading
import MapStyle.Proofs.Decimal.Order
import MapStyle.Proofs.StopFunction.Written

namespace MapStyle

/-! ### Fields -/

namespace Json

theorem isFinite_text (o : Option String) : (orNull (o.map string)).isFinite = true := by
  cases o <;> rfl

namespace Record

variable {r : Record} {index : Nat} {name : String}

theorem isFinite_field {v w : Json} {size : Nat} (hv : v.isFinite = true)
    (hr : ofJson? size v = some r) (h : r.field? index name = some w) : w.isFinite = true := by
  cases v with
  | object members =>
    obtain rfl := Option.some.inj hr
    exact isFinite_of_find? hv h
  | array items =>
    rw [ofJson?] at hr
    split at hr
    · obtain rfl := Option.some.inj hr
      exact isFinite_array.mp hv w (List.mem_of_getElem? h)
    · cases hr
  | _ => cases hr

theorem optional?_text {o : Option String}
    (hfield : r.field? index name = some (orNull (o.map string))) :
    r.optional? index name string? = some o :=
  optional?_orNull hfield fun _ _ => ⟨Json.noConfusion, rfl⟩

theorem optional?_zoom {zoom : Option Float} (hfinite : ∀ z, zoom = some z → z.isFinite = true)
    (hfield : r.field? index name = some (orNull (zoom.map ofFloat))) :
    r.optional? index name float? = some zoom := by
  refine optional?_orNull hfield fun z hz => ?_
  have hread := float?_ofFloat (hfinite z hz)
  refine ⟨fun hnull => ?_, hread⟩
  rw [hnull] at hread
  cases hread

theorem optional?_asIs {o : Option Json} (hnull : ∀ w, o = some w → w ≠ null)
    (hfield : r.field? index name = some (orNull o)) : r.optional? index name asIs? = some o := by
  refine optional?_orNull (hfield.trans ?_) fun w hw => ⟨hnull w hw, rfl⟩
  cases o <;> rfl

end Record

end Json

/-! ### Sources -/

namespace Dictionary

variable {α : Type} {name other : String} {o : Option α} {d : Dictionary α}

/-- The dictionary with a value that may be none. -/
def insertSome (name : String) (o : Option α) (d : Dictionary α) : Dictionary α :=
  match o with
  | some value => d.insert name value
  | none => d

theorem find?_insertSome_self (h : d.find? name = none) : (d.insertSome name o).find? name = o := by
  cases o with
  | none => exact h
  | some value => exact find?_insert_self name value d

theorem find?_insertSome_of_ne (hne : other ≠ name) :
    (d.insertSome name o).find? other = d.find? other := by
  cases o with
  | none => rfl
  | some value => exact find?_insert_of_ne hne value d

theorem mem_insertSome {p : String × α} (hp : p ∈ d.insertSome name o) :
    o = some p.2 ∨ p ∈ d := by
  cases o with
  | none => exact .inr hp
  | some value =>
    rcases mem_insert hp with rfl | hp
    · exact .inl rfl
    · exact .inr hp

theorem filterNames_insertSome {p : String → Bool} (hname : p name = false) :
    (d.insertSome name o).filterNames p = d.filterNames p := by
  cases o with
  | none => rfl
  | some value => exact filterNames_insert hname value d

end Dictionary

namespace Source

open Dictionary

variable {s : Source} {v : Json}

/-- No member that is kept as it is has a meaning here, and all of them are finite. -/
structure IsRead (s : Source) : Prop where
  unknown : ∀ p ∈ s.extra, p.1 ∉ knownNames
  finite : ∀ p ∈ s.extra, p.2.isFinite = true

theorem isRead_of_ofJson? (hv : v.isFinite = true) (h : ofJson? v = some s) : s.IsRead := by
  obtain ⟨members, hmembers, h⟩ := Option.bind_eq_some_iff.mp h
  obtain ⟨type, -, h⟩ := Option.bind_eq_some_iff.mp h
  obtain ⟨url, -, h⟩ := Option.bind_eq_some_iff.mp h
  obtain ⟨tiles, -, h⟩ := Option.bind_eq_some_iff.mp h
  obtain rfl := Option.some.inj h
  cases v with
  | object =>
    obtain rfl := Option.some.inj hmembers
    refine ⟨fun p hp hknown => ?_, fun p hp => ?_⟩
    · have hkept : (!knownNames.contains p.1) = true := (List.mem_filter.mp hp).2
      rw [List.contains_iff_mem.mpr hknown] at hkept
      cases hkept
    · exact Json.isFinite_object.mp hv p (List.mem_of_mem_filter hp)
  | _ => cases hmembers

theorem IsRead.find?_extra (h : s.IsRead) {name : String} (hname : name ∈ knownNames) :
    s.extra.find? name = none := by
  refine find?_eq_none fun hmem => ?_
  obtain ⟨p, hp, rfl⟩ := List.mem_map.mp hmem
  exact h.unknown p hp hname

theorem IsRead.filterNames_extra (h : s.IsRead) :
    s.extra.filterNames (fun n => !knownNames.contains n) = s.extra := by
  refine List.filter_eq_self.mpr fun p hp => ?_
  rw [Bool.not_eq_true', ← Bool.not_eq_true, List.contains_iff_mem]
  exact h.unknown p hp

/-- The members of a written source. -/
def members (s : Source) : Dictionary Json :=
  insert "type" (.string s.type.name)
    (insertSome "tiles" (s.tiles.map fun tiles => .array (tiles.map .string))
      (insertSome "url" (s.url.map .string) s.extra))

theorem toJson_eq (s : Source) : s.toJson = .object s.members := by
  obtain ⟨type, url, tiles, extra⟩ := s
  cases url <;> cases tiles <;> rfl

theorem IsRead.isFinite_toJson (h : s.IsRead) : s.toJson.isFinite = true := by
  rw [toJson_eq]
  refine Json.isFinite_object.mpr fun p hp => ?_
  rcases mem_insert hp with rfl | hp
  · rfl
  rcases mem_insertSome hp with htiles | hp
  · obtain ⟨tiles, -, htiles⟩ := Option.map_eq_some_iff.mp htiles
    rw [← htiles]
    exact Json.isFinite_array.mpr (List.forall_mem_map.mpr fun _ _ => rfl)
  rcases mem_insertSome hp with hurl | hp
  · obtain ⟨url, -, hurl⟩ := Option.map_eq_some_iff.mp hurl
    rw [← hurl]
    rfl
  · exact h.finite p hp

theorem IsRead.find?_url (h : s.IsRead) : s.members.find? "url" = s.url.map .string := by
  rw [members, find?_insert_of_ne (by decide), find?_insertSome_of_ne (by decide),
    find?_insertSome_self (h.find?_extra (by decide))]

theorem IsRead.find?_tiles (h : s.IsRead) :
    s.members.find? "tiles" = s.tiles.map fun tiles => .array (tiles.map .string) := by
  have hextra : (insertSome "url" (s.url.map .string) s.extra).find? "tiles" = none := by
    rw [find?_insertSome_of_ne (by decide), h.find?_extra (by decide)]
  rw [members, find?_insert_of_ne (by decide), find?_insertSome_self hextra]

theorem IsRead.filterNames_members (h : s.IsRead) :
    s.members.filterNames (fun n => !knownNames.contains n) = s.extra := by
  rw [members, filterNames_insert (by decide), filterNames_insertSome (by decide),
    filterNames_insertSome (by decide), h.filterNames_extra]

/-- **A source is read as it was written.** -/
theorem ofJson?_toJson (h : s.IsRead) : ofJson? s.toJson = some s := by
  have htype : (Json.Record.named s.members).required? 0 "type" Json.asKeyword? =
      some s.type.name := by
    rw [Json.Record.required?, Json.Record.field?, members, find?_insert_self]
    rfl
  have hurl : (Json.Record.named s.members).optional? 1 "url" Json.string? = some s.url :=
    Json.Record.optional?_map h.find?_url fun url _ => ⟨Json.noConfusion, rfl⟩
  have htiles : (Json.Record.named s.members).optional? 2 "tiles" (Json.asList? Json.string?) =
      some s.tiles := by
    refine Json.Record.optional?_map h.find?_tiles fun tiles _ => ⟨Json.noConfusion, ?_⟩
    have hitems : (tiles.map Json.string).mapM Json.string? = some (tiles.map id) :=
      Json.mapM_map fun _ _ => rfl
    rw [List.map_id] at hitems
    exact hitems
  rw [toJson_eq, ofJson?]
  refine Option.bind_eq_some_iff.mpr ⟨s.members, rfl, ?_⟩
  refine Option.bind_eq_some_iff.mpr ⟨_, htype, ?_⟩
  refine Option.bind_eq_some_iff.mpr ⟨_, hurl, ?_⟩
  refine Option.bind_eq_some_iff.mpr ⟨_, htiles, ?_⟩
  rw [h.filterNames_members, SourceType.ofName_name]

end Source

/-! ### Layers -/

namespace Property

/-- The property was read of a document. -/
def IsRead (p : Property) : Prop := ∃ v : Json, v.isFinite = true ∧ p = ofJson v

/-- The property as it is read of what is written. -/
def reread (p : Property) : Property := ofJson p.toJson

theorem toJson_reread {p : Property} (h : p.IsRead) : p.reread.toJson = p.toJson := by
  obtain ⟨v, hv, rfl⟩ := h
  exact toJson_ofJson_toJson hv

end Property

namespace Layer

variable {l : Layer} {v : Json}

/-- Null is no filter, the filter and the zooms are finite, and the properties were read too. -/
structure IsRead (l : Layer) : Prop where
  filter : ∀ w, l.filter = some w → w ≠ .null ∧ w.isFinite = true
  minZoom : ∀ z, l.minZoom = some z → z.isFinite = true
  maxZoom : ∀ z, l.maxZoom = some z → z.isFinite = true
  layout : ∀ p ∈ l.layout, p.2.IsRead
  paint : ∀ p ∈ l.paint, p.2.IsRead

theorem isRead_of_ofJson? (hv : v.isFinite = true) (h : ofJson? v = some l) : l.IsRead := by
  obtain ⟨r, hr, h⟩ := Option.bind_eq_some_iff.mp h
  have hzoom {index : Nat} {name : String} {zoom : Option Float}
      (hzoom : r.optional? index name Json.float? = some zoom) :
      ∀ z, zoom = some z → z.isFinite = true := by
    rintro z rfl
    obtain ⟨w, hfield, -, hw⟩ := Json.Record.optional?_eq_some hzoom
    exact Json.isFinite_of_float? (Json.Record.isFinite_field hv hr hfield) hw
  have hproperties {index : Nat} {name : String} {d : Dictionary Property}
      (hd : r.withDefault? index name [] (Json.asDictionary? fun p => some (Property.ofJson p)) =
        some d) : ∀ p ∈ d, p.2.IsRead := by
    intro p hp
    rcases Json.Record.withDefault?_eq_some hd with rfl | ⟨w, hfield, hw⟩
    · cases hp
    · obtain ⟨members, rfl, value, hvalue, hread⟩ := Json.mem_of_asDictionary? hw hp
      have hobject := Json.Record.isFinite_field hv hr hfield
      exact ⟨value, Json.isFinite_object.mp hobject _ hvalue, (Option.some.inj hread).symm⟩
  obtain ⟨id, -, h⟩ := Option.bind_eq_some_iff.mp h
  obtain ⟨type, -, h⟩ := Option.bind_eq_some_iff.mp h
  obtain ⟨source, -, h⟩ := Option.bind_eq_some_iff.mp h
  obtain ⟨sourceLayer, -, h⟩ := Option.bind_eq_some_iff.mp h
  obtain ⟨filter, hfilter, h⟩ := Option.bind_eq_some_iff.mp h
  obtain ⟨layout, hlayout, h⟩ := Option.bind_eq_some_iff.mp h
  obtain ⟨paint, hpaint, h⟩ := Option.bind_eq_some_iff.mp h
  obtain ⟨minZoom, hmin, h⟩ := Option.bind_eq_some_iff.mp h
  obtain ⟨maxZoom, hmax, h⟩ := Option.bind_eq_some_iff.mp h
  obtain rfl := Option.some.inj h
  refine ⟨?_, hzoom hmin, hzoom hmax, hproperties hlayout, hproperties hpaint⟩
  rintro w rfl
  obtain ⟨w', hfield, hnull, hw⟩ := Json.Record.optional?_eq_some hfilter
  obtain rfl := Option.some.inj hw
  exact ⟨hnull, Json.Record.isFinite_field hv hr hfield⟩

/-- The layer with every property read again. -/
def reread (l : Layer) : Layer :=
  { l with
    layout := l.layout.mapValues Property.reread
    paint := l.paint.mapValues Property.reread }

theorem mapValues?_property (d : Dictionary Property) :
    (d.mapValues Property.toJson).mapValues? (fun p => some (Property.ofJson p)) =
      some (d.mapValues Property.reread) :=
  Dictionary.mapValues?_mapValues fun _ _ => rfl

/-- **A layer is read as it was written**, but for how its properties are read. -/
theorem ofJson?_toJson (h : l.IsRead) : ofJson? l.toJson = some l.reread := by
  have hfilter : ∀ w, l.filter = some w → w ≠ .null := fun w hw => (h.filter w hw).1
  rw [toJson, ofJson?]
  refine Option.bind_eq_some_iff.mpr ⟨_, rfl, ?_⟩
  refine Option.bind_eq_some_iff.mpr ⟨_, rfl, ?_⟩
  refine Option.bind_eq_some_iff.mpr ⟨_, rfl, ?_⟩
  refine Option.bind_eq_some_iff.mpr ⟨_, Json.Record.optional?_text rfl, ?_⟩
  refine Option.bind_eq_some_iff.mpr ⟨_, Json.Record.optional?_text rfl, ?_⟩
  refine Option.bind_eq_some_iff.mpr ⟨_, Json.Record.optional?_asIs hfilter rfl, ?_⟩
  refine Option.bind_eq_some_iff.mpr ⟨_, mapValues?_property l.layout, ?_⟩
  refine Option.bind_eq_some_iff.mpr ⟨_, mapValues?_property l.paint, ?_⟩
  refine Option.bind_eq_some_iff.mpr ⟨_, Json.Record.optional?_zoom h.minZoom rfl, ?_⟩
  refine Option.bind_eq_some_iff.mpr ⟨_, Json.Record.optional?_zoom h.maxZoom rfl, ?_⟩
  rw [LayerType.ofName_name]
  rfl

theorem isFinite_properties {d : Dictionary Property} (h : ∀ p ∈ d, p.2.IsRead) :
    (Json.object (d.mapValues Property.toJson)).isFinite = true := by
  refine Json.isFinite_object.mpr (List.forall_mem_map.mpr fun p hp => ?_)
  obtain ⟨v, hv, hp⟩ := h p hp
  rw [hp]
  exact Property.isFinite_toJson_ofJson hv

theorem IsRead.isFinite_toJson (h : l.IsRead) : l.toJson.isFinite = true := by
  have hzoom (zoom : Option Float) : (Json.orNull (zoom.map Json.ofFloat)).isFinite = true := by
    refine Json.isFinite_orNull fun v hv => ?_
    obtain ⟨z, -, rfl⟩ := Option.map_eq_some_iff.mp hv
    exact Json.isFinite_ofFloat z
  have hfilter : (Json.orNull l.filter).isFinite = true :=
    Json.isFinite_orNull fun w hw => (h.filter w hw).2
  rw [toJson, Json.isFinite_object]
  simp only [List.forall_mem_cons]
  exact ⟨hfilter, rfl, isFinite_properties h.layout, hzoom _, hzoom _, isFinite_properties h.paint,
    Json.isFinite_text _, Json.isFinite_text _, rfl, List.forall_mem_nil _⟩

theorem mapValues_toJson_reread {d : Dictionary Property} (h : ∀ p ∈ d, p.2.IsRead) :
    (d.mapValues Property.reread).mapValues Property.toJson = d.mapValues Property.toJson := by
  rw [Dictionary.mapValues, Dictionary.mapValues, Dictionary.mapValues, List.map_map]
  refine List.map_congr_left fun p hp => ?_
  show (p.1, p.2.reread.toJson) = _
  rw [Property.toJson_reread (h p hp)]

/-- **A layer is written as before**, however its properties were read. -/
theorem toJson_reread (h : l.IsRead) : l.reread.toJson = l.toJson := by
  rw [toJson, toJson, reread, mapValues_toJson_reread h.layout, mapValues_toJson_reread h.paint]

/-- The layer without its properties. -/
def bare (l : Layer) : Layer := { l with layout := [], paint := [] }

/-- The properties of the layer as they are written. -/
def writtenProperties (l : Layer) : Dictionary Json × Dictionary Json :=
  (l.layout.mapValues Property.toJson, l.paint.mapValues Property.toJson)

theorem writtenProperties_reread (h : l.IsRead) :
    l.reread.writtenProperties = l.writtenProperties := by
  rw [writtenProperties, reread, mapValues_toJson_reread h.layout, mapValues_toJson_reread h.paint]
  rfl

end Layer

/-! ### Styles -/

namespace Style

variable {s : Style} {v : Json}

/-- The version is the one whose meaning is known, and the sources and layers were read too. -/
structure IsRead (s : Style) : Prop where
  version : checkVersion (.ofNat s.version) = .ok ()
  sources : ∀ p ∈ s.sources, p.2.IsRead
  layers : ∀ l ∈ s.layers, l.IsRead

/-- The version is supported just if it is the float of the supported one. -/
theorem checkVersion_eq_ok_iff {found : Json} :
    checkVersion found = .ok () ↔ found.float? = some (Float.ofNat supportedVersion) := by
  rw [checkVersion]
  constructor
  · intro h
    split at h
    · next hversion =>
      cases hfloat : found.float? with
      | none =>
        rw [hfloat] at hversion
        cases hversion
      | some x =>
        rw [hfloat] at hversion
        have hunpack : (Float.ofNat supportedVersion).toModel.unpack =
            .finite .positive (2 ^ 52) (-49) (Nat.two_pow_pos 52) := rfl
        exact congrArg some (Decimal.eq_of_beq hunpack hversion)
    · cases h
  · intro h
    rw [h]
    rfl

theorem checkVersion_ofNat {found : Json} {n : Nat} (h : checkVersion found = .ok ())
    (hn : version? found = some n) : checkVersion (.ofNat n) = .ok () := by
  cases found with
  | number x =>
    cases x with
    | int k =>
      rw [version?] at hn
      split at hn
      · next hk =>
        obtain rfl := Option.some.inj hn
        rw [Json.ofNat, Int.toNat_of_nonneg hk]
        exact h
      · cases hn
    | float x =>
      obtain rfl : x = Float.ofNat supportedVersion :=
        Option.some.inj (checkVersion_eq_ok_iff.mp h)
      have hversion : version? (.number (.float (Float.ofNat supportedVersion))) =
          some supportedVersion := rfl
      obtain rfl := Option.some.inj (hversion.symm.trans hn)
      rfl
  | _ => cases hn

/-- The version that is checked is the version that is read: no list is checked for one. -/
theorem version?_of_checkVersion {r : Json.Record} {n : Nat}
    (h : checkVersion (Json.orNull (v.member? "version")) = .ok ())
    (hr : Json.Record.ofJson? 6 v = some r) (hn : r.required? 0 "version" version? = some n) :
    version? (Json.orNull (v.member? "version")) = some n := by
  obtain ⟨w, hfield, hw⟩ := Option.bind_eq_some_iff.mp hn
  cases v with
  | object members =>
    obtain rfl := Option.some.inj hr
    have hmember : (Json.object members).member? "version" = some w := hfield
    rw [hmember]
    exact hw
  | _ => cases checkVersion_eq_ok_iff.mp h

theorem isRead_of_loadValue (hv : v.isFinite = true) (h : loadValue v = .ok s) : s.IsRead := by
  obtain ⟨_, hcheck, h⟩ := StyleError.bind_eq_ok_iff.mp h
  cases hs : ofJson? v with
  | none =>
    rw [hs] at h
    cases h
  | some s' =>
    rw [hs] at h
    obtain rfl := Except.ok.inj h
    obtain ⟨r, hr, hs⟩ := Option.bind_eq_some_iff.mp hs
    obtain ⟨version, hversion, hs⟩ := Option.bind_eq_some_iff.mp hs
    obtain ⟨name, -, hs⟩ := Option.bind_eq_some_iff.mp hs
    obtain ⟨sources, hsources, hs⟩ := Option.bind_eq_some_iff.mp hs
    obtain ⟨layers, hlayers, hs⟩ := Option.bind_eq_some_iff.mp hs
    obtain ⟨sprite, -, hs⟩ := Option.bind_eq_some_iff.mp hs
    obtain ⟨glyphs, -, hs⟩ := Option.bind_eq_some_iff.mp hs
    obtain rfl := Option.some.inj hs
    refine ⟨?_, fun p hp => ?_, fun l hl => ?_⟩
    · exact checkVersion_ofNat hcheck (version?_of_checkVersion hcheck hr hversion)
    · rcases Json.Record.withDefault?_eq_some hsources with rfl | ⟨w, hfield, hw⟩
      · cases hp
      · obtain ⟨members, rfl, value, hvalue, hread⟩ := Json.mem_of_asDictionary? hw hp
        have hobject := Json.Record.isFinite_field hv hr hfield
        exact Source.isRead_of_ofJson? (Json.isFinite_object.mp hobject _ hvalue) hread
    · rcases Json.Record.withDefault?_eq_some hlayers with rfl | ⟨w, hfield, hw⟩
      · cases hl
      · obtain ⟨items, rfl, value, hvalue, hread⟩ := Json.mem_of_asList? hw hl
        have hlist := Json.Record.isFinite_field hv hr hfield
        exact Layer.isRead_of_ofJson? (Json.isFinite_array.mp hlist _ hvalue) hread

theorem IsRead.isFinite_toJson (h : s.IsRead) : s.toJson.isFinite = true := by
  have hlayers : (Json.array (s.layers.map Layer.toJson)).isFinite = true :=
    Json.isFinite_array.mpr (List.forall_mem_map.mpr fun l hl => (h.layers l hl).isFinite_toJson)
  have hsources : (Json.object (s.sources.mapValues Source.toJson)).isFinite = true :=
    Json.isFinite_object.mpr (List.forall_mem_map.mpr fun p hp => (h.sources p hp).isFinite_toJson)
  have hversion : (Json.ofNat s.version).isFinite = true := by
    have hfloat := Option.some.inj (checkVersion_eq_ok_iff.mp h.version)
    show Float.isFinite _ = true
    rw [hfloat]
    rfl
  rw [toJson, Json.isFinite_object]
  simp only [List.forall_mem_cons]
  exact ⟨Json.isFinite_text _, hlayers, rfl, hsources, Json.isFinite_text _, hversion,
    List.forall_mem_nil _⟩

/-- The style with every property read again. -/
def reread (s : Style) : Style := { s with layers := s.layers.map Layer.reread }

/-- **A style is read as it was written**, but for how its properties are read. -/
theorem ofJson?_toJson (h : s.IsRead) : ofJson? s.toJson = some s.reread := by
  have hversion : version? (.ofNat s.version) = some s.version := by
    rw [Json.ofNat, version?, if_pos (Int.natCast_nonneg s.version), Int.toNat_natCast]
  have hsources : (s.sources.mapValues Source.toJson).mapValues? Source.ofJson? =
      some (s.sources.mapValues id) :=
    Dictionary.mapValues?_mapValues fun p hp => Source.ofJson?_toJson (h.sources p hp)
  have hlayers : (s.layers.map Layer.toJson).mapM Layer.ofJson? =
      some (s.layers.map Layer.reread) :=
    Json.mapM_map fun l hl => Layer.ofJson?_toJson (h.layers l hl)
  rw [toJson, ofJson?]
  refine Option.bind_eq_some_iff.mpr ⟨_, rfl, ?_⟩
  refine Option.bind_eq_some_iff.mpr ⟨_, hversion, ?_⟩
  refine Option.bind_eq_some_iff.mpr ⟨_, rfl, ?_⟩
  refine Option.bind_eq_some_iff.mpr ⟨_, hsources, ?_⟩
  refine Option.bind_eq_some_iff.mpr ⟨_, hlayers, ?_⟩
  refine Option.bind_eq_some_iff.mpr ⟨_, Json.Record.optional?_text rfl, ?_⟩
  refine Option.bind_eq_some_iff.mpr ⟨_, Json.Record.optional?_text rfl, ?_⟩
  rw [reread, Dictionary.mapValues]
  simp only [id, List.map_id']

/-- **A style is written as before**, however its properties were read. -/
theorem toJson_reread (h : s.IsRead) : s.reread.toJson = s.toJson := by
  have hlayers : (s.layers.map Layer.reread).map Layer.toJson = s.layers.map Layer.toJson := by
    rw [List.map_map]
    exact List.map_congr_left fun l hl => Layer.toJson_reread (h.layers l hl)
  rw [toJson, toJson, reread, hlayers]

/-- **What is written of a document that loads is a document that loads**, and it is written like
itself.  The two styles are equal but for how properties are read, and those are written like
themselves, too; what is not a function is written as it was. -/
theorem loadValue_toJson :
    (∀ (d : Json) (s : Style), d.isFinite = true → loadValue d = .ok s →
      s.toJson.isFinite = true ∧ ∃ s', loadValue s.toJson = .ok s' ∧ s'.toJson = s.toJson ∧
        s'.version = s.version ∧ s'.name = s.name ∧ s'.sources = s.sources ∧
        s'.sprite = s.sprite ∧ s'.glyphs = s.glyphs ∧
        s'.layers.map Layer.bare = s.layers.map Layer.bare ∧
        s'.layers.map Layer.writtenProperties = s.layers.map Layer.writtenProperties) ∧
    ∀ v : Json, v.isFinite = true →
      (Property.ofJson (Property.ofJson v).toJson).toJson = (Property.ofJson v).toJson ∧
      (StopFunction.ofJson? v = none → (Property.ofJson v).toJson = v) := by
  refine ⟨fun d s hd hs => ?_, fun v hv =>
    ⟨Property.toJson_ofJson_toJson hv, Property.toJson_ofJson_of_none⟩⟩
  have hread := isRead_of_loadValue hd hs
  have hload : loadValue s.toJson = .ok s.reread := by
    rw [loadValue]
    refine StyleError.bind_eq_ok_iff.mpr ⟨(), hread.version, ?_⟩
    rw [ofJson?_toJson hread]
  refine ⟨hread.isFinite_toJson, s.reread, hload, toJson_reread hread, rfl, rfl, rfl, rfl, rfl,
    List.map_map, ?_⟩
  rw [reread, List.map_map]
  exact List.map_congr_left fun l hl => Layer.writtenProperties_reread (hread.layers l hl)

/-- A document that is written otherwise: the version has a point, two types have no meaning, a
zoom is an integer, and a base need not be written. -/
def roundedDocument : Json :=
  .object [
    ("layers", .array [.object [
      ("id", .string "roads"),
      ("minzoom", .number (.int 5)),
      ("paint", .object [("line-width", .object [
        ("base", .number (.int 1)),
        ("stops", .array [.array [.number (.int 5), .number (.float 0.5)]])])]),
      ("type", .string "tunnel")]]),
    ("sources", .object [("main", .object [
      ("attribution", .string "survey"),
      ("type", .string "drawn"),
      ("url", .string "main.json")])]),
    ("version", .number (.float 8.0))]

theorem loadValue_toJson_roundedDocument :
    ∃ s, loadValue roundedDocument = .ok s ∧ s.toJson ≠ roundedDocument ∧
      (∃ s', loadValue s.toJson = .ok s' ∧ s'.toJson = s.toJson) ∧
      (Property.ofJson (Property.ofJson (.object [("stops", .array [])])).toJson).toJson =
        .object [] := by
  have hs : ∃ s, loadValue roundedDocument = .ok s ∧ s.toJson ≠ roundedDocument := by
    refine ⟨_, rfl, fun h => ?_⟩
    have hglyphs : some Json.null = none := congrArg (Json.member? "glyphs") h
    cases hglyphs
  obtain ⟨s, hload, hother⟩ := hs
  obtain ⟨-, s', hload', hwritten, -⟩ := loadValue_toJson.1 roundedDocument s rfl hload
  exact ⟨s, hload, hother, ⟨s', hload', hwritten⟩, (loadValue_toJson.2 _ rfl).1⟩

end Style

end MapStyle
