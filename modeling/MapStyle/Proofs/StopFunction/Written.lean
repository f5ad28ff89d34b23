/-
Properties written and read again.

A plain value and an expression are written as they were read.  A stop function is written
anew: what it does not have is left out, and so are stops that are none and a base close to
one.  What has been written once is written like that ever after, although a function whose
stops were left out may no longer be read as a function.

* `Json.isFinite` — no number in a value is NaN or infinite;
* `Dictionary.ofFields` — a dictionary from fields, of which some have nothing;
* `StopFunction.read` — a function from the members of an object, where it is one;
* `StopFunction.read_fields` — what is read from a written function;
* `Property.toJson_ofJson_toJson` — the written form of a property is written like itself.
-/
import MapStyle.Json.Record
import MapStyle.Property

namespace MapStyle

/-! ### Finite values -/

namespace Json

mutual

/-- Whether no number in a value is NaN or infinite, as it is with every document. -/
def isFinite : Json → Bool
  | number n => n.toFloat.isFinite
  | array items => areFinite items
  | object members => areMembersFinite members
  | _ => true

def areFinite : List Json → Bool
  | [] => true
  | v :: rest => v.isFinite && areFinite rest

def areMembersFinite : List (String × Json) → Bool
  | [] => true
  | (_, v) :: rest => v.isFinite && areMembersFinite rest

end

variable {v : Json} {x : Float}

theorem isFinite_array {items : List Json} :
    (array items).isFinite = true ↔ ∀ v ∈ items, v.isFinite = true := by
  rw [isFinite]
  induction items with
  | nil => exact iff_of_true rfl (List.forall_mem_nil _)
  | cons item rest ih => rw [areFinite, Bool.and_eq_true_iff, ih, List.forall_mem_cons]

theorem isFinite_object {members : Dictionary Json} :
    (object members).isFinite = true ↔ ∀ p ∈ members, p.2.isFinite = true := by
  rw [isFinite]
  induction members with
  | nil => exact iff_of_true rfl (List.forall_mem_nil _)
  | cons member rest ih => rw [areMembersFinite, Bool.and_eq_true_iff, ih, List.forall_mem_cons]

theorem isFinite_of_find? {members : Dictionary Json} {name : String}
    (h : (object members).isFinite = true) (hv : members.find? name = some v) : v.isFinite = true :=
  isFinite_object.mp h _ (Dictionary.mem_of_find? hv)

theorem isFinite_of_float? (hv : v.isFinite = true) (h : v.float? = some x) :
    x.isFinite = true := by
  cases v with
  | number n =>
    obtain rfl := Option.some.inj h
    exact hv
  | _ => cases h

theorem float?_ofFloat (hx : x.isFinite = true) : (ofFloat x).float? = some x := by
  rw [ofFloat, Number.ofFinite?, if_pos hx]
  rfl

/-- What is not finite is null. -/
theorem isFinite_ofFloat (x : Float) : (ofFloat x).isFinite = true := by
  rw [ofFloat, Number.ofFinite?]
  split
  · next hx => exact hx
  · rfl

theorem isFinite_orNull {o : Option Json} (h : ∀ v, o = some v → v.isFinite = true) :
    (orNull o).isFinite = true := by
  cases o with
  | none => rfl
  | some v => exact h v rfl

end Json

/-! ### Fields -/

namespace Dictionary

variable {α : Type} {name : String}

/-- The fields that have something. -/
def ofFields (fields : List (String × Option α)) : Dictionary α :=
  fields.filterMap fun p => p.2.map fun value => (p.1, value)

theorem find?_ofFields {fields : List (String × Option α)} (h : (fields.map Prod.fst).Nodup) :
    (ofFields fields).find? name = (find? name fields).join := by
  induction fields with
  | nil => rfl
  | cons field rest ih =>
    obtain ⟨key, _ | value⟩ := field
    · obtain ⟨hkey, hrest⟩ := List.nodup_cons.mp h
      show (ofFields rest).find? name = _
      rw [ih hrest, find?]
      split
      · next heq => rw [find?_eq_none (heq ▸ hkey)]; rfl
      · rfl
    · show find? name ((key, value) :: ofFields rest) = _
      rw [find?, find?, ih (List.nodup_cons.mp h).2]
      split <;> rfl

theorem isFinite_ofFields {fields : List (String × Option Json)}
    (h : ∀ p ∈ fields, ∀ v, p.2 = some v → v.isFinite = true) :
    (Json.object (ofFields fields)).isFinite = true := by
  refine Json.isFinite_object.mpr fun p hp => ?_
  obtain ⟨field, hfield, hp⟩ := List.mem_filterMap.mp hp
  obtain ⟨v, hv, rfl⟩ := Option.map_eq_some_iff.mp hp
  exact h field hfield v hv

end Dictionary

/-! ### Stop functions -/

/-- The kind of a name that is written. -/
def StopKind.ofJson? (v : Json) : Option StopKind := v.string?.bind ofName?

namespace StopFunction

variable {f : StopFunction} {members : Dictionary Json} {v : Json}

/-- The kind that an object declares, if what it declares is one. -/
def declared? (members : Dictionary Json) : Option (Option StopKind) :=
  match members.find? "type" with
  | some t => (StopKind.ofJson? t).map some
  | none => some none

/-- The stops of an object; only an identity of a property has none. -/
def stops? (members : Dictionary Json) (kind : Option StopKind) : Option (List Stop) :=
  match members.find? "stops" with
  | some stops => Json.asList? stop? stops
  | none =>
    if kind = some .identity ∧ ((members.find? "property").bind Json.string?).isSome then some []
    else none

/-- The function that the members of an object describe, if they describe one. -/
def read (members : Dictionary Json) : StopFunction where
  kind := (members.find? "type").bind StopKind.ofJson?
  base := ((members.find? "base").bind Json.float?).getD 1.0
  property := (members.find? "property").bind Json.string?
  stops := ((members.find? "stops").bind (Json.asList? stop?)).getD []
  default := members.find? "default"

theorem ofJson?_object (members : Dictionary Json) :
    ofJson? (.object members) = (declared? members).bind fun kind =>
      (stops? members kind).bind fun stops =>
        some { read members with kind := kind, stops := stops } := by
  cases htype : members.find? "type" <;> cases hstops : members.find? "stops" <;>
    simp only [ofJson?, declared?, stops?, read, StopKind.ofJson?, Json.asList?, Json.members?,
      Option.bind_eq_bind, Option.bind_some, Option.bind_none, Option.bind_assoc, htype, hstops]
  -- Without stops there is a function only for an identity.
  · split <;> rfl
  · refine Option.bind_congr fun kind _ => ?_
    split <;> rfl

theorem kind_of_declared? {kind : Option StopKind} (h : declared? members = some kind) :
    (read members).kind = kind := by
  rw [declared?] at h
  rw [read]
  split at h
  · next t ht =>
    obtain ⟨k, hk, rfl⟩ := Option.map_eq_some_iff.mp h
    rw [ht]
    exact hk
  · next hnone =>
    obtain rfl := Option.some.inj h
    rw [hnone]
    rfl

theorem stops_of_stops? {kind : Option StopKind} {stops : List Stop}
    (h : stops? members kind = some stops) : (read members).stops = stops := by
  rw [stops?] at h
  rw [read]
  split at h
  · next written hwritten => rw [hwritten, Option.bind_some, h, Option.getD_some]
  · next hnone =>
    split at h
    · obtain rfl := Option.some.inj h
      rw [hnone]
      rfl
    · cases h

theorem eq_read (h : ofJson? v = some f) :
    ∃ members : Dictionary Json, v = .object members ∧ f = read members := by
  cases v with
  | object members =>
    rw [ofJson?_object] at h
    obtain ⟨kind, hkind, h⟩ := Option.bind_eq_some_iff.mp h
    obtain ⟨stops, hstops, h⟩ := Option.bind_eq_some_iff.mp h
    obtain rfl := Option.some.inj h
    rw [← kind_of_declared? hkind, ← stops_of_stops? hstops]
    exact ⟨members, rfl, rfl⟩
  | _ => cases h

theorem isFinite_base (hv : v.isFinite = true) (h : ofJson? v = some f) :
    f.base.isFinite = true := by
  obtain ⟨members, rfl, rfl⟩ := eq_read h
  show (((members.find? "base").bind Json.float?).getD 1.0).isFinite = true
  cases hbase : (members.find? "base").bind Json.float? with
  | none => rfl
  | some x =>
    obtain ⟨w, hw, hx⟩ := Option.bind_eq_some_iff.mp hbase
    exact Json.isFinite_of_float? (Json.isFinite_of_find? hv hw) hx

theorem eq_of_stop? {s : Stop} (h : stop? v = some s) : v = .array [s.1, s.2] := by
  rw [stop?.eq_def] at h
  split at h
  · obtain rfl := Option.some.inj h
    rfl
  · cases h

theorem isFinite_stops (hv : v.isFinite = true) (h : ofJson? v = some f) :
    ∀ s ∈ f.stops, s.1.isFinite = true ∧ s.2.isFinite = true := by
  obtain ⟨members, rfl, rfl⟩ := eq_read h
  intro s hs
  replace hs : s ∈ ((members.find? "stops").bind (Json.asList? stop?)).getD [] := hs
  cases hstops : (members.find? "stops").bind (Json.asList? stop?) with
  | none =>
    rw [hstops] at hs
    cases hs
  | some stops =>
    rw [hstops] at hs
    obtain ⟨w, hw, hlist⟩ := Option.bind_eq_some_iff.mp hstops
    obtain ⟨items, rfl, item, hitem, hstop⟩ := Json.mem_of_asList? hlist hs
    obtain rfl := eq_of_stop? hstop
    have hlist := Json.isFinite_array.mp (Json.isFinite_of_find? hv hw) _ hitem
    obtain ⟨hinput, houtput⟩ := List.forall_mem_cons.mp (Json.isFinite_array.mp hlist)
    exact ⟨hinput, houtput _ List.mem_cons_self⟩

/-! ### Written functions -/

/-- A base that is not close to one. -/
def baseField (base : Float) : Option Json :=
  if epsilon < (base - 1.0).abs then some (.ofFloat base) else none

/-- Stops that are not none. -/
def stopsField (stops : List Stop) : Option Json :=
  if stops.isEmpty then none else some (.array (stops.map fun s => .array [s.1, s.2]))

/-- The members of a written function. -/
def fields (f : StopFunction) : List (String × Option Json) := [
  ("base", baseField f.base),
  ("default", f.default),
  ("property", f.property.map .string),
  ("stops", stopsField f.stops),
  ("type", f.kind.map fun k => .string k.name)]

theorem toJson_eq (f : StopFunction) : f.toJson = .object (Dictionary.ofFields f.fields) := by
  have hbase : (if epsilon < (f.base - 1.0).abs then some ("base", Json.ofFloat f.base) else none) =
      (baseField f.base).map fun v => ("base", v) := by
    rw [baseField]
    split <;> rfl
  have hstops : (if f.stops.isEmpty then none
      else some ("stops", Json.array (f.stops.map fun s => .array [s.1, s.2]))) =
      (stopsField f.stops).map fun v => ("stops", v) := by
    rw [stopsField]
    split <;> rfl
  rw [toJson, hbase, hstops]
  show _ = Json.object (List.filterMap ((fun m => m) ∘ fun p => p.2.map fun v => (p.1, v)) f.fields)
  rw [← List.filterMap_map, fields]
  simp only [List.map_cons, List.map_nil, Option.map_map]
  rfl

/-- A written function is finite if what it was read of is. -/
theorem isFinite_toJson (hv : v.isFinite = true) (h : ofJson? v = some f) :
    f.toJson.isFinite = true := by
  have hdefault : ∀ w, f.default = some w → w.isFinite = true := by
    obtain ⟨members, rfl, rfl⟩ := eq_read h
    exact fun w => Json.isFinite_of_find? hv
  have hstops : ∀ w, stopsField f.stops = some w → w.isFinite = true := by
    intro w hw
    rw [stopsField] at hw
    split at hw
    · cases hw
    · obtain rfl := Option.some.inj hw
      refine Json.isFinite_array.mpr (List.forall_mem_map.mpr fun s hs => ?_)
      obtain ⟨hinput, houtput⟩ := isFinite_stops hv h s hs
      exact Json.isFinite_array.mpr (by simp [hinput, houtput])
  have hbase : ∀ w, baseField f.base = some w → w.isFinite = true := by
    intro w hw
    rw [baseField] at hw
    split at hw
    · obtain rfl := Option.some.inj hw
      exact Json.isFinite_ofFloat f.base
    · cases hw
  have hstring {α : Type} {o : Option α} {text : α → String} :
      ∀ w, (o.map fun x => Json.string (text x)) = some w → w.isFinite = true := by
    intro w hw
    obtain ⟨x, -, rfl⟩ := Option.map_eq_some_iff.mp hw
    rfl
  rw [toJson_eq]
  refine Dictionary.isFinite_ofFields ?_
  simp only [fields, List.forall_mem_cons]
  exact ⟨hbase, hdefault, hstring, hstops, hstring, List.forall_mem_nil _⟩

/-- What is written is read like this: a base close to one is one. -/
def reread (f : StopFunction) : StopFunction :=
  { f with base := if epsilon < (f.base - 1.0).abs then f.base else 1.0 }

theorem baseField_reread (f : StopFunction) : baseField f.reread.base = baseField f.base := by
  have hone : ¬ epsilon < ((1.0 : Float) - 1.0).abs := by decide
  by_cases hbase : epsilon < (f.base - 1.0).abs
  · rw [reread, if_pos hbase]
  · rw [reread, if_neg hbase, baseField, baseField, if_neg hbase]
    exact if_neg hone

theorem toJson_reread (f : StopFunction) : f.reread.toJson = f.toJson := by
  rw [toJson_eq, toJson_eq, fields, fields, baseField_reread]
  rfl

theorem kind_of_field (kind : Option StopKind) :
    (kind.map fun k => Json.string k.name).bind StopKind.ofJson? = kind := by
  cases kind with
  | none => rfl
  | some k => exact StopKind.ofName?_name k

theorem property_of_field (property : Option String) :
    (property.map Json.string).bind Json.string? = property := by
  cases property <;> rfl

theorem base_of_field (hbase : f.base.isFinite = true) :
    ((baseField f.base).bind Json.float?).getD 1.0 = f.reread.base := by
  rw [baseField, reread]
  split
  · rw [Option.bind_some, Json.float?_ofFloat hbase, Option.getD_some]
  · rfl

theorem mapM_stop? (stops : List Stop) :
    (stops.map fun s => Json.array [s.1, s.2]).mapM stop? = some stops := by
  have h : (stops.map fun s => Json.array [s.1, s.2]).mapM stop? = some (stops.map id) :=
    Json.mapM_map fun _ _ => rfl
  rw [h, List.map_id]

theorem stops_of_field (stops : List Stop) :
    ((stopsField stops).bind (Json.asList? stop?)).getD [] = stops := by
  rw [stopsField]
  split
  · next hempty => exact (List.isEmpty_iff.mp hempty).symm
  · have hlist : Json.asList? stop? (.array (stops.map fun s => .array [s.1, s.2])) = some stops :=
      mapM_stop? stops
    rw [Option.bind_some, hlist, Option.getD_some]

theorem find?_fields (f : StopFunction) (name : String) :
    (Dictionary.ofFields f.fields).find? name = (Dictionary.find? name f.fields).join := by
  refine Dictionary.find?_ofFields ?_
  show ["base", "default", "property", "stops", "type"].Nodup
  decide

/-- **What is read from a written function is the function**, but for a base close to one. -/
theorem read_fields (hbase : f.base.isFinite = true) :
    read (Dictionary.ofFields f.fields) = f.reread := by
  have hkind : (Dictionary.ofFields f.fields).find? "type" =
      f.kind.map fun k => Json.string k.name := find?_fields f "type"
  have hbase' : (Dictionary.ofFields f.fields).find? "base" = baseField f.base :=
    find?_fields f "base"
  have hproperty : (Dictionary.ofFields f.fields).find? "property" = f.property.map .string :=
    find?_fields f "property"
  have hstops : (Dictionary.ofFields f.fields).find? "stops" = stopsField f.stops :=
    find?_fields f "stops"
  have hdefault : (Dictionary.ofFields f.fields).find? "default" = f.default :=
    find?_fields f "default"
  rw [read, hkind, hbase', hproperty, hstops, hdefault, kind_of_field, base_of_field hbase,
    property_of_field, stops_of_field]
  rfl

end StopFunction

/-! ### Properties -/

namespace Property

variable {v : Json}

theorem toJson_ofJson_of_none (h : StopFunction.ofJson? v = none) : (ofJson v).toJson = v := by
  rw [ofJson, h]
  show (if v.isExpression then expression v else literal v).toJson = v
  split <;> rfl

theorem toJson_ofJson_of_some {f : StopFunction} (h : StopFunction.ofJson? v = some f) :
    (ofJson v).toJson = f.toJson := by
  rw [ofJson, h]
  rfl

/-- A written property is finite if what it was read of is. -/
theorem isFinite_toJson_ofJson (hv : v.isFinite = true) : (ofJson v).toJson.isFinite = true := by
  cases hf : StopFunction.ofJson? v with
  | none =>
    rw [toJson_ofJson_of_none hf]
    exact hv
  | some f =>
    rw [toJson_ofJson_of_some hf]
    exact StopFunction.isFinite_toJson hv hf

/-- **The written form of a property is written like itself.** -/
theorem toJson_ofJson_toJson (hv : v.isFinite = true) :
    (ofJson (ofJson v).toJson).toJson = (ofJson v).toJson := by
  cases hf : StopFunction.ofJson? v with
  | none => rw [toJson_ofJson_of_none hf, toJson_ofJson_of_none hf]
  | some f =>
    rw [toJson_ofJson_of_some hf]
    -- A written function without stops may be no function any more.
    cases hg : StopFunction.ofJson? f.toJson with
    | none => exact toJson_ofJson_of_none hg
    | some g =>
      rw [toJson_ofJson_of_some hg]
      obtain ⟨members, hmembers, rfl⟩ := StopFunction.eq_read hg
      obtain rfl := Json.object.inj ((StopFunction.toJson_eq f).symm.trans hmembers)
      rw [StopFunction.read_fields (StopFunction.isFinite_base hv hf), StopFunction.toJson_reread]

end Property

end MapStyle
