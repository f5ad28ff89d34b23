/-
Records inside documents.

A record is written as an object with a member for each field, or as a list of the
fields in their order; a list may stop early but not go on.

* `Record.ofJson?` — a value as a record of so many fields;
* `Record.required?`, `Record.withDefault?`, `Record.optional?` — a field that must
  be there, one that has a default, and one that may be missing or null;
* `asKeyword?`, `asList?`, `asWord?`, … — what single fields hold;
* `Record.optional?_map`, `Record.optional?_orNull`, `mapM_map` — what is read of something written.
-/
import MapStyle.Json.Basic

namespace MapStyle.Json

/-- A record as written. -/
inductive Record where
  | named (members : Dictionary Json)
  | listed (items : List Json)

namespace Record

/-- A value as a record of at most `size` fields. -/
def ofJson? (size : Nat) : Json → Option Record
  | object members => some (named members)
  | array items => if items.length ≤ size then some (listed items) else none
  | _ => none

/-- The field called `name`, which is number `index` of a list. -/
def field? (r : Record) (index : Nat) (name : String) : Option Json :=
  match r with
  | named members => members.find? name
  | listed items => items[index]?

variable {α : Type}

/-- A field that must be there. -/
def required? (r : Record) (index : Nat) (name : String) (decode : Json → Option α) : Option α := do
  decode (← r.field? index name)

/-- A field that has a value when it is left out. -/
def withDefault? (r : Record) (index : Nat) (name : String) (default : α)
    (decode : Json → Option α) : Option α :=
  match r.field? index name with
  | some v => decode v
  | none => some default

/-- A field that may be left out or null. -/
def optional? (r : Record) (index : Nat) (name : String) (decode : Json → Option α) :
    Option (Option α) :=
  match r.field? index name with
  | none | some null => some none
  | some v => (decode v).map some

end Record

/-- Any value. -/
def asIs? (v : Json) : Option Json := some v

/-- A keyword: its text, or an object with that one member and nothing in it. -/
def asKeyword? : Json → Option String
  | string s => some s
  | object [(name, null)] => some name
  | _ => none

/-- A list of which every item can be decoded. -/
def asList? {α : Type} (decode : Json → Option α) (v : Json) : Option (List α) := do
  (← v.items?).mapM decode

/-- An object of which every member can be decoded. -/
def asDictionary? {α : Type} (decode : Json → Option α) (v : Json) : Option (Dictionary α) := do
  (← v.members?).mapValues? decode

/-- An integer of 32 bits that is not negative. -/
def asWord? : Json → Option UInt32
  | number (.int n) => if 0 ≤ n ∧ n.toNat < Nat.pow 2 32 then some (UInt32.ofNat n.toNat) else none
  | _ => none

/-! ### What is read, and what is read of something written -/

variable {α β : Type} {decode : Json → Option α} {v : Json}

namespace Record

variable {r : Record} {index : Nat} {name : String} {x : α}

theorem optional?_eq_some (h : r.optional? index name decode = some (some x)) :
    ∃ w, r.field? index name = some w ∧ w ≠ null ∧ decode w = some x := by
  rw [optional?] at h
  split at h
  · cases h
  · cases h
  · next w hnull hfield =>
    obtain ⟨y, hy, heq⟩ := Option.map_eq_some_iff.mp h
    obtain rfl := Option.some.inj heq
    exact ⟨w, hfield, hnull, hy⟩

theorem withDefault?_eq_some {default : α} (h : r.withDefault? index name default decode = some x) :
    x = default ∨ ∃ w, r.field? index name = some w ∧ decode w = some x := by
  rw [withDefault?] at h
  split at h
  · next w hfield => exact .inr ⟨w, hfield, h⟩
  · exact .inl (Option.some.inj h).symm

theorem optional?_of_field {o : Option α}
    (hnone : o = none → r.field? index name = none ∨ r.field? index name = some null)
    (hsome : ∀ x, o = some x → ∃ w, r.field? index name = some w ∧ w ≠ null ∧ decode w = some x) :
    r.optional? index name decode = some o := by
  cases o with
  | none => rcases hnone rfl with hfield | hfield <;> rw [optional?, hfield]
  | some x =>
    obtain ⟨w, hfield, hnull, hx⟩ := hsome x rfl
    rw [optional?, hfield]
    split
    · next h => cases h
    · next h => exact absurd (Option.some.inj h) hnull
    · next h =>
      obtain rfl := Option.some.inj h
      rw [hx]
      rfl

section Written

variable {o : Option α} {encode : α → Json}

/-- A field that is left out for nothing. -/
theorem optional?_map (hfield : r.field? index name = o.map encode)
    (h : ∀ x, o = some x → encode x ≠ null ∧ decode (encode x) = some x) :
    r.optional? index name decode = some o := by
  refine optional?_of_field (fun hnone => .inl ?_) fun x hx => ⟨encode x, ?_, h x hx⟩
  · rw [hfield, hnone]
    rfl
  · rw [hfield, hx]
    rfl

/-- A field that is null for nothing. -/
theorem optional?_orNull (hfield : r.field? index name = some (orNull (o.map encode)))
    (h : ∀ x, o = some x → encode x ≠ null ∧ decode (encode x) = some x) :
    r.optional? index name decode = some o := by
  refine optional?_of_field (fun hnone => .inr ?_) fun x hx => ⟨encode x, ?_, h x hx⟩
  · rw [hfield, hnone]
    rfl
  · rw [hfield, hx]
    rfl

end Written

end Record

theorem mem_of_asList? {xs : List α} {x : α} (h : asList? decode v = some xs) (hx : x ∈ xs) :
    ∃ items, v = array items ∧ ∃ w ∈ items, decode w = some x := by
  cases v with
  | array items =>
    refine ⟨items, rfl, ?_⟩
    replace h : items.mapM decode = some xs := h
    induction items generalizing xs with
    | nil =>
      obtain rfl := Option.some.inj h
      cases hx
    | cons item rest ih =>
      rw [List.mapM_cons] at h
      obtain ⟨y, hy, h⟩ := Option.bind_eq_some_iff.mp h
      obtain ⟨ys, hys, h⟩ := Option.bind_eq_some_iff.mp h
      obtain rfl := Option.some.inj h
      rcases List.mem_cons.mp hx with rfl | hx
      · exact ⟨item, List.mem_cons_self, hy⟩
      · obtain ⟨w, hw, hdecode⟩ := ih hx hys
        exact ⟨w, List.mem_cons_of_mem _ hw, hdecode⟩
  | _ => cases h

theorem mem_of_asDictionary? {d : Dictionary α} {p : String × α}
    (h : asDictionary? decode v = some d) (hp : p ∈ d) :
    ∃ members, v = object members ∧ ∃ w, (p.1, w) ∈ members ∧ decode w = some p.2 := by
  cases v with
  | object members => exact ⟨members, rfl, Dictionary.mem_of_mapValues? h hp⟩
  | _ => cases h

/-- Each item of a written list is read by itself. -/
theorem mapM_map {encode : β → Json} {g : β → α} {xs : List β}
    (h : ∀ x ∈ xs, decode (encode x) = some (g x)) :
    (xs.map encode).mapM decode = some (xs.map g) := by
  induction xs with
  | nil => rfl
  | cons x rest ih =>
    obtain ⟨hx, hrest⟩ := List.forall_mem_cons.mp h
    rw [List.map_cons, List.mapM_cons, hx, ih hrest]
    rfl

end MapStyle.Json
