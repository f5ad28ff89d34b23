/-
Values under names, in the order of the names.

A dictionary is a list of pairs.  Names are compared code point by code point,
which is also the order of their UTF-8 bytes.

* `Dictionary.find?` — the value under a name;
* `Dictionary.insert` — puts a value under a name, in place of an earlier one;
* `find?_insert_self`, `find?_insert_of_ne` — what is found after an insertion;
* `mapValues?_mapValues` — values that are replaced, and replaced once more.
-/
namespace MapStyle

/-- Values under names. -/
abbrev Dictionary (α : Type) := List (String × α)

namespace Dictionary

variable {α β : Type}

/-- The value under `name`. -/
def find? (name : String) : Dictionary α → Option α
  | [] => none
  | (key, value) :: rest => if key = name then some value else find? name rest

/-- `d` with `value` under `name`, kept before the first greater name. -/
def insert (name : String) (value : α) : Dictionary α → Dictionary α
  | [] => [(name, value)]
  | (key, old) :: rest =>
    if key = name then (name, value) :: rest
    else if name < key then (name, value) :: (key, old) :: rest
    else (key, old) :: insert name value rest

/-- The dictionary of a list of pairs, in which a later pair replaces an earlier one. -/
def ofList (pairs : List (String × α)) : Dictionary α :=
  pairs.foldl (fun d p => d.insert p.1 p.2) []

/-- The same names with other values. -/
def mapValues (f : α → β) (d : Dictionary α) : Dictionary β := d.map fun p => (p.1, f p.2)

/-- The same names with other values, if every value has one. -/
def mapValues? (f : α → Option β) : Dictionary α → Option (Dictionary β)
  | [] => some []
  | (key, value) :: rest => do
    let value ← f value
    let rest ← mapValues? f rest
    some ((key, value) :: rest)

/-- The pairs whose names satisfy `p`. -/
def filterNames (p : String → Bool) (d : Dictionary α) : Dictionary α := d.filter fun e => p e.1

theorem find?_insert_self (name : String) (value : α) (d : Dictionary α) :
    (d.insert name value).find? name = some value := by
  induction d with
  | nil => simp [insert, find?]
  | cons p rest ih =>
    obtain ⟨key, old⟩ := p
    by_cases h : key = name
    · simp [insert, find?, h]
    · by_cases h' : name < key
      · simp [insert, find?, h, h']
      · simp [insert, find?, h, h', ih]

theorem find?_insert_of_ne {name other : String} (hne : other ≠ name) (value : α)
    (d : Dictionary α) : (d.insert name value).find? other = d.find? other := by
  induction d with
  | nil => simp [insert, find?, hne.symm]
  | cons p rest ih =>
    obtain ⟨key, old⟩ := p
    by_cases h : key = name
    · simp [insert, find?, h, hne.symm]
    · by_cases h' : name < key
      · simp [insert, find?, h, h', hne.symm]
      · by_cases hk : key = other
        · subst hk; simp [insert, find?, h, h']
        · simp [insert, find?, h, h', hk, ih]

theorem mem_of_find? {name : String} {value : α} {d : Dictionary α}
    (h : d.find? name = some value) : (name, value) ∈ d := by
  induction d with
  | nil => cases h
  | cons pair rest ih =>
    rw [find?] at h
    split at h
    · next hkey =>
      obtain rfl := Option.some.inj h
      exact List.mem_cons.mpr (.inl (by rw [← hkey]))
    · exact List.mem_cons_of_mem _ (ih h)

theorem find?_eq_none {name : String} {d : Dictionary α} (h : name ∉ d.map Prod.fst) :
    d.find? name = none := by
  cases hfind : d.find? name with
  | none => rfl
  | some value => exact absurd (List.mem_map_of_mem (mem_of_find? hfind)) h

theorem mem_insert {name : String} {value : α} {d : Dictionary α} {p : String × α}
    (hp : p ∈ d.insert name value) : p = (name, value) ∨ p ∈ d := by
  induction d with
  | nil => exact .inl (List.mem_singleton.mp hp)
  | cons pair rest ih =>
    obtain ⟨key, old⟩ := pair
    rw [insert] at hp
    split at hp
    · exact (List.mem_cons.mp hp).imp_right (List.mem_cons_of_mem _)
    · split at hp
      · exact List.mem_cons.mp hp
      · rcases List.mem_cons.mp hp with rfl | hp
        · exact .inr List.mem_cons_self
        · exact (ih hp).imp_right (List.mem_cons_of_mem _)

theorem filterNames_insert {p : String → Bool} {name : String} (hname : p name = false) (value : α)
    (d : Dictionary α) : (d.insert name value).filterNames p = d.filterNames p := by
  have hskip (v : α) (rest : Dictionary α) :
      filterNames p ((name, v) :: rest) = rest.filterNames p :=
    List.filter_cons_of_neg (ne_true_of_eq_false hname)
  induction d with
  | nil => exact hskip value []
  | cons pair rest ih =>
    obtain ⟨key, old⟩ := pair
    rw [insert]
    split
    · next hkey =>
      subst hkey
      rw [hskip, hskip]
    · split
      · exact hskip value _
      · show List.filter _ ((key, old) :: insert name value rest) = List.filter _ _
        rw [List.filter_cons, List.filter_cons]
        exact ite_congr rfl (fun _ => congrArg _ ih) fun _ => ih

variable {γ : Type} {f : α → Option β} {d : Dictionary α}

theorem mem_of_mapValues? {d' : Dictionary β} {p : String × β} (h : d.mapValues? f = some d')
    (hp : p ∈ d') : ∃ value, (p.1, value) ∈ d ∧ f value = some p.2 := by
  induction d generalizing d' with
  | nil =>
    obtain rfl := Option.some.inj h
    cases hp
  | cons pair rest ih =>
    obtain ⟨value, hvalue, h⟩ := Option.bind_eq_some_iff.mp h
    obtain ⟨values, hvalues, h⟩ := Option.bind_eq_some_iff.mp h
    obtain rfl := Option.some.inj h
    rcases List.mem_cons.mp hp with rfl | hp
    · exact ⟨pair.2, List.mem_cons_self, hvalue⟩
    · obtain ⟨old, hold, hf⟩ := ih hvalues hp
      exact ⟨old, List.mem_cons_of_mem _ hold, hf⟩

theorem mapValues?_mapValues {encode : α → β} {decode : β → Option γ} {g : α → γ}
    (h : ∀ p ∈ d, decode (encode p.2) = some (g p.2)) :
    (d.mapValues encode).mapValues? decode = some (d.mapValues g) := by
  induction d with
  | nil => rfl
  | cons pair rest ih =>
    obtain ⟨hpair, hrest⟩ := List.forall_mem_cons.mp h
    show ((decode (encode pair.2)).bind fun value => ((mapValues encode rest).mapValues?
      decode).bind fun rest => some ((pair.1, value) :: rest)) = _
    rw [hpair, ih hrest]
    rfl

end Dictionary

end MapStyle
