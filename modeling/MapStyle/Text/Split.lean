/-
Taking text apart.

* `split` — the parts between occurrences of a character;
* `trimEnd` — a text without a character at its end;
* `dropLead?` — what follows another text at the front of a text;
* `dropLeads` — a text without repetitions of another at its front;
* `contains` — whether a text occurs inside another;
* `split_append`, `split_intercalate` — the parts of texts that are joined.
-/
namespace MapStyle.Text

/-- The list without the characters at its end that satisfy `p`. -/
def dropWhileEnd (p : Char → Bool) (cs : List Char) : List Char :=
  (cs.reverse.dropWhile p).reverse

/-- A text without `c` at its end. -/
def trimEnd (c : Char) (text : String) : String :=
  String.ofList (dropWhileEnd (· == c) text.toList)

/-- The parts of a list between the members that satisfy `p`; one more than there are such. -/
def splitOn {α : Type} (p : α → Bool) : List α → List (List α)
  | [] => [[]]
  | c :: rest =>
    match splitOn p rest with
    | [] => [[]]
    | part :: parts => if p c then [] :: part :: parts else (c :: part) :: parts

/-- The parts of a text between occurrences of `c`. -/
def split (c : Char) (text : String) : List String :=
  (splitOn (· == c) text.toList).map String.ofList

/-- What follows `lead` in a text that begins with it. -/
def dropLead? : List Char → List Char → Option (List Char)
  | [], cs => some cs
  | _ :: _, [] => none
  | l :: ls, c :: cs => if l = c then dropLead? ls cs else none

/-- A lead is dropped just from the texts that begin with it. -/
theorem dropLead?_eq_some_iff {lead cs rest : List Char} :
    dropLead? lead cs = some rest ↔ cs = lead ++ rest := by
  induction lead generalizing cs with
  | nil => simp [dropLead?]
  | cons l ls ih =>
    cases cs with
    | nil => simp [dropLead?]
    | cons c cs =>
      by_cases h : l = c
      · simp [dropLead?, h, ih]
      · simp [dropLead?, h, Ne.symm h]

theorem length_of_dropLead? {lead cs rest : List Char} (h : dropLead? lead cs = some rest) :
    cs.length = lead.length + rest.length := by
  rw [dropLead?_eq_some_iff.1 h, List.length_append]

/-- A text without repetitions of `lead` at its front. -/
def dropLeads (lead cs : List Char) : List Char :=
  if lead.isEmpty then cs
  else
    match h : dropLead? lead cs with
    | some rest => dropLeads lead rest
    | none => cs
termination_by cs.length
decreasing_by
  have := length_of_dropLead? h
  cases lead with
  | nil => simp at *
  | cons l ls => simp only [List.length_cons] at this; omega

/-- Whether `part` occurs in the text. -/
def contains (part : List Char) : List Char → Bool
  | [] => part.isEmpty
  | c :: cs => (dropLead? part (c :: cs)).isSome || contains part cs

theorem splitOn_ne_nil {α : Type} (p : α → Bool) (cs : List α) : splitOn p cs ≠ [] := by
  induction cs with
  | nil => simp [splitOn]
  | cons c rest ih =>
    simp only [splitOn]
    split
    · contradiction
    · split <;> simp

section Parts

variable {α : Type} {p : α → Bool} {c : α}

theorem splitOn_cons_of_pos (h : p c = true) (rest : List α) :
    splitOn p (c :: rest) = [] :: splitOn p rest := by
  obtain ⟨part, parts, hrest⟩ := List.exists_cons_of_ne_nil (splitOn_ne_nil p rest)
  simp only [splitOn, hrest, h, if_true]

theorem splitOn_cons_of_neg (h : p c = false) {rest part : List α} {parts : List (List α)}
    (hrest : splitOn p rest = part :: parts) : splitOn p (c :: rest) = (c :: part) :: parts := by
  simp only [splitOn, hrest, h, Bool.false_eq_true, if_false]

/-- The parts on the two sides of a separator. -/
theorem splitOn_append_cons (as : List α) (h : p c = true) (bs : List α) :
    splitOn p (as ++ c :: bs) = splitOn p as ++ splitOn p bs := by
  induction as with
  | nil => exact splitOn_cons_of_pos h bs
  | cons a as ih =>
    cases ha : p a with
    | true => rw [List.cons_append, splitOn_cons_of_pos ha, splitOn_cons_of_pos ha, ih]; rfl
    | false =>
      obtain ⟨part, parts, has⟩ := List.exists_cons_of_ne_nil (splitOn_ne_nil p as)
      rw [has] at ih
      rw [List.cons_append, splitOn_cons_of_neg ha ih, splitOn_cons_of_neg ha has]
      rfl

/-- Without a separator there is one part. -/
theorem splitOn_eq_singleton {cs : List α} (h : ∀ a ∈ cs, p a = false) : splitOn p cs = [cs] := by
  induction cs with
  | nil => rfl
  | cons a cs ih =>
    obtain ⟨ha, hcs⟩ := List.forall_mem_cons.mp h
    exact splitOn_cons_of_neg ha (ih hcs)

/-- No part holds a separator. -/
theorem eq_false_of_mem_splitOn {cs part : List α} (hpart : part ∈ splitOn p cs) {a : α}
    (ha : a ∈ part) : p a = false := by
  induction cs generalizing part with
  | nil =>
    obtain rfl := List.mem_singleton.mp hpart
    cases ha
  | cons c cs ih =>
    cases hc : p c with
    | true =>
      rw [splitOn_cons_of_pos hc] at hpart
      rcases List.mem_cons.mp hpart with rfl | hpart
      · cases ha
      · exact ih hpart ha
    | false =>
      obtain ⟨first, parts, hcs⟩ := List.exists_cons_of_ne_nil (splitOn_ne_nil p cs)
      rw [splitOn_cons_of_neg hc hcs] at hpart
      rw [hcs] at ih
      rcases List.mem_cons.mp hpart with rfl | hpart
      · rcases List.mem_cons.mp ha with rfl | ha
        · exact hc
        · exact ih List.mem_cons_self ha
      · exact ih (List.mem_cons_of_mem first hpart) ha

end Parts

section Separator

variable {c : Char} {s : String}

/-- The parts on the two sides of a separator. -/
theorem split_append (hs : s.toList = [c]) (a b : String) :
    split c (a ++ s ++ b) = split c a ++ split c b := by
  have hlist : (a ++ s ++ b).toList = a.toList ++ c :: b.toList := by
    rw [String.toList_append, String.toList_append, hs, List.append_assoc]
    rfl
  have hsplit := splitOn_append_cons (p := (· == c)) a.toList (beq_self_eq_true c) b.toList
  rw [split, hlist, hsplit, List.map_append]
  rfl

theorem not_mem_of_mem_split {part text : String} (h : part ∈ split c text) :
    c ∉ part.toList := by
  obtain ⟨cs, hcs, rfl⟩ := List.mem_map.mp h
  intro hc
  rw [String.toList_ofList] at hc
  have hne := eq_false_of_mem_splitOn hcs hc
  rw [beq_self_eq_true] at hne
  cases hne

/-- A text without the separator is its only part. -/
theorem split_eq_singleton {text : String} (h : c ∉ text.toList) : split c text = [text] := by
  have hne : ∀ d ∈ text.toList, (d == c) = false := by
    intro d hd
    exact beq_eq_false_iff_ne.mpr fun heq => h (heq ▸ hd)
  rw [split, splitOn_eq_singleton hne, List.map_singleton, String.ofList_toList]

/-- Parts that are joined are found again. -/
theorem split_intercalate (hs : s.toList = [c]) {parts : List String} (hne : parts ≠ [])
    (h : ∀ part ∈ parts, c ∉ part.toList) : split c (s.intercalate parts) = parts := by
  induction parts with
  | nil => exact absurd rfl hne
  | cons part parts ih =>
    obtain ⟨hpart, hparts⟩ := List.forall_mem_cons.mp h
    by_cases hrest : parts = []
    · rw [hrest, String.intercalate_singleton, split_eq_singleton hpart]
    · rw [String.intercalate_cons_of_ne_nil hrest, split_append hs, split_eq_singleton hpart,
        ih hrest hparts]
      rfl

end Separator

end MapStyle.Text
