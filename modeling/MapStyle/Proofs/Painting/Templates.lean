/-
Templates, part by part.

A template is read from left to right and never looked back on: a text up to the next open brace,
a key up to the first close brace behind it, and so on, until the template ends or a brace is left
open.  Each of these parts stands for itself or for the value of its key, whatever stands around it.

* `Segment`, `Layout` — the parts of a template, and a template as its parts;
* `Layout.spelling`, `Layout.filling` — how the parts are written, and what they stand for;
* `read_spelling` — what is written as some parts is read as their pieces;
* `exists_spelling_eq` — every text is written as some parts;
* `fill_spelling` — hence every template is filled part by part.
-/
import MapStyle.Paint.Template

namespace MapStyle.Template

/-- A part of a template: a text without an open brace, or a key between braces. -/
inductive Segment where
  | text (s : String) (noOpen : '{' ∉ s.toList)
  | token (key : String) (noClose : '}' ∉ key.toList)

/-- A template as its parts. -/
structure Layout where
  segments : List Segment
  /-- What stands behind a last brace that is not closed, if there is one. -/
  opened : Option { rest : String // '}' ∉ rest.toList }

/-- A part as it is written. -/
def Segment.spelling : Segment → String
  | text s _ => s
  | token key _ => "\x7b" ++ key ++ "\x7d"

/-- What a part stands for: a text for itself, and a key for the text of its value, or for nothing
if there is none. -/
def Segment.filling (properties : Dictionary Json) : Segment → String
  | text s _ => s
  | token key _ => ((properties.find? key).map Json.plainText).getD ""

namespace Layout

/-- The tail of a template whose last brace is not closed. -/
def tail (l : Layout) : String := (l.opened.map fun rest => "\x7b" ++ rest.val).getD ""

/-- The template that has these parts. -/
def spelling (l : Layout) : String := String.join (l.segments.map Segment.spelling) ++ l.tail

/-- What the parts stand for. -/
def filling (properties : Dictionary Json) (l : Layout) : String :=
  String.join (l.segments.map (Segment.filling properties)) ++ l.tail

end Layout

/-! ### Reading -/

theorem readFrom_text {s : List Char} (h : '{' ∉ s) (rest : List Char) :
    readFrom none (s ++ rest) = s.map Piece.char ++ readFrom none rest := by
  induction s with
  | nil => rfl
  | cons c s ih =>
    rw [List.mem_cons, not_or] at h
    obtain ⟨hc, hs⟩ := h
    rw [List.cons_append, readFrom, if_neg (Ne.symm hc), ih hs]
    rfl

theorem readFrom_key {key : List Char} (h : '}' ∉ key) (before rest : List Char) :
    readFrom (some before) (key ++ '}' :: rest) =
      Piece.token (before.reverse ++ key) :: readFrom none rest := by
  induction key generalizing before with
  | nil => rw [List.nil_append, readFrom, if_pos rfl, List.append_nil]
  | cons c key ih =>
    rw [List.mem_cons, not_or] at h
    obtain ⟨hc, hkey⟩ := h
    rw [List.cons_append, readFrom, if_neg (Ne.symm hc), ih hkey, List.reverse_cons,
      List.append_assoc]
    rfl

theorem readFrom_opened {rest : List Char} (h : '}' ∉ rest) (before : List Char) :
    readFrom (some before) rest = [Piece.unclosed (before.reverse ++ rest)] := by
  induction rest generalizing before with
  | nil => rw [readFrom, List.append_nil]
  | cons c rest ih =>
    rw [List.mem_cons, not_or] at h
    obtain ⟨hc, hrest⟩ := h
    rw [readFrom, if_neg (Ne.symm hc), ih hrest, List.reverse_cons, List.append_assoc]
    rfl

/-- The pieces that a part is read as. -/
def Segment.pieces : Segment → List Piece
  | text s _ => s.toList.map Piece.char
  | token key _ => [Piece.token key.toList]

/-- The pieces that a template is read as. -/
def Layout.pieces (l : Layout) : List Piece :=
  l.segments.flatMap Segment.pieces ++
    (l.opened.map fun rest => Piece.unclosed rest.val.toList).toList

theorem readFrom_segment (s : Segment) (rest : List Char) :
    readFrom none (s.spelling.toList ++ rest) = s.pieces ++ readFrom none rest := by
  cases s with
  | text s h => exact readFrom_text h rest
  | token key h =>
    have hspelling : (Segment.token key h).spelling.toList ++ rest =
        '{' :: (key.toList ++ '}' :: rest) := by
      simp [Segment.spelling]
    rw [hspelling, readFrom, if_pos rfl, readFrom_key h]
    rfl

theorem readFrom_tail (l : Layout) :
    readFrom none l.tail.toList =
      (l.opened.map fun rest => Piece.unclosed rest.val.toList).toList := by
  rw [Layout.tail]
  cases l.opened with
  | none => rfl
  | some rest =>
    have htail : ("\x7b" ++ rest.val).toList = '{' :: rest.val.toList := by
      rw [String.toList_append]
      rfl
    rw [Option.map_some, Option.getD_some, htail, readFrom, if_pos rfl,
      readFrom_opened rest.property]
    rfl

/-- What is written as some parts is read as their pieces, one part after the other. -/
theorem read_spelling (l : Layout) : read l.spelling = l.pieces := by
  rw [read, Layout.spelling, Layout.pieces, String.toList_append, String.toList_join,
    List.flatMap_map, ← readFrom_tail]
  induction l.segments with
  | nil => rfl
  | cons s rest ih =>
    rw [List.flatMap_cons, List.flatMap_cons, List.append_assoc, List.append_assoc,
      readFrom_segment, ih]

/-! ### Filling -/

variable {properties : Dictionary Json}

theorem fill_pieces (s : Segment) :
    s.pieces.flatMap (Piece.fill properties) = (s.filling properties).toList := by
  cases s with
  | text s h =>
    rw [Segment.pieces, Segment.filling, List.flatMap_map]
    exact List.flatMap_singleton' s.toList
  | token key h =>
    rw [Segment.pieces, Segment.filling, List.flatMap_singleton, Piece.fill, String.ofList_toList]
    cases properties.find? key <;> rfl

theorem flatMap_fill_pieces (l : Layout) :
    l.pieces.flatMap (Piece.fill properties) = (l.filling properties).toList := by
  have htail : ((l.opened.map fun rest => Piece.unclosed rest.val.toList).toList).flatMap
      (Piece.fill properties) = l.tail.toList := by
    rw [Layout.tail]
    cases l.opened with
    | none => rfl
    | some rest =>
      rw [Option.map_some, Option.map_some, Option.getD_some, String.toList_append]
      exact List.flatMap_singleton _ _
  rw [Layout.pieces, Layout.filling, List.flatMap_append, htail, String.toList_append,
    String.toList_join, List.flatMap_assoc, List.flatMap_map]
  simp only [fill_pieces]

/-! ### Every text has parts -/

/-- A part put in front of a template. -/
def Layout.cons (s : Segment) (l : Layout) : Layout := ⟨s :: l.segments, l.opened⟩

theorem Layout.spelling_cons (s : Segment) (l : Layout) :
    (l.cons s).spelling = s.spelling ++ l.spelling := by
  rw [spelling, cons, List.map_cons, String.join_cons, String.append_assoc]
  rfl

/-- Every text is written as some parts.  A key that has been begun is closed by the first close
brace, or else left open. -/
theorem exists_spelling_toList (rest : List Char) :
    (∃ l : Layout, l.spelling.toList = rest) ∧
      ∀ key : List Char, '}' ∉ key → ∃ l : Layout, l.spelling.toList = '{' :: (key ++ rest) := by
  induction rest with
  | nil =>
    refine ⟨⟨⟨[], none⟩, rfl⟩, fun key hkey => ?_⟩
    refine ⟨⟨[], some ⟨String.ofList key, by rwa [String.toList_ofList]⟩⟩, ?_⟩
    simp [Layout.spelling, Layout.tail]
  | cons c rest ih =>
    obtain ⟨⟨l, hl⟩, hkeys⟩ := ih
    constructor
    · by_cases hc : c = '{'
      · obtain ⟨l', hl'⟩ := hkeys [] List.not_mem_nil
        exact ⟨l', by rw [hl', hc]; rfl⟩
      · have hopen : '{' ∉ (String.singleton c).toList := by
          simpa using Ne.symm hc
        refine ⟨l.cons (.text (String.singleton c) hopen), ?_⟩
        rw [Layout.spelling_cons, String.toList_append, hl]
        simp [Segment.spelling]
    · intro key hkey
      by_cases hc : c = '}'
      · have hclose : '}' ∉ (String.ofList key).toList := by rwa [String.toList_ofList]
        refine ⟨l.cons (.token (String.ofList key) hclose), ?_⟩
        rw [Layout.spelling_cons, String.toList_append, hl, hc]
        simp [Segment.spelling]
      · have hkey' : '}' ∉ key ++ [c] := by
          simpa [hkey] using Ne.symm hc
        obtain ⟨l', hl'⟩ := hkeys (key ++ [c]) hkey'
        exact ⟨l', by rw [hl', List.append_assoc]; rfl⟩

/-- Every text is a template of some parts. -/
theorem exists_spelling_eq (template : String) : ∃ l : Layout, l.spelling = template := by
  obtain ⟨l, hl⟩ := (exists_spelling_toList template.toList).1
  exact ⟨l, String.toList_inj.mp hl⟩

/-- **A template is filled part by part.**  Every text is a template of some parts, and it becomes
what these stand for: its texts and an open tail as they are, and for each key the text of its
value, braces and all. -/
theorem fill_spelling :
    (∀ (properties : Dictionary Json) (l : Layout),
      fill properties l.spelling = l.filling properties) ∧
    ∀ template : String, ∃ l : Layout, l.spelling = template := by
  refine ⟨fun properties l => ?_, exists_spelling_eq⟩
  rw [fill, read_spelling, flatMap_fill_pieces, String.ofList_toList]

/-- A value with braces is not filled again, and the key between two open braces holds one. -/
example :
    fill [("a", .string "\x7ba\x7d"), ("\x7ba", .null)]
      "\x7ba\x7d-\x7b\x7ba\x7d-\x7ba" = "\x7ba\x7d--\x7ba" := by
  cbv

end MapStyle.Template
