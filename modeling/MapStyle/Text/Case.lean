/-
Upper and lower case of text.

Both follow the full Unicode mappings, in which a letter may become several
characters.  Only one letter looks at its neighbours:

* a capital sigma becomes `ς` at the end of a word and `σ` elsewhere, where a
  word ends if a cased letter stands before and none behind, characters that
  case ignores being passed over on both sides (`endsWord`).
-/
import MapStyle.Text.CaseTable

namespace MapStyle.Text

/-- The other case of a code point, as a list of runs gives it. -/
def mapped (runs : List CaseRun) (n : Nat) : Nat :=
  match runs.find? fun r => r.first ≤ n && n ≤ r.last && (n - r.first) % r.step == 0 with
  | some r => (n + r.shift).toNat
  | none => n

/-- The lower case of a letter away from its neighbours. -/
def lowerChar (c : Char) : List Char :=
  if c = 'İ' then ['i', '\u0307'] else [Char.ofNat (mapped lowerRuns c.toNat)]

/-- The upper case of a letter. -/
def upperChar (c : Char) : List Char :=
  match upperWords.lookup c.toNat with
  | some word => word.map Char.ofNat
  | none => [Char.ofNat (mapped upperRuns c.toNat)]

/-- Whether the first character that case does not ignore is cased. -/
def meetsCased (cs : List Char) : Bool :=
  match cs.dropWhile fun c => inRanges caseIgnorableRanges c.toNat with
  | c :: _ => inRanges casedRanges c.toNat
  | [] => false

/-- Whether a word ends between what stands before, nearest first, and what follows. -/
def endsWord (before after : List Char) : Bool := meetsCased before && !meetsCased after

/-- The lower case of the second list behind the first, which is kept nearest first. -/
def lowerFrom (before : List Char) : List Char → List Char
  | [] => []
  | c :: rest =>
    (if c = 'Σ' then [if endsWord before rest then 'ς' else 'σ'] else lowerChar c) ++
      lowerFrom (c :: before) rest

/-- The lower case of a text. -/
def lower (text : String) : String := String.ofList (lowerFrom [] text.toList)

/-- The upper case of a text. -/
def upper (text : String) : String := String.ofList (text.toList.flatMap upperChar)

end MapStyle.Text
