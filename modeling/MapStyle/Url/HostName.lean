/-
Names of hosts.

A name is labels between points.  Names that differ only in case, in the form of
characters or in the spelling of marks are the same name, and a label beyond ASCII is
written in ASCII behind a mark.

* `nameForm?` — what a character of a name stands for;
* `plainLabel?` — the text of a label, be it written in ASCII or not;
* `isLabel` — whether a text can be a label: it does not begin with a combining mark, and
  characters that join letters stand only where they show;
* `asciiName?` — a name in ASCII.
-/
import MapStyle.Text.Case
import MapStyle.Text.Composition
import MapStyle.Text.Direction
import MapStyle.Text.Split
import MapStyle.Url.FormTable
import MapStyle.Url.NameTable
import MapStyle.Url.Punycode

namespace MapStyle.Url

/-- Whether all of a text is ASCII. -/
def isAscii (cs : List Char) : Bool := cs.all fun c => c.toNat < 0x80

/-! ### Characters -/

/-- What a character is another form of. -/
def form? (c : Char) : Option (List Char) := do
  let run ← (formRuns.takeWhile fun r => r.first ≤ c.toNat).getLast?
  (Text.splitOn (· == ' ') run.forms.toList)[c.toNat - run.first]?

/-- What a character of a name stands for: nothing, the characters of which it is a form,
its lower case, or itself; no character where none is allowed. -/
def nameForm? (c : Char) : Option (List Char) :=
  if Text.inRanges ignoredRanges c.toNat then some []
  else
    match form? c with
    | some cs => some cs
    | none =>
      let small := Text.lowerChar c
      if small ≠ [c] then some small
      else if Text.inRanges allowedRanges c.toNat then some [c]
      else none

/-! ### Labels -/

/-- What stands in front of a label that is written in ASCII. -/
def asciiMark : List Char := ['x', 'n', '-', '-']

/-- The greatest length of a label beyond ASCII. -/
def mostCharacters : Nat := 1000

/-- The greatest length of what stands behind the mark of a label that is written in ASCII. -/
def mostDigits : Nat := 2000

/-- Whether a text is spelled as a name spells it. -/
def isPlain (cs : List Char) : Bool :=
  cs.all (fun c => nameForm? c = some [c]) && Text.composed cs == cs

/-- The text of a label.  A label that is written in ASCII has to stand for plain text
beyond ASCII. -/
def plainLabel? (cs : List Char) : Option (List Char) :=
  match Text.dropLead? asciiMark cs with
  | none => some cs
  | some digits =>
    if !isAscii cs || mostDigits < digits.length then none
    else (Punycode.decode? digits).filter fun text => !isAscii text && isPlain text

/-- The class of the sign that takes the vowel from a consonant. -/
def viramaClass : Nat := 9

/-- Whether the characters that join letters, and keep them from joining, stand only where
they show: behind a sign that takes the vowel away, and the second also between letters that
would join.  What stands before is kept nearest first. -/
def joinersShow (before : List Char) : List Char → Bool
  | [] => true
  | c :: rest =>
    let afterVirama := (before.head?.map Text.combiningClass) == some viramaClass
    (if c = '\u200D' then afterVirama
      else if c = '\u200C' then afterVirama || (Text.joinsBefore before && Text.joinsBehind rest)
      else true) &&
      joinersShow (c :: before) rest

/-- Whether a text can be a label. -/
def isLabel (cs : List Char) : Bool :=
  !(cs.head?.any Text.isMark) && joinersShow [] cs &&
    (isAscii cs || cs.length ≤ mostCharacters)

/-- Whether labels can stand together: if any runs from right to left, each has one direction. -/
def directionsAgree (labels : List (List Char)) : Bool :=
  !(labels.any fun cs => cs.any fun c => (Text.direction c).isFromRight) ||
    labels.all Text.isOneWay

/-- A label in ASCII. -/
def asciiLabel (cs : List Char) : List Char :=
  if isAscii cs then cs else asciiMark ++ Punycode.encode cs

/-! ### Names -/

/-- The ASCII characters that a name has not, besides controls. -/
def forbiddenInName : List Char :=
  [' ', '#', '%', '/', ':', '<', '>', '?', '@', '[', '\\', ']', '^', '|', '\x7F']

/-- A name in ASCII. -/
def asciiName? (cs : List Char) : Option (List Char) := do
  let forms ← cs.mapM nameForm?
  let labels ← (Text.splitOn (· == '.') (Text.composed forms.flatten)).mapM plainLabel?
  if !labels.all isLabel || !directionsAgree labels then none
  else
    let name := ['.'].intercalate (labels.map asciiLabel)
    if name.any fun c => c.toNat < 0x20 || forbiddenInName.contains c then none else some name

end MapStyle.Url
