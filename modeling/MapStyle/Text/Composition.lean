/-
Letters and their marks.

A letter with marks can be written as one character or as a letter and marks behind it,
and marks that do not touch each other in any order.  The composed form is one spelling
for all of them.

* `decompose` — a character as a letter and its marks;
* `order` — text with the marks behind each letter in the order of their classes;
* `compose` — text with every mark that can be joined to the letter before it joined;
* `composed` — the three in turn, the composed form of a text.
-/
import MapStyle.Text.LetterTable
import MapStyle.Text.MarkTable

namespace MapStyle.Text

/-- The class of a mark, which is zero for all that is not moved. -/
def combiningClass (c : Char) : Nat :=
  match combiningClasses.find? fun entry => inRanges entry.2 c.toNat with
  | some (value, _) => value
  | none => 0

/-! ### Syllables -/

/-- Korean syllables as numbers of three digits: a leading consonant, a vowel, and a trailing
consonant or none, which is the digit zero. -/
structure SyllableBlock where
  /-- The first syllable. -/
  first : Nat
  leads : Nat
  vowels : Nat
  /-- What stands for no trailing consonant. -/
  trails : Nat
  leadCount : Nat
  vowelCount : Nat
  trailCount : Nat

/-- The syllables and their parts by code point. -/
def syllables : SyllableBlock := ⟨0xAC00, 0x1100, 0x1161, 0x11A7, 19, 21, 28⟩

/-- A syllable as the part that is one character less and the last character. -/
def splitSyllable? (n : Nat) : Option (Nat × Nat) :=
  let s := syllables
  let index := n - s.first
  if n < s.first ∨ s.leadCount * s.vowelCount * s.trailCount ≤ index then none
  else if index % s.trailCount = 0 then
    let pair := index / s.trailCount
    some (s.leads + pair / s.vowelCount, s.vowels + pair % s.vowelCount)
  else some (n - index % s.trailCount, s.trails + index % s.trailCount)

/-- The syllable of a leading consonant and a vowel, or of such a syllable and a trailing
consonant. -/
def joinSyllable? (a b : Nat) : Option Nat :=
  let s := syllables
  if s.leads ≤ a ∧ a < s.leads + s.leadCount ∧ s.vowels ≤ b ∧ b < s.vowels + s.vowelCount then
    some (s.first + ((a - s.leads) * s.vowelCount + (b - s.vowels)) * s.trailCount)
  else if s.first ≤ a ∧ a < s.first + s.leadCount * s.vowelCount * s.trailCount ∧
      (a - s.first) % s.trailCount = 0 ∧ s.trails < b ∧ b < s.trails + s.trailCount then
    some (a + (b - s.trails))
  else none

/-! ### Letters -/

/-- A letter, a mark, and the letter that is both. -/
structure MarkedLetter where
  letter : Char
  mark : Char
  both : Char

/-- The pairs of letters of a mark. -/
def pairsOf (mark : Char) : List Char → List MarkedLetter
  | letter :: both :: rest => ⟨letter, mark, both⟩ :: pairsOf mark rest
  | _ => []

/-- All letters with marks. -/
def letters : List MarkedLetter :=
  markedLetters.flatMap fun entry => pairsOf (Char.ofNat entry.1) entry.2.toList

/-- A character as what it is without its last mark, and that mark. -/
def split? (c : Char) : Option (Char × Char) :=
  match splitSyllable? c.toNat with
  | some (a, b) => some (Char.ofNat a, Char.ofNat b)
  | none => (letters.find? fun l => l.both == c).map fun l => (l.letter, l.mark)

/-- The one character that is a letter and a mark behind it. -/
def join? (letter mark : Char) : Option Char :=
  match joinSyllable? letter.toNat mark.toNat with
  | some n => some (Char.ofNat n)
  | none => (letters.find? fun l => l.letter == letter && l.mark == mark).map (·.both)

/-- How many marks a single letter has at most. -/
def mostMarks : Nat := 2

/-- A character as a letter and up to so many marks. -/
def decomposeUpTo : Nat → Char → List Char
  | 0, c => [c]
  | most + 1, c =>
    match split? c with
    | some (letter, mark) => decomposeUpTo most letter ++ [mark]
    | none => [c]

/-- A character as a letter and its marks. -/
def decompose (c : Char) : List Char := decomposeUpTo mostMarks c

/-! ### Order -/

/-- Puts a character in front of a text, but behind marks of lower classes. -/
def place (c : Char) : List Char → List Char
  | [] => [c]
  | d :: rest =>
    if 0 < combiningClass d ∧ combiningClass d < combiningClass c then d :: place c rest
    else c :: d :: rest

/-- Text with the marks behind each letter in the order of their classes. -/
def order (cs : List Char) : List Char := cs.foldr place []

/-! ### Composition -/

/-- Joins marks to the letter before them.  Marks that cannot be joined are kept behind it,
and a mark that follows others is joined only if its class is above theirs. -/
def composeFrom (letter : Char) (kept : List Char) : List Char → List Char
  | [] => letter :: kept
  | c :: rest =>
    let reaches := kept.all fun k => combiningClass k < combiningClass c
    match if reaches then join? letter c else none with
    | some both => composeFrom both kept rest
    | none =>
      if combiningClass c = 0 then letter :: kept ++ composeFrom c [] rest
      else composeFrom letter (kept ++ [c]) rest

/-- Text with every mark that can be joined to the letter before it joined. -/
def compose : List Char → List Char
  | [] => []
  | c :: rest => if combiningClass c = 0 then composeFrom c [] rest else c :: compose rest

/-- The composed form of a text. -/
def composed (cs : List Char) : List Char := compose (order (cs.flatMap decompose))

end MapStyle.Text
