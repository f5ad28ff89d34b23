/-
Cursive scripts.

* `joinsBefore`, `joinsBehind` — whether a letter would join what stands at a place, by
  the text on either side of it;
* `isMark` — whether a character is a combining mark.
-/
import MapStyle.Text.JoiningTable
import MapStyle.Text.MarkTable

namespace MapStyle.Text

/-- Whether a character is a mark that takes the direction of what it stands on. -/
def isNonspacing (c : Char) : Bool := inRanges nonspacingRanges c.toNat

/-- Whether a character is a combining mark. -/
def isMark (c : Char) : Bool := isNonspacing c || inRanges directedMarkRanges c.toNat

/-- Whether joining passes over a character. -/
def isTransparent (c : Char) : Bool := isNonspacing c || inRanges transparentRanges c.toNat

/-- Whether the first character that joining does not pass over lies in one of the ranges. -/
def meetsJoining (ranges : Ranges) (cs : List Char) : Bool :=
  match cs.dropWhile isTransparent with
  | c :: _ => inRanges ranges c.toNat
  | [] => false

/-- Whether the text before a place, nearest first, ends with a letter that joins what follows. -/
def joinsBefore (before : List Char) : Bool :=
  meetsJoining (dualJoiningRanges ++ leftJoiningRanges) before

/-- Whether the text behind a place begins with a letter that joins what stands before. -/
def joinsBehind (after : List Char) : Bool :=
  meetsJoining (dualJoiningRanges ++ rightJoiningRanges) after

end MapStyle.Text
