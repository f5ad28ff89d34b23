/-
Text in two directions.

A label of a name is kept apart from its neighbours only if its direction is plain.

* `direction` — the direction of a character;
* `isOneWay` — whether a text begins and ends in one direction and holds nothing of
  the other.
-/
import MapStyle.Text.DirectionTable
import MapStyle.Text.Joining

namespace MapStyle.Text

/-- What a character has to do with the direction of a text. -/
inductive Direction where
  | leftToRight
  | rightToLeft
  | arabicNumber
  | europeanNumber
  | neutral
  /-- A mark, which goes with what it stands on. -/
  | mark
deriving DecidableEq, Repr

/-- The direction of a character. -/
def direction (c : Char) : Direction :=
  let n := c.toNat
  if isNonspacing c then .mark
  else if inRanges rightToLeftRanges n then .rightToLeft
  else if inRanges arabicNumberRanges n then .arabicNumber
  else if inRanges europeanNumberRanges n then .europeanNumber
  else if inRanges neutralRanges n then .neutral
  else .leftToRight

/-- Whether a character makes a text one of two directions. -/
def Direction.isFromRight (d : Direction) : Bool := d == .rightToLeft || d == .arabicNumber

/-- The direction at the end of a text, behind which only marks follow. -/
def lastDirection? (ds : List Direction) : Option Direction := ds.reverse.find? (· != .mark)

/-- Whether directions are those of a text from left to right. -/
def runsLeftToRight (ds : List Direction) : Bool :=
  ds.head? == some .leftToRight && ds.all (!·.isFromRight) &&
    (lastDirection? ds).any fun d => d == .leftToRight || d == .europeanNumber

/-- Whether directions are those of a text from right to left.  It has figures of one
kind only. -/
def runsRightToLeft (ds : List Direction) : Bool :=
  ds.head? == some .rightToLeft && ds.all (· != .leftToRight) &&
    !(ds.contains .arabicNumber && ds.contains .europeanNumber) &&
    (lastDirection? ds).any fun d => d.isFromRight || d == .europeanNumber

/-- Whether a text begins and ends in one direction and holds nothing of the other. -/
def isOneWay (cs : List Char) : Bool :=
  cs.isEmpty || runsLeftToRight (cs.map direction) || runsRightToLeft (cs.map direction)

end MapStyle.Text
