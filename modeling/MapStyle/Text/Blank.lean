/-
White space.

The white space of Unicode is twenty-five characters, of which core's
`Char.isWhitespace` knows only some of the ASCII ones.

* `trim` — a text without the blanks at its ends;
* `words` — the runs between blanks.
-/
import MapStyle.Text.Split

namespace MapStyle.Text

/-- The white space characters. -/
def isBlank (c : Char) : Bool :=
  let n := c.toNat
  (0x9 ≤ n && n ≤ 0xD) || n == 0x20 || n == 0x85 || n == 0xA0 || n == 0x1680 ||
    (0x2000 ≤ n && n ≤ 0x200A) || n == 0x2028 || n == 0x2029 || n == 0x202F || n == 0x205F ||
    n == 0x3000

/-- A text without blanks at either end. -/
def trim (text : String) : String :=
  String.ofList (dropWhileEnd isBlank (text.toList.dropWhile isBlank))

/-- The words of a text: what stands between blanks. -/
def words (text : String) : List String :=
  ((splitOn isBlank text.toList).filter (!·.isEmpty)).map String.ofList

end MapStyle.Text
