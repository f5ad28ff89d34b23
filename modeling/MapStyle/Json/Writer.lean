/-
JSON values as compact text.

* `Number.text` — integers in decimal; floats with the fewest digits that read
  back, without an exponent from `10 ^ -5` up to `10 ^ 16`, whole ones with `.0`;
* `Json.text` — no blanks, and in strings only the quote, the backslash and the
  control characters are escaped;
* `Json.plainText` — the text of a value inside other text: null is empty and a
  string stands for itself.
-/
import MapStyle.Decimal.Layout
import MapStyle.Json.Basic
import MapStyle.Text.Hex

namespace MapStyle

/-- Numbers stand without an exponent from `10 ^ -5` up to `10 ^ 16`. -/
def Number.layout : Decimal.Layout where
  positional first := -5 ≤ first && first < 16
  wholeTail := ".0"
  tie := .even

/-- The text of a number. -/
def Number.text : Number → String
  | .int n => toString n
  | .float x => (layout.float x).getD "null"

namespace Json

/-- A character inside a string literal. -/
def escapeChar (c : Char) : List Char :=
  if c = '"' then ['\\', '"']
  else if c = '\\' then ['\\', '\\']
  else if c = '\n' then ['\\', 'n']
  else if c = '\r' then ['\\', 'r']
  else if c = '\t' then ['\\', 't']
  else if c = '\x08' then ['\\', 'b']
  else if c = '\x0c' then ['\\', 'f']
  else if c.toNat < 0x20 then
    ['\\', 'u', '0', '0', Text.lowerHex (c.toNat / 16), Text.lowerHex (c.toNat % 16)]
  else [c]

/-- A string literal. -/
def quoted (s : String) : String := "\"" ++ String.ofList (s.toList.flatMap escapeChar) ++ "\""

mutual

/-- A value as compact text. -/
def text : Json → String
  | null => "null"
  | bool b => if b then "true" else "false"
  | number n => n.text
  | string s => quoted s
  | array items => "[" ++ String.intercalate "," (itemTexts items) ++ "]"
  | object members => "\x7b" ++ String.intercalate "," (memberTexts members) ++ "\x7d"

/-- The texts of the items of an array. -/
def itemTexts : List Json → List String
  | [] => []
  | item :: rest => text item :: itemTexts rest

/-- The texts of the members of an object. -/
def memberTexts : List (String × Json) → List String
  | [] => []
  | (name, value) :: rest => (quoted name ++ ":" ++ text value) :: memberTexts rest

end

/-- The text of a value inside other text. -/
def plainText : Json → String
  | null => ""
  | string s => s
  | v => v.text

end Json

end MapStyle
