/-
Percent encoding.

A character that may not stand for itself is written as its UTF-8 bytes, each as a
percent sign and two hexadecimal digits.  What may stand for itself differs from
part to part of a URL; characters beyond ASCII never may.

* `percentEncode` — a text for one part of a URL;
* `percentDecode` — the bytes that a text stands for.
-/
import MapStyle.Text.Hex

namespace MapStyle

/-- Which ASCII characters are escaped in a part of a URL. -/
abbrev EscapeSet := Char → Bool

namespace EscapeSet

/-- The control characters. -/
def control : EscapeSet := fun c => c.toNat < 0x20 || c.toNat == 0x7F

/-- Control characters and the given ones. -/
def controlAnd (others : List Char) : EscapeSet := fun c => control c || others.contains c

def fragment : EscapeSet := controlAnd [' ', '"', '<', '>', '\x60']

def query : EscapeSet := controlAnd [' ', '"', '#', '<', '>']

/-- Queries of the special schemes. -/
def specialQuery : EscapeSet := controlAnd [' ', '"', '#', '<', '>', '\x27']

/-- What is escaped in a path. -/
def pathChars : List Char := [' ', '"', '#', '<', '>', '?', '\x60', '\x7b', '\x7d']

def path : EscapeSet := controlAnd pathChars

def userinfo : EscapeSet :=
  controlAnd (pathChars ++ ['/', ':', ';', '=', '@', '[', '\\', ']', '^', '|'])

end EscapeSet

/-- A byte as a percent sign and two digits. -/
def percentByte (b : UInt8) : List Char :=
  ['%', Text.upperHex (b.toNat / 16), Text.upperHex (b.toNat % 16)]

/-- A character of a part of a URL. -/
def percentEncodeChar (escape : EscapeSet) (c : Char) : List Char :=
  if c.toNat < 0x80 && !escape c then [c] else (String.utf8EncodeChar c).flatMap percentByte

/-- A text for a part of a URL. -/
def percentEncode (escape : EscapeSet) (cs : List Char) : List Char :=
  cs.flatMap (percentEncodeChar escape)

/-- The bytes of a text in which escapes stand for bytes.  A percent sign without two
digits behind it stands for itself. -/
def percentDecode : List Char → List UInt8
  | [] => []
  | '%' :: h :: l :: rest =>
    match Text.hexValue? h, Text.hexValue? l with
    | some high, some low => UInt8.ofNat (16 * high + low) :: percentDecode rest
    | _, _ => String.utf8EncodeChar '%' ++ percentDecode (h :: l :: rest)
  | c :: rest => String.utf8EncodeChar c ++ percentDecode rest

/-- The text that some bytes are in UTF-8. -/
def textOfBytes? (bytes : List UInt8) : Option String := String.fromUTF8? ⟨bytes.toArray⟩

end MapStyle
