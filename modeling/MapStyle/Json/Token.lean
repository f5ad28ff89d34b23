/-
The tokens of a JSON text.

One pass over the bytes, with a `Mode` that says what has been begun:

* strings are kept as written, since what an escape of a surrogate stands for
  depends on its neighbours, and since the bytes of a string that is passed over
  need not be a text;
* numbers are kept as their digits (`Literal`), since their range matters only
  where a value is wanted.
-/
import MapStyle.Decimal.Numeral
import MapStyle.Text.Hex

namespace MapStyle.Json

/-- A part of a string as written. -/
inductive Piece where
  | byte (b : UInt8)
  /-- A UTF-16 code unit given by its number. -/
  | unit (n : Nat)
deriving DecidableEq, Repr

/-- A number as written. -/
structure Literal where
  negative : Bool
  /-- The digits before the point. -/
  whole : List Char
  /-- The digits behind the point, if there is one. -/
  fraction : Option (List Char)
  /-- The power of ten, if one is given. -/
  exponent : Option Int
deriving DecidableEq, Repr

/-- A token. -/
inductive Token where
  | openArray
  | closeArray
  | openObject
  | closeObject
  | comma
  | colon
  | null
  | bool (b : Bool)
  | number (literal : Literal)
  | string (pieces : List Piece)
deriving DecidableEq, Repr

/-- A digit run that is neither empty nor more than a lone zero with a leading zero. -/
def wholeDigits? (cs : List Char) : Option (List Char) :=
  match cs with
  | [] => none
  | '0' :: _ :: _ => none
  | _ => some cs

/-- The exponent part of a number, from its letter to the end; `some none` if there is none. -/
def exponentOf? (cs : List Char) : Option (Option Int) :=
  if cs.isEmpty then some none else (Decimal.exponentPart? cs).map some

/-- A number from its whole spelling. -/
def Literal.ofSpelling? (spelling : List Char) : Option Literal := do
  let (negative, unsigned) :=
    match spelling with
    | '-' :: cs => (true, cs)
    | cs => (false, cs)
  let whole ← wholeDigits? (unsigned.takeWhile Char.isDigit)
  match unsigned.dropWhile Char.isDigit with
  | '.' :: cs =>
    let fraction := cs.takeWhile Char.isDigit
    if fraction.isEmpty then none
    else
      let exponent ← exponentOf? (cs.dropWhile Char.isDigit)
      some ⟨negative, whole, some fraction, exponent⟩
  | cs =>
    let exponent ← exponentOf? cs
    some ⟨negative, whole, none, exponent⟩

/-- What the characters read so far have begun; lists are kept backwards. -/
inductive Mode where
  | between
  | inString (done : List Piece)
  | inEscape (done : List Piece)
  /-- Inside a code unit: its value so far and the digits still to come. -/
  | inUnit (done : List Piece) (value missing : Nat)
  | inNumber (spelling : List Char)
  | inWord (spelling : List Char)

/-- The blanks between tokens. -/
def isSpace (c : Char) : Bool := c == ' ' || c == '\n' || c == '\t' || c == '\r'

/-- The characters that numbers are made of. -/
def isNumberChar (c : Char) : Bool :=
  c.isDigit || c == '-' || c == '+' || c == '.' || c == 'e' || c == 'E'

/-- The token that a finished number or word is. -/
def Mode.finish : Mode → Option (List Token)
  | .between => some []
  | .inNumber spelling => (Literal.ofSpelling? spelling.reverse).map fun l => [.number l]
  | .inWord spelling =>
    match String.ofList spelling.reverse with
    | "null" => some [.null]
    | "true" => some [.bool true]
    | "false" => some [.bool false]
    | _ => none
  | _ => none

/-- A character where a token may begin. -/
def begin? (c : Char) : Option (List Token × Mode) :=
  if isSpace c then some ([], .between)
  else if c = '[' then some ([.openArray], .between)
  else if c = ']' then some ([.closeArray], .between)
  else if c = '\x7b' then some ([.openObject], .between)
  else if c = '\x7d' then some ([.closeObject], .between)
  else if c = ',' then some ([.comma], .between)
  else if c = ':' then some ([.colon], .between)
  else if c = '"' then some ([], .inString [])
  else if c = '-' ∨ c.isDigit then some ([], .inNumber [c])
  else if c.isLower then some ([], .inWord [c])
  else none

/-- The character behind a backslash, apart from code units. -/
def unescape? (c : Char) : Option Char :=
  if c = '"' ∨ c = '\\' ∨ c = '/' then some c
  else if c = 'b' then some '\x08'
  else if c = 'f' then some '\x0c'
  else if c = 'n' then some '\n'
  else if c = 'r' then some '\r'
  else if c = 't' then some '\t'
  else none

/-- The tokens that a byte completes, and the mode behind it.  Bytes beyond ASCII are the
characters of their numbers here, which stand nowhere but in strings. -/
def Mode.step (m : Mode) (b : UInt8) : Option (List Token × Mode) :=
  let c := Char.ofUInt8 b
  match m with
  | .inString done =>
    if c = '"' then some ([.string done.reverse], .between)
    else if c = '\\' then some ([], .inEscape done)
    else if c.toNat < 0x20 then none
    else some ([], .inString (.byte b :: done))
  | .inEscape done =>
    if c = 'u' then some ([], .inUnit done 0 4)
    else (unescape? c).map fun c => ([], .inString (.byte c.toUInt8 :: done))
  | .inUnit done value missing => do
    let n ← Text.hexValue? c
    let value := 16 * value + n
    if missing ≤ 1 then some ([], .inString (.unit value :: done))
    else some ([], .inUnit done value (missing - 1))
  | .inNumber spelling =>
    if isNumberChar c then some ([], .inNumber (c :: spelling))
    else do
      -- Only the character behind a number ends it, and it may begin a token itself.
      let finished ← m.finish
      let (begun, mode) ← begin? c
      some (finished ++ begun, mode)
  | .inWord spelling =>
    if c.isLower then some ([], .inWord (c :: spelling))
    else do
      let finished ← m.finish
      let (begun, mode) ← begin? c
      some (finished ++ begun, mode)
  | .between => begin? c

/-- The tokens of the bytes that follow what `m` has begun, behind `done`. -/
def tokensFrom (m : Mode) (done : List Token) : List UInt8 → Option (List Token)
  | [] => m.finish.map fun last => (last.reverse ++ done).reverse
  | b :: bs => do
    let (found, m) ← m.step b
    tokensFrom m (found.reverse ++ done) bs

/-- The tokens of some bytes. -/
def tokens? (bytes : ByteArray) : Option (List Token) := tokensFrom .between [] bytes.data.toList

end MapStyle.Json
