/-
Numbers read from text.

A numeral is an optional sign and then digits with an optional point on either
side and an optional exponent, or one of the words for infinity and NaN in any
case.  Nothing may stand around it.

* `Numeral.parse?` — the numeral that a text is, if it is one;
* `Numeral.toFloat`, `Numeral.toFloat32` — its value, rounded once to the format.
-/
namespace MapStyle.Decimal

/-- A number as written. -/
inductive Numeral where
  | nan
  | infinite (negative : Bool)
  /-- The number `± digits · 10 ^ exponent`. -/
  | finite (negative : Bool) (digits : Nat) (exponent : Int)
deriving DecidableEq, Repr

/-- The value of a run of decimal digits. -/
def digitsValue (cs : List Char) : Nat :=
  cs.foldl (fun n c => 10 * n + (c.toNat - '0'.toNat)) 0

/-- The digits at the front of a text, and what follows them. -/
def spanDigits (cs : List Char) : List Char × List Char := cs.span Char.isDigit

/-- A sign at the front of a text: whether it is a minus, and what follows. -/
def spanSign : List Char → Bool × List Char
  | '-' :: cs => (true, cs)
  | '+' :: cs => (false, cs)
  | cs => (false, cs)

/-- An exponent part that fills the whole text; no text means no shift. -/
def exponentPart? : List Char → Option Int
  | [] => some 0
  | c :: cs =>
    if c = 'e' ∨ c = 'E' then
      let (negative, rest) := spanSign cs
      if rest.isEmpty || !rest.all Char.isDigit then none
      else some (if negative then -(digitsValue rest : Int) else digitsValue rest)
    else none

/-- Digits with an optional point and exponent. -/
def unsignedNumeral? (negative : Bool) (cs : List Char) : Option Numeral :=
  let (whole, afterWhole) := spanDigits cs
  let (part, rest) :=
    match afterWhole with
    | '.' :: more => spanDigits more
    | _ => ([], afterWhole)
  if whole.isEmpty && part.isEmpty then none
  else do
    let shift ← exponentPart? rest
    some (.finite negative (digitsValue (whole ++ part)) (shift - part.length))

/-- The numeral that a text is. -/
def Numeral.parse? (text : String) : Option Numeral :=
  let (negative, cs) := spanSign text.toList
  let word := String.ofList (cs.map Char.toLower)
  if word = "inf" ∨ word = "infinity" then some (.infinite negative)
  else if word = "nan" then some .nan
  else unsignedNumeral? negative cs

/-- How many decimal places the first digit of `digits · 10 ^ exponent` stands
left of the point. -/
def leadingPlace (digits : Nat) (exponent : Int) : Int :=
  exponent + (toString digits).length

/-- The value in 64 bits.  Numbers out of reach of any 64-bit float become
infinite or zero before the power of ten is formed. -/
def Numeral.toFloat : Numeral → Float
  | .nan => 0.0 / 0.0
  | .infinite negative => if negative then -1.0 / 0.0 else 1.0 / 0.0
  | .finite negative digits exponent =>
    let size : Float :=
      if digits = 0 ∨ leadingPlace digits exponent < -400 then 0.0
      else if 400 < leadingPlace digits exponent then 1.0 / 0.0
      else Float.ofScientific digits (exponent < 0) exponent.natAbs
    if negative then -size else size

/-- The value in 32 bits, rounded once from the decimal. -/
def Numeral.toFloat32 : Numeral → Float32
  | .nan => 0.0 / 0.0
  | .infinite negative => if negative then -1.0 / 0.0 else 1.0 / 0.0
  | .finite negative digits exponent =>
    let size : Float32 :=
      if digits = 0 ∨ leadingPlace digits exponent < -400 then 0.0
      else if 400 < leadingPlace digits exponent then 1.0 / 0.0
      else Float32.ofScientific digits (exponent < 0) exponent.natAbs
    if negative then -size else size

/-- The 64-bit float that a text spells. -/
def parseFloat? (text : String) : Option Float := (Numeral.parse? text).map Numeral.toFloat

/-- The 32-bit float that a text spells. -/
def parseFloat32? (text : String) : Option Float32 := (Numeral.parse? text).map Numeral.toFloat32

end MapStyle.Decimal
