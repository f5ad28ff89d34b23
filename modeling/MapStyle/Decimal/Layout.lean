/-
How a number is laid out once its digits are chosen.

`Layout` records the decisions of one output: which exponents are written
positionally, what follows a whole number, and which way a tie of digits goes.

* `Layout.digits` — places the point in, before or behind the digits;
* `Layout.float`, `Layout.float32` — a float's text, or `none` for NaN and the
  infinities, which each output spells for itself.
-/
import MapStyle.Decimal.Shortest

namespace MapStyle.Decimal

/-- The decisions of one kind of number text. -/
structure Layout where
  /-- Whether a number is written without an exponent, by the exponent of its first digit. -/
  positional : Int → Bool
  /-- What follows a whole number written without an exponent. -/
  wholeTail : String
  tie : Tie

/-- `n` zeros. -/
def zeros (n : Nat) : String := String.ofList (List.replicate n '0')

/-- `digits · 10 ^ exponent` without an exponent. -/
def plainText (d : Scaled) (wholeTail : String) : String :=
  let text := toString d.digits
  match d.exponent with
  | .ofNat e => text ++ zeros e ++ wholeTail
  | .negSucc e =>
    if e + 1 < text.length then
      let whole := text.length - (e + 1)
      String.ofList (text.toList.take whole) ++ "." ++ String.ofList (text.toList.drop whole)
    else "0." ++ zeros (e + 1 - text.length) ++ text

/-- `digits · 10 ^ exponent` as one digit, the others behind a point, and the
exponent of the first with its sign. -/
def scientificText (d : Scaled) : String :=
  let text := toString d.digits
  let first := d.exponent + (text.length - 1 : Nat)
  let rest := String.ofList (text.toList.drop 1)
  String.ofList (text.toList.take 1) ++ (if rest.isEmpty then "" else "." ++ rest) ++ "e" ++
    (if first < 0 then "-" else "+") ++ toString first.natAbs

/-- The text of a chosen decimal. -/
def Layout.digits (l : Layout) (d : Scaled) : String :=
  if l.positional (d.exponent + ((toString d.digits).length - 1 : Nat)) then
    plainText d l.wholeTail
  else scientificText d

/-- The text of a finite value of format `f`. -/
def Layout.finite (l : Layout) (f : Format) (negative : Bool) (v : Magnitude) : String :=
  (if negative then "-" else "") ++
    if v.mantissa = 0 then "0" ++ l.wholeTail else l.digits (f.shortest l.tie v)

/-- The text of a finite 64-bit float. -/
def Layout.float (l : Layout) (x : Float) : Option String :=
  match ofFloat x with
  | .finite negative v => some (l.finite .double negative v)
  | _ => none

/-- The text of a finite 32-bit float. -/
def Layout.float32 (l : Layout) (x : Float32) : Option String :=
  match ofFloat32 x with
  | .finite negative v => some (l.finite .single negative v)
  | _ => none

end MapStyle.Decimal
