/-
Binary floating-point numbers as exact numbers.

A finite float is `± mantissa · 2 ^ exponent`.  Everything below works on that
form in `Nat` and `Int`, where nothing rounds:

* `Format.decode` — reads a bit pattern as NaN, an infinity or an exact value;
* `Format.encode` — the bit pattern of a value that the format can hold;
* `whole?` — the integer that a float is, when it is one;
* `remainder` — the remainder of a truncated division, which is always exact.
-/
namespace MapStyle.Decimal

/-- A binary interchange format. -/
structure Format where
  /-- Bits of the significand, the leading one included. -/
  precision : Nat
  /-- Bits of the exponent field. -/
  exponentBits : Nat
  /-- Exponent of the unit in which the smallest values are counted. -/
  leastExponent : Int

namespace Format

/-- 64-bit floats. -/
def double : Format := ⟨53, 11, -1074⟩

/-- 32-bit floats. -/
def single : Format := ⟨24, 8, -149⟩

end Format

/-- The finite value `mantissa · 2 ^ exponent`. -/
structure Magnitude where
  mantissa : Nat
  exponent : Int
deriving DecidableEq, Repr

/-- What a bit pattern stands for. -/
inductive Reading where
  | nan
  | infinite (negative : Bool)
  | finite (negative : Bool) (magnitude : Magnitude)
deriving DecidableEq, Repr

namespace Format

/-- The number that a bit pattern stands for: sign, exponent field and fraction,
with the field of ones kept for NaN and the infinities and the field of zeros
for values without a leading one. -/
def decode (f : Format) (bits : Nat) : Reading :=
  let unit := Nat.pow 2 (f.precision - 1)
  let fields := Nat.pow 2 f.exponentBits
  let fraction := bits % unit
  let field := bits / unit % fields
  let negative := bits / (unit * fields) % 2 == 1
  if field + 1 = fields then
    if fraction = 0 then .infinite negative else .nan
  else if field = 0 then .finite negative ⟨fraction, f.leastExponent⟩
  else .finite negative ⟨unit + fraction, f.leastExponent + (field - 1 : Nat)⟩

/-- The bits, sign apart, of a value with `mantissa < 2 ^ precision` and
`leastExponent ≤ exponent`: the mantissa is moved up as far as it goes. -/
def encode (f : Format) (v : Magnitude) : Nat :=
  let unit := Nat.pow 2 (f.precision - 1)
  let room := f.precision - 1 - Nat.log2 v.mantissa
  let steps := min room (v.exponent - f.leastExponent).toNat
  let mantissa := v.mantissa * Nat.pow 2 steps
  let above := (v.exponent - f.leastExponent).toNat - steps
  if mantissa < unit then mantissa else above * unit + mantissa

end Format

/-- A 64-bit float as an exact number. -/
def ofFloat (x : Float) : Reading := Format.double.decode x.toBits.toNat

/-- A 32-bit float as an exact number. -/
def ofFloat32 (x : Float32) : Reading := Format.single.decode x.toBits.toNat

/-- `n`, negated when asked. -/
def signed (negative : Bool) (n : Nat) : Int := if negative then -(n : Int) else n

/-- The integer that a finite value is, if it has no fractional part. -/
def Magnitude.whole? (v : Magnitude) : Option Nat :=
  match v.exponent with
  | .ofNat e => some (v.mantissa * Nat.pow 2 e)
  | .negSucc e =>
    let unit := Nat.pow 2 (e + 1)
    if v.mantissa % unit = 0 then some (v.mantissa / unit) else none

/-- The integer that a float is; `none` for fractions, NaN and the infinities. -/
def whole? (x : Float) : Option Int :=
  match ofFloat x with
  | .finite negative v => v.whole?.map (signed negative)
  | _ => none

/-- The remainder of `a` by a non-zero `b`, on the finer of the two units. -/
def Magnitude.remainder (a b : Magnitude) : Magnitude :=
  let unit := min a.exponent b.exponent
  ⟨(a.mantissa * Nat.pow 2 (a.exponent - unit).toNat) %
      (b.mantissa * Nat.pow 2 (b.exponent - unit).toNat), unit⟩

/-- `a - b · n` for the integer `n` nearest to `a / b` on the side of zero.  The
result has the sign of `a`; it is NaN when `a` is infinite or `b` is zero. -/
def remainder (a b : Float) : Float :=
  match ofFloat a, ofFloat b with
  | .finite _ _, .infinite _ => a
  | .finite negative u, .finite _ v =>
    if v.mantissa = 0 then 0.0 / 0.0
    else
      let bits := Format.double.encode (u.remainder v)
      Float.ofBits (UInt64.ofNat (if negative then Nat.pow 2 63 + bits else bits))
  | _, _ => 0.0 / 0.0

end MapStyle.Decimal
