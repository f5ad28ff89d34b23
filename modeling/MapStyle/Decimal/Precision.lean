/-
Floats of one precision as floats of the other.

A 32-bit float is a 64-bit float as it stands.  A 64-bit float is rounded to the nearest 32-bit
float, of two that are equally near to the one whose mantissa is even; what is too large becomes
infinite.

* `fitted` — a value with a mantissa that a format has room for;
* `widen`, `narrow` — a float in the other precision.
-/
namespace MapStyle.Decimal

open Float.Model (UnpackedFloat)

/-- A value with a mantissa that the format has room for. -/
def fitted (format : Float.Model.Format) : UnpackedFloat → UnpackedFloat
  | .finite sign mantissa exponent _ => .round format sign mantissa exponent
  | u => u

/-- A 32-bit float in 64 bits. -/
def widen (x : Float32) : Float := .ofModel (.pack (fitted .binary64 x.toModel.unpack))

/-- A 64-bit float in 32 bits. -/
def narrow (x : Float) : Float32 := .ofModel (.pack (fitted .binary32 x.toModel.unpack))

end MapStyle.Decimal
