/-
The fewest decimal digits that read back as the same binary number.

The reals that round to a binary value form an interval around it, whose ends
belong to it when the mantissa is even.  `shortest` looks for a decimal inside
that interval on ever finer grids `10 ^ k`:

* on one grid only the two neighbours of the value need a test, because a grid
  point inside the interval forces one of them inside;
* of two neighbours inside, the nearer is taken, and `Tie` decides a draw.
-/
import MapStyle.Decimal.Binary

namespace MapStyle.Decimal

/-- The decimal number `digits · 10 ^ exponent`. -/
structure Scaled where
  digits : Nat
  exponent : Int
deriving DecidableEq, Repr

/-- Which neighbour is taken when both are equally near. -/
inductive Tie where
  | even
  | away
deriving DecidableEq, Repr

/-- The order of `a · 10 ^ i` and `b · 2 ^ j`. -/
def compareScaled (a : Nat) (i : Int) (b : Nat) (j : Int) : Ordering :=
  compare (a * Nat.pow 10 i.toNat * Nat.pow 2 (-j).toNat)
    (b * Nat.pow 2 j.toNat * Nat.pow 10 (-i).toNat)

/-- The reals that round to a value, between `low` and `high` quarter units. -/
structure Interval where
  low : Nat
  high : Nat
  exponent : Int
  closed : Bool

/-- The interval of `v`.  It reaches half a unit up and down, and a quarter down
where the value below lies on a finer grid. -/
def Format.interval (f : Format) (v : Magnitude) : Interval where
  low := 4 * v.mantissa -
    (if v.mantissa = Nat.pow 2 (f.precision - 1) ∧ f.leastExponent < v.exponent then 1 else 2)
  high := 4 * v.mantissa + 2
  exponent := v.exponent - 2
  closed := v.mantissa % 2 = 0

/-- Whether a decimal lies in the interval. -/
def Interval.contains (i : Interval) (d : Scaled) : Bool :=
  let low := compareScaled d.digits d.exponent i.low i.exponent
  let high := compareScaled d.digits d.exponent i.high i.exponent
  (low == .gt || (i.closed && low == .eq)) && (high == .lt || (i.closed && high == .eq))

/-- The better neighbour of `v` on the grid `10 ^ k`, if one lies in the interval. -/
def onGrid (i : Interval) (tie : Tie) (v : Magnitude) (k : Int) : Option Scaled :=
  let numerator := v.mantissa * Nat.pow 2 v.exponent.toNat * Nat.pow 10 (-k).toNat
  let denominator := Nat.pow 2 (-v.exponent).toNat * Nat.pow 10 k.toNat
  let below := numerator / denominator
  let near : Scaled := ⟨below, k⟩
  let far : Scaled := ⟨below + 1, k⟩
  match i.contains near, i.contains far with
  | true, false => some near
  | false, true => some far
  | false, false => none
  | true, true =>
    match compare (2 * numerator) ((2 * below + 1) * denominator) with
    | .lt => some near
    | .gt => some far
    | .eq =>
      match tie with
      | .away => some far
      | .even => some (if below % 2 = 0 then near else far)

/-- A power of ten that is no smaller than a tenth of `v`. -/
def Magnitude.topGrid (v : Magnitude) : Int :=
  (Nat.log2 v.mantissa + 1 + v.exponent) * 30103 / 100000 + 1

/-- `v` itself as a decimal, with all its digits. -/
def Magnitude.exact (v : Magnitude) : Scaled :=
  match v.exponent with
  | .ofNat e => ⟨v.mantissa * Nat.pow 2 e, 0⟩
  | .negSucc e => ⟨v.mantissa * Nat.pow 5 (e + 1), -(e + 1)⟩

/-- The shortest decimal that reads back as the non-zero value `v`.  Twenty grids
are enough for seventeen digits below `topGrid`. -/
def Format.shortest (f : Format) (tie : Tie) (v : Magnitude) : Scaled :=
  let i := f.interval v
  ((List.range 20).findSome? fun (n : Nat) => onGrid i tie v (v.topGrid - n)).getD v.exact

end MapStyle.Decimal
