import ShapeCheck.Decimal.Binary64

namespace ShapeCheck

open Binary64

/-- The number `0.d₁d₂…dₙ * 10 ^ point`, with the digits as one natural. -/
structure Decimal where
  digits : Nat
  point : Int
  deriving DecidableEq

namespace Decimal

def width (n : Nat) : Nat := (Nat.toDigits 10 n).length

def compareScaled (a : Nat) (e : Int) (b : Nat) (f : Int) : Ordering :=
  compare ((a <<< e.toNat) * tenTo (-f).toNat) ((b * tenTo f.toNat) <<< (-e).toNat)

/-- The reals that round to a double: its value and their two ends as multiples of
`2 ^ exponent`, a quarter of its last place. -/
structure Interval where
  low : Nat
  middle : Nat
  high : Nat
  exponent : Int
  closed : Bool

/-- The ends lie halfway to the neighbours and belong to the even mantissas. The neighbour below a
power of two is half as far away, unless that is the smallest normal number. -/
def interval (x : Scaled) : Interval where
  low := 4 * x.mantissa - (if x.mantissa = leadingBit ∧ x.exponent ≠ -1074 then 1 else 2)
  middle := 4 * x.mantissa
  high := 4 * x.mantissa + 2
  exponent := x.exponent - 2
  closed := x.mantissa % 2 = 0

def Interval.contains (i : Interval) (n : Nat) (f : Int) : Bool :=
  match compareScaled i.low i.exponent n f, compareScaled i.high i.exponent n f with
  | .lt, .gt => true
  | .eq, _ => i.closed
  | _, .eq => i.closed
  | _, _ => false

def Interval.floor (i : Interval) (f : Int) : Nat :=
  ((i.middle <<< i.exponent.toNat) * tenTo (-f).toNat) / (tenTo f.toNat <<< (-i.exponent).toNat)

/-- Of the two multiples of `10 ^ f` around the double, the one in the interval; if both are, the
nearer, and of two equally near the even one. -/
def Interval.onGrid? (i : Interval) (f : Int) : Option Nat :=
  let below := i.floor f
  match i.contains below f && below ≠ 0, i.contains (below + 1) f with
  | false, false => none
  | true, false => some below
  | false, true => some (below + 1)
  | true, true =>
    match compareScaled (2 * i.middle) i.exponent (2 * below + 1) f with
    | .lt => some below
    | .gt => some (below + 1)
    | .eq => some (below + below % 2)

def Interval.magnitude (i : Interval) : Int :=
  let (a, b) := scale i.middle 1 (-i.exponent)
  if b ≤ a then (width (a / b) : Int) - 1 else -(width ((b - 1) / a) : Int)

def search (i : Interval) (last : Int) : Nat → Decimal
  | 0 => ⟨i.floor last, last + width (i.floor last)⟩
  | n + 1 =>
    match i.onGrid? (last + n) with
    | some d => ⟨d, last + n + width d⟩
    | none => search i last n

/-- The shortest decimal of a positive double. The first grid is one power of ten above it, and
seventeen digits tell any two doubles apart. -/
def shortest (bits : UInt64) : Decimal :=
  let i := interval (decode bits)
  search i (i.magnitude - 16) 18

end Decimal

end ShapeCheck
