namespace ShapeCheck.Binary64

/-- The nonnegative real `mantissa * 2 ^ exponent`. -/
structure Scaled where
  mantissa : Nat
  exponent : Int
  deriving DecidableEq

def leadingBit : Nat := 0x10000000000000

def tenTo (n : Nat) : Nat := Nat.pow 10 n

def magnitude (bits : UInt64) : UInt64 := bits &&& 0x7fffffffffffffff

def isNegative (bits : UInt64) : Bool := bits &&& 0x8000000000000000 != 0

/-- The magnitude that a bit pattern stands for. Subnormals share the exponent of the smallest
normal numbers and lack its leading bit. -/
def decode (bits : UInt64) : Scaled :=
  let field := ((bits >>> 52) &&& 0x7ff).toNat
  let fraction := (bits &&& 0xfffffffffffff).toNat
  if field = 0 then ⟨fraction, -1074⟩ else ⟨fraction + leadingBit, (field : Int) - 1075⟩

def roundDiv (a b : Nat) : Nat :=
  let q := a / b
  let r := a % b
  if 2 * r < b then q else if b < 2 * r then q + 1 else q + q % 2

def scale (a b : Nat) (e : Int) : Nat × Nat :=
  if 0 ≤ e then (a, b <<< e.toNat) else (a <<< (-e).toNat, b)

/-- The exponent at which a positive `a / b` has 53 bits before the point, but never one below
that of the subnormals. -/
def unitExponent (a b : Nat) : Int :=
  let guess : Int := (Nat.log2 a : Int) - Nat.log2 b - 52
  let (x, y) := scale a b guess
  let exact := if x < leadingBit * y then guess - 1 else guess
  if exact < -1074 then -1074 else exact

/-- The pattern of the double nearest to `a / b`, ties to even; none above the largest double.
The exponent field is added to the mantissa: a mantissa of 53 bits carries into it. -/
def nearest? (a b : Nat) : Option UInt64 :=
  if a = 0 then some 0
  else
    let e := unitExponent a b
    let (x, y) := scale a b e
    let pattern := (e + 1074).toNat * leadingBit + roundDiv x y
    if pattern < 0x7ff * leadingBit then some (UInt64.ofNat pattern) else none

def negate (bits : UInt64) : UInt64 := bits ^^^ 0x8000000000000000

def Scaled.ratio (x : Scaled) : Nat × Nat := scale x.mantissa 1 (-x.exponent)

def mul? (x y : UInt64) : Option UInt64 :=
  let (a, b) := (decode x).ratio
  let (c, d) := (decode y).ratio
  nearest? (a * c) (b * d)

def div? (x y : UInt64) : Option UInt64 :=
  let (a, b) := (decode x).ratio
  let (c, d) := (decode y).ratio
  nearest? (a * d) (b * c)

end ShapeCheck.Binary64
