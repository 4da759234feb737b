import ShapeCheck.Json.Basic

namespace ShapeCheck.Number

open Binary64

/-- Digits read so far: the real is `value * 10 ^ exponent`. -/
structure Significand where
  value : Nat
  exponent : Int
  full : Bool

/-- Takes a digit while 64 bits hold the result, and passes over the rest. A digit passed over
before the point, or taken after it, moves the exponent. -/
def Significand.take (afterPoint : Bool) (s : Significand) (c : Char) : Significand :=
  let next := s.value * 10 + (c.toNat - '0'.toNat)
  if s.full ∨ 0x10000000000000000 ≤ next then
    { s with exponent := if afterPoint then s.exponent else s.exponent + 1, full := true }
  else
    { s with value := next, exponent := if afterPoint then s.exponent - 1 else s.exponent }

def powerOfTen? (n : Nat) : Option UInt64 := nearest? (tenTo n) 1

/-- Scales a double by a power of ten with one rounding, or two below `10 ^ -308`. -/
def scaleByTen? (bits : UInt64) (e : Int) : Option UInt64 :=
  if bits = 0 then some 0
  else if 308 < e then none
  else if 0 ≤ e then powerOfTen? e.toNat >>= mul? bits
  else if -308 ≤ e then powerOfTen? (-e).toNat >>= div? bits
  else if -616 ≤ e then do
    let small ← powerOfTen? 308 >>= div? bits
    powerOfTen? (-e - 308).toNat >>= div? small
  else some 0

def signed (negative : Bool) (bits : UInt64) : Number :=
  .float (if negative then negate bits else bits)

def ofSignificand? (negative : Bool) (s : Significand) (e : Int) : Option Number := do
  let bits ← nearest? s.value 1
  let scaled ← scaleByTen? bits (s.exponent + e)
  return signed negative scaled

/-- A whole number; minus zero, and what lies below the least integer, is a double. -/
def ofWhole? (negative : Bool) (s : Significand) : Option Number :=
  if s.full then ofSignificand? negative s 0
  else if ¬negative then some (.integer s.value)
  else if s.value = 0 ∨ 0x8000000000000000 < s.value then ofSignificand? true s 0
  else some (.integer (-s.value))

def digitsValue (ds : List Char) : Nat := ds.foldl (fun n c => n * 10 + (c.toNat - '0'.toNat)) 0

def readExponent? : List Char → Option Int
  | [] => some 0
  | e :: rest =>
    let (negative, ds) := match rest with
      | '-' :: ds => (true, ds)
      | '+' :: ds => (false, ds)
      | ds => (false, ds)
    if (e = 'e' ∨ e = 'E') ∧ ¬ds.isEmpty ∧ ds.all Char.isDigit then
      some (if negative then -digitsValue ds else digitsValue ds)
    else none

def readUnsigned? (negative : Bool) (cs : List Char) : Option Number :=
  let whole := cs.takeWhile Char.isDigit
  let rest := cs.dropWhile Char.isDigit
  let s := whole.foldl (Significand.take false) ⟨0, 0, false⟩
  if whole.isEmpty ∨ (whole.head? = some '0' ∧ whole.length ≠ 1) then none
  else match rest with
    | [] => ofWhole? negative s
    | '.' :: after =>
      let fraction := after.takeWhile Char.isDigit
      if fraction.isEmpty then none
      else
        let s := fraction.foldl (Significand.take true) { s with full := false }
        readExponent? (after.dropWhile Char.isDigit) >>= ofSignificand? negative s
    | after => readExponent? after >>= ofSignificand? negative s

def read? : List Char → Option Number
  | '-' :: cs => readUnsigned? true cs
  | cs => readUnsigned? false cs

end ShapeCheck.Number
