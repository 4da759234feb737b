import ShapeCheck.Decimal.Binary64

namespace ShapeCheck

/-- An integer from -2^63 to 2^64 - 1, or the bit pattern of a finite double. -/
inductive Number
  | integer (value : Int)
  | float (bits : UInt64)
  deriving DecidableEq, Inhabited

open Binary64 (magnitude)

namespace Number

/-- Integers are equal by value and doubles as reals, so the two zeros are one; an integer never
equals a double. -/
def same : Number → Number → Bool
  | .integer a, .integer b => a == b
  | .float a, .float b => a == b || (magnitude a == 0 && magnitude b == 0)
  | _, _ => false

def isInteger : Number → Bool
  | .integer _ => true
  | .float _ => false

def int64? : Number → Option Int
  | .integer a => if a < 0x8000000000000000 then some a else none
  | .float _ => none

def isPositive : Number → Bool
  | .integer a => 0 < a
  | .float bits => magnitude bits == bits && bits != 0

end Number

inductive Json
  | null
  | boolean (value : Bool)
  | number (value : Number)
  | string (value : String)
  | array (items : List Json)
  | object (members : List (String × Json))
  deriving Inhabited

namespace Json

def kindName : Json → String
  | .null => "null"
  | .boolean _ => "boolean"
  | .number _ => "number"
  | .string _ => "string"
  | .array _ => "array"
  | .object _ => "object"

mutual

def same : Json → Json → Bool
  | .null, .null => true
  | .boolean a, .boolean b => a == b
  | .number a, .number b => a.same b
  | .string a, .string b => a == b
  | .array a, .array b => sameItems a b
  | .object a, .object b => sameMembers a b
  | _, _ => false

def sameItems : List Json → List Json → Bool
  | [], [] => true
  | a :: as, b :: bs => same a b && sameItems as bs
  | _, _ => false

def sameMembers : List (String × Json) → List (String × Json) → Bool
  | [], [] => true
  | (k, a) :: as, (l, b) :: bs => k == l && same a b && sameMembers as bs
  | _, _ => false

end

def lastOfEach : List (String × Json) → List (String × Json)
  | a :: b :: rest =>
    if a.1 = b.1 then lastOfEach (b :: rest) else a :: lastOfEach (b :: rest)
  | members => members

/-- The object with these members; of two with one key the later counts. -/
def ofMembers (members : List (String × Json)) : Json :=
  .object (lastOfEach (members.mergeSort fun a b => a.1 ≤ b.1))

def field? (name : String) : Json → Option Json
  | .object members => members.lookup name
  | _ => none

def item? (position : Nat) : Json → Option Json
  | .array items => items[position]?
  | _ => none

end Json

end ShapeCheck
