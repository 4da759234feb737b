import ShapeCheck.Shape.Basic
import ShapeCheck.Json.Text
import ShapeCheck.Pattern.Reader

namespace ShapeCheck

inductive Predicate
  | always
  | never
  | integer
  | even
  | positive
  | atLeast (length : Nat)
  | atMost (length : Nat)
  | hasKey (key : String)
  deriving DecidableEq

/-- The bytes of a string, the items of an array or the members of an object. -/
def Json.length? : Json → Option Nat
  | .string s => some s.utf8ByteSize
  | .array items => some items.length
  | .object members => some members.length
  | _ => none

def Predicate.holds : Predicate → Json → Bool
  | .always, _ => true
  | .never, _ => false
  | .integer, .number n => n.isInteger
  | .even, .number n => n.int64?.any (· % 2 = 0)
  | .positive, .number n => n.isPositive
  | .atLeast n, v => v.length?.any (n ≤ ·)
  | .atMost n, v => v.length?.any (· ≤ n)
  | .hasKey key, v => (v.field? key).isSome
  | _, _ => false

namespace Kind

def guarded (underlying : Shape) (name : String) (p : Json → Bool) : Kind :=
  .constraint underlying (some name) fun v =>
    if p v then none else some ("Failed constraint check for " ++ name)

/-- Narrows a shape by a predicate; the message shows the value wherever it has a pair of braces. -/
def narrowed (underlying : Shape) (message : String) (p : Json → Bool) : Kind :=
  .constraint underlying none fun v =>
    if p v then none else some (message.replace "\x7b\x7d" v.text)

def matching (underlying : Shape) (source : String) (pattern : Pattern CharSet Anchor) : Kind :=
  .constraint underlying (some ("/" ++ source ++ "/")) fun
    | .string s =>
      if pattern.search s then none
      else some ("Expected string matching /" ++ source ++ "/, but was " ++ (Json.string s).text)
    | v => some ("Expected string matching /" ++ source ++ "/, but was " ++ v.text)

end Kind

end ShapeCheck
