import ShapeCheck.Outcome
import ShapeCheck.Options
import ShapeCheck.Registry.Error

namespace ShapeCheck

abbrev RegistryId := Nat

/-- How a check calls another: watched by the guard, or past it. -/
inductive Via
  | watched
  | direct
  deriving DecidableEq

inductive Focus
  | here
  | child (s : Segment)
  deriving DecidableEq

def Node.focus? (n : Node) : Focus → Option Node
  | .here => some n
  | .child s => n.child? s

/-- The steps of a check supplied by the user. A script sees the guard only through what it may
ask, and reaches other shapes only by the slot in which it holds them. -/
inductive Script
  | done (outcome : Outcome)
  | inspect (next : Nat → Bool → Script)
  /-- Checks a node against the shape in a slot; there may be no such shape or no such node. -/
  | call (via : Via) (slot : Nat) (focus : Focus) (options : Options)
      (next : Option Outcome → Script)
  | register (registry : RegistryId) (name : String) (slot : Nat)
      (next : Option RegistryError → Script)

end ShapeCheck
