namespace ShapeCheck

inductive Event
  | registered (name tag : String)
  | depthLimitReached (name : String) (limit : Nat)
  /-- A shape met a node on which it is being checked already. -/
  | reentered (tag : String)
  deriving DecidableEq

namespace Event

inductive Level
  | debug
  | trace
  deriving DecidableEq

def Level.text : Level → String
  | .debug => "DEBUG"
  | .trace => "TRACE"

def level : Event → Level
  | .registered .. => .debug
  | .depthLimitReached .. => .debug
  | .reentered _ => .trace

def message : Event → String
  | .registered .. => "registered runtype"
  | .depthLimitReached .. => "reference depth limit reached"
  | .reentered _ => "runtype re-entered on in-progress value"

end Event

end ShapeCheck
