namespace ShapeCheck

/-- With `failFast` each container stops at its first failing child. A reference is not followed
when `depthLimit` references are already open. -/
@[ext] structure Options where
  failFast : Bool
  depthLimit : Nat
  deriving DecidableEq

namespace Options

def collectAll : Options := ⟨false, 100⟩

def firstFailure : Options := { collectAll with failFast := true }

end Options

end ShapeCheck
