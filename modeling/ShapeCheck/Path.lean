namespace ShapeCheck

/-- One step from a value to a child: into a field of an object or to an item of an array. -/
inductive Segment
  | field (name : String)
  | index (position : Nat)
  deriving DecidableEq

namespace Segment

def text : Segment → String
  | .field name => name
  | .index position => "[" ++ toString position ++ "]"

end Segment

@[ext] structure Path where
  segments : List Segment
  deriving DecidableEq

namespace Path

def root : Path := ⟨[]⟩

def ofSegment (s : Segment) : Path := ⟨[s]⟩

def isRoot (p : Path) : Bool := p.segments.isEmpty

def length (p : Path) : Nat := p.segments.length

def push (p : Path) (s : Segment) : Path := ⟨p.segments ++ [s]⟩

/-- The same place seen from one level further up. -/
def under (p : Path) (s : Segment) : Path := ⟨s :: p.segments⟩

def parent? (p : Path) : Option Path :=
  if p.isRoot then none else some ⟨p.segments.dropLast⟩

def last? (p : Path) : Option Segment := p.segments.getLast?

/-- Segments joined by dots, names written as they are: `a.[0].b`. -/
def text (p : Path) : String := ".".intercalate (p.segments.map Segment.text)

@[simp] theorem segments_push (p : Path) (s : Segment) :
    (p.push s).segments = p.segments ++ [s] := rfl

@[simp] theorem segments_under (p : Path) (s : Segment) :
    (p.under s).segments = s :: p.segments := rfl

end Path

end ShapeCheck
