import ShapeCheck.Text.CharClass
import ShapeCheck.Text.CaseFolding

namespace ShapeCheck

/-- A set of characters: ranges of code points in ascending order, no two of which touch. -/
structure CharSet where
  ranges : List (Nat × Nat)
  deriving DecidableEq, Hashable

namespace CharSet

def covers (n : Nat) : List (Nat × Nat) → Bool
  | [] => false
  | (low, high) :: rest => low ≤ n && (n ≤ high || covers n rest)

def contains (s : CharSet) (c : Char) : Bool := covers c.toNat s.ranges

/-- Joins each range to those before it that it meets or touches; `low` is the range in hand. -/
def joined (low high : Nat) : List (Nat × Nat) → List (Nat × Nat)
  | [] => [(low, high)]
  | (l, h) :: rest =>
    if l ≤ high + 1 then joined low (max high h) rest else (low, high) :: joined l h rest

def ofRanges (ranges : List (Nat × Nat)) : CharSet :=
  match ranges.mergeSort (fun a b => a.1 ≤ b.1) with
  | [] => ⟨[]⟩
  | (low, high) :: rest => ⟨joined low high rest⟩

def empty : CharSet := ⟨[]⟩

def single (c : Char) : CharSet := ⟨[(c.toNat, c.toNat)]⟩

def range (low high : Char) : CharSet := ⟨[(low.toNat, high.toNat)]⟩

def digits : CharSet := ⟨Text.digits.toList⟩

def blanks : CharSet := ⟨Text.blanks.toList⟩

def words : CharSet := ⟨Text.words.toList⟩

def union (s t : CharSet) : CharSet := ofRanges (s.ranges ++ t.ranges)

def gaps (next : Nat) : List (Nat × Nat) → List (Nat × Nat)
  | [] => if next ≤ 0x10ffff then [(next, 0x10ffff)] else []
  | (low, high) :: rest =>
    if next < low then (next, low - 1) :: gaps (high + 1) rest else gaps (high + 1) rest

def complement (s : CharSet) : CharSet := ⟨gaps 0 s.ranges⟩

def inter (s t : CharSet) : CharSet := (s.complement.union t.complement).complement

def diff (s t : CharSet) : CharSet := s.inter t.complement

def symmDiff (s t : CharSet) : CharSet := (s.diff t).union (t.diff s)

def ignoringCase (s : CharSet) : CharSet :=
  let folded := Text.foldedPairs.filter fun (n, _) => covers n s.ranges
  let s := ofRanges (s.ranges ++ folded.map fun (_, m) => (m, m))
  let unfolded := Text.foldedPairs.filter fun (_, m) => covers m s.ranges
  ofRanges (s.ranges ++ unfolded.map fun (n, _) => (n, n))

end CharSet

end ShapeCheck
