import ShapeCheck.Pattern.Basic

namespace ShapeCheck.Pattern

inductive Form
  | empty
  | word (cs : List Char)
  | set (s : CharSet)
  | anchor (a : Anchor)
  | times (body : Form) (least : Nat) (most : Option Nat) (greedy : Bool)
  | capture (index : Nat) (body : Form)
  /-- At least two parts, none of them empty or a row and no two words together. -/
  | row (parts : List Form)
  /-- At least two branches, none of them a choice. -/
  | choice (branches : List Form)

namespace Form

mutual

def same : Form → Form → Bool
  | .empty, .empty => true
  | .word cs, .word ds => cs == ds
  | .set s, .set t => s == t
  | .anchor a, .anchor b => a == b
  | .times f least most greedy, .times g least' most' greedy' =>
    least == least' && most == most' && greedy == greedy' && f.same g
  | .capture i f, .capture j g => i == j && f.same g
  | .row fs, .row gs => sameAll fs gs
  | .choice fs, .choice gs => sameAll fs gs
  | _, _ => false

def sameAll : List Form → List Form → Bool
  | [], [] => true
  | f :: fs, g :: gs => f.same g && sameAll fs gs
  | _, _ => false

end

mutual

def shortest : Form → Option Nat
  | .empty | .anchor _ => some 0
  | .word cs => some cs.length
  | .set s => if s.ranges.isEmpty then none else some 1
  | .times f least _ _ => f.shortest.map (least * ·)
  | .capture _ f => f.shortest
  | .row fs => shortestRow 0 fs
  | .choice fs => shortestChoice none fs

def shortestRow (before : Nat) : List Form → Option Nat
  | [] => some before
  | f :: fs => do shortestRow (before + (← f.shortest)) fs

def shortestChoice (before : Option Nat) : List Form → Option Nat
  | [] => before
  | f :: fs => do
    let n ← f.shortest
    shortestChoice (some (min n (before.getD n))) fs

end

mutual

/-- The number of characters in the longest match, if there is a bound and no part that never
matches. -/
def longest : Form → Option Nat
  | .empty | .anchor _ => some 0
  | .word cs => some cs.length
  | .set s => if s.ranges.isEmpty then none else some 1
  | .times f _ most _ => do return (← most) * (← f.longest)
  | .capture _ f => f.longest
  | .row fs => longestRow 0 fs
  | .choice fs => longestChoice 0 fs

def longestRow (before : Nat) : List Form → Option Nat
  | [] => some before
  | f :: fs => do longestRow (before + (← f.longest)) fs

def longestChoice (before : Nat) : List Form → Option Nat
  | [] => some before
  | f :: fs => do longestChoice (max before (← f.longest)) fs

end

mutual

def opens : Form → Bool
  | .anchor a => a == .start
  | .times f least _ _ => least != 0 && f.opens
  | .capture _ f => f.opens
  | .row fs => opensRow fs
  | .choice fs => opensChoice fs
  | _ => false

def opensRow : List Form → Bool
  | [] => false
  | f :: fs => f.opens || (f.longest == some 0 && opensRow fs)

def opensChoice : List Form → Bool
  | [] => true
  | f :: fs => f.opens && opensChoice fs

end

mutual

def closes : Form → Bool
  | .anchor a => a == .stop
  | .times f least _ _ => least != 0 && f.closes
  | .capture _ f => f.closes
  | .row fs => closesRow false fs
  | .choice fs => closesChoice fs
  | _ => false

def closesRow (before : Bool) : List Form → Bool
  | [] => before
  | f :: fs => closesRow (f.closes || (f.longest == some 0 && before)) fs

def closesChoice : List Form → Bool
  | [] => true
  | f :: fs => f.closes && closesChoice fs

end

mutual

def weight : Form → Nat
  | .times f _ _ _ | .capture _ f => f.weight + 1
  | .row fs | .choice fs => weightOf 1 fs
  | _ => 1

def weightOf (before : Nat) : List Form → Nat
  | [] => before
  | f :: fs => weightOf (before + f.weight) fs

end

def ofSet (s : CharSet) : Form :=
  match s.ranges with
  | [(low, high)] => if low = high then .word [Char.ofNat low] else .set s
  | _ => .set s

def parts : Form → List Form
  | .empty => []
  | .row fs => fs
  | f => [f]

def ofParts : List Form → Form
  | [] => .empty
  | [f] => f
  | fs => .row fs

/-- One form after another; words that meet become one. -/
def followedBy (f g : Form) : Form :=
  match f.parts.getLast?, g.parts with
  | some (.word cs), .word ds :: rest => ofParts (f.parts.dropLast ++ .word (cs ++ ds) :: rest)
  | _, rest => ofParts (f.parts ++ rest)

/-- A form, repeated. One whose matches are empty is repeated once at most. -/
def repeated (f : Form) (least : Nat) (most : Option Nat) (greedy : Bool) : Form :=
  let (least, most) :=
    if f.longest = some 0 then (min least 1, some (min (most.getD 1) 1)) else (least, most)
  if most = some 0 then .empty
  else if least = 1 ∧ most = some 1 then f
  else .times f least most greedy

def branches : Form → List Form
  | .choice fs => fs
  | f => [f]

def soleChar? : Form → Option (Nat × Nat)
  | .word [c] => some (c.toNat, c.toNat)
  | _ => none

def ranges? : Form → Option (List (Nat × Nat))
  | .set s => some s.ranges
  | _ => none

def merged? (fs : List Form) : Option CharSet :=
  match fs.mapM soleChar? with
  | some chars => some (.ofRanges chars)
  | none => (fs.mapM ranges?).map fun ranges => .ofRanges ranges.flatten

def commonParts : Nat → List Form → List Form → Nat
  | n, f :: fs, g :: gs => if f.same g then commonParts (n + 1) fs gs else n
  | n, _, _ => n

def sharedParts : List Form → Nat
  | .row fs :: rest =>
    rest.foldl (fun n g => match g with
      | .row gs => min n (commonParts 0 (fs.take n) gs)
      | _ => 0) fs.length
  | _ => 0

/-- The choice between some forms. What all begin with is taken out; the alternatives left are
lighter than the forms were. -/
def choose : Nat → List Form → Form
  | 0, fs => .choice fs
  | fuel + 1, fs =>
    let fs := fs.flatMap branches
    match merged? fs, sharedParts fs, fs with
    | some s, _, _ => ofSet s
    | none, 0, fs => .choice fs
    | none, n, f :: fs =>
      (ofParts (f.parts.take n)).followedBy
        (choose fuel ((f :: fs).map fun g => ofParts (g.parts.drop n)))
    | none, _, [] => .set .empty

def ofBranches : List Form → Form
  | [f] => f
  | fs => choose (weightOf 0 fs) fs

end Form

def branchForms : Pattern CharSet Anchor → List Form
  | .empty => [.empty]
  | .letter s => [.ofSet s]
  | .anchor a => [.anchor a]
  | .seq p q => [(Form.ofBranches p.branchForms).followedBy (.ofBranches q.branchForms)]
  | .either p q => p.branchForms ++ q.branchForms
  | .times p least most greedy => [(Form.ofBranches p.branchForms).repeated least most greedy]
  | .group none p => [.ofBranches p.branchForms]
  | .group (some index) p => [.capture index (.ofBranches p.branchForms)]

def form (p : Pattern CharSet Anchor) : Form := .ofBranches p.branchForms

end ShapeCheck.Pattern
