import ShapeCheck.Pattern.Bracket
import ShapeCheck.Pattern.Automaton

namespace ShapeCheck.Pattern

structure Flags where
  ignoreCase : Bool
  /-- Whether `^` and `$` hold at the ends of every line. -/
  manyLines : Bool
  dotAll : Bool
  /-- Whether a repetition is greedy just if it is marked as not. -/
  swapGreed : Bool

namespace Flags

def plain : Flags := ⟨false, false, false, false⟩

def set? (f : Flags) (on : Bool) (c : Char) : Option Flags :=
  match c with
  | 'i' => some { f with ignoreCase := on }
  | 'm' => some { f with manyLines := on }
  | 's' => some { f with dotAll := on }
  | 'U' => some { f with swapGreed := on }
  | 'u' => if on then some f else none
  | 'x' | 'R' => if on then none else some f
  | _ => none

/-- Reads a row of flags; those after a dash are turned off. No flag stands twice. -/
def read? (f : Flags) (cs : List Char) : Option Flags := do
  let on := cs.takeWhile (· != '-')
  let off := (cs.dropWhile (· != '-')).drop 1
  if ¬(on ++ off).Nodup ∨ (off.isEmpty ∧ '-' ∈ cs) then none
  else
    let f ← on.foldlM (·.set? true) f
    off.foldlM (·.set? false) f

end Flags

structure Part where
  pattern : Pattern CharSet Anchor
  depth : Nat

namespace Part

def leaf (p : Pattern CharSet Anchor) : Part := ⟨p, 0⟩

def depthOf : List Part → Nat
  | [] => 0
  | [p] => p.depth
  | parts => parts.foldl (fun d p => max d p.depth) 0 + 1

end Part

/-- A group that is being read: its complete branches and the parts of the current one, both
latest first. -/
structure Group where
  branches : List Part
  parts : List Part
  flags : Flags
  index : Option Nat
  repeatable : Bool

namespace Group

def start (flags : Flags) (index : Option Nat) : Group := ⟨[], [], flags, index, false⟩

def push (g : Group) (p : Part) : Group := { g with parts := p :: g.parts, repeatable := true }

/-- A change of flags is a part, too, but nothing that can be repeated. -/
def setFlags (g : Group) (flags : Flags) : Group :=
  { g with parts := .leaf .empty :: g.parts, flags := flags, repeatable := false }

def branch (g : Group) : Part :=
  ⟨.seqOf (g.parts.map (·.pattern)).reverse, Part.depthOf g.parts⟩

def bar (g : Group) : Group :=
  { g with branches := g.branch :: g.branches, parts := [], repeatable := false }

def whole (g : Group) : Part :=
  let branches := (g.branch :: g.branches).reverse
  ⟨.eitherOf (branches.map (·.pattern)), Part.depthOf branches⟩

def closed (g : Group) : Part :=
  let p := g.whole
  ⟨.group g.index p.pattern, p.depth + 1⟩

def repeated? (g : Group) (least : Nat) (most : Option Nat) (greedy : Bool) : Option Group :=
  match g.repeatable, g.parts with
  | true, p :: parts =>
    some { g with parts := ⟨.times p.pattern least most greedy, p.depth + 1⟩ :: parts }
  | _, _ => none

end Group

namespace Reader

/-- The innermost open group, those around it, the number of the next one on record and the names of
groups. -/
structure State where
  inner : Group
  outer : List Group
  nextIndex : Nat
  names : List (List Char)

def State.start : State := ⟨.start .plain none, [], 1, []⟩

def State.openNumbered (s : State) (names : List (List Char)) : State :=
  ⟨.start s.inner.flags (some s.nextIndex), s.inner :: s.outer, s.nextIndex + 1, names⟩

def numeral? (cs : List Char) : Option Nat :=
  let trimmed := ((cs.dropWhile Text.isBlank).reverse.dropWhile Text.isBlank).reverse
  if trimmed.isEmpty ∨ ¬trimmed.all Char.isDigit then none
  else
    let n := trimmed.foldl (fun n c => n * 10 + (c.toNat - '0'.toNat)) 0
    if n < 0x100000000 then some n else none

def bounds? (cs : List Char) : Option (Nat × Option Nat) := do
  let least ← numeral? (cs.takeWhile (· != ','))
  match cs.dropWhile (· != ',') with
  | [] => some (least, some least)
  | [_] => some (least, none)
  | _ :: rest =>
    let most ← numeral? rest
    if least ≤ most then some (least, some most) else none

def readGreed (flags : Flags) : List Char → Bool × List Char
  | '?' :: cs => (flags.swapGreed, cs)
  | cs => (!flags.swapGreed, cs)

def isNamePart (isFirst : Bool) (c : Char) : Bool :=
  c == '_' || (Text.isWord c && !(isFirst && Text.isDigit c)) ||
    (!isFirst && (c == '.' || c == '[' || c == ']'))

def readName? (s : State) (cs : List Char) : Option (State × List Char) := do
  let '>' :: rest := cs.dropWhile (· != '>') | none
  let name := cs.takeWhile (· != '>')
  let c :: more := name | none
  if isNamePart true c ∧ more.all (isNamePart false) ∧ name ∉ s.names then
    return (s.openNumbered (name :: s.names), rest)
  else none

/-- Reads what follows the opening of a group: flags for the group or for what comes after it, or a
name. -/
def readGroup? (s : State) : List Char → Option (State × List Char)
  | '?' :: 'P' :: '<' :: cs => readName? s cs
  | '?' :: '<' :: cs => readName? s cs
  | '?' :: cs => do
    let isFlag (c : Char) := c != ':' && c != ')'
    let flags := cs.takeWhile isFlag
    let changed ← s.inner.flags.read? flags
    match cs.dropWhile isFlag with
    | ':' :: rest =>
      some ({ s with inner := .start changed none, outer := s.inner :: s.outer }, rest)
    | ')' :: rest =>
      if flags.isEmpty then none else some ({ s with inner := s.inner.setFlags changed }, rest)
    | _ => none
  | cs => some (s.openNumbered s.names, cs)

def letter (flags : Flags) (c : Char) : Pattern CharSet Anchor :=
  .letter (Class.folded flags.ignoreCase (.single c))

def ofEscape (flags : Flags) : Escape → Pattern CharSet Anchor
  | .char c => letter flags c
  | .set s => .letter s
  | .anchor a => .anchor a

def dot (flags : Flags) : CharSet :=
  if flags.dotAll then CharSet.empty.complement else (CharSet.single '\n').complement

def step (s : State) (c : Char) (cs : List Char) : Option (State × List Char) :=
  let flags := s.inner.flags
  let push (p : Part) (rest : List Char) : Option (State × List Char) :=
    some ({ s with inner := s.inner.push p }, rest)
  let repeated (least : Nat) (most : Option Nat) (rest : List Char) :
      Option (State × List Char) :=
    let (greedy, rest) := readGreed flags rest
    (s.inner.repeated? least most greedy).map fun g => ({ s with inner := g }, rest)
  match c with
  | '\\' => do
    let (e, rest) ← Escape.read? cs
    push (.leaf (ofEscape flags e)) rest
  | '[' => do
    let (c, rest) ← Class.read? flags.ignoreCase cs
    push ⟨.letter c.set, c.depth⟩ rest
  | '(' => readGroup? s cs
  | ')' =>
    match s.outer with
    | [] => none
    | g :: outer => some ({ s with inner := g.push s.inner.closed, outer := outer }, cs)
  | '|' => some ({ s with inner := s.inner.bar }, cs)
  | '\x7b' => do
    let _ :: rest := cs.dropWhile (· != '\x7d') | none
    let (least, most) ← bounds? (cs.takeWhile (· != '\x7d'))
    repeated least most rest
  | '*' => repeated 0 none cs
  | '+' => repeated 1 none cs
  | '?' => repeated 0 (some 1) cs
  | '.' => push (.leaf (.letter (dot flags))) cs
  | '^' => push (.leaf (.anchor (if flags.manyLines then .lineStart else .start))) cs
  | '$' => push (.leaf (.anchor (if flags.manyLines then .lineStop else .stop))) cs
  | c => push (.leaf (letter flags c)) cs

def run : Nat → State → List Char → Option State
  | _, s, [] => some s
  | 0, _, _ => none
  | fuel + 1, s, c :: cs => do
    let (s, rest) ← step s c cs
    run fuel s rest

end Reader

def depthLimit : Nat := 250

/-- The regular expression that a text denotes, if it denotes one and is not too large. -/
def read? (text : String) : Option (Pattern CharSet Anchor) := do
  let cs := text.toList
  let s ← Reader.run cs.length .start cs
  let p := s.inner.whole
  if s.outer.isEmpty ∧ p.depth ≤ depthLimit ∧ p.pattern.form.isAffordable then some p.pattern
  else none

end ShapeCheck.Pattern
