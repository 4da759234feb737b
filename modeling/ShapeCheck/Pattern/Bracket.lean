import ShapeCheck.Pattern.Escape

namespace ShapeCheck.Pattern

structure Class where
  set : CharSet
  depth : Nat

namespace Class

def leaf (s : CharSet) : Class := ⟨s, 0⟩

inductive Operation
  | inter
  | diff
  | symmDiff

def Operation.apply : Operation → CharSet → CharSet → CharSet
  | .inter => .inter
  | .diff => .diff
  | .symmDiff => .symmDiff

def folded (ignoreCase : Bool) (s : CharSet) : CharSet := if ignoreCase then s.ignoringCase else s

/-- Case is ignored before the negation: `[^a]` then refuses `A` too. -/
def closed (ignoreCase negated : Bool) (s : CharSet) : CharSet :=
  let s := folded ignoreCase s
  if negated then s.complement else s

structure Opened where
  negated : Bool
  left : Option (Class × Operation)
  members : List Class

namespace Opened

def add (o : Opened) (c : Class) : Opened := { o with members := c :: o.members }

def listed (o : Opened) : Class :=
  match o.members with
  | [] => leaf .empty
  | [c] => c
  | cs => ⟨.ofRanges (cs.flatMap (·.set.ranges)), cs.foldl (fun d c => max d c.depth) 0 + 1⟩

def combined (ignoreCase : Bool) (o : Opened) : Class :=
  match o.left with
  | none => o.listed
  | some (left, operation) =>
    ⟨operation.apply (folded ignoreCase left.set) (folded ignoreCase o.listed.set),
      max left.depth o.listed.depth + 1⟩

def operate (ignoreCase : Bool) (o : Opened) (operation : Operation) : Opened :=
  { o with left := some (o.combined ignoreCase, operation), members := [] }

def close (ignoreCase : Bool) (o : Opened) : Class :=
  let c := o.combined ignoreCase
  ⟨closed ignoreCase o.negated c.set, c.depth + 1⟩

/-- Reads what follows the opening bracket: the sign of negation, then dashes that stand for
themselves, or a closing bracket that does. -/
def read (cs : List Char) : Opened × List Char :=
  let (negated, cs) := match cs with
    | '^' :: cs => (true, cs)
    | cs => (false, cs)
  let dashes := (cs.takeWhile (· == '-')).map fun c => leaf (.single c)
  match dashes, cs.dropWhile (· == '-') with
  | [], ']' :: rest => (⟨negated, none, [leaf (.single ']')]⟩, rest)
  | dashes, rest => (⟨negated, none, dashes⟩, rest)

end Opened

def ofName? (name : List Char) : Option CharSet :=
  let digit := ('0', '9')
  let lower := ('a', 'z')
  let upper := ('A', 'Z')
  let ranges := match String.ofList name with
    | "alnum" => some [digit, upper, lower]
    | "alpha" => some [upper, lower]
    | "ascii" => some [('\x00', '\x7f')]
    | "blank" => some [('\t', '\t'), (' ', ' ')]
    | "cntrl" => some [('\x00', '\x1f'), ('\x7f', '\x7f')]
    | "digit" => some [digit]
    | "graph" => some [('!', '~')]
    | "lower" => some [lower]
    | "print" => some [(' ', '~')]
    | "punct" => some [('!', '/'), (':', '@'), ('[', '\x60'), ('\x7b', '~')]
    | "space" => some [('\t', '\r'), (' ', ' ')]
    | "upper" => some [upper]
    | "word" => some [digit, upper, ('_', '_'), lower]
    | "xdigit" => some [digit, ('A', 'F'), ('a', 'f')]
    | _ => none
  ranges.map fun ranges => .ofRanges (ranges.map fun (low, high) => (low.toNat, high.toNat))

def readNamed? (ignoreCase : Bool) (cs : List Char) : Option (Class × List Char) := do
  let ':' :: cs := cs | none
  let (negated, cs) := match cs with
    | '^' :: cs => (true, cs)
    | cs => (false, cs)
  let ':' :: ']' :: rest := cs.dropWhile (· != ':') | none
  let s ← ofName? (cs.takeWhile (· != ':'))
  return (leaf (closed ignoreCase negated s), rest)

def readItem? : List Char → Option (Escape × List Char)
  | [] => none
  | '\\' :: cs => Escape.read? cs
  | c :: cs => some (.char c, cs)

/-- Reads one character, a set or a range. A dash before the closing bracket or before another
dash makes no range. -/
def readRange? (cs : List Char) : Option (Class × List Char) := do
  let (low, cs) ← readItem? cs
  let alone : Option (Class × List Char) := match low with
    | .char c => some (leaf (.single c), cs)
    | .set s => some (leaf s, cs)
    | .anchor _ => none
  match cs with
  | '-' :: ']' :: _ => alone
  | '-' :: '-' :: _ => alone
  | '-' :: cs => do
    let (high, cs) ← readItem? cs
    match low, high with
    | .char low, .char high => if low ≤ high then some (leaf (.range low high), cs) else none
    | _, _ => none
  | _ => alone

/-- Reads on inside the innermost open bracket up to the end of the outermost; each round takes at
least one character. -/
def readOn? (ignoreCase : Bool) : Nat → Opened → List Opened → List Char →
    Option (Class × List Char)
  | 0, _, _, _ => none
  | fuel + 1, inner, outer, cs =>
    match cs with
    | '[' :: rest =>
      match readNamed? ignoreCase rest with
      | some (c, rest) => readOn? ignoreCase fuel (inner.add c) outer rest
      | none =>
        let (opened, rest) := Opened.read rest
        readOn? ignoreCase fuel opened (inner :: outer) rest
    | ']' :: rest =>
      match outer with
      | [] => some (inner.close ignoreCase, rest)
      | next :: outer => readOn? ignoreCase fuel (next.add (inner.close ignoreCase)) outer rest
    | '&' :: '&' :: rest => readOn? ignoreCase fuel (inner.operate ignoreCase .inter) outer rest
    | '-' :: '-' :: rest => readOn? ignoreCase fuel (inner.operate ignoreCase .diff) outer rest
    | '~' :: '~' :: rest => readOn? ignoreCase fuel (inner.operate ignoreCase .symmDiff) outer rest
    | cs => do
      let (c, rest) ← readRange? cs
      readOn? ignoreCase fuel (inner.add c) outer rest

def read? (ignoreCase : Bool) (cs : List Char) : Option (Class × List Char) :=
  let (opened, rest) := Opened.read cs
  readOn? ignoreCase (cs.length + 1) opened [] rest

end Class

end ShapeCheck.Pattern
