import ShapeCheck.Pattern.Texts
import ShapeCheck.Pattern.WordTree
import ShapeCheck.Text.Encoding

namespace ShapeCheck.Pattern

/-- An automaton that is being made: the number of its states, and the bytes of their edges. -/
structure Draft where
  states : Nat
  edgeBytes : Nat

def sizeLimit : Nat := 10 * 1024 * 1024

namespace Draft

def stateBytes : Nat := 32

def rangeBytes : Nat := 8

def linkBytes : Nat := 4

def size (d : Draft) : Nat := stateBytes * d.states + d.edgeBytes

def add (states edgeBytes : Nat) (d : Draft) : Option Draft :=
  let d : Draft := ⟨d.states + states, d.edgeBytes + edgeBytes⟩
  if d.size ≤ sizeLimit then some d else none

end Draft

/-- A table of numbered states with a fixed number of slots. A state is found again by its edges
unless another one has taken its slot since. -/
structure StateTable where
  slots : Nat
  entries : Std.HashMap Nat (List Nat × Nat)

namespace StateTable

def empty (slots : Nat) : StateTable := ⟨slots, ∅⟩

def slot (t : StateTable) (edges : List Nat) : Nat :=
  let mix (h : UInt64) (n : Nat) := (h ^^^ n.toUInt64) * 1099511628211
  (edges.foldl mix 14695981039346656037).toNat % t.slots

def find? (t : StateTable) (edges : List Nat) : Option Nat :=
  match t.entries[t.slot edges]? with
  | some (edges', state) => if edges' = edges then some state else none
  | none => none

def insert (t : StateTable) (edges : List Nat) (state : Nat) : StateTable :=
  { t with entries := t.entries.insert (t.slot edges) (edges, state) }

end StateTable

abbrev Drawing := StateT (Draft × StateTable) Option

namespace Drawing

def state (edges : List Nat) (edgeBytes : Nat) : Drawing Nat := fun (d, table) =>
  match table.find? edges with
  | some i => some (i, d, table)
  | none => (d.add 1 edgeBytes).map fun d' => (d.states, d', table.insert edges d.states)

def branches (rows : List Text.Row) : List ((Nat × Nat) × List Text.Row) :=
  (rows.splitBy fun row row' => row.head? == row'.head?).filterMap fun group =>
    (group.head?.bind (·.head?)).map (·, group.map (·.tail))

def forward (stop : Nat) : Nat → List Text.Row → Drawing Nat
  | 0, _ => failure
  | n + 1, rows => do
    let edges ← (branches rows).mapM fun ((low, high), rest) => do
      let next ← if rest.all List.isEmpty then pure stop else forward stop n rest
      return [low, high, next]
    state edges.flatten (Draft.rangeBytes * edges.length)

def backward (stop : Nat) (row : Text.Row) : Drawing Nat :=
  row.foldlM (fun next (low, high) => state [next, low, high] 0) stop

def onto {α : Type} (a : Drawing α) (slots : Nat) (d : Draft) : Option Draft :=
  (a.run (d, .empty slots)).map (·.2.1)

end Drawing

/-- A part of an automaton, as what it makes of the draft before it. -/
structure Piece where
  onto : Draft → Option Draft

namespace Piece

open Draft in
/-- The piece for a set. ASCII characters take one state; rows of bytes share states where the table
finds them, forward those that lead on in the same way, backward those that come from the same. -/
def ofSet (isBackward : Bool) (s : CharSet) : Piece :=
  if s.ranges.all (·.2 ≤ 0x7f) then ⟨add 2 (rangeBytes * s.ranges.length)⟩
  else
    let rows := s.ranges.flatMap Text.rows
    if isBackward then
      ⟨fun d => do
        let stop := d.states + 1
        let d ← d.add 2 (linkBytes * rows.length)
        (rows.forM fun row => discard (Drawing.backward stop row)).onto 1000 d⟩
    else
      ⟨fun d => do
        let stop := d.states
        let d ← d.add 1 0
        (Drawing.forward stop 4 rows).onto 10000 d⟩

def bytes (isBackward : Bool) (word : List Char) : List Nat :=
  let bytes := word.flatMap fun c => Text.encode c.toNat
  if isBackward then bytes.reverse else bytes

open Draft in
def ofNode (n : WordTree.Node) (d : Draft) : Option Draft :=
  if n.isLeaf then some d
  else
    let ranges := (n.chunks.filter (1 < ·)).foldr (· + ·) 0
    d.add (n.chunks.length + 1)
      (rangeBytes * ranges + linkBytes * (n.chunks.length + n.closed.length))

def ofWords (isBackward : Bool) (words : List (List Char)) : Piece :=
  let tree := WordTree.ofWords (words.map (bytes isBackward))
  ⟨fun d => do tree.nodes.foldlM (fun d n => ofNode n d) (← d.add 1 0)⟩

def copies (p : Piece) : Nat → Draft → Option Draft
  | 0, d => some d
  | n + 1, d => do copies p n (← p.onto d)

def row (pieces : List Piece) : Piece := ⟨fun d => pieces.foldlM (fun d p => p.onto d) d⟩

open Draft in
/-- The states that part and meet again stand after the second branch. -/
def choice : List Piece → Piece
  | p :: q :: rest => ⟨fun d => do
    (row rest).onto (← (← q.onto (← p.onto d)).add 2 (linkBytes * (rest.length + 2)))⟩
  | pieces => row pieces

open Draft in
/-- A repetition: a choice goes before each round that may be left out, or after the last one if
there may be more. -/
def repeated (p : Piece) (takesText : Bool) : Nat → Option Nat → Piece
  | 0, some 1 => ⟨fun d => do (← p.onto (← d.add 1 (2 * linkBytes))).add 1 0⟩
  | 0, none =>
    if takesText then ⟨fun d => do p.onto (← d.add 1 (2 * linkBytes))⟩
    else ⟨fun d => do (← p.onto d).add 3 (4 * linkBytes)⟩
  | least, none => ⟨fun d => do (← p.copies least d).add 1 (2 * linkBytes)⟩
  | least, some most => ⟨fun d => do
    let d ← if least = 0 then d.add 1 0 else p.copies least d
    if most ≤ least then some d
    else
      let round : Piece := ⟨fun d => do p.onto (← d.add 1 (2 * linkBytes))⟩
      round.copies (most - least) (← d.add 1 0)⟩

end Piece

namespace Form

def word? : Form → Option (List Char)
  | .word cs => some cs
  | _ => none

mutual

def piece (isBackward : Bool) : Form → Piece
  | .empty | .anchor _ => ⟨Draft.add 1 0⟩
  | .word cs => ⟨Draft.add (Piece.bytes isBackward cs).length 0⟩
  | .set s => .ofSet isBackward s
  | .times f least most _ =>
    (f.piece isBackward).repeated (f.shortest.any (0 < ·)) least most
  | .capture _ f =>
    let p := f.piece isBackward
    if isBackward then p else ⟨fun d => do (← p.onto (← d.add 1 0)).add 1 0⟩
  | .row fs =>
    let pieces := piecesOnto isBackward fs []
    .row (if isBackward then pieces else pieces.reverse)
  | .choice fs =>
    match fs.mapM word? with
    | some words => .ofWords isBackward words
    | none => .choice (piecesOnto isBackward fs []).reverse

def piecesOnto (isBackward : Bool) : List Form → List Piece → List Piece
  | [], pieces => pieces
  | f :: fs, pieces => piecesOnto isBackward fs (f.piece isBackward :: pieces)

end

/-- The automaton that reads forward, with the match on record. One that may start anywhere skips
bytes first. -/
def forward (f : Form) : Option Draft := do
  let d : Draft := ⟨0, 0⟩
  let d ← if f.opens then d.add 1 0 else d.add 3 (Draft.rangeBytes + 2 * Draft.linkBytes)
  (← (f.piece false).onto (← d.add 1 0)).add 2 0

def backward (f : Form) : Option Draft := do
  let d : Draft := ⟨0, 0⟩
  let d ← if f.closes then d.add 1 0 else d.add 3 (Draft.rangeBytes + 2 * Draft.linkBytes)
  (← (f.piece true).onto d).add 1 0

def manyWords : Nat := 3000

def isManyWords : Form → Bool
  | .choice fs => manyWords ≤ fs.length && fs.all fun f => f.word?.isSome
  | _ => false

/-- Whether the automata are not too large. Lists of texts and of words take none. -/
def isAffordable (f : Form) : Bool :=
  (f.forward.isSome && f.backward.isSome) || f.isManyWords || f.isList

end Form

end ShapeCheck.Pattern
