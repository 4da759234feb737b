import Std.Data.HashMap

namespace ShapeCheck.Pattern

/-- A node counts its edges; a word that ends here closes a chunk of them. -/
structure WordTree.Node where
  closed : List Nat
  edges : Nat

/-- Words share their beginnings, but not across a word that ends in between: that one is preferred
to what comes after it. -/
structure WordTree where
  nodes : Array WordTree.Node
  /-- The node to which a node's edge leads, by the number of the chunk and the byte. -/
  next : Std.HashMap (Nat × Nat × Nat) Nat

namespace WordTree

namespace Node

def fresh : Node := ⟨[], 0⟩

def isLeaf (n : Node) : Bool := n.edges == 0 && n.closed.all (· == 0)

/-- A word that ends at a leaf for the second time closes nothing. -/
def close (n : Node) : Node :=
  if n.isLeaf && !n.closed.isEmpty then n else ⟨n.edges :: n.closed, 0⟩

def chunks (n : Node) : List Nat := (n.edges :: n.closed).filter (· != 0)

end Node

def empty : WordTree := ⟨#[.fresh], ∅⟩

def follow (t : WordTree) (i byte : Nat) : WordTree × Nat :=
  let node := t.nodes.getD i .fresh
  let edge := (i, node.closed.length, byte)
  match t.next[edge]? with
  | some j => (t, j)
  | none =>
    let j := t.nodes.size
    (⟨(t.nodes.setIfInBounds i { node with edges := node.edges + 1 }).push .fresh,
      t.next.insert edge j⟩, j)

def insert (t : WordTree) (word : List Nat) : WordTree :=
  let (t, i) := word.foldl (fun (t, i) byte => t.follow i byte) (t, 0)
  { t with nodes := t.nodes.modify i Node.close }

def ofWords (words : List (List Nat)) : WordTree := words.foldl insert empty

end WordTree

end ShapeCheck.Pattern
