namespace ShapeCheck.Text

def inRanges (table : Array (Nat × Nat)) (c : Char) : Bool :=
  table.any fun (low, high) => low ≤ c.toNat && c.toNat ≤ high

end ShapeCheck.Text
