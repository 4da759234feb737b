namespace ShapeCheck.Text

def encode (n : Nat) : List Nat :=
  if n < 0x80 then [n]
  else if n < 0x800 then [0xc0 + n / 0x40, 0x80 + n % 0x40]
  else if n < 0x10000 then [0xe0 + n / 0x1000, 0x80 + n / 0x40 % 0x40, 0x80 + n % 0x40]
  else [0xf0 + n / 0x40000, 0x80 + n / 0x1000 % 0x40, 0x80 + n / 0x40 % 0x40, 0x80 + n % 0x40]

abbrev Row := List (Nat × Nat)

/-- Where a range has to be cut so that its encodings become rows: where the number of bytes
changes, and else at the borders of blocks that the range covers in part. -/
def cut? (low high : Nat) : Option Nat :=
  match [0x7f, 0x7ff, 0xffff].find? fun border => low ≤ border && border < high with
  | some border => some border
  | none =>
    if high ≤ 0x7f then none
    else [0x40, 0x1000, 0x40000].findSome? fun block =>
      if low / block = high / block then none
      else if low % block ≠ 0 then some (low / block * block + block - 1)
      else if high % block ≠ block - 1 then some (high / block * block - 1)
      else none

/-- The rows of a range. Of the cuts that follow each other there are at most three for the
numbers of bytes and two for each size of block. -/
def cutRows : Nat → Nat → Nat → List Row
  | 0, _, _ => []
  | fuel + 1, low, high =>
    match cut? low high with
    | some middle => cutRows fuel low middle ++ cutRows fuel (middle + 1) high
    | none => [(encode low).zip (encode high)]

def rows (range : Nat × Nat) : List Row :=
  let (low, high) := range
  (if low ≤ min high 0xd7ff then cutRows 10 low (min high 0xd7ff) else []) ++
    if max low 0xe000 ≤ high then cutRows 10 (max low 0xe000) high else []

end ShapeCheck.Text
