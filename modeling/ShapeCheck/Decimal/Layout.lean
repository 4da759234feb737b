import ShapeCheck.Decimal.Shortest

namespace ShapeCheck.Decimal

/-- Where the point may stand for a decimal to be written in place. -/
structure Layout where
  above : Int
  upTo : Int

def Layout.json : Layout := ⟨-5, 16⟩

def digitText (d : Decimal) : List Char := Nat.toDigits 10 d.digits

def inPlace (ds : List Char) (point : Int) : List Char :=
  if point ≤ 0 then '0' :: '.' :: (List.replicate (-point).toNat '0' ++ ds)
  else
    let whole := ds.take point.toNat
    let fraction := ds.drop point.toNat
    whole ++ List.replicate (point.toNat - whole.length) '0' ++ '.' ::
      (if fraction.isEmpty then ['0'] else fraction)

def scientific (ds : List Char) (point : Int) : List Char :=
  let e := point - 1
  let mark := if e < 0 then ['e', '-'] else ['e', '+']
  let fraction := ds.drop 1
  ds.take 1 ++ (if fraction.isEmpty then [] else '.' :: fraction) ++ mark ++
    Nat.toDigits 10 e.natAbs

def write (l : Layout) (d : Decimal) : List Char :=
  if l.above < d.point ∧ d.point ≤ l.upTo then inPlace d.digitText d.point
  else scientific d.digitText d.point

/-- A double with its sign; zero keeps a sign and has one place. -/
def writeDouble (l : Layout) (bits : UInt64) : List Char :=
  let size := Binary64.magnitude bits
  (if Binary64.isNegative bits then ['-'] else []) ++
    (if size = 0 then ['0', '.', '0'] else write l (shortest size))

end ShapeCheck.Decimal
