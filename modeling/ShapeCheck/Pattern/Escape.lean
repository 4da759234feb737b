import ShapeCheck.Pattern.Basic

namespace ShapeCheck.Pattern

inductive Escape
  | char (c : Char)
  | set (s : CharSet)
  | anchor (a : Anchor)

namespace Escape

def isPunctuation (c : Char) : Bool :=
  c.toNat < 0x80 && !c.isAlphanum && c != '<' && c != '>'

def ofChar? (c : Char) : Option Escape :=
  match c with
  | 'd' => some (.set .digits)
  | 'D' => some (.set CharSet.digits.complement)
  | 's' => some (.set .blanks)
  | 'S' => some (.set CharSet.blanks.complement)
  | 'w' => some (.set .words)
  | 'W' => some (.set CharSet.words.complement)
  | 'n' => some (.char '\n')
  | 'r' => some (.char '\r')
  | 't' => some (.char '\t')
  | 'a' => some (.char '\x07')
  | 'f' => some (.char '\x0c')
  | 'v' => some (.char '\x0b')
  | 'A' => some (.anchor .start)
  | 'z' => some (.anchor .stop)
  | 'b' => some (.anchor (.wordEdge false))
  | 'B' => some (.anchor (.wordEdge true))
  | '<' => some (.anchor .wordStart)
  | '>' => some (.anchor .wordStop)
  | c => if isPunctuation c then some (.char c) else none

def ofName? (name : List Char) : Option Escape :=
  match String.ofList name with
  | "start" => some (.anchor .wordStart)
  | "end" => some (.anchor .wordStop)
  | "start-half" => some (.anchor .wordStartHalf)
  | "end-half" => some (.anchor .wordStopHalf)
  | _ => none

def hexDigit? (c : Char) : Option Nat :=
  if '0' ≤ c ∧ c ≤ '9' then some (c.toNat - '0'.toNat)
  else if 'a' ≤ c ∧ c ≤ 'f' then some (c.toNat - 'a'.toNat + 10)
  else if 'A' ≤ c ∧ c ≤ 'F' then some (c.toNat - 'A'.toNat + 10)
  else none

def ofHex? (digits : List Char) : Option Escape := do
  let digits ← digits.mapM hexDigit?
  let n := digits.foldl (fun n d => n * 16 + d) 0
  if n.isValidChar ∧ ¬digits.isEmpty then some (.char (Char.ofNat n)) else none

def readHex? (digits : Nat) : List Char → Option (Escape × List Char)
  | '\x7b' :: cs =>
    match cs.dropWhile (· != '\x7d') with
    | [] => none
    | _ :: rest => (ofHex? (cs.takeWhile (· != '\x7d'))).map (·, rest)
  | cs =>
    if digits ≤ cs.length then (ofHex? (cs.take digits)).map (·, cs.drop digits) else none

/-- Between braces a name may follow; what cannot be a name belongs to a repetition. -/
def readName? (cs : List Char) : Option (Escape × List Char) :=
  let isNamePart (c : Char) := c.isAlpha || c == '-'
  match cs with
  | '\x7b' :: c :: rest =>
    if isNamePart c then
      match (c :: rest).dropWhile isNamePart with
      | '\x7d' :: rest' => (ofName? ((c :: rest).takeWhile isNamePart)).map (·, rest')
      | _ => none
    else some (.anchor (.wordEdge false), cs)
  | ['\x7b'] => none
  | _ => some (.anchor (.wordEdge false), cs)

def read? : List Char → Option (Escape × List Char)
  | [] => none
  | 'x' :: cs => readHex? 2 cs
  | 'u' :: cs => readHex? 4 cs
  | 'U' :: cs => readHex? 8 cs
  | 'b' :: cs => readName? cs
  | c :: cs => (ofChar? c).map (·, cs)

end Escape

end ShapeCheck.Pattern
