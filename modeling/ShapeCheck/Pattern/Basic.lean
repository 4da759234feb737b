import ShapeCheck.Pattern.CharSet
import Std.Data.HashMap

namespace ShapeCheck

inductive Anchor
  | start
  | stop
  | lineStart
  | lineStop
  | wordEdge (negated : Bool)
  | wordStart
  | wordStop
  /-- Where no word character is before. -/
  | wordStartHalf
  | wordStopHalf
  deriving DecidableEq, Hashable

def Anchor.holds (before after : Option Char) : Anchor → Bool
  | .start => before.isNone
  | .stop => after.isNone
  | .lineStart => before.all (· == '\n')
  | .lineStop => after.all (· == '\n')
  | .wordEdge negated => (before.any Text.isWord != after.any Text.isWord) != negated
  | .wordStart => !before.any Text.isWord && after.any Text.isWord
  | .wordStop => before.any Text.isWord && !after.any Text.isWord
  | .wordStartHalf => !before.any Text.isWord
  | .wordStopHalf => !after.any Text.isWord

inductive Pattern (α β : Type)
  | empty
  | letter (a : α)
  | anchor (b : β)
  | seq (first second : Pattern α β)
  | either (left right : Pattern α β)
  /-- What is not greedy prefers few rounds; which texts match is the same. -/
  | times (body : Pattern α β) (least : Nat) (most : Option Nat) (greedy : Bool)
  | group (index : Option Nat) (body : Pattern α β)

namespace Pattern

def joinFirst {α : Type} (join : α → α → α) : Nat → α → List α → α × List α
  | 0, a, rest => (a, rest)
  | k + 1, a, rest =>
    match joinFirst join k a rest with
    | (left, []) => (left, [])
    | (left, b :: rest) =>
      let (right, rest) := joinFirst join k b rest
      (join left right, rest)

/-- Joins a row that begins with `a`, in a tree of the least depth. -/
def joinRow {α : Type} (join : α → α → α) (a : α) (rest : List α) : α :=
  (joinFirst join (rest.length.log2 + 1) a rest).1

def seqOf {α β : Type} : List (Pattern α β) → Pattern α β
  | [] => .empty
  | p :: ps => joinRow .seq p ps

def eitherOf {α β : Type} : List (Pattern α β) → Pattern α β
  | [] => .empty
  | p :: ps => joinRow .either p ps

def map {α β γ δ : Type} (f : α → γ) (g : β → δ) : Pattern α β → Pattern γ δ
  | .empty => .empty
  | .letter a => .letter (f a)
  | .anchor b => .anchor (g b)
  | .seq p q => .seq (p.map f g) (q.map f g)
  | .either p q => .either (p.map f g) (q.map f g)
  | .times p least most greedy => .times (p.map f g) least most greedy
  | .group index p => .group index (p.map f g)

def lettersOnto {α β : Type} : Pattern α β → List α → List α
  | .letter a, rest => a :: rest
  | .seq p q, rest | .either p q, rest => p.lettersOnto (q.lettersOnto rest)
  | .times p _ _ _, rest | .group _ p, rest => p.lettersOnto rest
  | .empty, rest | .anchor _, rest => rest

def anchorsOnto {α β : Type} : Pattern α β → List β → List β
  | .anchor b, rest => b :: rest
  | .seq p q, rest | .either p q, rest => p.anchorsOnto (q.anchorsOnto rest)
  | .times p _ _ _, rest | .group _ p, rest => p.anchorsOnto rest
  | .empty, rest | .letter _, rest => rest

/-- A set of places in a text: bit `i` stands for the place before its `i`-th character. -/
abbrev Places := Nat

/-- The bits of up to `n` members of a row, added to `word` from the value `bit` on, and the rest of
the row. -/
def gatherWord {α : Type} (f : α → Bool) : Nat → (bit word : Nat) → List α → Nat × List α
  | n + 1, bit, word, a :: rest => gatherWord f n (2 * bit) (if f a then word + bit else word) rest
  | _, _, word, rest => (word, rest)

def gatherBits {α : Type} (f : α → Bool) : Nat → List α → Nat × List α
  | _, [] => (0, [])
  | 0, row => gatherWord f 32 1 0 row
  | k + 1, row =>
    let (low, rest) := gatherBits f k row
    let (high, rest) := gatherBits f k rest
    (low ||| high <<< (32 <<< k), rest)

def marked {α : Type} (f : α → Bool) (row : List α) : Places :=
  (gatherBits f ((row.length / 32).log2 + 1) row).1

def placesBefore (text : List Char) (s : CharSet) : Places := marked s.contains text

def placesAt (text : List Char) (a : Anchor) : Places :=
  let sides := text.map some
  marked id (List.zipWith a.holds (none :: sides) (sides ++ [none]))

def without (s t : Places) : Places := s ^^^ (s &&& t)

def rounds (f : Places → Places) : Nat → Places → Places
  | 0, s => s
  | n + 1, s =>
    let t := f s
    if t = s then s else rounds f n t

/-- The places that up to `n` more rounds reach from those at the front, and those reached before.
A place from which a round has begun takes part in no other. -/
def spread (f : Places → Places) : Nat → (begun reached front : Places) → Places
  | 0, _, reached, _ => reached
  | n + 1, begun, reached, front =>
    if front = 0 then reached
    else
      let begun := begun ||| front
      let next := f front
      spread f n begun (reached ||| next) (without next begun)

/-- From the given places on, all those to which nothing but letters at `places` leads: the carries
of the sum run to where the letters end. -/
def along (places s : Places) : Places := (((s &&& places) + places) ^^^ places) ||| s

def soleLetter? {β : Type} : Pattern Places β → Option Places
  | .letter places => some places
  | .either p q => return (← p.soleLetter?) ||| (← q.soleLetter?)
  | .group _ p => p.soleLetter?
  | _ => none

/-- The places where a match may end that starts at one of the given places, in a text of `size`
characters. There are `size + 1` places, so further rounds of a repetition change nothing. -/
def ends (size : Nat) : Pattern Places Places → Places → Places
  | .empty, s => s
  | .letter places, s => 2 * (s &&& places)
  | .anchor places, s => s &&& places
  | .seq p q, s => ends size q (ends size p s)
  | .either p q, s => ends size p s ||| ends size q s
  | .times p least none _, s =>
    match p.soleLetter? with
    | some places => along places (rounds (ends size p) (min least (size + 1)) s)
    | none =>
      let needed := rounds (ends size p) (min (least - 1) (size + 1)) s
      spread (ends size p) (size + 1) 0 (if least = 0 then needed else 0) needed
  | .times p least (some most) _, s =>
    let needed := rounds (ends size p) (min least (size + 1)) s
    spread (ends size p) (min (most - least) (size + 1)) 0 needed needed
  | .group _ p, s => ends size p s

def tabulate {κ : Type} [BEq κ] [Hashable κ] (f : κ → Places) (keys : List κ) :
    Std.HashMap κ Places :=
  keys.foldl (fun table k => if table.contains k then table else table.insert k (f k)) ∅

def valueAt {κ : Type} [BEq κ] [Hashable κ] (f : κ → Places) (table : Std.HashMap κ Places)
    (k : κ) : Places :=
  match table[k]? with
  | some places => places
  | none => f k

def search (p : Pattern CharSet Anchor) (text : String) : Bool :=
  let cs := text.toList
  let sets := tabulate (placesBefore cs) (p.lettersOnto [])
  let spots := tabulate (placesAt cs) (p.anchorsOnto [])
  let placed := p.map (valueAt (placesBefore cs) sets) (valueAt (placesAt cs) spots)
  ends cs.length placed ((1 <<< (cs.length + 1)) - 1) != 0

end Pattern

end ShapeCheck
