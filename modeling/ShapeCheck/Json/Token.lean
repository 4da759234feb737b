import ShapeCheck.Json.Numeral

namespace ShapeCheck.Json

inductive Token
  | beginArray
  | endArray
  | beginObject
  | endObject
  | comma
  | colon
  | scalar (value : Json)

namespace Token

/-- The token that is not complete yet, with its characters latest first. -/
inductive Pending
  | blank
  | word (read : List Char)
  | numeral (read : List Char)
  | text (read : List Char)
  | escape (read : List Char)
  /-- Reading four hexadecimal digits; `high` is the first half of a surrogate pair. -/
  | unit (read : List Char) (high : Option Nat) (digits : List Nat)
  | secondHalf (read : List Char) (high : Nat)
  | secondEscape (read : List Char) (high : Nat)

structure Scan where
  pending : Pending
  done : List Token

def isBlank (c : Char) : Bool := c = ' ' ∨ c = '\n' ∨ c = '\r' ∨ c = '\t'

def isNumeral (c : Char) : Bool :=
  c.isDigit ∨ c = '-' ∨ c = '+' ∨ c = '.' ∨ c = 'e' ∨ c = 'E'

def hexValue? (c : Char) : Option Nat :=
  if c.isDigit then some (c.toNat - '0'.toNat)
  else if 'a' ≤ c ∧ c ≤ 'f' then some (c.toNat - 'a'.toNat + 10)
  else if 'A' ≤ c ∧ c ≤ 'F' then some (c.toNat - 'A'.toNat + 10)
  else none

def ofWord? : List Char → Option Json
  | ['n', 'u', 'l', 'l'] => some .null
  | ['t', 'r', 'u', 'e'] => some (.boolean true)
  | ['f', 'a', 'l', 's', 'e'] => some (.boolean false)
  | _ => none

def start (done : List Token) (c : Char) : Option Scan :=
  match c with
  | '[' => some ⟨.blank, .beginArray :: done⟩
  | ']' => some ⟨.blank, .endArray :: done⟩
  | '\x7b' => some ⟨.blank, .beginObject :: done⟩
  | '\x7d' => some ⟨.blank, .endObject :: done⟩
  | ',' => some ⟨.blank, .comma :: done⟩
  | ':' => some ⟨.blank, .colon :: done⟩
  | '"' => some ⟨.text [], done⟩
  | c =>
    if isBlank c then some ⟨.blank, done⟩
    else if c.isDigit ∨ c = '-' then some ⟨.numeral [c], done⟩
    else if c.isAlpha then some ⟨.word [c], done⟩
    else none

def unescape? : Char → Option Char
  | '"' => some '"'
  | '\\' => some '\\'
  | '/' => some '/'
  | 'b' => some '\x08'
  | 'f' => some '\x0c'
  | 'n' => some '\n'
  | 'r' => some '\r'
  | 't' => some '\t'
  | _ => none

/-- Ends a four-digit escape. Halves of a surrogate pair stand for one character and never alone. -/
def closeUnit (read : List Char) (high : Option Nat) (code : Nat) : Option Pending :=
  let isHigh : Bool := 0xd800 ≤ code ∧ code < 0xdc00
  let isLow : Bool := 0xdc00 ≤ code ∧ code < 0xe000
  match high with
  | some h =>
    if isLow then
      some (.text (Char.ofNat (0x10000 + (h - 0xd800) * 0x400 + (code - 0xdc00)) :: read))
    else none
  | none =>
    if isHigh then some (.secondHalf read code)
    else if isLow then none
    else some (.text (Char.ofNat code :: read))

def step (s : Scan) (c : Char) : Option Scan :=
  match s.pending with
  | .blank => start s.done c
  | .word read =>
    if c.isAlpha then some ⟨.word (c :: read), s.done⟩
    else ofWord? read.reverse >>= fun v => start (.scalar v :: s.done) c
  | .numeral read =>
    if isNumeral c then some ⟨.numeral (c :: read), s.done⟩
    else Number.read? read.reverse >>= fun n => start (.scalar (.number n) :: s.done) c
  | .text read =>
    if c = '"' then some ⟨.blank, .scalar (.string (String.ofList read.reverse)) :: s.done⟩
    else if c = '\\' then some ⟨.escape read, s.done⟩
    else if c.toNat < 0x20 then none
    else some ⟨.text (c :: read), s.done⟩
  | .escape read =>
    if c = 'u' then some ⟨.unit read none [], s.done⟩
    else (unescape? c).map fun d => ⟨.text (d :: read), s.done⟩
  | .unit read high digits => do
    let d ← hexValue? c
    if digits.length < 3 then some ⟨.unit read high (digits ++ [d]), s.done⟩
    else
      let code := (digits ++ [d]).foldl (fun n d => n * 16 + d) 0
      (closeUnit read high code).map (⟨·, s.done⟩)
  | .secondHalf read high => if c = '\\' then some ⟨.secondEscape read high, s.done⟩ else none
  | .secondEscape read high => if c = 'u' then some ⟨.unit read (some high) [], s.done⟩ else none

def finish (s : Scan) : Option (List Token) :=
  match s.pending with
  | .blank => some s.done
  | .word read => (ofWord? read.reverse).map (.scalar · :: s.done)
  | .numeral read => (Number.read? read.reverse).map fun n => .scalar (.number n) :: s.done
  | _ => none

def scan? (text : String) : Option (List Token) :=
  (text.toList.foldlM step ⟨.blank, []⟩ >>= finish).map List.reverse

end Token

end ShapeCheck.Json
