import ShapeCheck.Json.Basic
import ShapeCheck.Decimal.Layout

namespace ShapeCheck

namespace Number

def text : Number → String
  | .integer a => toString a
  | .float bits => String.ofList (Decimal.writeDouble .json bits)

end Number

namespace Json

def hexDigit (n : Nat) : Char := (Nat.toDigits 16 (n % 16)).headD '0'

def escape (c : Char) : List Char :=
  match c with
  | '"' => ['\\', '"']
  | '\\' => ['\\', '\\']
  | '\x08' => ['\\', 'b']
  | '\x0c' => ['\\', 'f']
  | '\n' => ['\\', 'n']
  | '\r' => ['\\', 'r']
  | '\t' => ['\\', 't']
  | c =>
    if c.toNat < 0x20 then ['\\', 'u', '0', '0', hexDigit (c.toNat / 16), hexDigit c.toNat]
    else [c]

def quote (s : String) : String := "\"" ++ String.ofList (s.toList.flatMap escape) ++ "\""

mutual

def write (out : String) : Json → String
  | .null => out ++ "null"
  | .boolean b => out ++ if b then "true" else "false"
  | .number n => out ++ n.text
  | .string s => out ++ quote s
  | .array items => writeItems (out ++ "[") items ++ "]"
  | .object members => writeMembers (out ++ "\x7b") members ++ "\x7d"

def writeItems (out : String) : List Json → String
  | [] => out
  | [a] => write out a
  | a :: as => writeItems (write out a ++ ",") as

def writeMembers (out : String) : List (String × Json) → String
  | [] => out
  | [(k, a)] => write (out ++ quote k ++ ":") a
  | (k, a) :: as => writeMembers (write (out ++ quote k ++ ":") a ++ ",") as

end

def text (value : Json) : String := value.write ""

mutual

theorem write_eq (out : String) : ∀ value : Json, value.write out = out ++ value.text
  | .null => by simp [write, text]
  | .boolean _ => by simp [write, text]
  | .number _ => by simp [write, text]
  | .string _ => by simp [write, text]
  | .array items => by
    simp only [write, text]
    rw [writeItems_eq (out ++ "["), writeItems_eq ("" ++ "[")]
    simp [String.append_assoc]
  | .object members => by
    simp only [write, text]
    rw [writeMembers_eq (out ++ "\x7b"), writeMembers_eq ("" ++ "\x7b")]
    simp [String.append_assoc]

theorem writeItems_eq (out : String) :
    ∀ items : List Json, writeItems out items = out ++ ",".intercalate (items.map text)
  | [] => by simp [writeItems]
  | [a] => by simp [writeItems, write_eq out a]
  | a :: b :: rest => by
    rw [writeItems, writeItems_eq _ (b :: rest), write_eq out a]
    · simp [String.append_assoc]
    · simp

theorem writeMembers_eq (out : String) : ∀ members : List (String × Json),
    writeMembers out members =
      out ++ ",".intercalate (members.map fun m => quote m.1 ++ ":" ++ m.2.text)
  | [] => by simp [writeMembers]
  | [(k, a)] => by simp [writeMembers, write_eq _ a, String.append_assoc]
  | (k, a) :: b :: rest => by
    rw [writeMembers, writeMembers_eq _ (b :: rest), write_eq _ a]
    · simp [String.append_assoc]
    · simp

end

end Json

end ShapeCheck
