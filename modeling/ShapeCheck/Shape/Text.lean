import ShapeCheck.Shape.Basic
import ShapeCheck.Json.Text

namespace ShapeCheck

/-- Only a union or intersection of several members binds weaker than the brackets of an array. -/
def Kind.needsParens : Kind → Bool
  | .union alternatives => 1 < alternatives.length
  | .intersect members => 1 < members.length
  | _ => false

mutual

/-- Puts the type expression of a shape behind what is written already. -/
def Shape.write (out : String) : Shape → String
  | .mk _ kind => kind.write out

def Kind.write (out : String) : Kind → String
  | .unknown => out ++ "unknown"
  | .never => out ++ "never"
  | .boolean => out ++ "boolean"
  | .number => out ++ "number"
  | .string => out ++ "string"
  | .literal value => value.write out
  | .array element isReadonly =>
    let out := if isReadonly then out ++ "readonly " else out
    if element.kind.needsParens then element.write (out ++ "(") ++ ")[]"
    else element.write out ++ "[]"
  | .tuple elements => writeAll ", " (out ++ "[") elements ++ "]"
  | .record [] _ => out ++ "\x7b\x7d"
  | .record fields isPartial => writeFields isPartial (out ++ "\x7b ") fields ++ " \x7d"
  | .dictionary value => value.write (out ++ "\x7b [key: string]: ") ++ " \x7d"
  | .union [] => out ++ "never"
  | .union alternatives => writeAll " | " out alternatives
  | .intersect [] => out ++ "unknown"
  | .intersect members => writeAll " & " out members
  | .optional inner => inner.write out ++ " | undefined"
  | .constraint _ (some name) _ => out ++ name
  | .constraint underlying none _ => underlying.write out
  | .reference name _ => out ++ name
  | .custom tag _ _ _ => out ++ tag

def writeAll (separator out : String) : List Shape → String
  | [] => out
  | [s] => s.write out
  | s :: rest => writeAll separator (s.write out ++ separator) rest

/-- The fields of a record: a field that may be absent is marked, and then its own marking as
optional is left out. -/
def writeFields (isPartial : Bool) (out : String) : List (String × Shape) → String
  | [] => out
  | [(name, s)] => writeField isPartial (out ++ name) s
  | (name, s) :: rest =>
    writeFields isPartial (writeField isPartial (out ++ name) s ++ "; ") rest

def writeField (isPartial : Bool) (out : String) : Shape → String
  | .mk _ (.optional inner) => inner.write (out ++ "?: ")
  | .mk _ kind => kind.write (out ++ if isPartial then "?: " else ": ")

end

def Shape.text (s : Shape) : String := s.write ""

def Kind.text (kind : Kind) : String := kind.write ""

def fieldText (isPartial : Bool) (field : String × Shape) : String :=
  field.1 ++ writeField isPartial "" field.2

mutual

theorem Shape.write_eq (out : String) : ∀ s : Shape, s.write out = out ++ s.text
  | .mk _ kind => by simp only [Shape.write, Shape.text, Kind.write_eq _ kind]; simp

theorem Kind.write_eq (out : String) : ∀ kind : Kind, kind.write out = out ++ kind.text
  | .unknown | .never | .boolean | .number | .string => by simp [Kind.write, Kind.text]
  | .literal value => by simp [Kind.write, Kind.text, Json.write_eq _ value]
  | .array element isReadonly => by
    cases isReadonly <;> simp only [Kind.write, Kind.text, Shape.write_eq _ element] <;> split <;>
      simp [String.append_assoc]
  | .tuple elements => by
    simp only [Kind.write, Kind.text, writeAll_eq _ _ elements]
    simp [String.append_assoc]
  | .record fields isPartial => by
    cases fields with
    | nil => simp [Kind.write, Kind.text]
    | cons f rest =>
      simp only [Kind.write, Kind.text, writeFields_eq _ _ (f :: rest)]
      simp [String.append_assoc]
  | .dictionary value => by
    simp only [Kind.write, Kind.text, Shape.write_eq _ value]
    simp [String.append_assoc]
  | .union alternatives => by
    cases alternatives with
    | nil => simp [Kind.write, Kind.text]
    | cons s rest =>
      simp only [Kind.write, Kind.text, writeAll_eq _ _ (s :: rest)]
      simp
  | .intersect members => by
    cases members with
    | nil => simp [Kind.write, Kind.text]
    | cons s rest =>
      simp only [Kind.write, Kind.text, writeAll_eq _ _ (s :: rest)]
      simp
  | .optional inner => by
    simp only [Kind.write, Kind.text, Shape.write_eq _ inner]
    simp [String.append_assoc]
  | .constraint underlying name _ => by
    cases name <;> simp [Kind.write, Kind.text, Shape.write_eq _ underlying]
  | .reference _ _ => by simp [Kind.write, Kind.text]
  | .custom .. => by simp [Kind.write, Kind.text]

theorem writeAll_eq (separator out : String) : ∀ shapes : List Shape,
    writeAll separator out shapes = out ++ separator.intercalate (shapes.map Shape.text)
  | [] => by simp [writeAll]
  | [s] => by simp [writeAll, Shape.write_eq _ s]
  | s :: t :: rest => by
    rw [writeAll, writeAll_eq _ _ (t :: rest), Shape.write_eq _ s]
    · simp [String.append_assoc]
    · simp

theorem writeFields_eq (isPartial : Bool) (out : String) : ∀ fields : List (String × Shape),
    writeFields isPartial out fields =
      out ++ "; ".intercalate (fields.map (fieldText isPartial))
  | [] => by simp [writeFields]
  | [(name, s)] => by
    rw [writeFields, writeField_eq _ (out ++ name) s]
    simp [fieldText, String.append_assoc]
  | (name, s) :: t :: rest => by
    rw [writeFields, writeFields_eq _ _ (t :: rest), writeField_eq _ _ s]
    · simp [fieldText, String.append_assoc]
    · simp

theorem writeField_eq (isPartial : Bool) (out : String) : ∀ s : Shape,
    writeField isPartial out s = out ++ writeField isPartial "" s
  | .mk _ (.optional inner) => by
    simp only [writeField, Shape.write_eq _ inner]
    simp [String.append_assoc]
  | .mk _ kind => by
    cases kind <;> simp only [writeField, Kind.write_eq, Shape.write_eq] <;>
      simp [String.append_assoc]

end

end ShapeCheck
