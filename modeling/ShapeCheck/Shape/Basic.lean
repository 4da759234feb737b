import ShapeCheck.Shape.Script
import ShapeCheck.Named

namespace ShapeCheck

abbrev Identity := Nat

mutual

/-- What a JSON value may look like. A shape never changes and has an identity of its own: two that
look alike are still two. -/
inductive Shape
  | mk (id : Identity) (kind : Kind)

inductive Kind
  | unknown
  | never
  | boolean
  | number
  | string
  | literal (value : Json)
  | array (element : Shape) (isReadonly : Bool)
  | tuple (elements : List Shape)
  | record (fields : List (String × Shape)) (isPartial : Bool)
  | dictionary (value : Shape)
  | union (alternatives : List Shape)
  | intersect (members : List Shape)
  | optional (inner : Shape)
  /-- Narrows a shape; the predicate gives the reason for which it refuses a value. -/
  | constraint (underlying : Shape) (name : Option String) (refuses : Json → Option String)
  /-- Stands for the shape of that name in a registry, which it does not keep alive. -/
  | reference (name : String) (registry : RegistryId)
  /-- A user's check with the shapes in its slots and the registries that it keeps alive. -/
  | custom (tag : String) (slots : List Shape) (registries : List RegistryId)
      (body : Node → Options → Script)

end

namespace Shape

def id : Shape → Identity
  | .mk id _ => id

def kind : Shape → Kind
  | .mk _ kind => kind

end Shape

namespace Kind

def tag : Kind → String
  | .unknown => "unknown"
  | .never => "never"
  | .boolean => "boolean"
  | .number => "number"
  | .string => "string"
  | .literal _ => "literal"
  | .array .. => "array"
  | .tuple _ => "tuple"
  | .record .. => "record"
  | .dictionary _ => "dictionary"
  | .union _ => "union"
  | .intersect _ => "intersect"
  | .optional _ => "optional"
  | .constraint .. => "constraint"
  | .reference .. => "reference"
  | .custom tag .. => tag

def isOptional : Kind → Bool
  | .optional _ => true
  | _ => false

def isCustom : Kind → Bool
  | .custom .. => true
  | _ => false

def readonly? : Kind → Option Kind
  | .array element _ => some (.array element true)
  | _ => none

end Kind

namespace Shape

def tag (s : Shape) : String := s.kind.tag

/-- Whether a record with this field accepts objects that lack it. -/
def mayLack (isPartial : Bool) (field : Shape) : Bool := isPartial || field.kind.isOptional

end Shape

def Kind.null : Kind := .literal .null

def Kind.or (a b : Shape) : Kind := .union [a, b]

def Kind.and (a b : Shape) : Kind := .intersect [a, b]

/-- A record; a repeated name keeps its first place and its last shape. -/
def Kind.ofFields (fields : List (String × Shape)) (isPartial : Bool) : Kind :=
  .record (Named.ofPairs fields) isPartial

end ShapeCheck
