import ShapeCheck.Shape.Text
import ShapeCheck.Text.Quoted
import ShapeCheck.Failure
import ShapeCheck.Options

namespace ShapeCheck

open Text (quoted)

def bracketed (parts : List String) : String := "[" ++ ", ".intercalate parts ++ "]"

def braced (parts : List String) : String :=
  if parts.isEmpty then "\x7b\x7d" else "\x7b" ++ ", ".intercalate parts ++ "\x7d"

/-- A name with its fields; `more` stands for fields that are not shown. -/
def described (name : String) (fields : List (String × String)) (more : Bool) : String :=
  let parts := fields.map fun (key, value) => key ++ ": " ++ value
  name ++ " \x7b " ++ ", ".intercalate (if more then parts ++ [".."] else parts) ++ " \x7d"

def describedBool (b : Bool) : String := if b then "true" else "false"

mutual

def Json.description : Json → String
  | .null => "Null"
  | .boolean b => "Bool(" ++ describedBool b ++ ")"
  | .number n => "Number(" ++ n.text ++ ")"
  | .string s => "String(" ++ quoted s ++ ")"
  | .array items => "Array " ++ bracketed (descriptionItems items)
  | .object members => "Object " ++ braced (descriptionMembers members)

def descriptionItems : List Json → List String
  | [] => []
  | a :: as => a.description :: descriptionItems as

def descriptionMembers : List (String × Json) → List String
  | [] => []
  | (k, a) :: as => (quoted k ++ ": " ++ a.description) :: descriptionMembers as

end

def Segment.description : Segment → String
  | .field name => "Field(" ++ quoted name ++ ")"
  | .index i => "Index(" ++ toString i ++ ")"

def Path.description (p : Path) : String :=
  described "KeyPath" [("segments", bracketed (p.segments.map Segment.description))] false

def Issue.description (i : Issue) : String :=
  described "ValidationError"
    [("path", i.path.description), ("message", quoted i.message), ("code", quoted i.code)] false

def Failure.description (f : Failure) : String :=
  "Failure(" ++ described "NonEmptyVec" [("head", f.first.description),
    ("tail", bracketed (f.rest.map Issue.description))] false ++ ")"

def Options.description (o : Options) : String :=
  described "ValidationOptions" [("fail_fast", describedBool o.failFast),
    ("max_reference_depth", toString o.depthLimit)] false

def Shape.description (s : Shape) : String := "Runtype(" ++ s.tag ++ ": " ++ s.text ++ ")"

def Kind.description : Kind → String
  | .unknown => "Unknown"
  | .never => "Never"
  | .boolean => "Boolean"
  | .number => "Number"
  | .string => "String"
  | .literal value => "Literal(" ++ value.description ++ ")"
  | .array element isReadonly =>
    "Array(" ++ described "ArrayRuntype" [("element", element.description),
      ("is_readonly", describedBool isReadonly)] false ++ ")"
  | .tuple elements => "Tuple(" ++ bracketed (elements.map Shape.description) ++ ")"
  | .record fields isPartial =>
    "Record(" ++ described "RecordRuntype"
      [("fields", braced (fields.map fun (name, s) => quoted name ++ ": " ++ s.description)),
        ("is_partial", describedBool isPartial)] false ++ ")"
  | .dictionary value => "Dictionary(" ++ value.description ++ ")"
  | .union alternatives => "Union(" ++ bracketed (alternatives.map Shape.description) ++ ")"
  | .intersect members => "Intersect(" ++ bracketed (members.map Shape.description) ++ ")"
  | .optional inner => "Optional(" ++ inner.description ++ ")"
  | .constraint underlying name _ =>
    let shown := match name with
      | some name => "Some(" ++ quoted name ++ ")"
      | none => "None"
    "Constraint(" ++ described "ConstraintRuntype"
      [("underlying", underlying.description), ("name", shown)] true ++ ")"
  | .reference name _ =>
    "Reference(" ++ described "ReferenceRuntype"
      [("name", quoted name), ("table", "(Weak)")] false ++ ")"
  | .custom tag _ _ _ => "Custom(" ++ described "CustomRuntype" [("tag", quoted tag)] true ++ ")"

end ShapeCheck
