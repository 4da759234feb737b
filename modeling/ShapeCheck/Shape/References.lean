import ShapeCheck.Shape.Basic

namespace ShapeCheck

mutual

/-- The names of all references from left to right, with repeats. -/
def Shape.references : Shape → List String
  | .mk _ kind => kind.references

def Kind.references : Kind → List String
  | .array element _ => element.references
  | .tuple elements => referencesAll elements
  | .record fields _ => referencesFields fields
  | .dictionary value => value.references
  | .union alternatives => referencesAll alternatives
  | .intersect members => referencesAll members
  | .optional inner => inner.references
  | .constraint underlying _ _ => underlying.references
  | .reference name _ => [name]
  | _ => []

def referencesAll : List Shape → List String
  | [] => []
  | s :: rest => s.references ++ referencesAll rest

def referencesFields : List (String × Shape) → List String
  | [] => []
  | (_, s) :: rest => s.references ++ referencesFields rest

end

mutual

/-- Puts the names of the references behind the names that have been found before. -/
def Shape.addReferences : Shape → List String → List String
  | .mk _ kind, names => kind.addReferences names

def Kind.addReferences : Kind → List String → List String
  | .array element _, names => element.addReferences names
  | .tuple elements, names => addReferencesAll elements names
  | .record fields _, names => addReferencesFields fields names
  | .dictionary value, names => value.addReferences names
  | .union alternatives, names => addReferencesAll alternatives names
  | .intersect members, names => addReferencesAll members names
  | .optional inner, names => inner.addReferences names
  | .constraint underlying _ _, names => underlying.addReferences names
  | .reference name _, names => names ++ [name]
  | _, names => names

def addReferencesAll : List Shape → List String → List String
  | [], names => names
  | s :: rest, names => addReferencesAll rest (s.addReferences names)

def addReferencesFields : List (String × Shape) → List String → List String
  | [], names => names
  | (_, s) :: rest, names => addReferencesFields rest (s.addReferences names)

end

mutual

theorem Shape.addReferences_eq : ∀ (s : Shape) (names : List String),
    s.addReferences names = names ++ s.references
  | .mk _ kind, names => by
    rw [Shape.addReferences, Shape.references, kind.addReferences_eq]

theorem Kind.addReferences_eq : ∀ (kind : Kind) (names : List String),
    kind.addReferences names = names ++ kind.references
  | .array element _, names => element.addReferences_eq names
  | .tuple elements, names => addReferencesAll_eq elements names
  | .record fields _, names => addReferencesFields_eq fields names
  | .dictionary value, names => value.addReferences_eq names
  | .union alternatives, names => addReferencesAll_eq alternatives names
  | .intersect members, names => addReferencesAll_eq members names
  | .optional inner, names => inner.addReferences_eq names
  | .constraint underlying _ _, names => underlying.addReferences_eq names
  | .reference _ _, _ => rfl
  | .unknown, names | .never, names | .boolean, names | .number, names | .string, names
  | .literal _, names | .custom .., names => (List.append_nil names).symm

theorem addReferencesAll_eq : ∀ (shapes : List Shape) (names : List String),
    addReferencesAll shapes names = names ++ referencesAll shapes
  | [], names => (List.append_nil names).symm
  | s :: rest, names => by
    rw [addReferencesAll, referencesAll, addReferencesAll_eq rest, s.addReferences_eq,
      List.append_assoc]

theorem addReferencesFields_eq : ∀ (fields : List (String × Shape)) (names : List String),
    addReferencesFields fields names = names ++ referencesFields fields
  | [], names => (List.append_nil names).symm
  | (_, s) :: rest, names => by
    rw [addReferencesFields, referencesFields, addReferencesFields_eq rest, s.addReferences_eq,
      List.append_assoc]

end

end ShapeCheck
