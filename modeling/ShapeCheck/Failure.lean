import ShapeCheck.Path

namespace ShapeCheck

@[ext] structure Issue where
  path : Path
  message : String
  code : String
  deriving DecidableEq

namespace Issue

def defaultCode : String := "validation_error"

def plain (path : Path) (message : String) : Issue := ⟨path, message, defaultCode⟩

def atRoot (message code : String) : Issue := ⟨.root, message, code⟩

def under (i : Issue) (s : Segment) : Issue := { i with path := i.path.under s }

/-- The text of the path; the root has none. -/
def key? (i : Issue) : Option String := if i.path.isRoot then none else some i.path.text

def text (i : Issue) : String :=
  if i.path.isRoot then i.message else i.path.text ++ ": " ++ i.message

@[simp] theorem path_under (i : Issue) (s : Segment) : (i.under s).path = i.path.under s := rfl

@[simp] theorem message_under (i : Issue) (s : Segment) : (i.under s).message = i.message := rfl

@[simp] theorem code_under (i : Issue) (s : Segment) : (i.under s).code = i.code := rfl

end Issue

/-- A row of issues with at least one member, in the order in which they were found. -/
@[ext] structure Failure where
  first : Issue
  rest : List Issue
  deriving DecidableEq

namespace Failure

def single (i : Issue) : Failure := ⟨i, []⟩

def issues (f : Failure) : List Issue := f.first :: f.rest

def ofList? : List Issue → Option Failure
  | [] => none
  | i :: is => some ⟨i, is⟩

def under (f : Failure) (s : Segment) : Failure := ⟨f.first.under s, f.rest.map (·.under s)⟩

def append (f g : Failure) : Failure := ⟨f.first, f.rest ++ g.issues⟩

def atPath (f : Failure) (p : Path) : List Issue := f.issues.filter (·.path = p)

def withCode (f : Failure) (code : String) : List Issue := f.issues.filter (·.code = code)

def keys (f : Failure) : List (Option String) := f.issues.map Issue.key?

def lines (n : Nat) : List Issue → List String
  | [] => []
  | i :: is => ("  " ++ toString n ++ ". " ++ i.text ++ "\n") :: lines (n + 1) is

def text (f : Failure) : String :=
  "Validation failed with " ++ toString f.issues.length ++ " error(s):\n" ++
    String.join (lines 1 f.issues)

end Failure

end ShapeCheck
