import ShapeCheck.Node
import ShapeCheck.Failure

namespace ShapeCheck

/-- An accepting check names the node that it vouches for, usually the one that it was given. -/
inductive Outcome
  | accepted (node : Node)
  | rejected (failure : Failure)

namespace Outcome

def isAccepted : Outcome → Bool
  | .accepted _ => true
  | .rejected _ => false

def issues : Outcome → List Issue
  | .accepted _ => []
  | .rejected f => f.issues

def refuse (message code : String) : Outcome := .rejected (.single (.atRoot message code))

def ofIssues (node : Node) (is : List Issue) : Outcome :=
  match Failure.ofList? is with
  | some f => .rejected f
  | none => .accepted node

@[simp] theorem issues_ofIssues (node : Node) (is : List Issue) :
    (ofIssues node is).issues = is := by
  cases is <;> rfl

end Outcome

end ShapeCheck
