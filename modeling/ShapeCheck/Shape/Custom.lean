import ShapeCheck.Shape.Text

namespace ShapeCheck.Script

/-- What a user's check does; one that checks another shape holds it in slot 0. -/
abbrev Body := Node → Options → Script

def passing : Body := fun node _ => .done (.accepted node)

def failing (f : Failure) : Body := fun _ _ => .done (.rejected f)

def flag (b : Bool) : String := if b then "true" else "false"

def probing : Body := fun _ options =>
  .inspect fun depth isIdle =>
    .done (.refuse ("depth=" ++ toString depth ++ " idle=" ++ flag isIdle ++
      " fail_fast=" ++ flag options.failFast ++ " limit=" ++ toString options.depthLimit) "probe")

def noChild : Outcome := .refuse "no child" "no_child"

/-- Gives back what the shape says, under the options as they are or changed. -/
def calling (via : Via) (change : Options → Options) : Body := fun _ options =>
  .call via 0 .here (change options) fun
    | some outcome => .done outcome
    | none => .done noChild

def negating (shape : Shape) : Body := fun node options =>
  .call .watched 0 .here options fun
    | some (.rejected _) => .done (.accepted node)
    | _ => .done (.refuse ("Expected not " ++ shape.text) "not")

/-- Accepts, and vouches for the child instead of the node. -/
def choosing (s : Segment) : Body := fun node _ =>
  match node.child? s with
  | some child => .done (.accepted child)
  | none => .done noChild

def callingChild (s : Segment) : Body := fun node options =>
  .call .watched 0 (.child s) options fun
    | some (.accepted _) => .done (.accepted node)
    | some (.rejected f) => .done (.rejected (f.under s))
    | none => .done noChild

def registering (registry : RegistryId) (name : String) : Body := fun node _ =>
  .register registry name 0 fun
    | none => .done (.accepted node)
    | some e => .done (.refuse e.message "registry")

end ShapeCheck.Script
