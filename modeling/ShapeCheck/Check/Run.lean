import ShapeCheck.Check.Guard
import ShapeCheck.Check.Plan

namespace ShapeCheck

structure Run where
  guard : Guard
  store : Store
  log : List Event

/-- A check may run out of its bound; then it has no result at all. -/
abbrev Checking := StateT Run Option

abbrev Call := Via → Shape → Node → Options → Checking Outcome

namespace Run

def emit (r : Run) (e : Event) : Run := { r with log := e :: r.log }

def mapGuard (r : Run) (f : Guard → Guard) : Run := { r with guard := f r.guard }

def register (r : Run) (registry : RegistryId) (name : String) (shape : Shape) :
    Option RegistryError × Run :=
  match r.store.register? registry name shape with
  | none => (some (.notFound name), r)
  | some (.error e) => (some e, r)
  | some (.ok store) => (none, { r with store := store }.emit (.registered name shape.tag))

theorem guard_register (r : Run) (registry : RegistryId) (name : String) (shape : Shape) :
    (r.register registry name shape).2.guard = r.guard := by
  unfold register
  split <;> rfl

end Run

def Plan.exec (call : Call) : Plan → Checking Outcome
  | .done outcome, r => some (outcome, r)
  | .call via shape node options next, r => do
    let (outcome, r) ← call via shape node options r
    (next outcome).exec call r
  | .follow target node options next, r => do
    let (outcome, r) ← call .watched target node options (r.mapGuard .descend)
    (next outcome).exec call (r.mapGuard .ascend)
  | .find registry name next, r => (next (r.store.find registry name)).exec call r
  | .test refuses node next, r => (next (refuses node.value)).exec call r
  | .ask next, r => (next r.guard.referenceDepth r.guard.isIdle).exec call r
  | .report event next, r => next.exec call (r.emit event)
  | .register registry name shape next, r =>
    let (e, r) := r.register registry name shape
    (next e).exec call r

namespace Check

/-- Checks a shape under the eyes of the guard. The check in progress decides about a pair that is
met again. -/
def guarded (check : Shape → Node → Options → Checking Outcome) (shape : Shape) (node : Node)
    (options : Options) : Checking Outcome := fun r =>
  let entry : Entry := ⟨shape.id, node.position⟩
  if entry.isIn r.guard.inProgress then
    some (.accepted node, r.emit (.reentered shape.tag))
  else do
    let (outcome, r) ← check shape node options (r.mapGuard (·.enter entry))
    return (outcome, r.mapGuard (·.leave entry))

def calls (check : Shape → Node → Options → Checking Outcome) : Call
  | .watched => guarded check
  | .direct => check

/-- Checks with calls at most `fuel` levels deep. -/
def check : Nat → Shape → Node → Options → Checking Outcome
  | 0, _, _, _ => fun _ => none
  | fuel + 1, shape, node, options => (shape.plan node options).exec (calls (check fuel))

end Check

end ShapeCheck
