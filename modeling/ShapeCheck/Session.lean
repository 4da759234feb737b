import ShapeCheck.Check.Validate

namespace ShapeCheck

/-- Shapes, registries and guards in use, by name. -/
structure Session where
  nextIdentity : Identity
  nextRegistry : RegistryId
  shapes : Named Shape
  handles : Named RegistryId
  guards : Named Guard
  store : Store
  log : List Event

namespace Session

def empty : Session := ⟨0, 0, [], [], [], .empty, []⟩

/-- A new shape, unlike all others. -/
def mint (s : Session) (kind : Kind) : Shape × Session :=
  (.mk s.nextIdentity kind, { s with nextIdentity := s.nextIdentity + 1 })

def holdings (s : Session) : Holdings :=
  holdingsFields s.shapes { Holdings.none with found := s.handles.map (·.2) }

def collect (s : Session) : Session := { s with store := s.store.collect s.holdings }

def nameShape (s : Session) (name : String) (shape : Shape) : Session :=
  { s with shapes := s.shapes.put name shape }.collect

/-- A new registry under a name; the name lets go of what it had. -/
def openRegistry (s : Session) (name : String) : Session :=
  { s with
    nextRegistry := s.nextRegistry + 1
    handles := s.handles.put name s.nextRegistry
    store := s.store.add s.nextRegistry }.collect

def shareRegistry (s : Session) (registry : RegistryId) (name : String) : Session :=
  { s with handles := s.handles.put name registry }.collect

def dropRegistry (s : Session) (name : String) : Session :=
  { s with handles := s.handles.drop name }.collect

def start : Session := empty.openRegistry "main"

def table (s : Session) (registry : RegistryId) : Table :=
  (s.store.table? registry).getD .empty

def register (s : Session) (registry : RegistryId) (name : String) (shape : Shape) :
    Except RegistryError Session :=
  match s.store.register? registry name shape with
  | none => .error (.notFound name)
  | some (.error e) => .error e
  | some (.ok store) =>
    .ok { s with store := store, log := .registered name shape.tag :: s.log }

def after (s : Session) (r : Run) : Session := { s with store := r.store, log := r.log ++ s.log }

def validate (s : Session) (shape : Shape) (value : Json) (options : Options) :
    Outcome × Session :=
  let (outcome, r) := shape.validate s.store value options
  (outcome, s.after r)

def validateNamed (s : Session) (registry : RegistryId) (name : String) (value : Json)
    (options : Options) : Except RegistryError (Outcome × Session) :=
  match (s.table registry).get? name with
  | none => .error (.notFound name)
  | some shape => .ok (s.validate shape value options)

def conforms (s : Session) (shape : Shape) (value : Json) : Bool × Session :=
  let (verdict, r) := shape.conforms s.store value
  (verdict, s.after r)

def validateAll (s : Session) (shape : Shape) (options : Options) :
    List Json → List Outcome × Session
  | [] => ([], s)
  | value :: rest =>
    let (outcome, s) := s.validate shape value options
    let (outcomes, s) := s.validateAll shape options rest
    (outcome :: outcomes, s)

def runUnder (s : Session) (via : Via) (name : String) (guard : Guard) (shape : Shape)
    (value : Json) (options : Options) : Outcome × Session :=
  let (outcome, r) := Check.run via ⟨guard, s.store, []⟩ shape (.root value) options
  (outcome, { s.after r with guards := s.guards.put name r.guard })

end Session

end ShapeCheck
