import ShapeCheck.Check.Event
import ShapeCheck.Shape.Text
import ShapeCheck.Registry.Store

namespace ShapeCheck

/-- What a shape does to check a node, one level deep: the checks of other shapes are steps whose
outcome the rest of the plan waits for. Who runs a plan decides what its steps mean. -/
inductive Plan
  | done (outcome : Outcome)
  | call (via : Via) (shape : Shape) (node : Node) (options : Options) (next : Outcome → Plan)
  /-- Calls the target of a reference, which stays open meanwhile. -/
  | follow (target : Shape) (node : Node) (options : Options) (next : Outcome → Plan)
  | find (registry : RegistryId) (name : String) (next : Lookup → Plan)
  | test (refuses : Json → Option String) (node : Node) (next : Option String → Plan)
  /-- Asks how many references are open and whether no check is in progress. -/
  | ask (next : Nat → Bool → Plan)
  | report (event : Event) (next : Plan)
  | register (registry : RegistryId) (name : String) (shape : Shape)
      (next : Option RegistryError → Plan)

namespace Plan

def refuse (message code : String) : Plan := .done (.refuse message code)

def mismatch (expected : String) (node : Node) (code : String) : Plan :=
  refuse ("Expected " ++ expected ++ ", but was " ++ node.value.kindName) code

def wrongType (expected : String) (node : Node) : Plan := mismatch expected node "invalid_type"

def settle (node : Node) (is : List Issue) : Plan := .done (.ofIssues node is)

inductive Demand
  | conforms (place : Segment) (shape : Shape) (node : Node)
  | missing (place : Segment) (shape : Shape)

def missingField (place : Segment) (shape : Shape) : Issue :=
  (Issue.atRoot ("Expected " ++ shape.text ++ ", but was missing") "missing_field").under place

/-- Meets the demands in order and goes on with all their issues, each under its place. -/
def gather (options : Options) : List Demand → (List Issue → Plan) → Plan
  | [], next => next []
  | .conforms place shape node :: rest, next =>
    .call .watched shape node options fun
      | .accepted _ => gather options rest next
      | .rejected f =>
        let found := f.issues.map (·.under place)
        if options.failFast then next found
        else gather options rest fun more => next (found ++ more)
  | .missing place shape :: rest, next =>
    if options.failFast then next [missingField place shape]
    else gather options rest fun more => next (missingField place shape :: more)

def itemDemands (element : Shape) (items : List (Segment × Node)) : List Demand :=
  items.map fun (place, item) => .conforms place element item

def pairDemands (elements : List Shape) (items : List (Segment × Node)) : List Demand :=
  (elements.zip items).map fun (element, place, item) => .conforms place element item

/-- The demands of a record. An absent field that may be lacking demands nothing. -/
def fieldDemands (isPartial : Bool) (node : Node) : List (String × Shape) → List Demand
  | [] => []
  | (name, shape) :: rest =>
    match node.child? (.field name) with
    | some child => .conforms (.field name) shape child :: fieldDemands isPartial node rest
    | none =>
      if shape.mayLack isPartial then fieldDemands isPartial node rest
      else .missing (.field name) shape :: fieldDemands isPartial node rest

def firstAccepting (options : Options) (node : Node) (union : Shape) : List Shape → Plan
  | [] => mismatch union.text node "no_match"
  | s :: rest => .call .watched s node options fun
    | .accepted _ => .done (.accepted node)
    | .rejected _ => firstAccepting options node union rest

def gatherMembers (options : Options) (node : Node) : List Shape → (List Issue → Plan) → Plan
  | [], next => next []
  | s :: rest, next => .call .watched s node options fun
    | .accepted _ => gatherMembers options node rest next
    | .rejected f =>
      if options.failFast then next f.issues
      else gatherMembers options node rest fun more => next (f.issues ++ more)

/-- Goes on with what the underlying shape says of the node: if it accepts, the predicate decides. -/
def narrow (refuses : Json → Option String) (node : Node) : Outcome → Plan
  | .rejected f => .done (.rejected f)
  | .accepted _ => .test refuses node fun
    | none => .done (.accepted node)
    | some message => refuse message "constraint"

/-- Follows a reference. The limit comes before everything else, also before the question whether
the registry is still alive. -/
def resolve (options : Options) (node : Node) (name : String) (registry : RegistryId) : Plan :=
  .ask fun depth _ =>
    if options.depthLimit ≤ depth then
      .report (.depthLimitReached name options.depthLimit)
        (refuse ("Maximum reference depth " ++ toString options.depthLimit ++
          " exceeded resolving '" ++ name ++ "'") "max_depth_exceeded")
    else .find registry name fun
      | .dropped =>
        refuse ("Reference to '" ++ name ++ "' outlived its registry") "missing_registry"
      | .missing => refuse ("Runtype '" ++ name ++ "' is not registered") "missing_reference"
      | .found target => .follow target node options .done

def ofScript (slots : List Shape) (node : Node) : Script → Plan
  | .done outcome => .done outcome
  | .inspect next => .ask fun depth isIdle => ofScript slots node (next depth isIdle)
  | .call via slot focus options next =>
    match slots[slot]?, node.focus? focus with
    | some shape, some target =>
      .call via shape target options fun outcome => ofScript slots node (next (some outcome))
    | _, _ => ofScript slots node (next none)
  | .register registry name slot next =>
    match slots[slot]? with
    | some shape => .register registry name shape fun e => ofScript slots node (next e)
    | none => ofScript slots node (next (some (.notFound name)))

end Plan

def Shape.plan (shape : Shape) (node : Node) (options : Options) : Plan :=
  match shape.kind with
  | .unknown => .done (.accepted node)
  | .never => .mismatch "never" node "never"
  | .boolean =>
    match node.value with
    | .boolean _ => .done (.accepted node)
    | _ => .wrongType "boolean" node
  | .number =>
    match node.value with
    | .number _ => .done (.accepted node)
    | _ => .wrongType "number" node
  | .string =>
    match node.value with
    | .string _ => .done (.accepted node)
    | _ => .wrongType "string" node
  | .literal value =>
    if value.same node.value then .done (.accepted node)
    else .refuse ("Expected literal " ++ value.text ++ ", but was " ++ node.value.text)
      "literal_mismatch"
  | .array element _ =>
    match node.items? with
    | none => .wrongType "array" node
    | some items => .gather options (Plan.itemDemands element items) (.settle node)
  | .tuple elements =>
    match node.items? with
    | none => .wrongType "tuple to be an array" node
    | some items =>
      if items.length = elements.length then
        .gather options (Plan.pairDemands elements items) (.settle node)
      else .refuse ("Expected an array of length " ++ toString elements.length ++
        ", but was " ++ toString items.length) "tuple_length"
  | .record fields isPartial =>
    match node.members? with
    | none => .wrongType "record" node
    | some _ => .gather options (Plan.fieldDemands isPartial node fields) (.settle node)
  | .dictionary value =>
    match node.members? with
    | none => .wrongType "dictionary" node
    | some members => .gather options (Plan.itemDemands value members) (.settle node)
  | .union alternatives => .firstAccepting options node shape alternatives
  | .intersect members => .gatherMembers options node members (.settle node)
  | .optional inner => .call .watched inner node options .done
  | .constraint underlying _ refuses =>
    .call .watched underlying node options (.narrow refuses node)
  | .reference name registry => .resolve options node name registry
  | .custom _ slots _ body => .ofScript slots node (body node options)

end ShapeCheck
