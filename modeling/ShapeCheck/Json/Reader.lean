import ShapeCheck.Json.Token

namespace ShapeCheck.Json

namespace Reader

inductive Frame
  | array (items : List Json)
  | object (members : List (String × Json)) (key : String)

inductive State
  | value (outer : List Frame)
  | firstItem (outer : List Frame)
  | afterItem (outer : List Frame) (items : List Json)
  | key (outer : List Frame) (members : List (String × Json))
  | colon (outer : List Frame) (members : List (String × Json)) (key : String)
  | afterMember (outer : List Frame) (members : List (String × Json))
  | nothing (value : Json)

def maxDepth : Nat := 127

def supply (value : Json) : List Frame → State
  | [] => .nothing value
  | .array items :: outer => .afterItem outer (value :: items)
  | .object members key :: outer => .afterMember outer ((key, value) :: members)

def startValue (outer : List Frame) : Token → Option State
  | .scalar value => some (supply value outer)
  | .beginArray => if outer.length < maxDepth then some (.firstItem outer) else none
  | .beginObject => if outer.length < maxDepth then some (.key outer []) else none
  | _ => none

def step : State → Token → Option State
  | .value outer, t => startValue outer t
  | .firstItem outer, .endArray => some (supply (.array []) outer)
  | .firstItem outer, t => startValue (.array [] :: outer) t
  | .afterItem outer items, .comma => some (.value (.array items :: outer))
  | .afterItem outer items, .endArray => some (supply (.array items.reverse) outer)
  | .key outer members, .scalar (.string key) => some (.colon outer members key)
  | .key outer [], .endObject => some (supply (.object []) outer)
  | .colon outer members key, .colon => some (.value (.object members key :: outer))
  | .afterMember outer members, .comma => some (.key outer members)
  | .afterMember outer members, .endObject => some (supply (ofMembers members.reverse) outer)
  | _, _ => none

end Reader

def read? (text : String) : Option Json := do
  let tokens ← Token.scan? text
  match ← tokens.foldlM Reader.step (.value []) with
  | .nothing value => some value
  | _ => none

end ShapeCheck.Json
