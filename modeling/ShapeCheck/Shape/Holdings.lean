import ShapeCheck.Shape.Basic
import Std.Data.HashSet.Basic

namespace ShapeCheck

/-- The shapes that have been looked into, and the registries that were found. -/
structure Holdings where
  seen : Std.HashSet Identity
  found : List RegistryId

def Holdings.none : Holdings := ⟨∅, []⟩

mutual

def Shape.holdings : Shape → Holdings → Holdings
  | .mk id kind, h =>
    if h.seen.contains id then h else kind.holdings { h with seen := h.seen.insert id }

def Kind.holdings : Kind → Holdings → Holdings
  | .array element _, h => element.holdings h
  | .tuple elements, h => holdingsAll elements h
  | .record fields _, h => holdingsFields fields h
  | .dictionary value, h => value.holdings h
  | .union alternatives, h => holdingsAll alternatives h
  | .intersect members, h => holdingsAll members h
  | .optional inner, h => inner.holdings h
  | .constraint underlying _ _, h => underlying.holdings h
  | .custom _ slots registries _, h =>
    holdingsAll slots { h with found := registries ++ h.found }
  | _, h => h

def holdingsAll : List Shape → Holdings → Holdings
  | [], h => h
  | s :: rest, h => holdingsAll rest (s.holdings h)

def holdingsFields : List (String × Shape) → Holdings → Holdings
  | [], h => h
  | (_, s) :: rest, h => holdingsFields rest (s.holdings h)

end

end ShapeCheck
