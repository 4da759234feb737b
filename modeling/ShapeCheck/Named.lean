namespace ShapeCheck

abbrev Named (α : Type) := List (String × α)

namespace Named

def put {α : Type} (name : String) (a : α) : Named α → Named α
  | [] => [(name, a)]
  | (n, b) :: rest => if n = name then (n, a) :: rest else (n, b) :: put name a rest

def get? {α : Type} (name : String) (things : Named α) : Option α := things.lookup name

def drop {α : Type} (name : String) (things : Named α) : Named α := things.filter (·.1 ≠ name)

/-- A row of pairs as things under names; a repeated name keeps its first place and its last
thing. -/
def ofPairs {α : Type} (pairs : List (String × α)) : Named α :=
  pairs.foldl (fun things pair => put pair.1 pair.2 things) []

theorem mem_of_lookup {α : Type} {name : String} {a : α} {things : Named α}
    (h : things.lookup name = some a) : (name, a) ∈ things := by
  obtain ⟨before, after, rfl, _⟩ := List.lookup_eq_some_iff.1 h
  simp

end Named

end ShapeCheck
