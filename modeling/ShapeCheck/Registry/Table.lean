import ShapeCheck.Shape.References
import ShapeCheck.Named

namespace ShapeCheck

/-- The shapes of one registry, in the order of their registration; a name is given once for all. -/
structure Table where
  entries : List (String × Shape)

namespace Table

def empty : Table := ⟨[]⟩

def get? (t : Table) (name : String) : Option Shape := t.entries.lookup name

def contains (t : Table) (name : String) : Bool := (t.get? name).isSome

def size (t : Table) : Nat := t.entries.length

def insert (t : Table) (name : String) (shape : Shape) : Table := ⟨t.entries ++ [(name, shape)]⟩

def register (t : Table) (name : String) (shape : Shape) : Except RegistryError Table :=
  if t.contains name then .error (.duplicateName name) else .ok (t.insert name shape)

/-- The names that registered shapes refer to and that are not registered, sorted. -/
def unresolved (t : Table) : List String :=
  let names := referencesFields t.entries
  ((names.filter (!t.contains ·)).mergeSort (· ≤ ·)).eraseReps

theorem get?_insert {t : Table} {name : String} (shape : Shape) (h : t.get? name = none)
    (other : String) :
    (t.insert name shape).get? other = if other = name then some shape else t.get? other := by
  simp only [get?, insert] at *
  generalize t.entries = entries at *
  induction entries with
  | nil =>
    by_cases ho : other = name
    · simp [ho]
    · simp [List.lookup_cons, ho, beq_false_of_ne ho]
  | cons e rest ih =>
    obtain ⟨n, s⟩ := e
    simp only [List.cons_append, List.lookup_cons] at h ⊢
    by_cases hname : name = n
    · simp [hname] at h
    · rw [beq_false_of_ne hname] at h
      by_cases hn : other = n
      · have : other ≠ name := fun e => hname (e ▸ hn)
        simp [hn, hn ▸ this]
      · simpa [beq_false_of_ne hn] using ih h

end Table

end ShapeCheck
