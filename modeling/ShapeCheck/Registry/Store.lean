import ShapeCheck.Registry.Table
import ShapeCheck.Shape.Family
import ShapeCheck.Shape.Holdings

namespace ShapeCheck

inductive Lookup
  | dropped
  | missing
  | found (shape : Shape)

structure Store where
  tables : List (RegistryId × Table)

namespace Store

def empty : Store := ⟨[]⟩

def table? (s : Store) (id : RegistryId) : Option Table := s.tables.lookup id

def find (s : Store) (id : RegistryId) (name : String) : Lookup :=
  match s.table? id with
  | none => .dropped
  | some t =>
    match t.get? name with
    | none => .missing
    | some shape => .found shape

def add (s : Store) (id : RegistryId) : Store := ⟨(id, .empty) :: s.tables⟩

def replaceTable (s : Store) (id : RegistryId) (t : Table) : Store :=
  ⟨s.tables.map fun entry => if entry.1 = id then (id, t) else entry⟩

def register? (s : Store) (id : RegistryId) (name : String) (shape : Shape) :
    Option (Except RegistryError Store) :=
  (s.table? id).map fun t => (t.register name shape).map (s.replaceTable id)

theorem table?_replaceTable (s : Store) (id : RegistryId) (t : Table) (other : RegistryId) :
    (s.replaceTable id t).table? other =
      if other = id then (s.table? id).map fun _ => t else s.table? other := by
  simp only [table?, replaceTable]
  induction s.tables with
  | nil => simp
  | cons entry rest ih =>
    obtain ⟨i, u⟩ := entry
    rw [List.map_cons]
    by_cases hi : i = id
    · subst hi
      by_cases ho : other = i
      · simp [ho]
      · simpa [List.lookup_cons, beq_false_of_ne ho, ho] using ih
    · rw [if_neg hi]
      by_cases hoi : other = i
      · simp [hoi, hi]
      · have hne : (id == i) = false := beq_false_of_ne fun he => hi he.symm
        simpa [List.lookup_cons, beq_false_of_ne hoi, hne] using ih

/-- Registering makes one name found and changes nothing about all others. -/
theorem find_register {s s' : Store} {id : RegistryId} {name : String} {shape : Shape}
    (h : s.register? id name shape = some (.ok s')) (other : RegistryId) (key : String) :
    s'.find other key =
      if other = id ∧ key = name then .found shape else s.find other key := by
  obtain ⟨t, ht, hr⟩ := Option.map_eq_some_iff.1 h
  unfold Table.register at hr
  split at hr
  · cases hr
  · rename_i hnew
    cases hr
    have hnone : t.get? name = none := by simpa [Table.contains] using hnew
    unfold find
    rw [table?_replaceTable]
    by_cases ho : other = id
    · subst ho
      rw [ht]
      simp only [if_true, Option.map_some, true_and, Table.get?_insert shape hnone]
      by_cases hk : key = name
      · simp only [if_pos hk]
      · simp only [if_neg hk]
    · rw [if_neg ho, if_neg fun hand => ho hand.1]

def family (s : Store) : List Shape := s.tables.flatMap fun entry => familyFields entry.2.entries

/-- Who is held: by a handle or a shape outside, or by a shape in a live registry. -/
def held (s : Store) (outside : Holdings) : Std.HashSet RegistryId :=
  .ofList (s.tables.foldl (fun h entry => holdingsFields entry.2.entries h) outside).found

/-- Drops what nobody holds, and then what only the dropped held, for `n` rounds at most. -/
def dropUnheld (outside : Holdings) : Nat → Store → Store
  | 0, s => s
  | n + 1, s =>
    let kept := s.held outside
    if s.tables.all (kept.contains ·.1) then s
    else dropUnheld outside n ⟨s.tables.filter (kept.contains ·.1)⟩

/-- The registries that remain alive when only the given ones are held from outside. Registries
that hold each other, or themselves, remain. -/
def collect (s : Store) (outside : Holdings) : Store :=
  dropUnheld outside s.tables.length s

end Store

end ShapeCheck
