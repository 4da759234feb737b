import ShapeCheck.Shape.Basic

namespace ShapeCheck

/-- The shapes directly inside, those in the slots of a user's check among them. -/
def Kind.parts : Kind → List Shape
  | .array element _ => [element]
  | .tuple elements => elements
  | .record fields _ => fields.map (·.2)
  | .dictionary value => [value]
  | .union alternatives => alternatives
  | .intersect members => members
  | .optional inner => [inner]
  | .constraint underlying _ _ => [underlying]
  | .custom _ slots _ _ => slots
  | _ => []

mutual

/-- The shape itself and all shapes inside, one for each of their places. -/
def Shape.family : Shape → List Shape
  | .mk id kind => .mk id kind :: kind.family

def Kind.family : Kind → List Shape
  | .array element _ => element.family
  | .tuple elements => familyAll elements
  | .record fields _ => familyFields fields
  | .dictionary value => value.family
  | .union alternatives => familyAll alternatives
  | .intersect members => familyAll members
  | .optional inner => inner.family
  | .constraint underlying _ _ => underlying.family
  | .custom _ slots _ _ => familyAll slots
  | _ => []

def familyAll : List Shape → List Shape
  | [] => []
  | s :: rest => s.family ++ familyAll rest

def familyFields : List (String × Shape) → List Shape
  | [] => []
  | (_, s) :: rest => s.family ++ familyFields rest

end

def Shape.size (s : Shape) : Nat := s.family.length

theorem familyFields_eq (fields : List (String × Shape)) :
    familyFields fields = familyAll (fields.map (·.2)) := by
  induction fields with
  | nil => simp [familyFields, familyAll]
  | cons f rest ih =>
    obtain ⟨name, s⟩ := f
    simp [familyFields, familyAll, ih]

theorem Kind.family_eq (kind : Kind) : kind.family = familyAll kind.parts := by
  cases kind <;> simp [Kind.family, Kind.parts, familyAll, familyFields_eq]

theorem Shape.family_eq (s : Shape) : s.family = s :: familyAll s.kind.parts := by
  obtain ⟨id, kind⟩ := s
  simp [Shape.family, Shape.kind, Kind.family_eq]

theorem mem_familyAll {t : Shape} {shapes : List Shape} :
    t ∈ familyAll shapes ↔ ∃ s ∈ shapes, t ∈ s.family := by
  induction shapes with
  | nil => simp [familyAll]
  | cons s rest ih => simp [familyAll, ih]

theorem Shape.mem_family (s : Shape) : s ∈ s.family := by simp [s.family_eq]

theorem Shape.family_subset_of_part {s t : Shape} (h : t ∈ s.kind.parts) {u : Shape}
    (hu : u ∈ t.family) : u ∈ s.family := by
  rw [s.family_eq]
  exact List.mem_cons_of_mem _ (mem_familyAll.2 ⟨t, h, hu⟩)

theorem length_le_familyAll {s : Shape} {shapes : List Shape} (h : s ∈ shapes) :
    s.size ≤ (familyAll shapes).length := by
  induction shapes with
  | nil => simp at h
  | cons t rest ih =>
    simp only [familyAll, List.length_append]
    rcases List.mem_cons.1 h with rfl | h
    · exact Nat.le_add_right _ _
    · exact Nat.le_trans (ih h) (Nat.le_add_left _ _)

theorem Shape.size_lt_of_part {s t : Shape} (h : t ∈ s.kind.parts) : t.size < s.size := by
  have := length_le_familyAll h
  simp only [Shape.size, s.family_eq, List.length_cons] at *
  omega

theorem Shape.part_mem_family {s u t : Shape} (hu : u ∈ s.family) (ht : t ∈ u.kind.parts) :
    t ∈ s.family := by
  rw [s.family_eq] at hu
  rcases List.mem_cons.1 hu with rfl | hu
  · exact family_subset_of_part ht t.mem_family
  · obtain ⟨p, hp, hu⟩ := mem_familyAll.1 hu
    exact family_subset_of_part hp (part_mem_family hu ht)
termination_by s.size
decreasing_by exact size_lt_of_part hp

theorem Shape.size_le_of_mem_family {s t : Shape} (h : t ∈ s.family) : t.size ≤ s.size := by
  rw [s.family_eq] at h
  rcases List.mem_cons.1 h with rfl | h
  · exact Nat.le_refl _
  · obtain ⟨p, hp, h⟩ := mem_familyAll.1 h
    exact Nat.le_trans (size_le_of_mem_family h) (Nat.le_of_lt (size_lt_of_part hp))
termination_by s.size
decreasing_by exact size_lt_of_part hp

end ShapeCheck
