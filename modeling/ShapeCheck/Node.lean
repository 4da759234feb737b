import ShapeCheck.Path
import ShapeCheck.Named
import ShapeCheck.Json.Basic

namespace ShapeCheck

/-- The place of a part: the steps that lead to it, the last one first. Their number comes first,
so that places at different depths are told apart at once. -/
structure Position where
  depth : Nat
  trail : List Segment
  depth_eq : depth = trail.length
  deriving DecidableEq

namespace Position

def root : Position := ⟨0, [], rfl⟩

def child (p : Position) (s : Segment) : Position :=
  ⟨p.depth + 1, s :: p.trail, by simp [p.depth_eq]⟩

theorem ext_trail {p q : Position} (h : p.trail = q.trail) : p = q := by
  obtain ⟨d, t, hd⟩ := p
  obtain ⟨e, u, he⟩ := q
  cases h
  cases hd.trans he.symm
  rfl

end Position

/-- A part of a value with its place. Two parts at one place are the same node, and equal parts at
two places are not. -/
structure Node where
  position : Position
  value : Json

namespace Node

def root (value : Json) : Node := ⟨.root, value⟩

def down (n : Node) (s : Segment) (value : Json) : Node := ⟨n.position.child s, value⟩

def child? (n : Node) (s : Segment) : Option Node :=
  match s with
  | .field name => (n.value.field? name).map (n.down s)
  | .index i => (n.value.item? i).map (n.down s)

def isSame (a b : Node) : Bool := a.position = b.position

def itemsFrom (n : Node) (i : Nat) : List Json → List (Segment × Node)
  | [] => []
  | value :: rest => (.index i, n.down (.index i) value) :: n.itemsFrom (i + 1) rest

def items? (n : Node) : Option (List (Segment × Node)) :=
  match n.value with
  | .array items => some (n.itemsFrom 0 items)
  | _ => none

def members? (n : Node) : Option (List (Segment × Node)) :=
  match n.value with
  | .object members =>
    some (members.map fun (key, value) => (.field key, n.down (.field key) value))
  | _ => none

def IsChild (n c : Node) : Prop :=
  match n.value with
  | .array items => ∃ i value, items[i]? = some value ∧ c = n.down (.index i) value
  | .object members => ∃ key value, (key, value) ∈ members ∧ c = n.down (.field key) value
  | _ => False

end Node

mutual

def Json.positions (p : Position) : Json → List Position
  | .array items => p :: positionsItems p 0 items
  | .object members => p :: positionsMembers p members
  | _ => [p]

def positionsItems (p : Position) (i : Nat) : List Json → List Position
  | [] => []
  | a :: as => a.positions (p.child (.index i)) ++ positionsItems p (i + 1) as

def positionsMembers (p : Position) : List (String × Json) → List Position
  | [] => []
  | (k, a) :: as => a.positions (p.child (.field k)) ++ positionsMembers p as

end

def Node.positions (n : Node) : List Position := n.value.positions n.position

theorem Node.position_mem_positions (n : Node) : n.position ∈ n.positions := by
  obtain ⟨p, value⟩ := n
  cases value <;> simp [positions, Json.positions]

theorem mem_positionsItems {p q : Position} {i j : Nat} {items : List Json} {value : Json}
    (h : items[j]? = some value) (hq : q ∈ value.positions (p.child (.index (i + j)))) :
    q ∈ positionsItems p i items := by
  induction items generalizing i j with
  | nil => simp at h
  | cons a as ih =>
    rw [positionsItems, List.mem_append]
    cases j with
    | zero =>
      simp only [List.getElem?_cons_zero, Option.some.injEq] at h
      exact Or.inl (h ▸ hq)
    | succ j =>
      refine Or.inr (ih (by simpa using h) ?_)
      rwa [Nat.add_right_comm i 1 j]

theorem mem_positionsMembers {p q : Position} {members : List (String × Json)} {key : String}
    {value : Json} (h : (key, value) ∈ members)
    (hq : q ∈ value.positions (p.child (.field key))) : q ∈ positionsMembers p members := by
  induction members with
  | nil => simp at h
  | cons m rest ih =>
    obtain ⟨k, a⟩ := m
    rw [positionsMembers, List.mem_append]
    rcases List.mem_cons.1 h with h | h
    · cases h
      exact Or.inl hq
    · exact Or.inr (ih h)

theorem Node.IsChild.positions_subset {n c : Node} (h : n.IsChild c) {q : Position}
    (hq : q ∈ c.positions) : q ∈ n.positions := by
  obtain ⟨p, value⟩ := n
  cases value with
  | array items =>
    obtain ⟨i, value, hi, rfl⟩ := h
    refine List.mem_cons_of_mem _ (mem_positionsItems hi ?_)
    rwa [Nat.zero_add]
  | object members =>
    obtain ⟨key, value, hm, rfl⟩ := h
    exact List.mem_cons_of_mem _ (mem_positionsMembers hm hq)
  | _ => exact h.elim

theorem Node.isChild_of_child? {n c : Node} {s : Segment} (h : n.child? s = some c) :
    n.IsChild c := by
  obtain ⟨p, value⟩ := n
  cases s with
  | field name =>
    obtain ⟨v, hv, rfl⟩ := Option.map_eq_some_iff.1 h
    cases value with
    | object members =>
      exact ⟨name, v, Named.mem_of_lookup hv, rfl⟩
    | _ => simp [Json.field?] at hv
  | index i =>
    obtain ⟨v, hv, rfl⟩ := Option.map_eq_some_iff.1 h
    cases value with
    | array items => exact ⟨i, v, hv, rfl⟩
    | _ => simp [Json.item?] at hv

theorem Node.getElem?_itemsFrom (n : Node) (i j : Nat) (values : List Json) :
    (n.itemsFrom i values)[j]? =
      values[j]?.map fun v => (.index (i + j), n.down (.index (i + j)) v) := by
  induction values generalizing i j with
  | nil => rfl
  | cons a rest ih =>
    cases j with
    | zero => rfl
    | succ j =>
      have hindex : i + 1 + j = i + (j + 1) := by omega
      rw [itemsFrom, List.getElem?_cons_succ, List.getElem?_cons_succ, ih (i + 1) j, hindex]

@[simp] theorem Node.length_itemsFrom (n : Node) (i : Nat) (values : List Json) :
    (n.itemsFrom i values).length = values.length := by
  induction values generalizing i with
  | nil => rfl
  | cons a rest ih => simp [itemsFrom, ih]

theorem Node.items?_eq_some {n : Node} {items : List (Segment × Node)} (h : n.items? = some items) :
    ∃ values, n.value = .array values ∧ items = n.itemsFrom 0 values := by
  unfold items? at h
  split at h
  · rename_i values hvalue
    exact ⟨values, hvalue, (Option.some.inj h).symm⟩
  · cases h

theorem Node.items?_eq_none_iff {n : Node} :
    n.items? = none ↔ ¬∃ values, n.value = .array values := by
  unfold items?
  cases n.value <;> simp

theorem Node.members?_eq_some {n : Node} {members : List (Segment × Node)}
    (h : n.members? = some members) : ∃ values, n.value = .object values ∧
      members = values.map fun (key, value) => (.field key, n.down (.field key) value) := by
  unfold members? at h
  split at h
  · rename_i values hvalue
    exact ⟨values, hvalue, (Option.some.inj h).symm⟩
  · cases h

theorem Node.members?_eq_none_iff {n : Node} :
    n.members? = none ↔ ¬∃ values, n.value = .object values := by
  unfold members?
  cases n.value <;> simp

theorem Node.getElem?_items {n : Node} {items : List (Segment × Node)} (h : n.items? = some items)
    (i : Nat) : items[i]? = (n.child? (.index i)).map fun c => (.index i, c) := by
  obtain ⟨values, hvalue, rfl⟩ := items?_eq_some h
  rw [getElem?_itemsFrom, child?, hvalue, Nat.zero_add, Option.map_map]
  rfl

theorem Node.isChild_iff_items {n c : Node} {items : List (Segment × Node)}
    (h : n.items? = some items) : n.IsChild c ↔ ∃ place, (place, c) ∈ items := by
  obtain ⟨values, hvalue, hitems⟩ := items?_eq_some h
  have hitem : ∀ i, items[i]? = values[i]?.map fun v => (.index i, n.down (.index i) v) := by
    intro i
    rw [hitems, getElem?_itemsFrom, Nat.zero_add]
  unfold IsChild
  rw [hvalue]
  constructor
  · intro hchild
    obtain ⟨i, v, hv, rfl⟩ := hchild
    have hi : items[i]? = some (.index i, n.down (.index i) v) := by rw [hitem, hv]; rfl
    exact ⟨.index i, List.mem_of_getElem? hi⟩
  · intro hplace
    obtain ⟨place, hc⟩ := hplace
    obtain ⟨i, hi⟩ := List.mem_iff_getElem?.1 hc
    rw [hitem] at hi
    obtain ⟨v, hv, heq⟩ := Option.map_eq_some_iff.1 hi
    cases heq
    exact ⟨i, v, hv, rfl⟩

theorem Node.isChild_iff_members {n c : Node} {members : List (Segment × Node)}
    (h : n.members? = some members) : n.IsChild c ↔ ∃ place, (place, c) ∈ members := by
  obtain ⟨values, hvalue, rfl⟩ := members?_eq_some h
  unfold IsChild
  rw [hvalue]
  constructor
  · intro hchild
    obtain ⟨key, v, hv, rfl⟩ := hchild
    exact ⟨.field key, List.mem_map_of_mem hv⟩
  · intro hplace
    obtain ⟨place, hc⟩ := hplace
    obtain ⟨⟨key, v⟩, hv, heq⟩ := List.mem_map.1 hc
    cases heq
    exact ⟨key, v, hv, rfl⟩

theorem Node.IsChild.depth {n c : Node} (h : n.IsChild c) :
    c.position.depth = n.position.depth + 1 := by
  unfold IsChild at h
  split at h
  · obtain ⟨i, v, _, rfl⟩ := h
    rfl
  · obtain ⟨key, v, _, rfl⟩ := h
    rfl
  · exact h.elim

end ShapeCheck
