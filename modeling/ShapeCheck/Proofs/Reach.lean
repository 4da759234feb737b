import Mathlib.Data.Set.Card
import ShapeCheck.Check.Validate

namespace ShapeCheck

namespace Store

/-- The shape itself, what it is built of and what its references find, to any depth. The slots of
a user's check count as parts, so whatever such a check registers is reached already. -/
inductive Reaches (store : Store) (s : Shape) : Shape → Prop
  | self : Reaches store s s
  | part {t u : Shape} (ht : Reaches store s t) (hu : u ∈ t.kind.parts) : Reaches store s u
  | target {t u : Shape} {name : String} {registry : RegistryId} (ht : Reaches store s t)
      (hk : t.kind = .reference name registry) (hu : store.find registry name = .found u) :
      Reaches store s u

theorem Reaches.trans {store : Store} {s t u : Shape} (hst : store.Reaches s t)
    (htu : store.Reaches t u) : store.Reaches s u := by
  induction htu with
  | self => exact hst
  | part _ hu ih => exact ih.part hu
  | target _ hk hu ih => exact ih.target hk hu

theorem Reaches.mem {store : Store} {s t : Shape} {shapes : List Shape} (h : store.Reaches s t)
    (hclosed : ∀ s ∈ shapes, ∀ t ∈ s.kind.parts, t ∈ shapes) (hstore : store.Within shapes)
    (hs : s ∈ shapes) : t ∈ shapes := by
  induction h with
  | self => exact hs
  | part _ hu ih => exact hclosed _ ih _ hu
  | target _ _ hu _ => exact hstore.of_find hu

theorem Reaches.mem_realm {store : Store} {s t : Shape} (h : store.Reaches s t) (n : Node) :
    t ∈ (Check.realm store s n).shapes :=
  h.mem (Check.realm store s n).closed (Check.within_realm store s n) (Check.mem_realm store s n)

def reachable (store : Store) (s : Shape) : Set Identity := {i | ∃ t, store.Reaches s t ∧ t.id = i}

theorem finite_reachable (store : Store) (s : Shape) : (store.reachable s).Finite := by
  have hfin := ((Check.realm store s (.root .null)).shapes.map Shape.id).finite_toSet
  apply hfin.subset
  intro i hi
  obtain ⟨t, ht, rfl⟩ := hi
  exact List.mem_map_of_mem (ht.mem_realm _)

/-- No check that starts at the shape comes to a user's check. -/
def CustomFree (store : Store) (s : Shape) : Prop :=
  ∀ t, store.Reaches s t → t.kind.isCustom = false

theorem CustomFree.of_reaches {store : Store} {s t : Shape} (h : store.CustomFree s)
    (ht : store.Reaches s t) : store.CustomFree t :=
  fun u hu => h u (ht.trans hu)

theorem CustomFree.part {store : Store} {s t : Shape} (h : store.CustomFree s)
    (ht : t ∈ s.kind.parts) : store.CustomFree t :=
  h.of_reaches (Reaches.self.part ht)

theorem CustomFree.target {store : Store} {s t : Shape} {name : String} {registry : RegistryId}
    (h : store.CustomFree s) (hk : s.kind = .reference name registry)
    (ht : store.find registry name = .found t) : store.CustomFree t :=
  h.of_reaches (Reaches.self.target hk ht)

theorem CustomFree.of_parts {store : Store} {s : Shape} (hplain : s.kind.isCustom = false)
    (href : ∀ name registry, s.kind ≠ .reference name registry)
    (h : ∀ t ∈ s.kind.parts, store.CustomFree t) : store.CustomFree s := by
  have hreach : ∀ t, store.Reaches s t → t = s ∨ ∃ p ∈ s.kind.parts, store.Reaches p t := by
    intro t ht
    induction ht with
    | self => exact Or.inl rfl
    | part _ hu ih =>
      rcases ih with rfl | ⟨p, hp, ht⟩
      · exact Or.inr ⟨_, hu, .self⟩
      · exact Or.inr ⟨p, hp, ht.part hu⟩
    | target _ hk hu ih =>
      rcases ih with rfl | ⟨p, hp, ht⟩
      · exact absurd hk (href _ _)
      · exact Or.inr ⟨p, hp, ht.target hk hu⟩
  intro t ht
  rcases hreach t ht with rfl | ⟨p, hp, ht⟩
  · exact hplain
  · exact h p hp t ht

/-- No two shapes within reach share their identity. Shapes made in one session never do. -/
def Distinct (store : Store) (s : Shape) : Prop :=
  ∀ t u, store.Reaches s t → store.Reaches s u → t.id = u.id → t = u

theorem distinct_of_nodup {store : Store} {s : Shape} {shapes : List Shape}
    (hids : (shapes.map Shape.id).Nodup) (hreach : ∀ t, store.Reaches s t → t ∈ shapes) :
    store.Distinct s :=
  fun t u ht hu hid => List.inj_on_of_nodup_map hids (hreach t ht) (hreach u hu) hid

end Store

def Shape.branch : Shape := .mk 0 (.reference "Tree" 0)

def Shape.fork : Shape := .mk 2 (.record [("left", branch), ("size", .mk 1 .number)] true)

/-- A shape for trees of numbers that refers to itself, on the node and on its children. -/
def Shape.tree : Shape := .mk 3 (.intersect [branch, fork])

namespace Store

def forest : Store := ⟨[(0, ⟨[("Tree", Shape.tree)]⟩)]⟩

theorem mem_of_reaches_tree {t : Shape} (h : forest.Reaches Shape.tree t) :
    t ∈ [Shape.tree, Shape.branch, Shape.fork, .mk 1 .number] := by
  apply h.mem
  · simp [Shape.tree, Shape.branch, Shape.fork, Shape.kind, Kind.parts]
  · simp [Within, forest]
  · simp

theorem customFree_tree : forest.CustomFree Shape.tree := by
  have hall : ∀ t ∈ [Shape.tree, Shape.branch, Shape.fork, .mk 1 .number],
      t.kind.isCustom = false := by
    simp [Shape.tree, Shape.branch, Shape.fork, Shape.kind, Kind.isCustom]
  exact fun t ht => hall t (mem_of_reaches_tree ht)

theorem distinct_tree : forest.Distinct Shape.tree :=
  distinct_of_nodup (by decide) fun _ => mem_of_reaches_tree

end Store

namespace Node

inductive Below (n : Node) : Node → Prop
  | self : Below n n
  | child {m c : Node} (hm : Below n m) (hc : m.IsChild c) : Below n c

theorem Below.near {n m k : Node} (h : n.Below m) (hk : Plan.Near m k) : n.Below k := by
  rcases hk with rfl | hk
  · exact h
  · exact h.child hk

theorem Below.positions_subset {n m : Node} (h : n.Below m) {p : Position}
    (hp : p ∈ m.positions) : p ∈ n.positions := by
  induction h with
  | self => exact hp
  | child _ hc ih => exact ih (hc.positions_subset hp)

theorem Below.position_mem {n m : Node} (h : n.Below m) : m.position ∈ n.positions :=
  h.positions_subset m.position_mem_positions

def count (n : Node) : Nat := n.positions.length

end Node

def Entry.among (ids : Set Identity) (places : List Position) : Set Entry :=
  {e | e.shape ∈ ids ∧ e.position ∈ places}

theorem Entry.among_eq_image (ids : Set Identity) (places : List Position) :
    Entry.among ids places =
      (fun q : Identity × Position => Entry.mk q.1 q.2) '' (ids ×ˢ {p | p ∈ places}) := by
  ext e
  constructor
  · intro h
    exact ⟨(e.shape, e.position), h, rfl⟩
  · intro he
    obtain ⟨q, hq, rfl⟩ := he
    exact hq

theorem Entry.finite_among {ids : Set Identity} (hfin : ids.Finite) (places : List Position) :
    (Entry.among ids places).Finite := by
  rw [Entry.among_eq_image]
  exact (hfin.prod places.finite_toSet).image _

theorem ncard_places_le (places : List Position) : {p | p ∈ places}.ncard ≤ places.length := by
  have hset : {p | p ∈ places} = (places.toFinset : Set Position) := by
    ext p
    simp
  rw [hset, Set.ncard_coe_finset]
  exact places.toFinset_card_le

theorem Entry.ncard_among_le {ids : Set Identity} (hfin : ids.Finite) (places : List Position) :
    (Entry.among ids places).ncard ≤ places.length * ids.ncard := by
  rw [Entry.among_eq_image]
  calc
    _ ≤ (ids ×ˢ {p | p ∈ places}).ncard := Set.ncard_image_le (hfin.prod places.finite_toSet)
    _ = ids.ncard * {p | p ∈ places}.ncard := Set.ncard_prod
    _ ≤ ids.ncard * places.length := Nat.mul_le_mul_left _ (ncard_places_le places)
    _ = places.length * ids.ncard := Nat.mul_comm _ _

end ShapeCheck
